namespace MetricQuery

/-- A place in a text. Lines count from one; columns count the bytes since the last line break. -/
structure Position where
  line : Nat
  column : Nat
deriving DecidableEq, Repr

/-- The number of bytes a text takes in UTF-8. -/
def byteCount : List Char → Nat
  | [] => 0
  | c :: rest => c.utf8Size + byteCount rest

/-- The place reached after a number of bytes. A count may end inside a character, whose
remaining bytes are then not counted. -/
def Position.advance (here : Position) : List Char → Nat → Position
  | [], _ => here
  | c :: rest, bytes =>
    if bytes = 0 then here
    else if c = '\n' then Position.advance ⟨here.line + 1, 0⟩ rest (bytes - 1)
    else if bytes < c.utf8Size then ⟨here.line, here.column + bytes⟩
    else Position.advance ⟨here.line, here.column + c.utf8Size⟩ rest (bytes - c.utf8Size)

def Position.after (text : List Char) (bytes : Nat) : Position :=
  Position.advance ⟨1, 0⟩ text bytes

end MetricQuery
