import MetricQuery.Json.Numeral
import MetricQuery.Json.Spelling

namespace MetricQuery.Json

inductive Word where
  | null
  | true
  | false
deriving DecidableEq, Repr

def Word.text : Word → List Char
  | .null => ['n', 'u', 'l', 'l']
  | .true => ['t', 'r', 'u', 'e']
  | .false => ['f', 'a', 'l', 's', 'e']

def isBlank (c : Char) : Bool := c = ' ' || c = '\t' || c = '\n' || c = '\r'

/-- How the items or members of a container come to an end: after a comma or not, over some
blanks, at its closing bracket or at a fault. -/
structure Ending where
  comma : Bool
  blanks : List Char
  fault : Option Fault
deriving DecidableEq, Repr

def Ending.closed (blanks : List Char) : Ending := ⟨false, blanks, none⟩

/-- A member up to its value. Without a colon the value is a fault. -/
structure MemberKey where
  before : List Char
  key : Spelling
  afterKey : List Char
  colon : Option (List Char)
deriving DecidableEq, Repr

mutual

/-- A value as it is written, with every blank. Reading stops at the first fault, so a fault is
always the last leaf. -/
inductive Node where
  | word (word : Word)
  | number (numeral : Numeral)
  | string (spelling : Spelling)
  | array (items : Items)
  | object (members : Members)
  | broken (bytes : Nat) (fault : Fault)

inductive Items where
  | done (ending : Ending)
  | item (before : List Char) (value : Node) (blanks : List Char) (rest : Items)

inductive Members where
  | done (ending : Ending)
  | member (key : MemberKey) (value : Node) (blanks : List Char) (rest : Members)

end

instance : Inhabited Node := ⟨.word .null⟩

/-- Whether a comma separates these items from the one before them. -/
def Items.hasComma : Items → Bool
  | .done ending => ending.comma
  | .item .. => true

def Members.hasComma : Members → Bool
  | .done ending => ending.comma
  | .member .. => true

def comma (present : Bool) : List Char := if present then [','] else []

def MemberKey.text (key : MemberKey) : List Char :=
  key.before ++ key.key.text ++ key.afterKey ++
    match key.colon with
    | none => []
    | some blanks => ':' :: blanks

mutual

def Node.text : Node → List Char
  | .word word => word.text
  | .number numeral => numeral.text
  | .string spelling => spelling.text
  | .array items => '[' :: items.text
  | .object members => '\x7b' :: members.text
  | .broken .. => []

/-- The text after an opening bracket or after the comma that follows an item. -/
def Items.text : Items → List Char
  | .done ending => ending.blanks ++ [']']
  | .item before value blanks rest =>
    before ++ value.text ++ blanks ++ comma rest.hasComma ++ rest.text

def Members.text : Members → List Char
  | .done ending => ending.blanks ++ ['\x7d']
  | .member key value blanks rest =>
    key.text ++ value.text ++ blanks ++ comma rest.hasComma ++ rest.text

end

def Node.bytes (node : Node) : Nat := byteCount node.text

/-- A whole text: one value between blanks, and perhaps a character that should not follow. -/
structure Document where
  before : List Char
  root : Node
  blanks : List Char
  excess : Option Char

end MetricQuery.Json
