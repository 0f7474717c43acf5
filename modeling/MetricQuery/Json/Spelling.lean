import MetricQuery.Json.Fault
import MetricQuery.Text.Position

namespace MetricQuery.Json

/-- One character of a string as it is written: by itself, behind a backslash, or as a unit of
four hexadecimal digits. -/
inductive Piece where
  | plain (c : Char)
  | short (c : Char)
  | unit (a b c d : Char)
deriving DecidableEq, Repr

def Piece.text : Piece → List Char
  | .plain c => [c]
  | .short c => ['\\', c]
  | .unit a b c d => ['\\', 'u', a, b, c, d]

/-- A string as it is written, from after its opening quote to its closing quote, or to the fault
that comes before one. -/
structure Spelling where
  pieces : List Piece
  fault : Option Fault
deriving DecidableEq, Repr

/-- The character that a short escape stands for. -/
def shortEscape (c : Char) : Option Char :=
  if c = '"' then some '"'
  else if c = '\\' then some '\\'
  else if c = '/' then some '/'
  else if c = 'b' then some '\x08'
  else if c = 'f' then some '\x0c'
  else if c = 'n' then some '\n'
  else if c = 'r' then some '\r'
  else if c = 't' then some '\t'
  else none

def hexValue (c : Char) : Option Nat :=
  if '0' ≤ c ∧ c ≤ '9' then some (c.toNat - '0'.toNat)
  else if 'a' ≤ c ∧ c ≤ 'f' then some (c.toNat - 'a'.toNat + 10)
  else if 'A' ≤ c ∧ c ≤ 'F' then some (c.toNat - 'A'.toNat + 10)
  else none

def isHex (c : Char) : Bool := (hexValue c).isSome

def unitValue (a b c d : Char) : Nat :=
  [a, b, c, d].foldl (fun value digit => 16 * value + (hexValue digit).getD 0) 0

def isLeading (unit : Nat) : Bool := 0xD800 ≤ unit && unit ≤ 0xDBFF

def isTrailing (unit : Nat) : Bool := 0xDC00 ≤ unit && unit ≤ 0xDFFF

/-- The character written as a leading and a trailing unit. -/
def pairedChar (leading trailing : Nat) : Char :=
  Char.ofNat (0x10000 + (leading - 0xD800) * 0x400 + (trailing - 0xDC00))

namespace Spelling

def text (spelling : Spelling) : List Char :=
  '"' :: spelling.pieces.flatMap Piece.text ++ ['"']

/-- What is wrong after a leading unit, when what follows it is no further unit. Bytes are
counted from the end of the leading unit. -/
def brokenPair : List Piece → Option Fault → Failure
  | .plain _ :: _, _ => ⟨.brokenSurrogatePair, 1⟩
  | .short _ :: _, _ => ⟨.brokenSurrogatePair, 2⟩
  | .unit .. :: _, _ => ⟨.loneSurrogate, 6⟩
  | [], none => ⟨.brokenSurrogatePair, 1⟩
  | [], some fault =>
    match fault.place, fault.met with
    | .text, some _ => ⟨.brokenSurrogatePair, 1⟩
    | .escape, some _ => ⟨.brokenSurrogatePair, 2⟩
    | _, _ => fault.failure .reading

/-- The characters of a string, with units above the basic plane joined in pairs. -/
def readPieces (fault : Option Fault) : List Piece → Except Failure (List Char)
  | [] =>
    match fault with
    | none => .ok []
    | some fault => .error (fault.failure .reading)
  | .plain c :: rest => do
    let chars ← after (fun _ => c.utf8Size) (readPieces fault rest)
    .ok (c :: chars)
  | .short c :: rest => do
    let chars ← after (fun _ => 2) (readPieces fault rest)
    .ok ((shortEscape c).getD c :: chars)
  | .unit a b c d :: rest =>
    let unit := unitValue a b c d
    if isTrailing unit then .error ⟨.loneSurrogate, 6⟩
    else if isLeading unit then
      match rest with
      | .unit e f g h :: more =>
        let next := unitValue e f g h
        if isTrailing next then do
          let chars ← after (fun _ => 12) (readPieces fault more)
          .ok (pairedChar unit next :: chars)
        else .error ⟨.loneSurrogate, 12⟩
      | _ => .error ((brokenPair rest fault).shift 6)
    else do
      let chars ← after (fun _ => 6) (readPieces fault rest)
      .ok (Char.ofNat unit :: chars)

def read (spelling : Spelling) : Except Failure String :=
  match after (fun _ => 1) (readPieces spelling.fault spelling.pieces) with
  | .error failure => .error failure
  | .ok chars => .ok (String.ofList chars)

/-- A string that is passed over need not make sense, as long as it ends. -/
def skip (spelling : Spelling) : Except Failure Unit :=
  match spelling.fault with
  | none => .ok ()
  | some fault =>
    .error ((fault.failure .skipping).shift
      (1 + byteCount (spelling.pieces.flatMap Piece.text)))

/-- The escape of a character that may not stand for itself. -/
def pieceOf (c : Char) : Piece :=
  if c = '"' then .short '"'
  else if c = '\\' then .short '\\'
  else if c = '\x08' then .short 'b'
  else if c = '\x0c' then .short 'f'
  else if c = '\n' then .short 'n'
  else if c = '\r' then .short 'r'
  else if c = '\t' then .short 't'
  else if c.toNat < 0x20 then
    .unit '0' '0' (Nat.digitChar (c.toNat / 16)) (Nat.digitChar (c.toNat % 16))
  else .plain c

/-- The shortest spelling: only quotes, backslashes and controls are escaped. -/
def ofString (text : String) : Spelling := ⟨text.toList.map pieceOf, none⟩

end Spelling

end MetricQuery.Json
