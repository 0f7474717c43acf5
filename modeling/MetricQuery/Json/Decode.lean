import MetricQuery.Json.Scan
import MetricQuery.Json.Value

namespace MetricQuery.Json

/-- Reads data from a value. The first argument is the room for containers around and inside the
value: a container is only entered while there is room for one more. -/
abbrev Decoder (α : Type) := Nat → Node → Except Failure α

/-- How deep containers may be nested, counting one more than are allowed. -/
def fullRoom : Nat := 128

def enter {α : Type} (room : Nat) (inside : Nat → Except Failure α) : Except Failure α :=
  if room ≤ 1 then .error ⟨.tooDeep, 1⟩ else inside (room - 1)

def Numeral.number (numeral : Numeral) : Except Failure Number :=
  match numeral.read with
  | .error bytes => .error ⟨.numberTooLarge, bytes⟩
  | .ok number => .ok number

def Number.found : Number → Found
  | .integer value => .integer value
  | .real value => .real value

/-- The failure of a value that is not of the expected kind. Scalars are read to their end, and
containers are refused at their bracket. -/
def Node.refuse (expected : String) (node : Node) : Failure :=
  match node with
  | .word .null => ⟨.wrongType .null expected, node.bytes⟩
  | .word .true => ⟨.wrongType (.bool true) expected, node.bytes⟩
  | .word .false => ⟨.wrongType (.bool false) expected, node.bytes⟩
  | .number numeral =>
    match numeral.number with
    | .error failure => failure
    | .ok value => ⟨.wrongType value.found expected, node.bytes⟩
  | .string spelling =>
    match spelling.read with
    | .error failure => failure
    | .ok text => ⟨.wrongType (.text text) expected, node.bytes⟩
  | .array _ => ⟨.wrongType .sequence expected, 0⟩
  | .object _ => ⟨.wrongType .map expected, 0⟩
  | .broken bytes fault => (fault.failure .reading).shift bytes

def Ending.failure (attention : Attention) (ending : Ending) (fault : Fault) : Failure :=
  (fault.failure attention).shift (byteCount ending.blanks)

/-- Where the value of a member starts. -/
def MemberKey.bytes (key : MemberKey) : Nat := byteCount key.text

/-- Where the rest of the items starts, seen from before an item. -/
def itemBytes (before : List Char) (value : Node) (blanks : List Char) (rest : Items) : Nat :=
  byteCount before + value.bytes + byteCount blanks + (comma rest.hasComma).length

def memberBytes (key : MemberKey) (value : Node) (blanks : List Char) (rest : Members) : Nat :=
  key.bytes + value.bytes + byteCount blanks + (comma rest.hasComma).length

mutual

/-- Passes over a value: only its grammar matters. -/
def Node.skip : Node → Except Failure Unit
  | .word _ | .number _ => .ok ()
  | .string spelling => spelling.skip
  | .array items => after (fun _ => 1) items.skip
  | .object members => after (fun _ => 1) members.skip
  | .broken bytes fault => .error ((fault.failure .skipping).shift bytes)

def Items.skip : Items → Except Failure Unit
  | .done ending =>
    match ending.fault with
    | none => .ok ()
    | some fault => .error (ending.failure .skipping fault)
  | .item before value blanks rest => do
    after (fun _ => byteCount before) value.skip
    after (fun _ => itemBytes before value blanks rest) rest.skip

def Members.skip : Members → Except Failure Unit
  | .done ending =>
    match ending.fault with
    | none => .ok ()
    | some fault => .error (ending.failure .skipping fault)
  | .member key value blanks rest => do
    after (fun _ => byteCount key.before) key.key.skip
    after (fun _ => key.bytes) value.skip
    after (fun _ => memberBytes key value blanks rest) rest.skip

end

mutual

/-- Reads a value of any kind. -/
def Node.readAny (room : Nat) : Node → Except Failure Json
  | .word .null => .ok .null
  | .word .true => .ok (.bool true)
  | .word .false => .ok (.bool false)
  | .number numeral => do
    match ← numeral.number with
    | .integer value => .ok (.integer value)
    | .real value => .ok (.real value)
  | .string spelling => do
    let text ← spelling.read
    .ok (.text text)
  | .array items => enter room fun room => after (fun _ => 1) do
    let values ← items.readAny room
    .ok (.array values)
  | .object members => enter room fun room => after (fun _ => 1) do
    let entries ← members.readAny room
    .ok (.object (membersOf entries))
  | .broken bytes fault => .error ((fault.failure .reading).shift bytes)

def Items.readAny (room : Nat) : Items → Except Failure (List Json)
  | .done ending =>
    match ending.fault with
    | none => .ok []
    | some fault => .error (ending.failure .reading fault)
  | .item before value blanks rest => do
    let first ← after (fun _ => byteCount before) (value.readAny room)
    let others ← after (fun _ => itemBytes before value blanks rest) (rest.readAny room)
    .ok (first :: others)

def Members.readAny (room : Nat) : Members → Except Failure (List (String × Json))
  | .done ending =>
    match ending.fault with
    | none => .ok []
    | some fault => .error (ending.failure .reading fault)
  | .member key value blanks rest => do
    let name ← after (fun _ => byteCount key.before) key.key.read
    let first ← after (fun _ => key.bytes) (value.readAny room)
    let others ← after (fun _ => memberBytes key value blanks rest) (rest.readAny room)
    .ok ((name, first) :: others)

end

namespace Decoder

def any : Decoder Json := Node.readAny

def text : Decoder String
  | _, .string spelling => spelling.read
  | _, node => .error (node.refuse "a string")

def flag : Decoder Bool
  | _, .word .true => .ok true
  | _, .word .false => .ok false
  | _, node => .error (node.refuse "a boolean")

/-- A whole number of 16 bits. -/
def port : Decoder Nat
  | _, node@(.number numeral) =>
    match numeral.number with
    | .error failure => .error failure
    | .ok (.integer value) =>
      if 0 ≤ value ∧ value < 65536 then .ok value.toNat
      else .error ⟨.wrongValue (.integer value) "u16", node.bytes⟩
    | .ok (.real _) => .error (node.refuse "u16")
  | _, node => .error (node.refuse "u16")

/-- An explicit null counts as absent. -/
def optional {α : Type} (decoder : Decoder α) : Decoder (Option α)
  | _, .word .null => .ok none
  | room, node =>
    match decoder room node with
    | .error failure => .error failure
    | .ok value => .ok (some value)

def items {α : Type} (decoder : Decoder α) (room : Nat) : Items → Except Failure (List α)
  | .done ending =>
    match ending.fault with
    | none => .ok []
    | some fault => .error (ending.failure .reading fault)
  | .item before value blanks rest => do
    let first ← after (fun _ => byteCount before) (decoder room value)
    let others ← after (fun _ => itemBytes before value blanks rest) (items decoder room rest)
    .ok (first :: others)

def list {α : Type} (decoder : Decoder α) : Decoder (List α)
  | room, .array body => enter room fun room => after (fun _ => 1) (items decoder room body)
  | _, node => .error (node.refuse "a sequence")

def map {α β : Type} (f : α → β) (decoder : Decoder α) : Decoder β := fun room node =>
  match decoder room node with
  | .error failure => .error failure
  | .ok value => .ok (f value)

end Decoder

/-- A failure with its place in the text. -/
structure Error where
  problem : Problem
  position : Position

def Error.message (error : Error) : String :=
  error.problem.describe ++ " at line " ++ toString error.position.line ++ " column " ++
    toString error.position.column

/-- Reads a document: its value first, and then its end. -/
def Document.decode {α : Type} (document : Document) (decoder : Decoder α) : Except Failure α := do
  let value ← after (fun _ => byteCount document.before) (decoder fullRoom document.root)
  match document.excess with
  | none => .ok value
  | some _ => .error ⟨.trailingText, byteCount document.text + 1⟩

def Decoder.decode {α : Type} (decoder : Decoder α) (text : String) : Except Error α :=
  match (Document.ofChars text.toList).decode decoder with
  | .ok value => .ok value
  | .error failure => .error ⟨failure.problem, Position.after text.toList failure.bytes⟩

end MetricQuery.Json
