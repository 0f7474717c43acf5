import MetricQuery.Json.Decode

namespace MetricQuery.Json

/-- What is done with a member of an object: a field may be given once, a setting any number of
times, and a member that nobody asks for is passed over. -/
inductive Slot (ε : Type) where
  | field (decoder : Decoder ε)
  | setting (decoder : Decoder ε)
  | ignored

/-- A second key of the same field is refused where it ends, after the blanks that follow it. A
closing brace that stands there instead of a colon still belongs to the object. -/
def MemberKey.endBytes (key : MemberKey) (value : Node) : Nat :=
  byteCount key.before + byteCount key.key.text + byteCount key.afterKey +
    match value with
    | .broken _ ⟨.colon, some '\x7d'⟩ => 1
    | _ => 0

/-- Reads the members of an object in order. -/
def readMembers {ε : Type} (slot : String → Slot ε) (room : Nat) :
    List String → Members → Except Failure (List ε)
  | _, .done ending =>
    match ending.fault with
    | none => .ok []
    | some fault => .error (ending.failure .reading fault)
  | given, .member key value blanks rest => do
    let name ← after (fun _ => byteCount key.before) key.key.read
    let following (given : List String) :=
      after (fun _ => memberBytes key value blanks rest) (readMembers slot room given rest)
    match slot name with
    | .ignored =>
      after (fun _ => key.bytes) value.skip
      following given
    | .setting decoder =>
      let first ← after (fun _ => key.bytes) (decoder room value)
      let others ← following given
      .ok (first :: others)
    | .field decoder =>
      if given.contains name then .error ⟨.duplicateField name, key.endBytes value⟩
      else
        let first ← after (fun _ => key.bytes) (decoder room value)
        let others ← following (name :: given)
        .ok (first :: others)

/-- Reads the items of a list as the fields of a record, in the order in which they are declared.
The list may be shorter than the record, but no longer. -/
def readFields {ε : Type} (room : Nat) : List (Decoder ε) → Items → Except Failure (List ε)
  | [], .done ending =>
    match ending.fault with
    | none => .ok []
    | some ⟨place, met⟩ =>
      let width := met.toList.length
      if ending.comma then
        .error ⟨if met.isSome then .trailingComma else .trailingText,
          byteCount ending.blanks + width⟩
      else if met.isSome then .error ⟨.trailingText, byteCount ending.blanks + width⟩
      else .error (ending.failure .reading ⟨place, met⟩)
  | [], .item before _ _ _ => .error ⟨.trailingText, byteCount before + 1⟩
  | _ :: _, .done ending =>
    match ending.fault with
    | none => .ok []
    | some fault => .error (ending.failure .reading fault)
  | decoder :: decoders, .item before value blanks rest => do
    let first ← after (fun _ => byteCount before) (decoder room value)
    let others ← after (fun _ => itemBytes before value blanks rest)
      (readFields room decoders rest)
    .ok (first :: others)

/-- How a record is read. Each field is read into an entry, and the record is built from the
entries that were given, unless one that it needs is missing. -/
structure Record (ε α : Type) where
  title : String
  fields : List (String × Decoder ε)
  build : List ε → Except String α

namespace Record

def slot {ε α : Type} (record : Record ε α) (name : String) : Slot ε :=
  match record.fields.lookup name with
  | some decoder => .field decoder
  | none => .ignored

def expectation {ε α : Type} (record : Record ε α) : String :=
  record.title ++ " with " ++ toString record.fields.length ++
    (if record.fields.length = 1 then " element" else " elements")

/-- A record is written as an object or as the list of its fields. What is missing is noticed at
the closing bracket. -/
def decoder {ε α : Type} (record : Record ε α) : Decoder α := fun room node =>
  match node with
  | .array items => enter room fun room => do
    let entries ← after (fun _ => 1) (readFields room (record.fields.map Prod.snd) items)
    match record.build entries with
    | .ok value => .ok value
    | .error missing =>
      .error ⟨.wrongLength ((record.fields.map Prod.fst).idxOf missing) record.expectation,
        node.bytes⟩
  | .object members => enter room fun room => do
    let entries ← after (fun _ => 1) (readMembers record.slot room [] members)
    match record.build entries with
    | .ok value => .ok value
    | .error missing => .error ⟨.missingField missing, node.bytes⟩
  | _ => .error (node.refuse record.title)

end Record

/-- Reads an object with fields and settings. It cannot be written as a list. -/
def objectDecoder {ε α : Type} (title : String) (slot : String → Slot ε)
    (build : List ε → Except String α) : Decoder α := fun room node =>
  match node with
  | .object members => enter room fun room => do
    let entries ← after (fun _ => 1) (readMembers slot room [] members)
    match build entries with
    | .ok value => .ok value
    | .error missing => .error ⟨.missingField missing, node.bytes⟩
  | _ => .error (node.refuse title)

end MetricQuery.Json
