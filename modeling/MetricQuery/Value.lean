import MetricQuery.Json.Layout
import MetricQuery.Json.Record

namespace MetricQuery

/-- The value of an attribute as a management server returns it. The members of a composite have
different keys, in increasing order. -/
inductive Value where
  | null
  | flag (value : Bool)
  | integer (value : Int)
  | real (value : Float)
  | text (value : String)
  | array (items : List Value)
  | composite (members : List (String × Value))
deriving Inhabited, BEq

namespace Value

/-- Sets a member of a composite at the place of its key. -/
def setMember (key : String) (value : Value) : List (String × Value) → List (String × Value)
  | [] => [(key, value)]
  | (k, v) :: rest =>
    if k < key then (k, v) :: setMember key value rest
    else if k = key then (key, value) :: rest
    else (key, value) :: (k, v) :: rest

/-- A whole number is an integer if it fits in 64 bits with a sign, and else a float. -/
def ofInt (n : Int) : Value :=
  if -9223372036854775808 ≤ n ∧ n < 9223372036854775808 then .integer n
  else .real (UInt64.ofNat n.toNat).toFloat

mutual

def ofJson : Json → Value
  | .null => .null
  | .bool value => .flag value
  | .integer value => ofInt value
  | .real value => .real value
  | .text value => .text value
  | .array items => .array (ofItems items)
  | .object members => .composite (ofMembers [] members)

def ofItems : List Json → List Value
  | [] => []
  | item :: rest => ofJson item :: ofItems rest

def ofMembers (read : List (String × Value)) : List (String × Json) → List (String × Value)
  | [] => read
  | (key, value) :: rest => ofMembers (setMember key (ofJson value) read) rest

end

mutual

def toJson : Value → Json
  | .null => .null
  | .flag value => .bool value
  | .integer value => .integer value
  | .real value => .real value
  | .text value => .text value
  | .array items => .array (itemsJson items)
  | .composite members => .object (membersJson members)

def itemsJson : List Value → List Json
  | [] => []
  | item :: rest => toJson item :: itemsJson rest

def membersJson : List (String × Value) → List (String × Json)
  | [] => []
  | (key, value) :: rest => (key, toJson value) :: membersJson rest

end

mutual

/-- A value as it is shown in messages: texts without quotes, floats without an exponent. -/
def display : Value → String
  | .null => "null"
  | .flag value => if value then "true" else "false"
  | .integer value => toString value
  | .real value => DecimalLayout.message.render value
  | .text value => value
  | .array items => "[" ++ ", ".intercalate (displayItems items) ++ "]"
  | .composite members => "\x7b" ++ ", ".intercalate (displayMembers members) ++ "\x7d"

def displayItems : List Value → List String
  | [] => []
  | item :: rest => display item :: displayItems rest

def displayMembers : List (String × Value) → List String
  | [] => []
  | (key, value) :: rest => (key ++ "=" ++ display value) :: displayMembers rest

end

def kind : Value → String
  | .null => "null"
  | .flag _ => "boolean"
  | .integer _ => "integer"
  | .real _ => "float"
  | .text _ => "string"
  | .array _ => "array"
  | .composite _ => "composite"

def isComposite : Value → Bool
  | .composite _ => true
  | _ => false

def number? : Value → Option Float
  | .integer value => some (Int64.ofInt value).toFloat
  | .real value => some value
  | _ => none

def member? (value : Value) (key : String) : Option Value :=
  match value with
  | .composite members => members.lookup key
  | _ => none

def decoder : Json.Decoder Value := Json.Decoder.any.map ofJson

def parse (text : String) : Except Json.Error Value := decoder.decode text

def write (value : Value) : String := value.toJson.write

end Value

/-- A named value of one resource. -/
structure Attribute where
  name : String
  value : Value
deriving Inhabited, BEq

namespace Attribute

inductive Field where
  | named (text : String)
  | valued (content : Value)

def Field.name? : Field → Option String
  | .named text => some text
  | _ => none

def Field.value? : Field → Option Value
  | .valued content => some content
  | _ => none

def record : Json.Record Field Attribute where
  title := "struct Attribute"
  fields := [("name", .map .named .text), ("value", .map .valued Value.decoder)]
  build fields :=
    match fields.findSome? Field.name?, fields.findSome? Field.value? with
    | none, _ => .error "name"
    | some _, none => .error "value"
    | some name, some value => .ok ⟨name, value⟩

def toJson (one : Attribute) : Json :=
  .object [("name", .text one.name), ("value", one.value.toJson)]

end Attribute

end MetricQuery
