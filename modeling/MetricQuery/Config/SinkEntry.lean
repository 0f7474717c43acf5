import MetricQuery.Json.Record
import MetricQuery.Sink

namespace MetricQuery

/-- A sink as a configuration describes it: the name of its type and its free settings. -/
structure SinkEntry where
  type : String
  settings : SinkSettings

namespace SinkEntry

inductive Part where
  | named (type : String)
  | set (name : String) (value : Json)

def Part.type? : Part → Option String
  | .named type => some type
  | .set .. => none

def Part.setting? : Part → Option (String × Json)
  | .named _ => none
  | .set name value => some (name, value)

def slot (name : String) : Json.Slot Part :=
  if name = "@class" then .field (.map .named .text) else .setting (.map (.set name) .any)

def build (parts : List Part) : Except String SinkEntry :=
  match parts.findSome? Part.type? with
  | none => .error "@class"
  | some type => .ok ⟨type, Json.membersOf (parts.filterMap Part.setting?)⟩

def decoder : Json.Decoder SinkEntry := Json.objectDecoder "struct SinkDescriptor" slot build

def parse (text : String) : Except Json.Error SinkEntry := decoder.decode text

def toJson (entry : SinkEntry) : Json := .object (("@class", .text entry.type) :: entry.settings)

end SinkEntry

end MetricQuery
