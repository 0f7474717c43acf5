import MetricQuery.Json.Document
import MetricQuery.Json.Value

namespace MetricQuery.Json

mutual

/-- A value laid out as a document without any blanks. -/
def layout : Json → Node
  | .null => .word .null
  | .bool true => .word .true
  | .bool false => .word .false
  | .integer value => .number (.ofInt value)
  | .real value => .number (.ofParts (DecimalLayout.document.parts value))
  | .text value => .string (.ofString value)
  | .array items => .array (layoutItems items)
  | .object members => .object (layoutMembers members)

def layoutItems : List Json → Items
  | [] => .done (.closed [])
  | value :: rest => .item [] (layout value) [] (layoutItems rest)

def layoutMembers : List (String × Json) → Members
  | [] => .done (.closed [])
  | (key, value) :: rest =>
    .member ⟨[], .ofString key, [], some []⟩ (layout value) [] (layoutMembers rest)

end

/-- The compact text of a value. -/
def write (value : Json) : String := String.ofList (layout value).text

def texts (items : List String) : Json := .array (items.map .text)

/-- The members that are present, in order. -/
def objectOf (members : List (Option (String × Json))) : Json := .object (members.filterMap id)

end MetricQuery.Json
