namespace MetricQuery

/-- A piece of the data that a hasher is fed. -/
inductive HashInput where
  | number (value : Nat)
  | flag (value : Bool)
  | text (value : String)
deriving DecidableEq, Repr, Hashable

namespace HashInput

def ofText (text : String) : List HashInput := [.text text]

def ofEntry (entry : String × String) : List HashInput := [.text entry.1, .text entry.2]

/-- A text that may be missing comes after the number of texts. -/
def ofOption : Option String → List HashInput
  | none => [.number 0]
  | some given => [.number 1, .text given]

/-- The items of a list come after their number. -/
def ofList {α : Type} (input : α → List HashInput) (items : List α) : List HashInput :=
  .number items.length :: items.flatMap input

end HashInput

end MetricQuery
