namespace MetricQuery

/-- A JSON value. Objects keep their members in order, with one member for each key. -/
inductive Json where
  | null
  | bool (value : Bool)
  | integer (value : Int)
  | real (value : Float)
  | text (value : String)
  | array (items : List Json)
  | object (members : List (String × Json))
deriving Inhabited

namespace Json

/-- Sets a member of an object. A key that is present keeps its place and takes the new value. -/
def setMember (key : String) (value : Json) : List (String × Json) → List (String × Json)
  | [] => [(key, value)]
  | (k, v) :: rest => if k = key then (key, value) :: rest else (k, v) :: setMember key value rest

/-- The members an object is left with when they are set one after the other. -/
def membersOf (entries : List (String × Json)) : List (String × Json) :=
  entries.foldl (fun members (key, value) => setMember key value members) []

def getText? (members : List (String × Json)) (key : String) : Option String :=
  match members.lookup key with
  | some (.text value) => some value
  | _ => none

end Json

end MetricQuery
