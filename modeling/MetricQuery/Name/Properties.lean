import MetricQuery.Name.HashInput

namespace MetricQuery

/-- The key properties of a resource name, in the order in which their keys were first written. -/
structure Properties where
  entries : List (String × String)
deriving Repr

namespace Properties

def empty : Properties := ⟨[]⟩

instance : Inhabited Properties := ⟨empty⟩

def keys (properties : Properties) : List String := properties.entries.map Prod.fst

def size (properties : Properties) : Nat := properties.entries.length

def get? (properties : Properties) (key : String) : Option String :=
  (properties.entries.find? (·.1 == key)).map Prod.snd

def contains (properties : Properties) (key : String) : Bool :=
  properties.entries.any (·.1 == key)

/-- The first value written under a key stays; a later one changes nothing. -/
def insert (properties : Properties) (key value : String) : Properties :=
  if properties.contains key then properties else ⟨properties.entries ++ [(key, value)]⟩

/-- The same, and whether the key was new. -/
def insertNew (properties : Properties) (key value : String) : Bool × Properties :=
  if properties.contains key then (false, properties)
  else (true, ⟨properties.entries ++ [(key, value)]⟩)

def ofList (entries : List (String × String)) : Properties :=
  entries.foldl (fun properties (key, value) => properties.insert key value) empty

/-- Entries compare by key and then by value. -/
def entryLe (a b : String × String) : Bool :=
  decide (a.1 < b.1) || (a.1 == b.1 && decide (a.2 ≤ b.2))

def sorted (properties : Properties) : List (String × String) :=
  properties.entries.mergeSort entryLe

def render (entries : List (String × String)) : String :=
  ",".intercalate (entries.map fun (key, value) => key ++ "=" ++ value)

/-- The entries as text, in written order. -/
def written (properties : Properties) : String := render properties.entries

/-- The entries as text, sorted by key. -/
def canonical (properties : Properties) : String := render properties.sorted

/-- The order in which properties were written does not matter to equality. -/
instance : BEq Properties where
  beq a b := a.size == b.size && a.sorted == b.sorted

def hashInput (properties : Properties) : List HashInput :=
  HashInput.ofList HashInput.ofEntry properties.sorted

instance : Hashable Properties where
  hash properties := hash properties.hashInput

end Properties

end MetricQuery
