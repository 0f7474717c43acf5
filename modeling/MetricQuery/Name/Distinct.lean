import Std.Data.HashSet

namespace MetricQuery

/-- How many different items a list holds, counted in a hash set. -/
def distinctCount {α : Type} [BEq α] [Hashable α] (items : List α) : Nat :=
  (Std.HashSet.ofList items).size

/-- Which pairs of items are equal: one row for each item, and in it one entry for each item. -/
def equalityMatrix {α : Type} [BEq α] (items : List α) : List (List Bool) :=
  items.map fun a => items.map fun b => a == b

/-- Items that are equal also have equal hashes. -/
def hashesAgree {α : Type} [BEq α] [Hashable α] (items : List α) : Bool :=
  items.all fun a => items.all fun b => !(a == b) || hash a == hash b

end MetricQuery
