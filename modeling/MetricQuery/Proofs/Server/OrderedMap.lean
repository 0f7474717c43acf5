import Mathlib.Data.List.Nodup
import Mathlib.Logic.Function.Basic

namespace MetricQuery

/-- A map that remembers in which order its keys came in. -/
structure OrderedMap (κ ν : Type) where
  order : List κ
  value : κ → Option ν
  distinct : order.Nodup
  mem_iff : ∀ key, key ∈ order ↔ (value key).isSome = true

namespace OrderedMap

variable {κ ν : Type}

def empty : OrderedMap κ ν where
  order := []
  value _ := none
  distinct := .nil
  mem_iff := by simp

/-- What the map holds, in the order of the keys. -/
def items (map : OrderedMap κ ν) : List ν := map.order.filterMap map.value

section Changes

variable [DecidableEq κ]

/-- A key that is present keeps its place and gets the new value. Any other key comes last. -/
def set (map : OrderedMap κ ν) (key : κ) (value : ν) : OrderedMap κ ν where
  order := if key ∈ map.order then map.order else map.order ++ [key]
  value := Function.update map.value key (some value)
  distinct := by
    split
    · exact map.distinct
    · rename_i absent
      have apart : ∀ other ∈ map.order, other ≠ key := fun other held same => absent (same ▸ held)
      exact List.nodup_append.2 ⟨map.distinct, List.nodup_singleton key, by simpa using apart⟩
  mem_iff other := by
    by_cases same : other = key
    · subst same
      by_cases held : other ∈ map.order <;> simp [held]
    · rw [Function.update_of_ne same, ← map.mem_iff]
      split <;> simp [same]

/-- Takes a key away and leaves the others in their order. -/
def erase (map : OrderedMap κ ν) (key : κ) : OrderedMap κ ν where
  order := map.order.erase key
  value := Function.update map.value key none
  distinct := map.distinct.erase key
  mem_iff other := by
    rw [map.distinct.mem_erase_iff]
    by_cases same : other = key
    · simp [same]
    · simp [same, map.mem_iff]

end Changes

/-- The map holds just these items, each under its own key. -/
structure Lists (map : OrderedMap κ ν) (key : ν → κ) (items : List ν) : Prop where
  order : map.order = items.map key
  value : ∀ item ∈ items, map.value (key item) = some item

namespace Lists

variable {map : OrderedMap κ ν} {key : ν → κ} {items : List ν}

theorem nodup (lists : map.Lists key items) : (items.map key).Nodup :=
  lists.order ▸ map.distinct

theorem items_eq (lists : map.Lists key items) : map.items = items := by
  have kept : ∀ item ∈ items, (map.value ∘ key) item = some item := lists.value
  rw [OrderedMap.items, lists.order, List.filterMap_map, List.filterMap_congr kept,
    List.filterMap_some]

theorem value_eq_find? [DecidableEq κ] (lists : map.Lists key items) (wanted : κ) :
    map.value wanted = items.find? fun item => key item = wanted := by
  cases found : items.find? fun item => key item = wanted with
  | some item =>
    have same : key item = wanted := by simpa using List.find?_some found
    rw [← same, lists.value item (List.mem_of_find?_eq_some found)]
  | none =>
    have absent : wanted ∉ map.order := by
      rw [lists.order]
      intro member
      obtain ⟨item, held, same⟩ := List.mem_map.1 member
      simpa [same] using List.find?_eq_none.1 found item held
    rw [map.mem_iff] at absent
    simpa using absent

end Lists

theorem lists_empty (key : ν → κ) : (empty : OrderedMap κ ν).Lists key [] :=
  ⟨rfl, by simp⟩

end OrderedMap

end MetricQuery
