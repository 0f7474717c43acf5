import Mathlib.Data.List.Induction
import Mathlib.Data.List.Nodup

namespace MetricQuery

section Lookup

variable {β : Type} {entries : List (String × β)} {key : String}

theorem lookup_cons_ite (entry : String × β) (rest : List (String × β)) (key : String) :
    (entry :: rest).lookup key = if key = entry.1 then some entry.2 else rest.lookup key := by
  obtain ⟨k, v⟩ := entry
  by_cases same : key = k
  · simp [same]
  · simp [List.lookup_cons, beq_eq_false_iff_ne.2 same, same]

theorem lookup_eq_none_iff_notMem : entries.lookup key = none ↔ key ∉ entries.map Prod.fst := by
  induction entries with
  | nil => simp
  | cons entry rest ih =>
    rw [lookup_cons_ite, List.map_cons, List.mem_cons, not_or, ← ih]
    split
    · rename_i same
      simp [same]
    · rename_i other
      simp [other]

theorem lookup_eq_some_iff_mem (distinct : (entries.map Prod.fst).Nodup) {value : β} :
    entries.lookup key = some value ↔ (key, value) ∈ entries := by
  induction entries with
  | nil => simp
  | cons entry rest ih =>
    obtain ⟨k, v⟩ := entry
    obtain ⟨fresh, distinct⟩ := List.nodup_cons.1 distinct
    rw [lookup_cons_ite]
    by_cases same : key = k
    · subst same
      have absent : (key, value) ∉ rest := fun held => fresh (List.mem_map.2 ⟨_, held, rfl⟩)
      simp [absent, eq_comm]
    · simp [ih distinct, same]

theorem lookup_perm {others : List (String × β)} (perm : entries.Perm others)
    (distinct : (entries.map Prod.fst).Nodup) : entries.lookup key = others.lookup key := by
  have distinctOthers : (others.map Prod.fst).Nodup := (perm.map Prod.fst).nodup_iff.1 distinct
  ext value
  rw [lookup_eq_some_iff_mem distinct, lookup_eq_some_iff_mem distinctOthers, perm.mem_iff]

theorem lookup_map {γ : Type} (f : β → γ) (entries : List (String × β)) (key : String) :
    (entries.map fun entry => (entry.1, f entry.2)).lookup key = (entries.lookup key).map f := by
  induction entries with
  | nil => rfl
  | cons entry rest ih =>
    rw [List.map_cons, lookup_cons_ite, lookup_cons_ite, ih]
    split <;> rfl

/-- The last entry under a key is the last one of those that have the key. -/
theorem lookup_reverse (entries : List (String × β)) (key : String) :
    entries.reverse.lookup key =
      (entries.filter fun entry => entry.1 = key).getLast?.map Prod.snd := by
  induction entries using List.reverseRecOn with
  | nil => rfl
  | append_singleton rest entry ih =>
    rw [List.reverse_append, List.reverse_singleton, List.singleton_append, lookup_cons_ite, ih,
      List.filter_append]
    by_cases same : entry.1 = key
    · simp [same]
    · simp [same, Ne.symm same]

end Lookup

/-- The keys are listed in strictly increasing order. -/
def Increasing {β : Type} (entries : List (String × β)) : Prop :=
  (entries.map Prod.fst).Pairwise (· < ·)

namespace Increasing

variable {β : Type} {a b : List (String × β)}

theorem nodup (increasing : Increasing a) : (a.map Prod.fst).Nodup :=
  List.Pairwise.imp (fun {_ _} below => String.ne_of_lt below) increasing

/-- Keys in increasing order leave no choice: what is looked up decides the list. -/
theorem eq_of_lookup (first : Increasing a) (second : Increasing b)
    (same : ∀ key, a.lookup key = b.lookup key) : a = b := by
  have perm : a.Perm b := by
    rw [List.perm_ext_iff_of_nodup (.of_map _ first.nodup) (.of_map _ second.nodup)]
    rintro ⟨key, value⟩
    rw [← lookup_eq_some_iff_mem first.nodup, ← lookup_eq_some_iff_mem second.nodup, same]
  have antisymmetric (x y : String × β) (_ : x ∈ a) (_ : y ∈ b) (below : x.1 < y.1)
      (above : y.1 < x.1) : x = y :=
    absurd (String.lt_trans below above) (String.lt_irrefl _)
  exact perm.eq_of_pairwise antisymmetric (List.pairwise_map.1 first) (List.pairwise_map.1 second)

end Increasing

theorem mem_of_lookup {β : Type} {entries : List (String × β)} {key : String} {value : β}
    (found : entries.lookup key = some value) : (key, value) ∈ entries := by
  obtain ⟨before, after, split, _⟩ := List.lookup_eq_some_iff.1 found
  simp [split]

/-- Of several entries under one key the last is kept, and the keys are brought in order. -/
structure KeepsLast {β : Type} (entries kept : List (String × β)) : Prop where
  increasing : Increasing kept
  last : ∀ key, kept.lookup key = entries.reverse.lookup key

namespace KeepsLast

variable {β : Type} {entries others kept : List (String × β)}

theorem nil : KeepsLast ([] : List (String × β)) [] :=
  ⟨.nil, fun _ => rfl⟩

theorem eq_of_same (first : KeepsLast entries kept) (second : KeepsLast entries others) :
    kept = others :=
  first.increasing.eq_of_lookup second.increasing fun key =>
    (first.last key).trans (second.last key).symm

theorem of_increasing (increasing : Increasing kept) : KeepsLast kept kept :=
  ⟨increasing, fun _ => lookup_perm kept.reverse_perm.symm increasing.nodup⟩

theorem subset (keeps : KeepsLast entries kept) : kept ⊆ entries := by
  rintro ⟨key, value⟩ held
  have found := (lookup_eq_some_iff_mem keeps.increasing.nodup).2 held
  rw [keeps.last] at found
  exact List.mem_reverse.1 (mem_of_lookup found)

/-- Only the entries under each key matter, in the order in which they stand. -/
theorem congr (keeps : KeepsLast entries kept)
    (same : ∀ key, (entries.filter fun entry => entry.1 = key) =
      others.filter fun entry => entry.1 = key) : KeepsLast others kept := by
  refine ⟨keeps.increasing, fun key => ?_⟩
  rw [keeps.last, lookup_reverse, lookup_reverse, same]

end KeepsLast

section FindSome

variable {ε β : Type} {f : ε → Option β} {kind : ε → String} {name : String}

/-- If one kind of entry has the value that is looked for, and there is one entry of each kind, the
order of the entries does not matter. -/
theorem findSome?_perm (only : ∀ {entry value}, f entry = some value → kind entry = name)
    {a b : List ε} (perm : a.Perm b) (distinct : (a.map kind).Nodup) :
    a.findSome? f = b.findSome? f := by
  induction perm with
  | nil => rfl
  | cons entry _ ih => rw [List.findSome?_cons, List.findSome?_cons, ih (List.nodup_cons.1 distinct).2]
  | swap first second rest =>
    have apart : kind second ≠ kind first := fun same =>
      (List.nodup_cons.1 distinct).1 (by simp [same])
    simp only [List.findSome?_cons]
    cases here : f first with
    | none => cases f second <;> rfl
    | some _ =>
      cases next : f second with
      | none => rfl
      | some _ => exact absurd ((only next).trans (only here).symm) apart
  | trans first _ ih₁ ih₂ =>
    exact (ih₁ distinct).trans (ih₂ ((first.map kind).nodup_iff.1 distinct))

end FindSome

end MetricQuery
