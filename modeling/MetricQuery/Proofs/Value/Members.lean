import MetricQuery.Proofs.Entries
import MetricQuery.Proofs.Json.Reading
import MetricQuery.Value

namespace MetricQuery

namespace Value

variable {key : String} {value : Value} {members : List (String × Value)}

theorem mem_setMember {member : String × Value} (held : member ∈ setMember key value members) :
    member = (key, value) ∨ member ∈ members := by
  induction members with
  | nil => exact Or.inl (List.mem_singleton.1 held)
  | cons first rest ih =>
    obtain ⟨k, v⟩ := first
    rw [setMember] at held
    split_ifs at held
    · rcases List.mem_cons.1 held with here | later
      · exact Or.inr (here ▸ List.mem_cons_self)
      · exact (ih later).imp_right (List.mem_cons_of_mem _)
    · exact (List.mem_cons.1 held).imp_right (List.mem_cons_of_mem _)
    · exact List.mem_cons.1 held

theorem increasing_setMember (increasing : Increasing members) :
    Increasing (setMember key value members) := by
  induction members with
  | nil => exact List.pairwise_singleton _ _
  | cons first rest ih =>
    obtain ⟨k, v⟩ := first
    obtain ⟨above, inner⟩ := List.pairwise_cons.1 increasing
    rw [setMember]
    split_ifs with below same
    · refine List.pairwise_cons.2 ⟨?_, ih inner⟩
      intro other held
      obtain ⟨member, inside, rfl⟩ := List.mem_map.1 held
      rcases mem_setMember inside with rfl | old
      · exact below
      · exact above _ (List.mem_map_of_mem old)
    · exact same ▸ increasing
    · have first : key < k := String.not_le.1 fun above =>
        same (String.le_antisymm above (String.not_lt.1 below))
      refine List.pairwise_cons.2 ⟨?_, increasing⟩
      intro other held
      rcases List.mem_cons.1 held with rfl | later
      · exact first
      · exact String.lt_trans first (above other later)

theorem lookup_setMember (key other : String) (value : Value) (members : List (String × Value)) :
    (setMember key value members).lookup other =
      if other = key then some value else members.lookup other := by
  induction members with
  | nil => exact lookup_cons_ite (key, value) [] other
  | cons first rest ih =>
    obtain ⟨k, v⟩ := first
    rw [setMember, lookup_cons_ite (k, v)]
    by_cases below : k < key
    · have unlike : k ≠ key := String.ne_of_lt below
      rw [if_pos below, lookup_cons_ite, ih]
      by_cases here : other = k
      · simp [here, unlike]
      · simp [here]
    · rw [if_neg below]
      by_cases same : k = key
      · rw [if_pos same, lookup_cons_ite]
        by_cases here : other = key <;> simp [here, same]
      · rw [if_neg same, lookup_cons_ite, lookup_cons_ite]

theorem keepsLast_setMember {entries : List (String × Value)} (keeps : KeepsLast entries members)
    (key : String) (value : Value) :
    KeepsLast (entries ++ [(key, value)]) (setMember key value members) := by
  refine ⟨increasing_setMember keeps.increasing, fun other => ?_⟩
  rw [lookup_setMember, List.reverse_append, List.reverse_singleton, List.singleton_append,
    lookup_cons_ite, keeps.last]

theorem keepsLast_ofMembers_append {entries : List (String × Value)}
    (keeps : KeepsLast entries members) (more : List (String × Json)) :
    KeepsLast (entries ++ more.map fun entry => (entry.1, ofJson entry.2))
      (ofMembers members more) := by
  induction more generalizing entries members with
  | nil => rwa [List.map_nil, List.append_nil, ofMembers]
  | cons entry rest ih =>
    have next := ih (keepsLast_setMember keeps entry.1 (ofJson entry.2))
    rwa [List.append_assoc] at next

theorem keepsLast_ofMembers (entries : List (String × Json)) :
    KeepsLast (entries.map fun entry => (entry.1, ofJson entry.2)) (ofMembers [] entries) :=
  keepsLast_ofMembers_append .nil entries

end Value

namespace Json

theorem lookup_setMember (key other : String) (value : Json) (members : List (String × Json)) :
    (setMember key value members).lookup other =
      if other = key then some value else members.lookup other := by
  induction members with
  | nil => exact lookup_cons_ite (key, value) [] other
  | cons first rest ih =>
    obtain ⟨k, v⟩ := first
    rw [setMember, lookup_cons_ite (k, v)]
    by_cases same : k = key
    · rw [if_pos same, lookup_cons_ite]
      by_cases here : other = key <;> simp [here, same]
    · rw [if_neg same, lookup_cons_ite, ih]
      by_cases here : other = k
      · simp [here, same]
      · simp [here]

theorem lookup_membersOf (entries : List (String × Json)) (key : String) :
    (membersOf entries).lookup key = entries.reverse.lookup key := by
  induction entries using List.reverseRecOn with
  | nil => rfl
  | append_singleton rest entry ih =>
    rw [membersOf_append_singleton, lookup_setMember, List.reverse_append, List.reverse_singleton,
      List.singleton_append, lookup_cons_ite, ih]

end Json

/-- Setting the members of an object first in their own order makes no difference. -/
theorem Value.keepsLast_membersOf (entries : List (String × Json)) :
    KeepsLast (entries.map fun entry => (entry.1, Value.ofJson entry.2))
      (Value.ofMembers [] (Json.membersOf entries)) := by
  have inOrder := Value.keepsLast_ofMembers (Json.membersOf entries)
  refine ⟨inOrder.increasing, fun key => ?_⟩
  have once : (Json.membersOf entries).reverse.lookup key = (Json.membersOf entries).lookup key :=
    (lookup_perm (Json.membersOf entries).reverse_perm.symm (Json.nodup_membersOf entries)).symm
  rw [inOrder.last, ← List.map_reverse, ← List.map_reverse, lookup_map, lookup_map, once,
    Json.lookup_membersOf]

end MetricQuery
