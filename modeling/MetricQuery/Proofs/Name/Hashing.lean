import MetricQuery.Proofs.Name.Properties

namespace MetricQuery

/-- What a hasher is fed for an item tells which items are equal to it, whatever it is fed next. -/
def Telling {α : Type} [BEq α] (input : α → List HashInput) : Prop :=
  ∀ a b rest others, input a ++ rest = input b ++ others ↔ (a == b) = true ∧ rest = others

namespace Telling

variable {α : Type} [BEq α] {input : α → List HashInput}

theorem eq_iff (telling : Telling input) {a b : α} : input a = input b ↔ (a == b) = true := by
  have alone := telling a b [] []
  rwa [List.append_nil, List.append_nil, and_iff_left rfl] at alone

theorem hash_eq (telling : Telling input) {a b : α} (equal : (a == b) = true) :
    hash (input a) = hash (input b) := by
  rw [telling.eq_iff.2 equal]

theorem flatMap_iff [LawfulBEq α] (telling : Telling input) {a b : List α}
    {rest others : List HashInput} (lengths : a.length = b.length) :
    a.flatMap input ++ rest = b.flatMap input ++ others ↔ a = b ∧ rest = others := by
  induction a generalizing b with
  | nil =>
    obtain rfl := List.length_eq_zero_iff.1 lengths.symm
    simp
  | cons first a ih =>
    cases b with
    | nil => cases lengths
    | cons second b =>
      rw [List.flatMap_cons, List.flatMap_cons, List.append_assoc, List.append_assoc, telling,
        ih (Nat.succ.inj lengths), beq_iff_eq, List.cons.injEq, and_assoc]

theorem list [LawfulBEq α] (telling : Telling input) : Telling (HashInput.ofList input) := by
  intro a b rest others
  rw [HashInput.ofList, HashInput.ofList, List.cons_append, List.cons_append, List.cons.injEq,
    HashInput.number.injEq, beq_iff_eq]
  constructor
  · -- The number of items says where the list ends and the rest begins.
    rintro ⟨lengths, same⟩
    exact (telling.flatMap_iff lengths).1 same
  · rintro ⟨rfl, rfl⟩
    exact ⟨rfl, rfl⟩

end Telling

namespace HashInput

theorem telling_ofText : Telling ofText := by
  intro a b rest others
  simp [ofText]

theorem telling_ofEntry : Telling ofEntry := by
  intro a b rest others
  simp [ofEntry, Prod.ext_iff, and_assoc]

theorem telling_ofOption : Telling ofOption := by
  intro a b rest others
  cases a <;> cases b <;> simp [ofOption]

end HashInput

theorem Properties.telling_hashInput : Telling Properties.hashInput := by
  intro a b rest others
  rw [hashInput, hashInput, HashInput.telling_ofEntry.list, beq_iff_eq, sorted_eq_sorted_iff,
    beq_iff_perm]

theorem NamePattern.telling_hashInput : Telling NamePattern.hashInput := by
  intro a b rest others
  rw [hashInput, hashInput, beq_iff]
  simp only [List.cons_append, List.cons.injEq, HashInput.text.injEq, HashInput.flag.injEq,
    Properties.telling_hashInput _ _ _ _, Properties.beq_iff_perm, and_assoc]

theorem ResourceName.telling_hashInput : Telling ResourceName.hashInput := by
  intro a b rest others
  rw [hashInput, hashInput, beq_iff]
  simp only [List.cons_append, List.cons.injEq, HashInput.text.injEq,
    Properties.telling_hashInput _ _ _ _, Properties.beq_iff_perm, and_assoc]

end MetricQuery
