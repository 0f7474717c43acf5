import MetricQuery.Proofs.Name.Distinct
import MetricQuery.Proofs.Name.Identity
import MetricQuery.Query

namespace MetricQuery

namespace Query

theorem beq_iff {a b : Query} :
    (a == b) = true ↔
      (a.pattern == b.pattern) = true ∧ a.keys = b.keys ∧ a.attributeNames = b.attributeNames ∧
        a.resultAlias = b.resultAlias ∧ a.sinks.length = b.sinks.length := by
  have unfolded : (a == b) =
      (a.pattern == b.pattern && a.keys == b.keys && a.attributeNames == b.attributeNames &&
        a.resultAlias == b.resultAlias && a.sinks.length == b.sinks.length) := rfl
  simp only [unfolded, Bool.and_eq_true, beq_iff_eq, and_assoc]

instance : EquivBEq Query where
  rfl := beq_iff.2 ⟨BEq.rfl, rfl, rfl, rfl, rfl⟩
  symm := fun equal =>
    have ⟨pattern, keys, attributes, name, sinks⟩ := beq_iff.1 equal
    beq_iff.2 ⟨BEq.symm pattern, keys.symm, attributes.symm, name.symm, sinks.symm⟩
  trans := fun first second =>
    have ⟨pattern, keys, attributes, name, sinks⟩ := beq_iff.1 first
    have ⟨pattern', keys', attributes', name', sinks'⟩ := beq_iff.1 second
    beq_iff.2 ⟨BEq.trans pattern pattern', keys.trans keys', attributes.trans attributes',
      name.trans name', sinks.trans sinks'⟩

theorem telling_hashInput : Telling hashInput := by
  intro a b rest others
  simp only [hashInput, List.append_assoc, NamePattern.telling_hashInput _ _ _ _,
    HashInput.telling_ofText.list _ _ _ _, HashInput.telling_ofOption _ _ _ _, beq_iff,
    List.cons_append, List.nil_append, List.cons.injEq, HashInput.number.injEq, beq_iff_eq,
    and_assoc]

/-- What equality looks at is all that the hash is made of. -/
instance : LawfulHashable Query where
  hash_eq _ _ equal := telling_hashInput.hash_eq equal

/-- How keys are made, and what the factories and sinks are, has no part in equality. -/
theorem beq_congr_settings (a b : Query) {sinks : List Sink}
    (size : sinks.length = a.sinks.length) (typeNames : List String)
    (domainAsKey dottedKeys allTypeNames : Bool) (factories : List SinkFactory) :
    (({ a with typeNames, domainAsKey, dottedKeys, allTypeNames, factories, sinks } : Query) == b) =
      (a == b) := by
  rw [Bool.eq_iff_iff, beq_iff, beq_iff, size]

end Query

/-- Items that a hash set holds by their classes. They are equal exactly if a hasher is fed the same
for them, and however it makes hashes of that, there is one element for each class. -/
structure HashedByClass {α : Type} [BEq α] [EquivBEq α] [Hashable α]
    (input : α → List HashInput) : Prop where
  refl : ∀ a : α, (a == a) = true
  symm : ∀ a b : α, (a == b) = true → (b == a) = true
  trans : ∀ a b c : α, (a == b) = true → (b == c) = true → (a == c) = true
  hashed : ∀ a : α, hash a = hash (input a)
  fed : ∀ a b : α, (a == b) = true ↔ input a = input b
  counted : ∀ (digest : List HashInput → UInt64) (items order : List α), order.Perm items →
    @distinctCount α _ ⟨fun a => digest (input a)⟩ order = (classes items).card

theorem classes_perm {α : Type} [BEq α] [EquivBEq α] {items order : List α}
    (perm : order.Perm items) : classes order = classes items :=
  List.toFinset_eq_of_perm _ _ (perm.map classOf)

theorem Telling.hashedByClass {α : Type} [BEq α] [EquivBEq α] [Hashable α]
    {input : α → List HashInput} (telling : Telling input)
    (hashed : ∀ a : α, hash a = hash (input a)) : HashedByClass input := by
  refine ⟨fun _ => BEq.rfl, fun _ _ => BEq.symm, fun _ _ _ => BEq.trans, hashed,
    fun _ _ => telling.eq_iff.symm, fun digest items order perm => ?_⟩
  -- The count is that of any lawful hash, so the digest becomes the hash of the items here.
  let hashable : Hashable α := ⟨fun a => digest (input a)⟩
  have lawful : LawfulHashable α := ⟨fun _ _ equal => congrArg digest (telling.eq_iff.2 equal)⟩
  rw [distinctCount_eq_card_classes, classes_perm perm]

/-- Names and queries are hashed by just that by which they are compared. Of a query that is its
pattern, its keys, its attributes, its alias and how many sinks it has. -/
theorem hashing_follows_equality :
    HashedByClass Properties.hashInput ∧ HashedByClass NamePattern.hashInput ∧
      HashedByClass ResourceName.hashInput ∧ HashedByClass Query.hashInput ∧
      ∀ a b : Query, ((a == b) = true ↔ (a.pattern == b.pattern) = true ∧ a.keys = b.keys ∧
        a.attributeNames = b.attributeNames ∧ a.resultAlias = b.resultAlias ∧
          a.sinks.length = b.sinks.length) ∧
        ∀ sinks : List Sink, sinks.length = a.sinks.length →
          ∀ typeNames domainAsKey dottedKeys allTypeNames factories,
            (({ a with typeNames, domainAsKey, dottedKeys, allTypeNames, factories, sinks } : Query)
              == b) = (a == b) := by
  refine ⟨Properties.telling_hashInput.hashedByClass fun _ => rfl,
    NamePattern.telling_hashInput.hashedByClass fun _ => rfl,
    ResourceName.telling_hashInput.hashedByClass fun _ => rfl,
    Query.telling_hashInput.hashedByClass fun _ => rfl, fun a b => ⟨Query.beq_iff, ?_⟩⟩
  exact fun _ size => a.beq_congr_settings b size

/-- Equal queries with the properties in another order, made into other keys and sent elsewhere. -/
theorem hashing_follows_equality_of_reordered :
    ∃ a b : Query, a.pattern.properties.keys = ["x", "y"] ∧ b.pattern.properties.keys = ["y", "x"] ∧
      a.naming ≠ b.naming ∧ a.sinks ≠ b.sinks ∧ (a == b) = true ∧ a.hashInput = b.hashInput ∧
      distinctCount [a, b] = 1 ∧ distinctCount [b, a] = 1 := by
  let first : Query := ⟨⟨"d", ⟨[("x", "1"), ("y", "2")]⟩, true⟩, [], ["Used"], [], none,
    false, false, false, [], [.log .info]⟩
  let second : Query := ⟨⟨"d", ⟨[("y", "2"), ("x", "1")]⟩, true⟩, [], ["Used"], ["x"], none,
    false, true, false, [], [.recorder "r" none]⟩
  obtain ⟨_, _, _, hashed, compared⟩ := hashing_follows_equality
  have patterns : (first.pattern == second.pattern) = true :=
    NamePattern.beq_iff.2 ⟨rfl, rfl, List.Perm.swap _ _ _⟩
  have equal : (first == second) = true :=
    (compared first second).1.2 ⟨patterns, rfl, rfl, rfl, rfl⟩
  have card : (classes [first, second]).card = 1 := by
    simp [classes, classOf_eq_iff.2 equal]
  have counted := hashed.counted hash [first, second]
  exact ⟨first, second, rfl, rfl, by decide, by decide, equal, (hashed.fed _ _).1 equal,
    (counted _ (.refl _)).trans card, (counted _ (.swap _ _ _)).trans card⟩

end MetricQuery
