import MetricQuery.Proofs.Name.Hashing

namespace MetricQuery

instance : EquivBEq Properties where
  rfl := Properties.beq_iff_perm.2 (.refl _)
  symm := fun equal => Properties.beq_iff_perm.2 (Properties.beq_iff_perm.1 equal).symm
  trans := fun first second =>
    Properties.beq_iff_perm.2
      ((Properties.beq_iff_perm.1 first).trans (Properties.beq_iff_perm.1 second))

instance : LawfulHashable Properties where
  hash_eq _ _ equal := Properties.telling_hashInput.hash_eq equal

instance : EquivBEq NamePattern where
  rfl := NamePattern.beq_iff.2 ⟨rfl, rfl, .refl _⟩
  symm := fun equal =>
    have ⟨domain, openEnded, perm⟩ := NamePattern.beq_iff.1 equal
    NamePattern.beq_iff.2 ⟨domain.symm, openEnded.symm, perm.symm⟩
  trans := fun first second =>
    have ⟨domain, openEnded, perm⟩ := NamePattern.beq_iff.1 first
    have ⟨domain', openEnded', perm'⟩ := NamePattern.beq_iff.1 second
    NamePattern.beq_iff.2 ⟨domain.trans domain', openEnded.trans openEnded', perm.trans perm'⟩

instance : LawfulHashable NamePattern where
  hash_eq _ _ equal := NamePattern.telling_hashInput.hash_eq equal

namespace ResourceName

instance : EquivBEq ResourceName where
  rfl := beq_iff.2 ⟨rfl, .refl _⟩
  symm := fun equal =>
    beq_iff.2 ⟨(beq_iff.1 equal).1.symm, (beq_iff.1 equal).2.symm⟩
  trans := fun first second =>
    beq_iff.2 ⟨(beq_iff.1 first).1.trans (beq_iff.1 second).1,
      (beq_iff.1 first).2.trans (beq_iff.1 second).2⟩

instance : LawfulHashable ResourceName where
  hash_eq _ _ equal := telling_hashInput.hash_eq equal

instance equality : Setoid ResourceName where
  r a b := (a == b) = true
  iseqv := ⟨fun _ => BEq.rfl, BEq.symm, BEq.trans⟩

instance (a b : ResourceName) : Decidable (a ≈ b) :=
  inferInstanceAs (Decidable ((a == b) = true))

/-- A name with the order of its properties forgotten. -/
def Identity : Type := Quotient equality

instance : DecidableEq Identity :=
  inferInstanceAs (DecidableEq (Quotient equality))

def identity (name : ResourceName) : Identity := Quotient.mk _ name

theorem identity_eq_iff {a b : ResourceName} : a.identity = b.identity ↔ (a == b) = true :=
  ⟨Quotient.exact, fun equal => Quotient.sound equal⟩

end ResourceName

end MetricQuery
