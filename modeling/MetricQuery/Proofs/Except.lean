import Mathlib.Data.List.Forall2

namespace MetricQuery

variable {ε δ α β : Type}

/-- A computation succeeds with both of its steps. -/
theorem bind_eq_ok_iff {first : Except ε α} {next : α → Except ε β} {result : β} :
    (first >>= next) = .ok result ↔ ∃ value, first = .ok value ∧ next value = .ok result := by
  cases first with
  | error => simp [bind, Except.bind]
  | ok value => simp [bind, Except.bind]

theorem bind_unit_eq_ok_iff {first : Except ε Unit} {next : Except ε α} {result : α} :
    (first >>= fun _ => next) = .ok result ↔ first = .ok () ∧ next = .ok result := by
  cases first <;> simp [bind, Except.bind]

theorem mapError_eq_ok_iff {f : ε → δ} {result : Except ε α} {value : α} :
    result.mapError f = .ok value ↔ result = .ok value := by
  cases result <;> simp [Except.mapError]

theorem mapM_eq_ok_iff {f : α → Except ε β} {items : List α} {results : List β} :
    items.mapM f = .ok results ↔
      List.Forall₂ (fun item result => f item = .ok result) items results := by
  induction items generalizing results with
  | nil => simp [pure, Except.pure]
  | cons item rest ih =>
    rw [List.mapM_cons]
    cases outcome : f item with
    | error error => simp [bind, Except.bind, outcome, List.forall₂_cons_left_iff]
    | ok result =>
      simp only [List.forall₂_cons_left_iff, ← ih, outcome]
      cases List.mapM f rest <;> simp [bind, Except.bind, pure, Except.pure, eq_comm]

theorem exists_forall₂_iff {R : α → β → Prop} {items : List α} :
    (∃ results, List.Forall₂ R items results) ↔ ∀ item ∈ items, ∃ result, R item result := by
  induction items with
  | nil => simp
  | cons item rest ih =>
    simp only [List.forall₂_cons_left_iff, List.forall_mem_cons, ← ih]
    constructor
    · rintro ⟨_, result, results, here, later, rfl⟩
      exact ⟨⟨result, here⟩, results, later⟩
    · rintro ⟨⟨result, here⟩, results, later⟩
      exact ⟨result :: results, result, results, here, later, rfl⟩

theorem exists_of_mem_forall₂ {R : α → β → Prop} {items : List α} {results : List β}
    (each : List.Forall₂ R items results) {result : β} (held : result ∈ results) :
    ∃ item ∈ items, R item result := by
  induction each with
  | nil => cases held
  | @cons item _ items _ here _ ih =>
    rcases List.mem_cons.1 held with rfl | later
    · exact ⟨item, List.mem_cons_self, here⟩
    · obtain ⟨other, listed, own⟩ := ih later
      exact ⟨other, List.mem_cons_of_mem item listed, own⟩

/-- Of computations that do not all succeed, one is the first that fails. -/
theorem all_ok_or_first_error (f : α → Except ε β) (items : List α) :
    (∀ item ∈ items, ∃ value, f item = .ok value) ∨
      ∃ before item after error, items = before ++ item :: after ∧
        (∀ earlier ∈ before, ∃ value, f earlier = .ok value) ∧ f item = .error error := by
  induction items with
  | nil => exact Or.inl (by simp)
  | cons first rest ih =>
    cases outcome : f first with
    | error error => exact Or.inr ⟨[], first, rest, error, rfl, by simp, outcome⟩
    | ok value =>
      rcases ih with all | ⟨before, item, after, error, split, earlier, failed⟩
      · exact Or.inl (List.forall_mem_cons.2 ⟨⟨value, outcome⟩, all⟩)
      · exact Or.inr ⟨first :: before, item, after, error, by rw [split, List.cons_append],
          List.forall_mem_cons.2 ⟨⟨value, outcome⟩, earlier⟩, failed⟩

/-- The first computation that fails is the last one that is looked at. -/
theorem mapM_of_first_error {f : α → Except ε β} {before after : List α} {item : α} {error : ε}
    (earlier : ∀ one ∈ before, ∃ value, f one = .ok value) (failed : f item = .error error) :
    (before ++ item :: after).mapM f = .error error := by
  induction before with
  | nil =>
    rw [List.nil_append, List.mapM_cons, failed]
    rfl
  | cons first rest ih =>
    obtain ⟨⟨value, succeeded⟩, others⟩ := List.forall_mem_cons.1 earlier
    rw [List.cons_append, List.mapM_cons, succeeded, ih others]
    rfl

end MetricQuery
