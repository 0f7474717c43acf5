import MetricQuery.Proofs.Name.GlobRun

namespace MetricQuery

namespace Glob

/-- What is left of a text from a position on, if that is one of its places or its end. -/
def remainder? (text : Array Char) (position : Nat) : Option (List Char) :=
  if position ≤ text.size then some (text.toList.drop position) else none

namespace State

/-- One step of the match in which every reading outside a text fails. A character of the text is
read only to be compared with one of the pattern, and what is left of the pattern only once the
text is used up. -/
def checkedStep (pattern text : Array Char) (state : State) : Option Step :=
  if state.text < text.size then
    match pattern[state.pattern]? with
    | none => some state.retry
    | some c =>
      if c = '*' then some (.move ⟨state.pattern + 1, state.text, some (state.pattern, state.text)⟩)
      else if c = '?' then some (.move ⟨state.pattern + 1, state.text + 1, state.backtrack⟩)
      else
        text[state.text]?.map fun wanted =>
          if c = wanted then .move ⟨state.pattern + 1, state.text + 1, state.backtrack⟩
          else state.retry
  else (remainder? pattern state.pattern).map fun rest => .halt (rest.all (· = '*'))

/-- The states of a match, each with the number of steps that lead to it. -/
inductive After (pattern text : Array Char) : Nat → State → Prop
  | start : After pattern text 0 State.start
  | next {steps state next} : After pattern text steps state →
      state.step pattern text = .move next → After pattern text (steps + 1) next

/-- Both positions are places of their texts or ends of them, and a recorded point is a star that
has been passed, with a run that ends no later than the text has been read. -/
structure InRange (pattern text : Array Char) (state : State) : Prop where
  pattern_le : state.pattern ≤ pattern.size
  text_le : state.text ≤ text.size
  recorded : ∀ star matched, state.backtrack = some (star, matched) →
    pattern[star]? = some '*' ∧ star < state.pattern ∧ matched ≤ state.text

/-- What becomes of a state by a step that goes on. A mismatch takes both positions back by as many
places as have been matched since the last star, and then the text on by one. -/
structure Advances (pattern text : Array Char) (state next : State) : Prop where
  less : Prod.Lex (· < ·) (· < ·) (next.weight pattern text) (state.weight pattern text)
  recorded : ∀ star matched, state.backtrack = some (star, matched) →
    ∃ laterStar laterMatched, next.backtrack = some (laterStar, laterMatched) ∧
      star ≤ laterStar ∧ matched ≤ laterMatched
  mismatch : ∀ wanted, text[state.text]? = some wanted → state.Refuses pattern wanted →
    ∃ back, state.pattern = next.pattern + back ∧ state.text + 1 = next.text + back

/-- The weight of a state as a single number. -/
def rank (pattern text : Array Char) (state : State) : Nat :=
  (state.weight pattern text).1 * (pattern.size + 1) + (state.weight pattern text).2

variable {pattern text : Array Char} {state next : State} {steps : Nat}

theorem InRange.anchored (inRange : state.InRange pattern text) : state.Anchored := by
  intro star matched recorded
  exact (inRange.recorded star matched recorded).2.2

/-- In range, no reading of a step fails. -/
theorem InRange.checkedStep_eq (inRange : state.InRange pattern text) :
    state.checkedStep pattern text = some (state.step pattern text) := by
  unfold checkedStep State.step
  by_cases more : state.text < text.size
  · rw [if_pos more, Array.getElem?_eq_getElem more]
    cases pattern[state.pattern]? with
    | none => rfl
    | some c =>
      by_cases star : c = '*'
      · simp [star]
      by_cases any : c = '?'
      · simp [any]
      by_cases same : c = text[state.text]
      · subst same
        simp [star, any]
      · simp [star, any, same]
  · have used : text[state.text]? = none := Array.getElem?_eq_none (Nat.le_of_not_lt more)
    have left : remainder? pattern state.pattern = some (pattern.toList.drop state.pattern) :=
      if_pos inRange.pattern_le
    rw [if_neg more, used, left]
    rfl

theorem start_inRange : State.start.InRange pattern text where
  pattern_le := Nat.zero_le _
  text_le := Nat.zero_le _
  recorded := by simp [start]

/-- A state right behind a star whose run ends at a place of the text or at its end. -/
theorem inRange_behind_star {star matched : Nat} (isStar : pattern[star]? = some '*')
    (bound : matched ≤ text.size) :
    InRange pattern text ⟨star + 1, matched, some (star, matched)⟩ := by
  have within : star < pattern.size := (Array.getElem?_eq_some_iff.1 isStar).1
  refine ⟨within, bound, ?_⟩
  intro star matched recorded
  obtain ⟨rfl, rfl⟩ := Prod.mk.inj (Option.some.inj recorded)
  exact ⟨isStar, Nat.lt_succ_self _, Nat.le_refl _⟩

theorem step_inRange (inRange : state.InRange pattern text)
    (step : state.step pattern text = .move next) : next.InRange pattern text := by
  have outcome := step ▸ state.step_outcome pattern text
  cases outcome with
  | star found present => exact inRange_behind_star present inRange.text_le
  | same found present =>
    have within : state.pattern < pattern.size := (Array.getElem?_eq_some_iff.1 present).1
    have more : state.text < text.size := (Array.getElem?_eq_some_iff.1 found).1
    refine ⟨within, more, ?_⟩
    intro star matched recorded
    obtain ⟨isStar, before, bound⟩ := inRange.recorded star matched recorded
    exact ⟨isStar, Nat.lt_succ_of_lt before, Nat.le_succ_of_le bound⟩
  | @retry wanted star matched found refuses recorded =>
    have more : state.text < text.size := (Array.getElem?_eq_some_iff.1 found).1
    obtain ⟨isStar, _, bound⟩ := inRange.recorded star matched recorded
    -- the run has ended no later than a place where the text still goes on
    have textBound : matched + 1 ≤ text.size := by omega
    exact inRange_behind_star isStar textBound

/-- A recorded point may give way to a later one, but it is never lost. -/
theorem step_recorded (inRange : state.InRange pattern text)
    (step : state.step pattern text = .move next) {star matched : Nat}
    (recorded : state.backtrack = some (star, matched)) :
    ∃ laterStar laterMatched, next.backtrack = some (laterStar, laterMatched) ∧
      star ≤ laterStar ∧ matched ≤ laterMatched := by
  have outcome := step ▸ state.step_outcome pattern text
  cases outcome with
  | star =>
    obtain ⟨_, before, bound⟩ := inRange.recorded star matched recorded
    exact ⟨state.pattern, state.text, rfl, Nat.le_of_lt before, bound⟩
  | same => exact ⟨star, matched, recorded, Nat.le_refl _, Nat.le_refl _⟩
  | @retry wanted last finish found refuses again =>
    obtain ⟨rfl, rfl⟩ := Prod.mk.inj (Option.some.inj (again.symm.trans recorded))
    exact ⟨last, finish + 1, rfl, Nat.le_refl _, Nat.le_succ _⟩

/-- Since the last star as many places have been passed in the text as in the pattern. -/
theorem Aligned.exists_back {star matched : Nat} (aligned : state.Aligned pattern)
    (inRange : state.InRange pattern text) (recorded : state.backtrack = some (star, matched)) :
    ∃ back, state.pattern = star + 1 + back ∧ state.text = matched + back := by
  obtain ⟨fixed, split, _, length⟩ := aligned star matched recorded
  obtain ⟨_, before, _⟩ := inRange.recorded star matched recorded
  have within := inRange.pattern_le
  have lengths := congrArg List.length split
  simp only [List.length_append, List.length_drop, Array.length_toList] at lengths
  exact ⟨fixed.length, by omega, length.symm⟩

theorem step_mismatch (inRange : state.InRange pattern text) (aligned : state.Aligned pattern)
    (step : state.step pattern text = .move next) {wanted : Char}
    (found : text[state.text]? = some wanted) (refuses : state.Refuses pattern wanted) :
    ∃ back, state.pattern = next.pattern + back ∧ state.text + 1 = next.text + back := by
  have outcome := step ▸ state.step_outcome pattern text
  cases outcome with
  | star _ present => exact absurd rfl (refuses _ present).1
  | same foundAgain present _ accepted =>
    obtain rfl := Option.some.inj (found.symm.trans foundAgain)
    exact absurd accepted (refuses _ present).2
  | @retry _ star matched _ _ recorded =>
    obtain ⟨back, patternEq, textEq⟩ := aligned.exists_back inRange recorded
    have textNext : state.text + 1 = matched + 1 + back := by omega
    exact ⟨back, patternEq, textNext⟩

theorem step_advances (inRange : state.InRange pattern text) (aligned : state.Aligned pattern)
    (step : state.step pattern text = .move next) : state.Advances pattern text next where
  less := step_weight inRange.anchored step
  recorded _ _ recorded := step_recorded inRange step recorded
  mismatch _ found refuses := step_mismatch inRange aligned step found refuses

theorem After.inRange (after : After pattern text steps state) : state.InRange pattern text := by
  induction after with
  | start => exact start_inRange
  | next _ step ih => exact step_inRange ih step

theorem After.aligned (after : After pattern text steps state) : state.Aligned pattern := by
  induction after with
  | start => exact start_aligned
  | next _ step ih => exact step_aligned ih step

/-- What is left of the pattern counts for less than one place at which a run can end. -/
theorem rank_lt (less : Prod.Lex (· < ·) (· < ·) (next.weight pattern text)
    (state.weight pattern text)) : next.rank pattern text < state.rank pattern text := by
  have bound : (next.weight pattern text).2 ≤ pattern.size := Nat.sub_le _ _
  unfold rank
  rcases Prod.lex_def.1 less with fewer | ⟨same, shorter⟩
  · have product := Nat.mul_le_mul_right (pattern.size + 1) (Nat.succ_le_of_lt fewer)
    rw [Nat.succ_mul] at product
    omega
  · rw [same]
    omega

theorem After.steps_add_rank_le (after : After pattern text steps state) :
    steps + state.rank pattern text ≤ State.start.rank pattern text := by
  induction after with
  | start => exact Nat.le_of_eq (Nat.zero_add _)
  | @next steps state next previous step ih =>
    have less := rank_lt (step_weight previous.inRange.anchored step)
    omega

theorem After.steps_lt (after : After pattern text steps state) :
    steps < (text.size + 2) * (pattern.size + 1) := by
  have bound := after.steps_add_rank_le
  have first : State.start.rank pattern text =
      (text.size + 1) * (pattern.size + 1) + pattern.size := rfl
  rw [Nat.succ_mul]
  omega

/-- From each of its states a match goes on to one in which it halts, with the answer of the run. -/
theorem After.exists_halt (after : After pattern text steps state) (anchored : state.Anchored) :
    ∃ total last, After pattern text total last ∧
      last.step pattern text = .halt (run pattern text state anchored) := by
  fun_induction run pattern text state anchored generalizing steps with
  | case1 state anchored answer step => exact ⟨steps, state, after, step⟩
  | case2 state anchored next step ih => exact ih (.next after step)

end State

/-- A match stays within its pattern and its text, so that no reading fails, and each step leaves
less to try, until the match halts with its answer. -/
theorem matching_ends_in_range (pattern text : Array Char) :
    (∀ steps state, State.After pattern text steps state →
      state.InRange pattern text ∧
      state.checkedStep pattern text = some (state.step pattern text) ∧
      (∀ next, state.step pattern text = .move next → state.Advances pattern text next) ∧
      steps < (text.size + 2) * (pattern.size + 1)) ∧
    ∃ steps last answer, State.After pattern text steps last ∧
      last.step pattern text = .halt answer ∧
      run pattern text State.start State.start_anchored = answer ∧
      (hasWildcard pattern.toList = true → accepts pattern.toList text.toList = answer) := by
  constructor
  · intro steps state after
    have inRange := after.inRange
    refine ⟨inRange, inRange.checkedStep_eq, ?_, after.steps_lt⟩
    intro next step
    exact State.step_advances inRange after.aligned step
  · obtain ⟨steps, last, after, halts⟩ := State.After.start.exists_halt State.start_anchored
    refine ⟨steps, last, _, after, halts, rfl, ?_⟩
    intro wild
    rw [accepts, if_pos wild]

/-- A mismatch at the end of the pattern, which takes both positions back. -/
theorem matching_ends_in_range_of_mismatch :
    State.After #['*', 'a', 'b'] #['a', 'b', 'a', 'b'] 3 ⟨3, 2, some (0, 0)⟩ ∧
      State.step #['*', 'a', 'b'] #['a', 'b', 'a', 'b'] ⟨3, 2, some (0, 0)⟩ =
        .move ⟨1, 1, some (0, 1)⟩ ∧
      State.InRange #['*', 'a', 'b'] #['a', 'b', 'a', 'b'] ⟨3, 2, some (0, 0)⟩ ∧
      State.Advances #['*', 'a', 'b'] #['a', 'b', 'a', 'b'] ⟨3, 2, some (0, 0)⟩
        ⟨1, 1, some (0, 1)⟩ ∧
      hasWildcard ['*', 'a', 'b'] = true ∧
      ∃ steps last, State.After #['*', 'a', 'b'] #['a', 'b', 'a', 'b'] steps last ∧
        last.step #['*', 'a', 'b'] #['a', 'b', 'a', 'b'] =
          .halt (accepts ['*', 'a', 'b'] ['a', 'b', 'a', 'b']) := by
  obtain ⟨throughout, steps, last, answer, after, halts, _, answers⟩ :=
    matching_ends_in_range #['*', 'a', 'b'] #['a', 'b', 'a', 'b']
  have third : State.After #['*', 'a', 'b'] #['a', 'b', 'a', 'b'] 3 ⟨3, 2, some (0, 0)⟩ :=
    .next (.next (.next .start rfl) rfl) rfl
  have wild : hasWildcard ['*', 'a', 'b'] = true := by decide
  obtain ⟨inRange, _, advances, _⟩ := throughout _ _ third
  refine ⟨third, rfl, inRange, advances _ rfl, wild, steps, last, after, ?_⟩
  rw [halts, answers wild]

end Glob

end MetricQuery
