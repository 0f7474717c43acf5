namespace MetricQuery

/-- The glob relation: a star stands for any run of characters, a question mark for any one
character, and every other character for itself. -/
inductive Glob : List Char → List Char → Prop
  | nil : Glob [] []
  | anyRun {pattern skipped text} : Glob pattern text → Glob ('*' :: pattern) (skipped ++ text)
  | anyChar {pattern c text} : Glob pattern text → Glob ('?' :: pattern) (c :: text)
  | same {c pattern text} :
      c ≠ '*' → c ≠ '?' → Glob pattern text → Glob (c :: pattern) (c :: text)

namespace Glob

/-- The state of a match: the next position of the pattern and of the text and, once a star has
been met, its position together with the end of the run it stands for. -/
structure State where
  pattern : Nat
  text : Nat
  backtrack : Option (Nat × Nat)
deriving DecidableEq, Repr

def State.start : State := ⟨0, 0, none⟩

inductive Step where
  | halt (matched : Bool)
  | move (state : State)
deriving DecidableEq, Repr

/-- After a mismatch the last star takes one more character. -/
def State.retry (state : State) : Step :=
  match state.backtrack with
  | none => .halt false
  | some (star, matched) => .move ⟨star + 1, matched + 1, some (star, matched + 1)⟩

/-- One step of the match. Once the text is used up, only stars may be left of the pattern. -/
def State.step (pattern text : Array Char) (state : State) : Step :=
  match text[state.text]? with
  | none => .halt ((pattern.toList.drop state.pattern).all (· = '*'))
  | some wanted =>
    match pattern[state.pattern]? with
    | none => state.retry
    | some c =>
      if c = '*' then .move ⟨state.pattern + 1, state.text, some (state.pattern, state.text)⟩
      else if c = '?' ∨ c = wanted then .move ⟨state.pattern + 1, state.text + 1, state.backtrack⟩
      else state.retry

/-- The pattern cannot take the wanted character at its current place. -/
def State.Refuses (pattern : Array Char) (state : State) (wanted : Char) : Prop :=
  ∀ c, pattern[state.pattern]? = some c → c ≠ '*' ∧ ¬(c = '?' ∨ c = wanted)

/-- What a step can do. -/
inductive State.Outcome (pattern text : Array Char) (state : State) : Step → Prop
  | ended : text[state.text]? = none →
      Outcome pattern text state (.halt ((pattern.toList.drop state.pattern).all (· = '*')))
  | star {wanted} : text[state.text]? = some wanted → pattern[state.pattern]? = some '*' →
      Outcome pattern text state
        (.move ⟨state.pattern + 1, state.text, some (state.pattern, state.text)⟩)
  | same {wanted c} : text[state.text]? = some wanted → pattern[state.pattern]? = some c →
      c ≠ '*' → c = '?' ∨ c = wanted →
      Outcome pattern text state (.move ⟨state.pattern + 1, state.text + 1, state.backtrack⟩)
  | stuck {wanted} : text[state.text]? = some wanted → state.Refuses pattern wanted →
      state.backtrack = none → Outcome pattern text state (.halt false)
  | retry {wanted star matched} : text[state.text]? = some wanted → state.Refuses pattern wanted →
      state.backtrack = some (star, matched) →
      Outcome pattern text state (.move ⟨star + 1, matched + 1, some (star, matched + 1)⟩)

theorem State.outcome_of_refuses {pattern text : Array Char} {state : State} {wanted : Char}
    (found : text[state.text]? = some wanted) (refuses : state.Refuses pattern wanted) :
    state.Outcome pattern text state.retry := by
  unfold State.retry
  split
  · rename_i none
    exact .stuck found refuses none
  · rename_i star matched recorded
    exact .retry found refuses recorded

theorem State.step_outcome (pattern text : Array Char) (state : State) :
    state.Outcome pattern text (state.step pattern text) := by
  unfold State.step
  split
  · rename_i ended
    exact .ended ended
  · rename_i wanted found
    split
    · rename_i done
      exact outcome_of_refuses found (by simp [State.Refuses, done])
    · rename_i c present
      split
      · rename_i star
        exact .star found (star ▸ present)
      · rename_i fixed
        split
        · rename_i accepted
          exact .same found present fixed accepted
        · rename_i refused
          refine outcome_of_refuses found ?_
          intro d presentD
          obtain rfl : c = d := Option.some.inj (present.symm.trans presentD)
          exact ⟨fixed, refused⟩

/-- The run a star stands for ends no later than the text has been read. -/
def State.Anchored (state : State) : Prop :=
  ∀ star matched, state.backtrack = some (star, matched) → matched ≤ state.text

/-- What is left to try: the places at which the run of the last star can still end, and then
what is left of the pattern. -/
def State.weight (pattern text : Array Char) (state : State) : Nat × Nat :=
  (match state.backtrack with
    | none => text.size + 1
    | some (_, matched) => text.size - matched,
   pattern.size - state.pattern)

theorem State.start_anchored : State.start.Anchored := by
  simp [State.Anchored, State.start]

theorem State.step_anchored {pattern text : Array Char} {state next : State}
    (anchored : state.Anchored) (step : state.step pattern text = .move next) : next.Anchored := by
  have outcome := step ▸ state.step_outcome pattern text
  cases outcome with
  | star =>
    intro star matched recorded
    obtain ⟨rfl, rfl⟩ := Prod.mk.inj (Option.some.inj recorded)
    exact Nat.le_refl _
  | same =>
    intro star matched recorded
    exact Nat.le_succ_of_le (anchored star matched recorded)
  | retry =>
    intro star matched recorded
    obtain ⟨rfl, rfl⟩ := Prod.mk.inj (Option.some.inj recorded)
    exact Nat.le_refl _

/-- Every step leaves less to try. -/
theorem State.step_weight {pattern text : Array Char} {state next : State}
    (anchored : state.Anchored) (step : state.step pattern text = .move next) :
    Prod.Lex (· < ·) (· < ·) (next.weight pattern text) (state.weight pattern text) := by
  have outcome := step ▸ state.step_outcome pattern text
  cases outcome with
  | star found present =>
    have inRange : state.text < text.size := (Array.getElem?_eq_some_iff.1 found).1
    have within : state.pattern < pattern.size := (Array.getElem?_eq_some_iff.1 present).1
    cases recorded : state.backtrack with
    | none =>
      apply Prod.Lex.left
      simp only [recorded]
      omega
    | some point =>
      obtain ⟨star, matched⟩ := point
      have bound := anchored star matched recorded
      simp only [State.weight, recorded]
      -- the run of the new star may end where that of the old one did
      rcases Nat.lt_or_eq_of_le bound with before | equal
      · apply Prod.Lex.left
        omega
      · rw [equal]
        apply Prod.Lex.right
        omega
  | same found present =>
    have within : state.pattern < pattern.size := (Array.getElem?_eq_some_iff.1 present).1
    apply Prod.Lex.right
    simp only
    omega
  | @retry wanted star matched found refuses recorded =>
    have inRange : state.text < text.size := (Array.getElem?_eq_some_iff.1 found).1
    have bound := anchored star matched recorded
    apply Prod.Lex.left
    simp only [recorded]
    omega

/-- Runs a match to its end. -/
def run (pattern text : Array Char) (state : State) (anchored : state.Anchored) : Bool :=
  match step : state.step pattern text with
  | .halt matched => matched
  | .move next => run pattern text next (state.step_anchored anchored step)
termination_by state.weight pattern text
decreasing_by exact state.step_weight anchored step

end Glob

/-- A text with wildcards that is not taken literally because it opens with a quote. -/
def hasWildcard (text : List Char) : Bool :=
  text.head? != some '"' && text.any fun c => c = '*' || c = '?'

/-- Whether a text is accepted by a pattern: by glob matching if the pattern has wildcards, else
only if the two are equal. -/
def accepts (pattern text : List Char) : Bool :=
  if hasWildcard pattern then
    Glob.run pattern.toArray text.toArray Glob.State.start Glob.State.start_anchored
  else pattern == text

end MetricQuery
