import Mathlib.Data.List.Basic
import MetricQuery.Name.Glob

namespace MetricQuery

namespace Glob

theorem nil_iff {text : List Char} : Glob [] text ↔ text = [] := by
  constructor
  · rintro ⟨⟩
    rfl
  · rintro rfl
    exact .nil

theorem star_cons_iff {pattern text : List Char} :
    Glob ('*' :: pattern) text ↔ ∃ n ≤ text.length, Glob pattern (text.drop n) := by
  constructor
  · rintro (_ | ⟨rest⟩ | _ | ⟨other, _, _⟩)
    · rename_i skipped text
      exact ⟨skipped.length, by simp, by simpa using rest⟩
    · exact absurd rfl other
  · intro run
    obtain ⟨n, _, rest⟩ := run
    have glob : Glob ('*' :: pattern) (text.take n ++ text.drop n) := .anyRun rest
    rwa [List.take_append_drop] at glob

/-- Characters other than stars are matched one by one. -/
theorem cons_iff {c : Char} (fixed : c ≠ '*') {pattern text : List Char} :
    Glob (c :: pattern) text ↔
      ∃ d rest, text = d :: rest ∧ (c = '?' ∨ c = d) ∧ Glob pattern rest := by
  constructor
  · intro glob
    cases glob with
    | anyRun => exact absurd rfl fixed
    | anyChar rest => exact ⟨_, _, rfl, Or.inl rfl, rest⟩
    | same _ _ rest => exact ⟨_, _, rfl, Or.inr rfl, rest⟩
  · intro found
    obtain ⟨d, rest, rfl, accepted, glob⟩ := found
    by_cases any : c = '?'
    · subst any
      exact .anyChar glob
    · obtain rfl := accepted.resolve_left any
      exact .same fixed any glob

theorem nil_right_iff {pattern : List Char} : Glob pattern [] ↔ ∀ c ∈ pattern, c = '*' := by
  induction pattern with
  | nil => simpa using Glob.nil
  | cons c rest ih =>
    by_cases star : c = '*'
    · subst star
      simpa [star_cons_iff] using ih
    · simp [cons_iff star, star]

/-- A part without stars takes up as many characters as it has. -/
theorem drop_of_append {fixed pattern text : List Char} (plain : ∀ c ∈ fixed, c ≠ '*')
    (glob : Glob (fixed ++ pattern) text) :
    fixed.length ≤ text.length ∧ Glob pattern (text.drop fixed.length) := by
  induction fixed generalizing text with
  | nil => exact ⟨Nat.zero_le _, glob⟩
  | cons c others ih =>
    obtain ⟨first, plain⟩ := List.forall_mem_cons.1 plain
    obtain ⟨d, rest, rfl, _, glob⟩ := (cons_iff first).1 glob
    obtain ⟨bound, glob⟩ := ih plain glob
    exact ⟨Nat.succ_le_succ bound, glob⟩

namespace State

/-- Since the last star the pattern has no further star and has been followed one by one. -/
def Aligned (pattern : Array Char) (state : State) : Prop :=
  ∀ star matched, state.backtrack = some (star, matched) →
    ∃ fixed, pattern.toList.drop (star + 1) = fixed ++ pattern.toList.drop state.pattern ∧
      (∀ c ∈ fixed, c ≠ '*') ∧ matched + fixed.length = state.text

/-- The text can still be matched: from here on, or by a longer run of the last star. -/
inductive Reaches (pattern text : Array Char) (state : State) : Prop
  | here : Glob (pattern.toList.drop state.pattern) (text.toList.drop state.text) →
      Reaches pattern text state
  | later {star matched finish} : state.backtrack = some (star, matched) → matched < finish →
      finish ≤ text.size → Glob (pattern.toList.drop (star + 1)) (text.toList.drop finish) →
      Reaches pattern text state

end State

theorem drop_of_getElem? {text : Array Char} {position : Nat} {c : Char}
    (found : text[position]? = some c) :
    text.toList.drop position = c :: text.toList.drop (position + 1) := by
  obtain ⟨bound, rfl⟩ := Array.getElem?_eq_some_iff.1 found
  rw [List.drop_eq_getElem_cons (by simpa using bound)]
  simp

namespace State

variable {pattern text : Array Char} {state next : State}

theorem start_aligned : State.start.Aligned pattern := by
  simp [Aligned, start]

theorem step_aligned (aligned : state.Aligned pattern)
    (step : state.step pattern text = .move next) : next.Aligned pattern := by
  have outcome := step ▸ state.step_outcome pattern text
  cases outcome with
  | star found present =>
    intro star matched recorded
    obtain ⟨rfl, rfl⟩ : state.pattern = star ∧ state.text = matched := by simpa using recorded
    exact ⟨[], rfl, by simp, rfl⟩
  | @same wanted c found present plain accepted =>
    intro star matched recorded
    obtain ⟨fixed, split, noStar, length⟩ := aligned star matched recorded
    refine ⟨fixed ++ [c], ?_, ?_, ?_⟩
    · rw [split, drop_of_getElem? present, List.append_assoc]
      rfl
    · simpa [or_imp, forall_and] using ⟨noStar, plain⟩
    · simp only [List.length_append, List.length_singleton]
      omega
  | @retry wanted star matched found refuses recorded =>
    intro star matched recorded
    obtain ⟨rfl, rfl⟩ := Prod.mk.inj (Option.some.inj recorded)
    exact ⟨[], rfl, by simp, rfl⟩

/-- Once the last star has taken more, what is left of the pattern is met further on in the text. -/
theorem Aligned.later_place {star matched finish : Nat} (aligned : state.Aligned pattern)
    (recorded : state.backtrack = some (star, matched)) (longer : matched < finish)
    (bound : finish ≤ text.size)
    (glob : Glob (pattern.toList.drop (star + 1)) (text.toList.drop finish)) :
    ∃ place, state.text < place ∧ place ≤ text.size ∧
      Glob (pattern.toList.drop state.pattern) (text.toList.drop place) := by
  obtain ⟨fixed, split, noStar, length⟩ := aligned star matched recorded
  rw [split] at glob
  obtain ⟨room, rest⟩ := drop_of_append noStar glob
  have size : text.toList.length = text.size := Array.length_toList
  rw [List.length_drop, size] at room
  rw [List.drop_drop] at rest
  exact ⟨finish + fixed.length, by omega, by omega, rest⟩

theorem Refuses.not_glob {wanted : Char} (refuses : state.Refuses pattern wanted)
    (found : text[state.text]? = some wanted) :
    ¬Glob (pattern.toList.drop state.pattern) (text.toList.drop state.text) := by
  intro glob
  rw [drop_of_getElem? found] at glob
  cases present : pattern[state.pattern]? with
  | none =>
    have done : pattern.toList.drop state.pattern = [] := by
      simpa using Array.getElem?_eq_none_iff.1 present
    rw [done, nil_iff] at glob
    simp at glob
  | some c =>
    obtain ⟨fixed, refused⟩ := refuses c present
    rw [drop_of_getElem? present, cons_iff fixed] at glob
    obtain ⟨d, rest, equal, accepted, _⟩ := glob
    obtain ⟨rfl, _⟩ := List.cons.inj equal
    exact refused accepted

/-- A match halts with the right answer. -/
theorem step_halt_iff {answer : Bool} (aligned : state.Aligned pattern)
    (step : state.step pattern text = .halt answer) :
    answer = true ↔ state.Reaches pattern text := by
  have outcome := step ▸ state.step_outcome pattern text
  cases outcome with
  | ended done =>
    have size : text.size ≤ state.text := Array.getElem?_eq_none_iff.1 done
    have nothing : text.toList.drop state.text = [] := by simpa using size
    have stars : (pattern.toList.drop state.pattern).all (· = '*') = true ↔
        Glob (pattern.toList.drop state.pattern) (text.toList.drop state.text) := by
      rw [nothing, nil_right_iff]
      simp
    rw [stars]
    constructor
    · exact .here
    · intro reaches
      rcases reaches with glob | ⟨recorded, longer, bound, glob⟩
      · exact glob
      · obtain ⟨place, after, inside, _⟩ := aligned.later_place recorded longer bound glob
        omega
  | stuck found refuses none =>
    simp only [Bool.false_eq_true, false_iff]
    intro reaches
    rcases reaches with glob | ⟨recorded, _, _, _⟩
    · exact refuses.not_glob found glob
    · simp [none] at recorded

/-- Whatever a star may still take from some place on, it takes by runs that end there or later. -/
theorem reaches_of_star {place : Nat} (lower : state.text ≤ place) (inside : place ≤ text.size)
    (glob : Glob ('*' :: pattern.toList.drop (state.pattern + 1)) (text.toList.drop place)) :
    Reaches pattern text ⟨state.pattern + 1, state.text, some (state.pattern, state.text)⟩ := by
  obtain ⟨n, bound, rest⟩ := star_cons_iff.1 glob
  rw [List.length_drop, Array.length_toList] at bound
  rw [List.drop_drop] at rest
  have after : state.text ≤ place + n := Nat.le_add_right_of_le lower
  rcases Nat.eq_or_lt_of_le after with same | longer
  · rw [← same] at rest
    exact .here rest
  · exact .later rfl longer (by omega) rest

theorem reaches_star_iff (aligned : state.Aligned pattern) {wanted : Char}
    (found : text[state.text]? = some wanted) (present : pattern[state.pattern]? = some '*') :
    Reaches pattern text ⟨state.pattern + 1, state.text, some (state.pattern, state.text)⟩ ↔
      state.Reaches pattern text := by
  have room : state.text < text.size := (Array.getElem?_eq_some_iff.1 found).1
  constructor
  · intro reaches
    refine .here ?_
    rw [drop_of_getElem? present, star_cons_iff]
    rcases reaches with glob | @⟨star, matched, finish, recorded, longer, bound, glob⟩
    · exact ⟨0, Nat.zero_le _, glob⟩
    · obtain ⟨rfl, rfl⟩ := Prod.mk.inj (Option.some.inj recorded)
      refine ⟨finish - state.text, by simp; omega, ?_⟩
      rwa [List.drop_drop, Nat.add_sub_cancel' (Nat.le_of_lt longer)]
  · intro reaches
    rcases reaches with glob | ⟨recorded, longer, bound, glob⟩
    · rw [drop_of_getElem? present] at glob
      exact reaches_of_star (Nat.le_refl _) (Nat.le_of_lt room) glob
    · obtain ⟨place, after, inside, glob⟩ := aligned.later_place recorded longer bound glob
      rw [drop_of_getElem? present] at glob
      exact reaches_of_star (Nat.le_of_lt after) inside glob

theorem reaches_same_iff {wanted c : Char} (found : text[state.text]? = some wanted)
    (present : pattern[state.pattern]? = some c) (fixed : c ≠ '*')
    (accepted : c = '?' ∨ c = wanted) :
    Reaches pattern text ⟨state.pattern + 1, state.text + 1, state.backtrack⟩ ↔
      state.Reaches pattern text := by
  have here : Glob (pattern.toList.drop state.pattern) (text.toList.drop state.text) ↔
      Glob (pattern.toList.drop (state.pattern + 1)) (text.toList.drop (state.text + 1)) := by
    rw [drop_of_getElem? found, drop_of_getElem? present, cons_iff fixed]
    constructor
    · intro matched
      obtain ⟨d, rest, equal, _, glob⟩ := matched
      obtain ⟨rfl, rfl⟩ := List.cons.inj equal
      exact glob
    · intro glob
      exact ⟨_, _, rfl, accepted, glob⟩
  constructor
  · intro reaches
    rcases reaches with glob | ⟨recorded, longer, bound, glob⟩
    · exact .here (here.2 glob)
    · exact .later recorded longer bound glob
  · intro reaches
    rcases reaches with glob | ⟨recorded, longer, bound, glob⟩
    · exact .here (here.1 glob)
    · exact .later recorded longer bound glob

/-- Giving up the current place costs nothing, as nothing can be matched there. -/
theorem reaches_retry_iff (aligned : state.Aligned pattern) {wanted : Char} {star matched : Nat}
    (found : text[state.text]? = some wanted) (refuses : state.Refuses pattern wanted)
    (recorded : state.backtrack = some (star, matched)) :
    Reaches pattern text ⟨star + 1, matched + 1, some (star, matched + 1)⟩ ↔
      state.Reaches pattern text := by
  obtain ⟨fixed, _, _, length⟩ := aligned star matched recorded
  have room : state.text < text.size := (Array.getElem?_eq_some_iff.1 found).1
  constructor
  · intro reaches
    rcases reaches with glob | ⟨again, longer, bound, glob⟩
    · exact .later recorded (Nat.lt_succ_self matched) (by omega) glob
    · obtain ⟨rfl, rfl⟩ := Prod.mk.inj (Option.some.inj again)
      exact .later recorded (Nat.lt_of_succ_lt longer) bound glob
  · intro reaches
    rcases reaches with glob | ⟨again, longer, bound, glob⟩
    · exact absurd glob (refuses.not_glob found)
    · obtain ⟨rfl, rfl⟩ := Prod.mk.inj (Option.some.inj (recorded.symm.trans again))
      rcases Nat.eq_or_lt_of_le longer with same | longer
      · subst same
        exact .here glob
      · exact .later rfl longer bound glob

/-- A step that goes on neither gains nor loses a match. -/
theorem step_move_iff (aligned : state.Aligned pattern)
    (step : state.step pattern text = .move next) :
    next.Reaches pattern text ↔ state.Reaches pattern text := by
  have outcome := step ▸ state.step_outcome pattern text
  cases outcome with
  | star found present => exact reaches_star_iff aligned found present
  | same found present fixed accepted => exact reaches_same_iff found present fixed accepted
  | retry found refuses recorded => exact reaches_retry_iff aligned found refuses recorded

end State

/-- From any state that a match gets into, running it on finds out whether it can succeed. -/
theorem run_eq_true_iff {pattern text : Array Char} {state : State} {anchored : state.Anchored}
    (aligned : state.Aligned pattern) :
    run pattern text state anchored = true ↔ state.Reaches pattern text := by
  fun_induction run pattern text state anchored with
  | case1 state anchored answer step => exact State.step_halt_iff aligned step
  | case2 state anchored next step ih =>
    rw [ih (State.step_aligned aligned step)]
    exact State.step_move_iff aligned step

end Glob

/-- A text is accepted if it matches as a glob, or if the pattern is literal and the same. -/
theorem accepts_iff {pattern text : List Char} :
    accepts pattern text = true ↔
      if hasWildcard pattern then Glob pattern text else pattern = text := by
  unfold accepts
  split
  · rw [Glob.run_eq_true_iff Glob.State.start_aligned]
    constructor
    · intro reaches
      rcases reaches with glob | ⟨recorded, _, _, _⟩
      · simpa [Glob.State.start] using glob
      · simp [Glob.State.start] at recorded
    · intro glob
      exact .here (by simpa [Glob.State.start] using glob)
  · exact beq_iff_eq

end MetricQuery
