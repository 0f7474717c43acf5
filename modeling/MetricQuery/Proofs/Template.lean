import Mathlib.Data.List.Infix
import MetricQuery.Placeholder

namespace MetricQuery

namespace Placeholder

/-- Nothing in the text opens a placeholder. -/
def Unopened (text : List Char) : Prop := ¬ ['$', '\x7b'] <:+: text

instance (text : List Char) : Decidable (Unopened text) := inferInstanceAs (Decidable (¬ _))

/-- The first placeholder to be opened, if there is one, is never closed. -/
def Unclosed (text : List Char) : Prop :=
  ∀ before after, Unopened before → text = before ++ '$' :: '\x7b' :: after → '\x7d' ∉ after

theorem unopened_cons_cons_iff {c d : Char} {rest : List Char} :
    Unopened (c :: d :: rest) ↔ ¬ (c = '$' ∧ d = '\x7b') ∧ Unopened (d :: rest) := by
  rw [Unopened, List.infix_cons_iff, not_or, List.cons_prefix_cons, List.cons_prefix_cons]
  simp only [List.nil_prefix, and_true, Unopened, eq_comm]

theorem unopened_singleton (c : Char) : Unopened [c] := by
  intro inside
  simpa using inside.length_le

theorem opening_append {before : List Char} (unopened : Unopened before) (after : List Char) :
    opening (before ++ '$' :: '\x7b' :: after) = some (before, after) := by
  induction before using opening.induct with
  | case1 => simp [opening]
  | case2 c => simp [opening]
  | case3 c d rest here => exact absurd here (unopened_cons_cons_iff.1 unopened).1
  | case4 c d rest other ih =>
    rw [List.cons_append] at ih ⊢
    rw [List.cons_append, opening, if_neg other, ih (unopened_cons_cons_iff.1 unopened).2]
    rfl

theorem opening_eq_some {text before after : List Char}
    (found : opening text = some (before, after)) :
    text = before ++ '$' :: '\x7b' :: after ∧ Unopened before := by
  induction text using opening.induct generalizing before with
  | case1 => simp [opening] at found
  | case2 => simp [opening] at found
  | case3 c d rest here =>
    rw [opening, if_pos here] at found
    obtain ⟨rfl, rfl⟩ := Prod.mk.inj (Option.some.inj found)
    rw [here.1, here.2]
    exact ⟨rfl, by simp [Unopened]⟩
  | case4 c d rest other ih =>
    rw [opening, if_neg other] at found
    obtain ⟨⟨head, tail⟩, later, equal⟩ := Option.map_eq_some_iff.1 found
    obtain ⟨rfl, rfl⟩ := Prod.mk.inj equal
    obtain ⟨split, unopened⟩ := ih later
    refine ⟨by rw [split, List.cons_append], ?_⟩
    cases head with
    | nil => exact unopened_singleton c
    | cons e head =>
      obtain ⟨rfl, _⟩ := List.cons.inj split
      exact unopened_cons_cons_iff.2 ⟨other, unopened⟩

theorem unclosed_of_opening_eq_none {text : List Char} (absent : opening text = none) :
    Unclosed text := by
  rintro before after unopened rfl
  simp [opening_append unopened] at absent

theorem unclosed_of_splitFirst_eq_none {text before inside : List Char}
    (found : opening text = some (before, inside)) (endless : splitFirst '\x7d' inside = none) :
    Unclosed text := by
  rintro other after unopened rfl
  rw [opening_append unopened] at found
  obtain ⟨rfl, rfl⟩ := Prod.mk.inj (Option.some.inj found)
  exact splitFirst_eq_none_iff.1 endless

/-- What stands up to the first placeholder is kept, and the expansion goes on behind it. -/
theorem expandChars_append (lookup : String → Option String) {before body : List Char}
    (unopened : Unopened before) (closed : '\x7d' ∉ body) (after : List Char) :
    expandChars lookup (before ++ '$' :: '\x7b' :: (body ++ '\x7d' :: after)) =
      before ++ replacement lookup body ++ expandChars lookup after := by
  rw [expandChars]
  split
  next absent => simp [opening_append unopened] at absent
  next found =>
    rw [opening_append unopened] at found
    obtain ⟨rfl, rfl⟩ := Prod.mk.inj (Option.some.inj found)
    split
    next absent => simp [splitFirst_append closed] at absent
    next split =>
      rw [splitFirst_append closed] at split
      obtain ⟨rfl, rfl⟩ := Prod.mk.inj (Option.some.inj split)
      rfl

theorem expandChars_of_unclosed (lookup : String → Option String) {text : List Char}
    (unclosed : Unclosed text) : expandChars lookup text = text := by
  rw [expandChars]
  split
  next => rfl
  next before inside found =>
    obtain ⟨split, unopened⟩ := opening_eq_some found
    have endless := splitFirst_eq_none_iff.2 (unclosed before inside unopened split)
    split
    next => rfl
    next closed => cases endless.symm.trans closed

theorem toList_expand (lookup : String → Option String) (text : String) :
    (expand lookup text).toList = expandChars lookup text.toList := String.toList_ofList

theorem expand_of_unclosed (lookup : String → Option String) {text : String}
    (unclosed : Unclosed text.toList) : expand lookup text = text := by
  rw [← String.toList_inj, toList_expand, expandChars_of_unclosed lookup unclosed]

/-- What stands between the marks of a placeholder: a name and, behind the first colon, a
default. -/
structure Body where
  name : String
  fallback : Option String
  plain : ':' ∉ name.toList

namespace Body

def text (body : Body) : String :=
  match body.fallback with
  | none => body.name
  | some fallback => body.name ++ ":" ++ fallback

/-- What the placeholder stands for. -/
def value (lookup : String → Option String) (body : Body) : String :=
  match lookup body.name, body.fallback with
  | some value, _ => value
  | none, some fallback => fallback
  | none, none => "$\x7b" ++ body.text ++ "\x7d"

/-- The text of a body tells where its name ends. -/
theorem splitFirst_text (body : Body) :
    splitFirst ':' body.text.toList =
      body.fallback.map fun fallback => (body.name.toList, fallback.toList) := by
  obtain ⟨name, fallback, plain⟩ := body
  cases fallback with
  | none => exact splitFirst_eq_none_iff.2 plain
  | some fallback =>
    have spelled : (name ++ ":" ++ fallback).toList = name.toList ++ ':' :: fallback.toList := by
      simp
    simp only [text, spelled, splitFirst_append plain, Option.map_some]

theorem toList_value (lookup : String → Option String) (body : Body) :
    (body.value lookup).toList = replacement lookup body.text.toList := by
  rw [replacement, splitFirst_text, value]
  obtain ⟨name, fallback, plain⟩ := body
  cases fallback with
  | none =>
    simp only [Option.map_none, text, String.ofList_toList]
    cases lookup name with
    | none => simp
    | some value => rfl
  | some fallback =>
    simp only [Option.map_some, String.ofList_toList]
    cases lookup name with
    | none => rfl
    | some value => rfl

theorem text_injective : Function.Injective text := by
  intro a b same
  have split := a.splitFirst_text
  rw [same, b.splitFirst_text] at split
  obtain ⟨name, fallback, plain⟩ := a
  obtain ⟨name', fallback', plain'⟩ := b
  cases fallback with
  | none =>
    obtain rfl : fallback' = none := Option.map_eq_none_iff.1 split
    obtain rfl : name = name' := same
    rfl
  | some fallback =>
    obtain ⟨fallback', rfl, pair⟩ := Option.map_eq_some_iff.1 split
    obtain ⟨sameName, sameFallback⟩ := Prod.mk.inj pair
    obtain rfl := String.toList_inj.1 sameName
    obtain rfl := String.toList_inj.1 sameFallback
    rfl

theorem existsUnique_text (text : String) : ∃! body : Body, body.text = text := by
  refine existsUnique_of_exists_of_unique ?_ fun a b here there =>
    text_injective (here.trans there.symm)
  cases split : splitFirst ':' text.toList with
  | none => exact ⟨⟨text, none, splitFirst_eq_none_iff.1 split⟩, rfl⟩
  | some parts =>
    obtain ⟨name, fallback⟩ := parts
    obtain ⟨spelled, plain⟩ := splitFirst_eq_some split
    refine ⟨⟨String.ofList name, some (String.ofList fallback), by simpa using plain⟩, ?_⟩
    rw [← String.toList_inj, spelled]
    simp [Body.text]

end Body

/-- A placeholder that is closed, with the text that leads up to it. -/
structure Gap where
  before : String
  body : Body
  unopened : Unopened before.toList
  closed : '\x7d' ∉ body.text.toList

namespace Gap

def text (gap : Gap) : String := gap.before ++ "$\x7b" ++ gap.body.text ++ "\x7d"

def fill (lookup : String → Option String) (gap : Gap) : String :=
  gap.before ++ gap.body.value lookup

theorem toList_text_append (gap : Gap) (after : String) :
    (gap.text ++ after).toList =
      gap.before.toList ++ '$' :: '\x7b' :: (gap.body.text.toList ++ '\x7d' :: after.toList) := by
  simp [text]

theorem exists_spelled {before body : List Char} (unopened : Unopened before)
    (closed : '\x7d' ∉ body) :
    ∃ gap : Gap, gap.before.toList = before ∧ gap.body.text.toList = body := by
  obtain ⟨parts, whole, _⟩ := Body.existsUnique_text (String.ofList body)
  obtain rfl : parts.text.toList = body := by rw [whole, String.toList_ofList]
  exact ⟨⟨String.ofList before, parts, by simpa using unopened, closed⟩, String.toList_ofList, rfl⟩

/-- What comes after a gap can be told from it. -/
theorem text_append_inj {gap other : Gap} {after later : String}
    (same : gap.text ++ after = other.text ++ later) : gap = other ∧ after = later := by
  have opened := opening_append gap.unopened (gap.body.text.toList ++ '\x7d' :: after.toList)
  rw [← toList_text_append, same, toList_text_append, opening_append other.unopened] at opened
  obtain ⟨before, inside⟩ := Prod.mk.inj (Option.some.inj opened)
  have split := splitFirst_append gap.closed after.toList
  rw [← inside, splitFirst_append other.closed] at split
  obtain ⟨body, rest⟩ := Prod.mk.inj (Option.some.inj split)
  refine ⟨?_, (String.toList_inj.1 rest).symm⟩
  obtain ⟨_, _, _, _⟩ := gap
  obtain ⟨_, _, _, _⟩ := other
  obtain rfl := String.toList_inj.1 before
  obtain rfl := Body.text_injective (String.toList_inj.1 body)
  rfl

theorem not_unclosed (gap : Gap) (after : String) : ¬ Unclosed (gap.text ++ after).toList := by
  intro unclosed
  exact unclosed _ _ gap.unopened (gap.toList_text_append after) (by simp)

theorem expand_append (lookup : String → Option String) (gap : Gap) (after : String) :
    expand lookup (gap.text ++ after) = gap.fill lookup ++ expand lookup after := by
  rw [← String.toList_inj, toList_expand, toList_text_append,
    expandChars_append lookup gap.unopened gap.closed]
  simp [fill, toList_expand, Body.toList_value]

end Gap

/-- A text taken apart into its placeholders and what is left behind the last one. -/
structure Template where
  gaps : List Gap
  rest : String
  unclosed : Unclosed rest.toList

namespace Template

def text (template : Template) : String :=
  template.gaps.foldr (fun gap after => gap.text ++ after) template.rest

def fill (lookup : String → Option String) (template : Template) : String :=
  template.gaps.foldr (fun gap after => gap.fill lookup ++ after) template.rest

theorem text_injective : Function.Injective text := by
  intro a b same
  obtain ⟨gaps, rest, unclosed⟩ := a
  obtain ⟨gaps', rest', unclosed'⟩ := b
  induction gaps generalizing gaps' with
  | nil =>
    cases gaps' with
    | nil =>
      obtain rfl : rest = rest' := same
      rfl
    | cons gap later =>
      obtain rfl : rest = _ := same
      exact absurd unclosed (gap.not_unclosed _)
  | cons gap gaps ih =>
    cases gaps' with
    | nil =>
      obtain rfl : _ = rest' := same
      exact absurd unclosed' (gap.not_unclosed _)
    | cons other later =>
      obtain ⟨rfl, sameLater⟩ := Gap.text_append_inj same
      obtain ⟨rfl, rfl⟩ := Template.mk.inj (ih later sameLater)
      rfl

theorem exists_toList_text (text : List Char) :
    ∃ template : Template, template.text.toList = text := by
  induction text using expandChars.induct with
  | case1 text absent =>
    refine ⟨⟨[], String.ofList text, ?_⟩, String.toList_ofList⟩
    rw [String.toList_ofList]
    exact unclosed_of_opening_eq_none absent
  | case2 text before inside found endless =>
    refine ⟨⟨[], String.ofList text, ?_⟩, String.toList_ofList⟩
    rw [String.toList_ofList]
    exact unclosed_of_splitFirst_eq_none found endless
  | case3 text before inside found body rest closed _ ih =>
    obtain ⟨⟨gaps, last, unclosed⟩, spelled⟩ := ih
    obtain ⟨opened, unopened⟩ := opening_eq_some found
    obtain ⟨split, plain⟩ := splitFirst_eq_some closed
    obtain ⟨gap, rfl, rfl⟩ := Gap.exists_spelled unopened plain
    refine ⟨⟨gap :: gaps, last, unclosed⟩, ?_⟩
    rw [opened, split, ← spelled, ← gap.toList_text_append]
    rfl

/-- A text can be taken apart in one way only. -/
theorem existsUnique_text (text : String) : ∃! template : Template, template.text = text := by
  refine existsUnique_of_exists_of_unique ?_ fun a b here there =>
    text_injective (here.trans there.symm)
  obtain ⟨template, spelled⟩ := exists_toList_text text.toList
  exact ⟨template, String.toList_inj.1 spelled⟩

/-- Expansion fills every gap and leaves alone what it is filled with. -/
theorem expand_text (lookup : String → Option String) (template : Template) :
    expand lookup template.text = template.fill lookup := by
  obtain ⟨gaps, rest, unclosed⟩ := template
  induction gaps with
  | nil => exact expand_of_unclosed lookup unclosed
  | cons gap gaps ih => exact (gap.expand_append lookup _).trans (congrArg _ ih)

/-- What the gaps are filled with depends on their names alone. -/
theorem fill_congr {lookup other : String → Option String} {template : Template}
    (agree : ∀ gap ∈ template.gaps, lookup gap.body.name = other gap.body.name) :
    template.fill lookup = template.fill other := by
  obtain ⟨gaps, rest, unclosed⟩ := template
  refine List.foldr_ext _ _ _ fun gap member after => ?_
  simp only [Gap.fill, Body.value, agree gap member]

theorem fill_eq_text {lookup : String → Option String} {template : Template}
    (unresolved : ∀ gap ∈ template.gaps, lookup gap.body.name = none ∧ gap.body.fallback = none) :
    template.fill lookup = template.text := by
  obtain ⟨gaps, rest, unclosed⟩ := template
  refine List.foldr_ext _ _ _ fun gap member after => ?_
  obtain ⟨unset, bare⟩ := unresolved gap member
  simp only [Gap.fill, Gap.text, Body.value, unset, bare, String.append_assoc]

end Template

/-- Expansion reads a text once, from left to right. What stands in front of a placeholder is kept,
the placeholder gives way to what it stands for, and only what comes behind it is expanded. So a
text that is taken apart into placeholders and a rest has each of them filled once: by the value
that its name is given, or else by its default, or else as it is written. -/
theorem expand_is_single_pass (lookup : String → Option String) :
    (∀ text, ∃! body : Body, body.text = text) ∧
      (∀ (before after : String) (body : Body),
        Unopened before.toList → '\x7d' ∉ body.text.toList →
          expand lookup (before ++ "$\x7b" ++ body.text ++ "\x7d" ++ after) =
            before ++ body.value lookup ++ expand lookup after) ∧
      (∀ text : String, Unclosed text.toList → expand lookup text = text) ∧
      (∀ text, ∃! template : Template, template.text = text) ∧
      ∀ template : Template,
        expand lookup template.text = template.fill lookup ∧
          ((∀ gap ∈ template.gaps, lookup gap.body.name = none ∧ gap.body.fallback = none) →
            expand lookup template.text = template.text) ∧
          ∀ other : String → Option String,
            (∀ gap ∈ template.gaps, lookup gap.body.name = other gap.body.name) →
              expand lookup template.text = expand other template.text := by
  refine ⟨Body.existsUnique_text, ?_, fun text => expand_of_unclosed lookup,
    Template.existsUnique_text, ?_⟩
  · intro before after body unopened closed
    exact Gap.expand_append lookup ⟨before, body, unopened, closed⟩ after
  · intro template
    refine ⟨template.expand_text lookup, ?_, ?_⟩
    · intro unresolved
      rw [template.expand_text, Template.fill_eq_text unresolved]
    · intro other agree
      rw [template.expand_text, template.expand_text, Template.fill_congr agree]

/-- A value that looks like a placeholder, a default that holds the beginning of one, and one that
is never closed. -/
theorem expand_is_single_pass_of_nested :
    ∃ lookup : String → Option String, lookup "HOST" = some "$\x7bPORT\x7d" ∧ lookup "PORT" = none ∧
      Unclosed "\x7db $\x7bopen".toList ∧
      expand lookup "a$$\x7bHOST\x7d:$\x7bPORT:$\x7bx\x7d\x7db $\x7bopen" =
        "a$$\x7bPORT\x7d:$\x7bx\x7db $\x7bopen" := by
  obtain ⟨_, step, last, _⟩ := expand_is_single_pass fun name =>
    if name = "HOST" then some "$\x7bPORT\x7d" else none
  have unclosed : Unclosed "\x7db $\x7bopen".toList := unclosed_of_splitFirst_eq_none rfl rfl
  have first := step "a$" ":$\x7bPORT:$\x7bx\x7d\x7db $\x7bopen" ⟨"HOST", none, by decide⟩
    (by decide) (by decide)
  have second := step ":" "\x7db $\x7bopen" ⟨"PORT", some "$\x7bx", by decide⟩
    (by decide) (by decide)
  have third := last "\x7db $\x7bopen" unclosed
  refine ⟨_, rfl, rfl, unclosed, first.trans ?_⟩
  rw [third] at second
  exact congrArg ("a$$\x7bPORT\x7d" ++ ·) second

end Placeholder

end MetricQuery
