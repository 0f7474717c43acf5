import MetricQuery.Text.Split

namespace MetricQuery

/-- The environment variables a run starts with, each with its value. -/
structure Environment where
  settings : List (String × String)
deriving Repr

/-- What is left of a text after another one that it begins with. -/
def stripStart : List Char → List Char → Option (List Char)
  | [], text => some text
  | _ :: _, [] => none
  | c :: start, d :: text => if c = d then stripStart start text else none

namespace Environment

/-- A variable is found by the text of its setting: the first `NAME=value` that begins with the
name and an equals sign counts. The empty name and names with a NUL are never set. -/
def lookup (environment : Environment) (name : String) : Option String :=
  if name == "" || name.toList.contains '\x00' then none
  else
    environment.settings.findSome? fun (key, value) =>
      (stripStart (name.toList ++ ['=']) (key.toList ++ '=' :: value.toList)).map String.ofList

end Environment

namespace Placeholder

/-- The text before the first `${` and the text after it. -/
def opening : List Char → Option (List Char × List Char)
  | [] => none
  | [_] => none
  | c :: d :: rest =>
    if c = '$' ∧ d = '\x7b' then some ([], rest)
    else (opening (d :: rest)).map fun (before, after) => (c :: before, after)

theorem opening_length {text before after : List Char} (found : opening text = some (before, after)) :
    after.length < text.length := by
  induction text using opening.induct generalizing before with
  | case1 => simp [opening] at found
  | case2 => simp [opening] at found
  | case3 c d rest here =>
    simp only [opening, here, and_self, if_true, Option.some.injEq, Prod.mk.injEq] at found
    simp only [← found.2, List.length_cons]
    omega
  | case4 c d rest here ih =>
    simp only [opening, here, if_false, Option.map_eq_some_iff] at found
    obtain ⟨⟨head, tail⟩, inner, equal⟩ := found
    simp only [Prod.mk.injEq] at equal
    obtain ⟨rfl, rfl⟩ := equal
    have shorter := ih inner
    simp only [List.length_cons] at shorter ⊢
    omega

/-- What a placeholder stands for: the variable it names or, if that is not set, the default
after its first colon. One with neither stays as it is written. -/
def replacement (lookup : String → Option String) (body : List Char) : List Char :=
  let (name, fallback) := match splitFirst ':' body with
    | some (name, fallback) => (name, some fallback)
    | none => (body, none)
  match lookup (String.ofList name), fallback with
  | some value, _ => value.toList
  | none, some fallback => fallback
  | none, none => '$' :: '\x7b' :: body ++ ['\x7d']

/-- Replaces every placeholder, from left to right. Replaced text is not looked at again. -/
def expandChars (lookup : String → Option String) (text : List Char) : List Char :=
  match found : opening text with
  | none => text
  | some (before, inside) =>
    match closed : splitFirst '\x7d' inside with
    | none => text
    | some (body, rest) =>
      have shorter : rest.length < text.length := by
        have inner := opening_length found
        have split := (splitFirst_eq_some closed).1
        simp only [split, List.length_append, List.length_cons] at inner
        omega
      before ++ replacement lookup body ++ expandChars lookup rest
termination_by text.length

def expand (lookup : String → Option String) (text : String) : String :=
  String.ofList (expandChars lookup text.toList)

end Placeholder

end MetricQuery
