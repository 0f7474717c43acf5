namespace MetricQuery

/-- Where a left-to-right reading stands with respect to double quotes. Inside quotes a
backslash hides the character after it. -/
inductive QuoteState where
  | outside
  | inside
  | hidden
deriving DecidableEq, Repr

namespace QuoteState

def next : QuoteState → Char → QuoteState
  | .outside, c => if c = '"' then .inside else .outside
  | .inside, c => if c = '"' then .outside else if c = '\\' then .hidden else .inside
  | .hidden, _ => .inside

def after (state : QuoteState) (text : List Char) : QuoteState :=
  text.foldl next state

theorem after_append (state : QuoteState) (a b : List Char) :
    state.after (a ++ b) = (state.after a).after b := by
  simp [after, List.foldl_append]

end QuoteState

/-- Puts a character in front of the first of several segments. -/
def extendFirst (c : Char) : List (List Char) → List (List Char)
  | [] => [[c]]
  | segment :: segments => (c :: segment) :: segments

/-- The segments between the commas that stand outside quotes. -/
def segments : QuoteState → List Char → List (List Char)
  | _, [] => [[]]
  | state, c :: rest =>
    if c = ',' ∧ state = .outside then [] :: segments .outside rest
    else extendFirst c (segments (state.next c) rest)

/-- Cuts a property list into its entries. There is no cut when a quote is left open. -/
def splitEntries (text : List Char) : Option (List (List Char)) :=
  if QuoteState.outside.after text = .outside then some (segments .outside text) else none

end MetricQuery
