import MetricQuery.Json.Problem

namespace MetricQuery.Json

/-- The places of the grammar at which a text can stop being JSON. -/
inductive Place where
  | value
  | word
  | numberStart
  | leadingZero
  | fraction
  | exponent
  | text
  | escape
  | hex (bytes : Nat)
  | firstItem
  | nextItem
  | laterItem
  | firstMember
  | nextMember
  | laterMember
  | colon
  | unreached
deriving DecidableEq, Repr

/-- A place of the grammar with what was met there: a character that does not belong, or the end
of the text. -/
structure Fault where
  place : Place
  met : Option Char
deriving DecidableEq, Repr

/-- A value is either read, or only passed over because nothing asks for it. -/
inductive Attention where
  | reading
  | skipping
deriving DecidableEq, Repr

namespace Fault

/-- What a fault is called. Passing over a value makes fewer distinctions than reading it. -/
def problem (attention : Attention) (fault : Fault) : Problem :=
  match fault.place, fault.met with
  | .value, none => .unfinished .value
  | .value, some _ => .expectedValue
  | .word, none => .unfinished .value
  | .word, some _ => .expectedWord
  | .leadingZero, _ => .badNumber
  | .numberStart, met | .fraction, met | .exponent, met =>
    if met.isNone ∧ attention = .reading then .unfinished .value else .badNumber
  | .text, none => .unfinished .string
  | .text, some _ => .controlCharacter
  | .escape, none => .unfinished .string
  | .escape, some _ => .badEscape
  | .hex bytes, _ => if bytes < 4 then .unfinished .string else .badEscape
  | .firstItem, _ => .unfinished .list
  | .nextItem, none => .unfinished .list
  | .nextItem, some _ => .expectedCommaOrBracket
  | .laterItem, none => .unfinished .value
  | .laterItem, some _ => if attention = .reading then .trailingComma else .expectedValue
  | .firstMember, none => .unfinished .object
  | .firstMember, some _ => .keyNotText
  | .nextMember, none => .unfinished .object
  | .nextMember, some _ => .expectedCommaOrBrace
  | .laterMember, none => .unfinished (if attention = .reading then .value else .object)
  | .laterMember, some c =>
    if attention = .reading ∧ c = '\x7d' then .trailingComma else .keyNotText
  | .colon, none => .unfinished .object
  | .colon, some _ => .expectedColon
  | .unreached, _ => .tooDeep

/-- How many bytes from its place on a fault takes in: the first byte of the character met. A
control character in a string is only taken in when the string is read, an escape counts from
its backslash, and a unit takes its four bytes, or those that are left. -/
def bytes (attention : Attention) (fault : Fault) : Nat :=
  match fault.place, fault.met with
  | .text, some _ => if attention = .reading then 1 else 0
  | .escape, met => if met.isNone then 1 else 2
  | .hex bytes, _ => 2 + bytes
  | _, none => 0
  | _, some _ => 1

def failure (attention : Attention) (fault : Fault) : Failure :=
  ⟨fault.problem attention, fault.bytes attention⟩

end Fault

end MetricQuery.Json
