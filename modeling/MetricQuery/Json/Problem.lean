import MetricQuery.Decimal.Layout
import MetricQuery.Text.Quoted

namespace MetricQuery.Json

/-- What a text was in the middle of when it ended. -/
inductive Unfinished where
  | value
  | list
  | object
  | string
deriving DecidableEq, Repr

/-- What was met where a value of another kind was expected. -/
inductive Found where
  | null
  | bool (value : Bool)
  | integer (value : Int)
  | real (value : Float)
  | text (value : String)
  | sequence
  | map

/-- Why a text was not accepted. -/
inductive Problem where
  | unfinished (what : Unfinished)
  | expectedValue
  | expectedWord
  | expectedColon
  | expectedCommaOrBracket
  | expectedCommaOrBrace
  | trailingComma
  | trailingText
  | keyNotText
  | badNumber
  | numberTooLarge
  | tooDeep
  | controlCharacter
  | badEscape
  | loneSurrogate
  | brokenSurrogatePair
  | wrongType (found : Found) (expected : String)
  | wrongValue (found : Found) (expected : String)
  | wrongLength (length : Nat) (expected : String)
  | missingField (field : String)
  | duplicateField (field : String)

/-- The text may stop too early, break the grammar, or hold other data than was asked for. -/
inductive Category where
  | unfinished
  | grammar
  | data
deriving DecidableEq, Repr

def Unfinished.name : Unfinished → String
  | .value => "a value"
  | .list => "a list"
  | .object => "an object"
  | .string => "a string"

def Found.describe : Found → String
  | .null => "null"
  | .bool value => "boolean `" ++ (if value then "true" else "false") ++ "`"
  | .integer value => "integer `" ++ toString value ++ "`"
  | .real value => "floating point `" ++ DecimalLayout.document.render value ++ "`"
  | .text value => "string " ++ quoted value
  | .sequence => "sequence"
  | .map => "map"

def Problem.describe : Problem → String
  | .unfinished what => "EOF while parsing " ++ what.name
  | .expectedValue => "expected value"
  | .expectedWord => "expected ident"
  | .expectedColon => "expected `:`"
  | .expectedCommaOrBracket => "expected `,` or `]`"
  | .expectedCommaOrBrace => "expected `,` or `\x7d`"
  | .trailingComma => "trailing comma"
  | .trailingText => "trailing characters"
  | .keyNotText => "key must be a string"
  | .badNumber => "invalid number"
  | .numberTooLarge => "number out of range"
  | .tooDeep => "recursion limit exceeded"
  | .controlCharacter => "control character (\\u0000-\\u001F) found while parsing a string"
  | .badEscape => "invalid escape"
  | .loneSurrogate => "lone leading surrogate in hex escape"
  | .brokenSurrogatePair => "unexpected end of hex escape"
  | .wrongType found expected => "invalid type: " ++ found.describe ++ ", expected " ++ expected
  | .wrongValue found expected => "invalid value: " ++ found.describe ++ ", expected " ++ expected
  | .wrongLength length expected => "invalid length " ++ toString length ++ ", expected " ++ expected
  | .missingField field => "missing field `" ++ field ++ "`"
  | .duplicateField field => "duplicate field `" ++ field ++ "`"

def Problem.category : Problem → Category
  | .unfinished _ => .unfinished
  | .wrongType .. | .wrongValue .. | .wrongLength .. | .missingField _ | .duplicateField _ => .data
  | _ => .grammar

/-- A problem and the number of bytes read when it was noticed, counted from the start of the
part of the text that was being read. -/
structure Failure where
  problem : Problem
  bytes : Nat

/-- The same failure seen from further to the left. -/
def Failure.shift (failure : Failure) (bytes : Nat) : Failure :=
  { failure with bytes := bytes + failure.bytes }

/-- Reads a part of a text that starts some bytes further on. -/
def after {α : Type} (bytes : Unit → Nat) : Except Failure α → Except Failure α
  | .error failure => .error (failure.shift (bytes ()))
  | .ok value => .ok value

end MetricQuery.Json
