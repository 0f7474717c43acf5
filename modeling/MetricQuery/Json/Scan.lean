import MetricQuery.Json.Document

namespace MetricQuery.Json

def takeBlanks (input : List Char) : List Char × List Char := input.span isBlank

/-- The letters of a word that are still to come. A letter that differs is a fault. -/
def scanLetters (word : Word) (read : Nat) : List Char → List Char → Node × List Char
  | [], input => (.word word, input)
  | _ :: _, [] => (.broken read ⟨.word, none⟩, [])
  | wanted :: letters, c :: input =>
    if c = wanted then scanLetters word (read + 1) letters input
    else (.broken read ⟨.word, some c⟩, [])

def scanWord (word : Word) (input : List Char) : Node × List Char :=
  scanLetters word 0 word.text input

/-- The exponent of a numeral whose mantissa is read. -/
def scanExponent (numeral : Numeral) (input : List Char) : Node × List Char :=
  match input with
  | [] => (.number numeral, [])
  | mark :: rest =>
    if mark = 'e' ∨ mark = 'E' then
      let (sign, digitsText) := match rest with
        | c :: more => if c = '+' ∨ c = '-' then (some c, more) else (none, rest)
        | [] => (none, [])
      let (digits, remaining) := digitsText.span isDigit
      if digits.isEmpty then
        (.broken (numeral.mantissaText.length + 1 + sign.toList.length)
          ⟨.exponent, digitsText.head?⟩, [])
      else (.number { numeral with exponent := some ⟨mark, sign, digits⟩ }, remaining)
    else (.number numeral, input)

/-- The fraction of a numeral whose whole part is read, and what follows it. -/
def scanFraction (numeral : Numeral) (input : List Char) : Node × List Char :=
  match input with
  | '.' :: rest =>
    let (digits, remaining) := rest.span isDigit
    if digits.isEmpty then
      (.broken (numeral.mantissaText.length + 1) ⟨.fraction, rest.head?⟩, [])
    else scanExponent { numeral with fraction := some digits } remaining
  | _ => scanExponent numeral input

/-- The digits of a numeral after its sign. A zero in front stands alone. -/
def scanNumeral (negative : Bool) (input : List Char) : Node × List Char :=
  let sign := if negative then 1 else 0
  match input with
  | [] => (.broken sign ⟨.numberStart, none⟩, [])
  | '0' :: rest =>
    match rest.head? with
    | some c =>
      if isDigit c then (.broken (sign + 1) ⟨.leadingZero, some c⟩, [])
      else scanFraction ⟨negative, ['0'], none, none⟩ rest
    | none => scanFraction ⟨negative, ['0'], none, none⟩ rest
  | c :: _ =>
    if isDigit c then
      let (digits, remaining) := input.span isDigit
      scanFraction ⟨negative, digits, none, none⟩ remaining
    else (.broken sign ⟨.numberStart, some c⟩, [])

/-- The pieces of a string after its opening quote. -/
def scanString : List Char → Spelling × List Char
  | [] => (⟨[], some ⟨.text, none⟩⟩, [])
  | '"' :: rest => (⟨[], none⟩, rest)
  | '\\' :: 'u' :: a :: b :: c :: d :: rest =>
    if isHex a && isHex b && isHex c && isHex d then
      let (spelling, remaining) := scanString rest
      (⟨.unit a b c d :: spelling.pieces, spelling.fault⟩, remaining)
    else (⟨[], some ⟨.hex 4, none⟩⟩, [])
  | '\\' :: 'u' :: rest => (⟨[], some ⟨.hex (min 4 (byteCount rest)), none⟩⟩, [])
  | ['\\'] => (⟨[], some ⟨.escape, none⟩⟩, [])
  | '\\' :: c :: rest =>
    if (shortEscape c).isSome then
      let (spelling, remaining) := scanString rest
      (⟨.short c :: spelling.pieces, spelling.fault⟩, remaining)
    else (⟨[], some ⟨.escape, some c⟩⟩, [])
  | c :: rest =>
    if c.toNat < 0x20 then (⟨[], some ⟨.text, some c⟩⟩, [])
    else
      let (spelling, remaining) := scanString rest
      (⟨.plain c :: spelling.pieces, spelling.fault⟩, remaining)

mutual

/-- Reads one value and returns the text after it. Nothing is left of the text after a fault. -/
def scanNode : Nat → List Char → Node × List Char
  | 0, _ => (.broken 0 ⟨.unreached, none⟩, [])
  | fuel + 1, input =>
    match input with
    | [] => (.broken 0 ⟨.value, none⟩, [])
    | 'n' :: _ => scanWord .null input
    | 't' :: _ => scanWord .true input
    | 'f' :: _ => scanWord .false input
    | '"' :: rest =>
      let (spelling, remaining) := scanString rest
      (.string spelling, remaining)
    | '[' :: rest =>
      let (items, remaining) := scanItems fuel false rest
      (.array items, remaining)
    | '\x7b' :: rest =>
      let (members, remaining) := scanMembers fuel false rest
      (.object members, remaining)
    | '-' :: rest => scanNumeral true rest
    | c :: _ => if isDigit c then scanNumeral false input else (.broken 0 ⟨.value, some c⟩, [])

/-- Reads items from after the opening bracket or, if there was one, from after a comma. -/
def scanItems : Nat → Bool → List Char → Items × List Char
  | 0, comma, _ => (.done ⟨comma, [], some ⟨.unreached, none⟩⟩, [])
  | fuel + 1, comma, input =>
    let (before, start) := takeBlanks input
    let place := if comma then Place.laterItem else .firstItem
    match start with
    | [] => (.done ⟨comma, before, some ⟨place, none⟩⟩, [])
    | ']' :: rest =>
      if comma then (.done ⟨true, before, some ⟨.laterItem, some ']'⟩⟩, [])
      else (.done (.closed before), rest)
    | _ =>
      let (value, afterValue) := scanNode fuel start
      let (blanks, next) := takeBlanks afterValue
      match next with
      | ',' :: rest =>
        let (items, remaining) := scanItems fuel true rest
        (.item before value blanks items, remaining)
      | ']' :: rest => (.item before value blanks (.done (.closed [])), rest)
      | _ => (.item before value blanks (.done ⟨false, [], some ⟨.nextItem, next.head?⟩⟩), [])

/-- Reads members from after the opening brace or, if there was one, from after a comma. -/
def scanMembers : Nat → Bool → List Char → Members × List Char
  | 0, comma, _ => (.done ⟨comma, [], some ⟨.unreached, none⟩⟩, [])
  | fuel + 1, comma, input =>
    let (before, start) := takeBlanks input
    let place := if comma then Place.laterMember else .firstMember
    match start with
    | '"' :: rest =>
      let (key, afterSpelling) := scanString rest
      let (afterKey, beforeColon) := takeBlanks afterSpelling
      match beforeColon with
      | ':' :: rest =>
        let (gap, valueText) := takeBlanks rest
        let (value, afterValue) := scanNode fuel valueText
        let (blanks, next) := takeBlanks afterValue
        let head : MemberKey := ⟨before, key, afterKey, some gap⟩
        match next with
        | ',' :: rest =>
          let (members, remaining) := scanMembers fuel true rest
          (.member head value blanks members, remaining)
        | '\x7d' :: rest => (.member head value blanks (.done (.closed [])), rest)
        | _ =>
          (.member head value blanks (.done ⟨false, [], some ⟨.nextMember, next.head?⟩⟩), [])
      | _ =>
        (.member ⟨before, key, afterKey, none⟩ (.broken 0 ⟨.colon, beforeColon.head?⟩) []
          (.done (.closed [])), [])
    | '\x7d' :: rest =>
      if comma then (.done ⟨true, before, some ⟨.laterMember, some '\x7d'⟩⟩, [])
      else (.done (.closed before), rest)
    | _ => (.done ⟨comma, before, some ⟨place, start.head?⟩⟩, [])

end

/-- Reads a whole text. Every step into a value, its items or its members takes a character or
is followed by one that does, so twice the length of the text is fuel enough. -/
def Document.ofChars (input : List Char) : Document :=
  let (before, start) := takeBlanks input
  let (root, rest) := scanNode (2 * input.length + 2) start
  let (blanks, excess) := takeBlanks rest
  ⟨before, root, blanks, excess.head?⟩

def Document.text (document : Document) : List Char :=
  document.before ++ document.root.text ++ document.blanks

end MetricQuery.Json
