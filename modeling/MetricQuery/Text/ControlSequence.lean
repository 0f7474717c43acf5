namespace MetricQuery

/-- Where a reading stands with respect to the control sequences of terminals: in plain text,
behind an escape, in a control sequence, at the head of a device string, inside a string that is
not for display, or in a command to the system. -/
inductive ControlState where
  | ground
  | escape
  | escapeIntermediate
  | sequence
  | deviceStart
  | deviceParameter
  | deviceIntermediate
  | string
  | command
deriving DecidableEq, Repr

/-- The controls that lay out plain text: tab, line feed, form feed and carriage return. -/
def isLayoutControl (c : Char) : Bool := c = '\t' || c = '\n' || c = '\x0c' || c = '\r'

/-- Characters of plain text: all but the controls of ASCII that do not lay it out. -/
def isPlain (c : Char) : Bool := isLayoutControl c || (0x20 ≤ c.toNat && c.toNat ≠ 0x7f)

def isIntermediate (c : Char) : Bool := ' ' ≤ c && c ≤ '/'

def isParameter (c : Char) : Bool := '0' ≤ c && c ≤ '?'

def isFinal (c : Char) : Bool := '@' ≤ c && c ≤ '~'

/-- The byte `0x9c` ends a string also when it is not the first byte of a character. -/
def holdsTerminator (c : Char) : Bool :=
  let n := c.toNat
  (0x80 ≤ n && n % 64 = 0x1c) || (0x800 ≤ n && n / 64 % 64 = 0x1c) ||
    (0x10000 ≤ n && n / 4096 % 64 = 0x1c)

namespace ControlState

def afterEscape (c : Char) : ControlState :=
  if c = '[' then .sequence
  else if c = ']' then .command
  else if c = 'P' then .deviceStart
  else if c = 'X' ∨ c = '^' ∨ c = '_' then .string
  else if isIntermediate c then .escapeIntermediate
  else if isParameter c || isFinal c then .ground
  else .escape

/-- The head of a device string ends with a final character, or with parameters that are out of
place. -/
def afterDevice (state : ControlState) (c : Char) : ControlState :=
  if isFinal c then .string
  else if isIntermediate c then .deviceIntermediate
  else if isParameter c then
    if state = .deviceStart ∨ state = .deviceParameter ∧ c < '<' then .deviceParameter else .string
  else state

/-- An escape starts anew and a cancel or substitute ends everything, wherever they are met. -/
def next (state : ControlState) (c : Char) : ControlState :=
  if c = '\x1b' then .escape
  else if c = '\x18' ∨ c = '\x1a' then .ground
  else
    match state with
    | .ground => .ground
    | .escape => afterEscape c
    | .escapeIntermediate => if isParameter c || isFinal c then .ground else state
    | .sequence => if isFinal c then .ground else state
    | .deviceStart | .deviceParameter | .deviceIntermediate => afterDevice state c
    | .string => if holdsTerminator c then .ground else state
    | .command => if c = '\x07' then .ground else state

/-- Whether a character is shown. Escapes and control sequences let layout controls through. -/
def shows : ControlState → Char → Bool
  | .ground, c => isPlain c
  | .escape, c | .escapeIntermediate, c | .sequence, c => isLayoutControl c
  | _, _ => false

/-- The shown characters of a text. Once a character has been shown, so is all plain text up to
the next control. That control is then read in the state that was left before, unless a character
beyond ASCII has come in between. -/
def visible (state : ControlState) (showing : Bool) : List Char → List Char
  | [] => []
  | c :: rest =>
    if showing && isPlain c then
      c :: visible (if c.toNat < 0x80 then state else .ground) true rest
    else if state.shows c then c :: visible (state.next c) true rest
    else visible (state.next c) false rest

end ControlState

/-- A text without control sequences and without controls other than those that lay it out. -/
def withoutControls (text : String) : String :=
  String.ofList (ControlState.ground.visible false text.toList)

end MetricQuery
