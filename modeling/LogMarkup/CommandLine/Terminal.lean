import LogMarkup.Text

/-!
# Text that steers a terminal

Control characters can make a terminal move, colour or rename things. The log is shown without
them: a sequence that begins with an escape character is left out up to its end, and so are other
control characters, blanks and line ends excepted.

* `shown`: the characters of a text that are not part of a control sequence.
-/

namespace LogMarkup.CommandLine

/-- What a terminal reads after an escape character. -/
inductive ControlSequence where
  /-- The character that says what follows. -/
  | start
  /-- An escape of several characters, which ends at a letter or a digit. -/
  | escape
  /-- Numbers and a letter, which ends them. -/
  | control
  /-- A command of the operating system, which ends at a bell. -/
  | command
  /-- A string for the device, which ends at an escape character. -/
  | device
  deriving DecidableEq, Repr

/-- Where a terminal stands between two characters. -/
inductive TerminalState where
  | text
  | sequence (s : ControlSequence)
  /-- In text after a blank or a line end inside a sequence. The sequence goes on at the next
  control character. -/
  | interrupted (s : ControlSequence)
  deriving DecidableEq, Repr

def escapeChar : Char := '\x1b'

/-- Blanks and line ends, which are shown although they are control characters. -/
def isShownControl (c : Char) : Bool := c = '\t' || c = '\n' || c = '\x0c' || c = '\r'

/-- Is the character shown outside of sequences? -/
def isShown (c : Char) : Bool := isShownControl c || (0x20 ≤ c.toNat && c.toNat ≠ 0x7F)

/-- Does the character end a sequence wherever it stands? -/
def cancels (c : Char) : Bool := c = '\x18' || c = '\x1a'

/-- Is the byte that ends strings in codes of eight bits in the UTF-8 form of the character? -/
def hasTerminatorByte (c : Char) : Bool := (String.singleton c).toUTF8.toList.contains 0x9C

namespace ControlSequence

/-- Can blanks and line ends interrupt the sequence? -/
def isInterruptible : ControlSequence → Bool
  | start | escape | control => true
  | command | device => false

/-- The sequence after one more character, or nothing if the character ends it. -/
def next (s : ControlSequence) (c : Char) : Option ControlSequence :=
  match s with
  | start =>
    if c.toNat < 0x20 || 0x7F ≤ c.toNat then some start
    else if c.toNat < 0x30 then some escape
    else if c = '[' then some control
    else if c = ']' then some command
    else if c = 'P' || c = 'X' || c = '^' || c = '_' then some device
    else none
  | escape => if 0x30 ≤ c.toNat && c.toNat < 0x7F then none else some escape
  | control => if 0x40 ≤ c.toNat && c.toNat < 0x7F then none else some control
  | command => if c = '\x07' then none else some command
  | device => if hasTerminatorByte c then none else some device

end ControlSequence

/-- The state after a character, and whether the character is shown. -/
def TerminalState.step (state : TerminalState) (c : Char) : TerminalState × Bool :=
  if cancels c then (text, false)
  else if c = escapeChar then (sequence .start, false)
  else match state with
  | text => (text, isShown c)
  | sequence s =>
    if s.isInterruptible && isShownControl c then (interrupted s, true)
    else ((s.next c).elim text sequence, false)
  | interrupted s =>
    if 0x80 ≤ c.toNat then (text, true)
    else if isShown c then (interrupted s, true)
    else (sequence s, false)

/-- The characters that are shown from a state on. -/
def shownFrom (state : TerminalState) : Text → Text
  | [] => []
  | c :: rest =>
    let (next, isShown) := state.step c
    if isShown then c :: shownFrom next rest else shownFrom next rest

/-- The text as the log shows it. -/
def shown (t : Text) : Text := shownFrom .text t

end LogMarkup.CommandLine
