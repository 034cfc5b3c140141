import LogMarkup.Message.Item

/-!
# Reading messages

A message is read from left to right. Every argument is handed to a receiver, which may keep a
state and may refuse the argument, and the template of the message is put together beside it.
Reading ends at the first defect or refusal; the template then covers what was read before.

* `readMessage`: the template is appended to a given text, if one is given.
-/

namespace LogMarkup

/-- A receiver refused an argument. -/
structure Refusal (ε : Type) where
  /-- The byte offset of the opening delimiter of the argument. -/
  position : Nat
  name : Text
  isError : Bool
  cause : ε
  deriving DecidableEq, Repr

inductive ReadError (ε : Type) where
  | defect (d : Defect)
  | refused (r : Refusal ε)
  deriving DecidableEq, Repr

variable {σ ε : Type}

namespace ReadError

/-- The byte offset of the error in the message. -/
def position : ReadError ε → Nat
  | .defect d => d.position
  | .refused r => r.position

/-- The description of the error, given that of the cause of a refusal. -/
def message (describe : ε → Text) : ReadError ε → Text
  | .defect d => d.kind.message
  | .refused r =>
    (if r.isError then "error arg ".toList else "arg ".toList) ++ inApostrophes r.name ++
      ": ".toList ++ describe r.cause

/-- The number of errors that the error was caused by: the refusal, and the reason for it. -/
def causes : ReadError ε → Nat
  | .defect _ => 0
  | .refused _ => 2

end ReadError

/-- Takes the arguments of a message one by one. -/
abbrev Receiver (ε σ : Type) := Argument → σ → Except ε Unit × σ

/-- The end of reading a message. -/
structure Read (ε σ : Type) where
  result : Except (ReadError ε) Unit
  /-- The template of what was read, after the text that it was to be appended to. -/
  template : Option Text
  state : σ

/-- Hands over an item at the byte offset `start` if it is an argument. -/
def Item.offer (receive : Receiver ε σ) (start : Nat) :
    Item → σ → Except (Refusal ε) Unit × σ
  | .argument a, s =>
    let (answer, s) := receive a s
    (answer.mapError fun cause => ⟨start, a.name, a.isError, cause⟩, s)
  | _, s => (.ok (), s)

/-- Hands over the arguments among items that start at the byte offset `start`. The template is
that of the items before a refusal, and the error is the refusal or else the defect. -/
def deliver (receive : Receiver ε σ) (defect : Option Defect) (start : Nat) :
    List Item → σ → Text × Option (ReadError ε) × σ
  | [], s => ([], defect.map .defect, s)
  | item :: rest, s =>
    match item.offer receive start s with
    | (.error refusal, s) => ([], some (.refused refusal), s)
    | (.ok _, s) =>
      let (template, error, s) :=
        deliver receive defect (start + byteLength item.source) rest s
      (item.template ++ template, error, s)

/-- Reads a message, appending its template to the given text. -/
def readMessage (message : Text) (template : Option Text) (receive : Receiver ε σ) (s : σ) :
    Read ε σ :=
  let (items, defect) := readItems message
  let (read, error, s) := deliver receive defect 0 items s
  { result := match error with
      | none => .ok ()
      | some error => .error error
    template := template.map (· ++ read)
    state := s }

end LogMarkup
