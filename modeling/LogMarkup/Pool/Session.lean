import LogMarkup.Pool

/-!
# Working with a pool

A session is a pool together with the buffers that were taken out of it and not given back yet,
each under a label. The holder of a buffer may do anything with it before giving it back, or keep
it for good. Steps that ask for a buffer that is not held change nothing.

* `Session.step`: one step, and what it shows.
* `Session.run`: any number of steps.
-/

namespace LogMarkup

structure Session where
  pool : Pool
  /-- The buffers in use, each label once. -/
  held : List (Text × Buffer)

/-- A pipe that closes after a number of bytes, or never. -/
structure Session.Pipe where
  limit : Option Nat

/-- A pipe as what messages are written to. -/
def Session.Pipe.sink (pipe : Session.Pipe) : Pool.Sink := ⟨pipe.limit, "pipe closed".toList⟩

/-- A step of a session. Resolvers start every expansion in the state given with them. -/
inductive Session.Step (σ : Type) where
  /-- Takes a buffer. A buffer held under the label is given back afterwards. -/
  | acquire (label : Text)
  /-- Appends a text as often as given. -/
  | push (label : Text) (t : Text) (times : Nat)
  | append (label : Text) (template : Text) (r : Resolver σ) (state : σ)
  | reserve (label : Text) (more : Nat)
  /-- Puts a text without further room in place of the buffer. -/
  | replace (label : Text) (t : Text)
  /-- Gives the buffer back. -/
  | drop (label : Text)
  /-- Keeps the buffer for good. -/
  | take (label : Text)
  | write (template : Text) (r : Resolver σ) (state : σ) (pipe : Session.Pipe)

/-- What a step shows. -/
inductive Session.Shown where
  | nothing
  | text (t : Text)
  | size (bytes : Nat)
  | appended (result : Except ExpandError Unit) (t : Text)
  | written (result : Except Pool.WriteError Nat) (accepted : ByteArray)

namespace Session

variable {σ : Type}

def new (limits : PoolLimits) : Session := ⟨.new limits, []⟩

/-- The buffer held under a label. -/
def buffer? (s : Session) (label : Text) : Option Buffer :=
  (s.held.find? (·.1 = label)).map (·.2)

/-- The buffers held under other labels. -/
def others (s : Session) (label : Text) : List (Text × Buffer) :=
  s.held.filter (·.1 ≠ label)

/-- Puts a buffer in place of the one held under the label. -/
def hold (s : Session) (label : Text) (buffer : Buffer) : Session :=
  { s with held := (label, buffer) :: s.others label }

/-- Changes the buffer held under a label, if there is one. -/
def change (s : Session) (label : Text) (f : Buffer → Buffer) (shown : Buffer → Shown) :
    Session × Shown :=
  match s.buffer? label with
  | none => (s, .nothing)
  | some buffer =>
    let changed := f buffer
    (s.hold label changed, shown changed)

/-- Gives the buffer held under a label back to the pool. -/
def giveBack (s : Session) (label : Text) : Session :=
  match s.buffer? label with
  | none => s
  | some buffer => ⟨s.pool.release buffer, s.others label⟩

def acquire (s : Session) (label : Text) : Session × Shown :=
  let (buffer, pool) := s.pool.acquire
  (({ s with pool }.giveBack label).hold label buffer, .text buffer.text)

def step (s : Session) : Step σ → Session × Shown
  | .acquire label => s.acquire label
  | .push label t times => s.change label (Nat.repeat (·.push t) times) (.size ·.size)
  | .append label template r state =>
    match s.buffer? label with
    | none => (s, .nothing)
    | some buffer =>
      let expanded := expandInto buffer template r state
      (s.hold label expanded.buffer, .appended expanded.result expanded.buffer.text)
  | .reserve label more => s.change label (·.reserve more) (.size ·.size)
  | .replace label t => s.change label (fun _ => .ofText t) (.text ·.text)
  | .drop label => (s.giveBack label, .nothing)
  | .take label =>
    match s.buffer? label with
    | none => (s, .nothing)
    | some buffer => ({ s with held := s.others label }, .text buffer.text)
  | .write template r state pipe =>
    let written := s.pool.write pipe.sink template r state
    ({ s with pool := written.pool }, .written written.result written.accepted)

/-- The session after each step, with what the step shows. -/
def run (s : Session) : List (Step σ) → List (Session × Shown)
  | [] => []
  | step :: rest =>
    let (s, shown) := s.step step
    (s, shown) :: s.run rest

end Session

end LogMarkup
