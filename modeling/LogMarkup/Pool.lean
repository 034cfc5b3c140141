import LogMarkup.Expansion.Report

/-!
# Pools of buffers

A pool keeps buffers that are not in use, so that a new message can be written without setting
up room for it. It keeps a limited number of buffers, and none that grew too large. The buffer
given back last is the first to be used again.
-/

namespace LogMarkup

structure PoolLimits where
  maxBuffers : Nat
  /-- The largest capacity of a buffer that is kept. -/
  maxCapacity : Nat

def PoolLimits.standard : PoolLimits := ⟨16, 64 * 1024⟩

structure Pool where
  limits : PoolLimits
  /-- The buffers not in use, the one given back last first. -/
  idle : List Buffer

namespace Pool

/-- The capacity of a new buffer. -/
def initialCapacity : Nat := 256

def new (limits : PoolLimits) : Pool := ⟨limits, []⟩

/-- Takes a buffer out of the pool, or sets up a new one. -/
def acquire (pool : Pool) : Buffer × Pool :=
  match pool.idle with
  | [] => (.withCapacity initialCapacity, pool)
  | buffer :: rest => (buffer, { pool with idle := rest })

/-- Keeps a buffer unless it is too large or there are enough. -/
def keep (pool : Pool) (buffer : Buffer) : Pool :=
  if buffer.capacity > pool.limits.maxCapacity then pool
  else if pool.idle.length < pool.limits.maxBuffers then
    { pool with idle := buffer.cleared :: pool.idle }
  else pool

/-- Gives a buffer back. One without room never came from setting up room, and is let go. -/
def release (pool : Pool) (buffer : Buffer) : Pool :=
  if 0 < buffer.capacity then pool.keep buffer else pool

/-! ## Writing messages -/

/-- Takes up to a number of bytes, or any number, and then fails. -/
structure Sink where
  limit : Option Nat
  /-- The error of the sink when it takes no more. -/
  failure : Text

/-- The bytes that the sink takes of a text, and whether these are all. -/
def Sink.accept (sink : Sink) (content : String) : ByteArray × Bool :=
  let bytes := content.toUTF8
  match sink.limit with
  | none => (bytes, true)
  | some limit => if bytes.size ≤ limit then (bytes, true) else (bytes.extract 0 limit, false)

inductive WriteError where
  | expand (error : ExpandError)
  | sink (failure : Text)

namespace WriteError

def message : WriteError → Text
  | .expand error => error.message
  | .sink failure => "failed to write message: ".toList ++ failure

/-- The description of the error behind it. -/
def cause : WriteError → Text
  | .expand error => error.message
  | .sink failure => failure

end WriteError

/-- A message written through a pool. -/
structure Written (σ : Type) where
  /-- The number of bytes of the message. -/
  result : Except WriteError Nat
  /-- The bytes that the sink took. -/
  accepted : ByteArray
  pool : Pool
  state : σ

variable {σ : Type}

/-- Expands a template into a buffer of the pool, writes the message and gives the buffer back. A
message with unresolved arguments is written before they are reported; one with a syntax error
is not written at all. -/
def write (pool : Pool) (sink : Sink) (template : Text) (r : Resolver σ) (state : σ) :
    Written σ :=
  let (buffer, taken) := pool.acquire
  let expanded := expandInto buffer template r state
  let pool := taken.release expanded.buffer
  match expanded.result with
  | .error (.malformed error) =>
    ⟨.error (.expand (.malformed error)), .empty, pool, expanded.state⟩
  | result =>
    match sink.accept expanded.buffer.content with
    | (accepted, false) => ⟨.error (.sink sink.failure), accepted, pool, expanded.state⟩
    | (accepted, true) =>
      let result := match result with
        | .ok _ => .ok expanded.buffer.size
        | .error error => .error (.expand error)
      ⟨result, accepted, pool, expanded.state⟩

end Pool

end LogMarkup
