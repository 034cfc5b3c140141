import LogMarkup.Chunk

/-!
# Output buffers

A buffer holds the text written so far and knows how much room it has. Its text is what callers
ask for; its capacity decides whether it is worth keeping for another message.

* `text_push`, `text_rewindTo`, `text_cleared`: what the operations do to the text.
* `text_pushEscaped`, `text_writeAll`: escaped writing appends the escaped text, however it is
  cut into chunks.
* `text_attemptAll`: what is taken back leaves no text.
* `capacity_le_push`: pushing never gives room back.
-/

namespace LogMarkup

structure Buffer where
  content : String
  /-- The room for text, in bytes. -/
  capacity : Nat

namespace Buffer

def text (b : Buffer) : Text := b.content.toList

/-- The number of bytes held. -/
def size (b : Buffer) : Nat := b.content.utf8ByteSize

/-- An empty buffer with room for `capacity` bytes. -/
def withCapacity (capacity : Nat) : Buffer := ⟨"", capacity⟩

/-- A buffer that holds a text and has no room beyond it. -/
def ofText (t : Text) : Buffer := ⟨String.ofList t, byteLength t⟩

/-- No text and no room. -/
def empty : Buffer := withCapacity 0

/-- The least room that is ever set up. -/
def leastCapacity : Nat := 8

/-- Makes room for `more` bytes. A buffer that is too small at least doubles its room. -/
def reserve (b : Buffer) (more : Nat) : Buffer :=
  if b.size + more ≤ b.capacity then b
  else { b with capacity := max (2 * b.capacity) (max (b.size + more) leastCapacity) }

def push (b : Buffer) (t : Text) : Buffer :=
  let roomy := b.reserve (byteLength t)
  { roomy with content := roomy.content ++ String.ofList t }

/-- Takes back all that was written since `mark`. The room stays. -/
def rewindTo (b mark : Buffer) : Buffer := { b with content := mark.content }

/-- Removes the text. The room stays. -/
def cleared (b : Buffer) : Buffer := { b with content := "" }

@[simp] theorem content_reserve (b : Buffer) (n : Nat) : (b.reserve n).content = b.content := by
  unfold reserve
  split <;> rfl

@[simp] theorem text_withCapacity (n : Nat) : (withCapacity n).text = [] := rfl

@[simp] theorem text_empty : empty.text = [] := rfl

@[simp] theorem text_ofText (t : Text) : (ofText t).text = t := String.toList_ofList

@[simp] theorem text_reserve (b : Buffer) (n : Nat) : (b.reserve n).text = b.text := by
  simp [text]

@[simp] theorem text_push (b : Buffer) (t : Text) : (b.push t).text = b.text ++ t := by
  simp [text, push, String.toList_append, String.toList_ofList]

@[simp] theorem text_rewindTo (b mark : Buffer) : (b.rewindTo mark).text = mark.text := rfl

@[simp] theorem text_cleared (b : Buffer) : b.cleared.text = [] := rfl

theorem capacity_le_reserve (b : Buffer) (n : Nat) : b.capacity ≤ (b.reserve n).capacity := by
  unfold reserve
  split
  · exact Nat.le_refl _
  · dsimp only
    omega

theorem capacity_le_push (b : Buffer) (t : Text) : b.capacity ≤ (b.push t).capacity :=
  capacity_le_reserve b (byteLength t)

/-! ## Escaped writing -/

/-- Appends a text with its delimiters doubled. The text up to a delimiter goes in at once, the
additional delimiter by itself. -/
def pushEscaped (b : Buffer) (t : Text) : Buffer :=
  match _h : cutAt delimiter t with
  | none => b.push t
  | some (before, after) =>
    ((b.push (before ++ [delimiter])).push [delimiter]).pushEscaped after
termination_by t.length
decreasing_by exact length_of_cutAt _h

/-- Appends a chunk with its delimiters doubled. -/
def write (b : Buffer) : Chunk → Buffer
  | .text t => b.pushEscaped t
  | .char c => if c = delimiter then (b.push [c]).push [delimiter] else b.push [c]

def writeAll (b : Buffer) (chunks : List Chunk) : Buffer := chunks.foldl write b

/-- Writes chunks and takes them back. The room made for them stays. -/
def attempt (b : Buffer) (chunks : List Chunk) : Buffer := (b.writeAll chunks).rewindTo b

def attemptAll (b : Buffer) (attempts : List (List Chunk)) : Buffer := attempts.foldl attempt b

@[simp] theorem text_attempt (b : Buffer) (chunks : List Chunk) :
    (b.attempt chunks).text = b.text := rfl

@[simp] theorem text_attemptAll (b : Buffer) (attempts : List (List Chunk)) :
    (b.attemptAll attempts).text = b.text := by
  induction attempts generalizing b with
  | nil => rfl
  | cons chunks rest ih => exact ih (b.attempt chunks)

theorem text_pushEscaped (b : Buffer) (t : Text) :
    (b.pushEscaped t).text = b.text ++ escape t := by
  fun_induction pushEscaped b t with
  | case1 b t h =>
    rw [text_push, escape_of_notMem (cutAt_eq_none_iff.mp h)]
  | case2 b t before after h ih =>
    obtain ⟨rfl, hmem⟩ := cutAt_eq_some h
    rw [ih, escape_append, escape_of_notMem hmem]
    simp [escape]

theorem text_write (b : Buffer) (c : Chunk) : (b.write c).text = b.text ++ escape c.toText := by
  cases c with
  | text t => exact text_pushEscaped b t
  | char c =>
    by_cases h : c = delimiter <;> simp [write, Chunk.toText, escape, h]

theorem text_writeAll (b : Buffer) (chunks : List Chunk) :
    (b.writeAll chunks).text = b.text ++ escape (chunks.flatMap Chunk.toText) := by
  induction chunks generalizing b with
  | nil => simp [writeAll]
  | cons c rest ih =>
    change ((b.write c).writeAll rest).text = _
    rw [ih, text_write, List.flatMap_cons, escape_append, List.append_assoc]

end Buffer

end LogMarkup
