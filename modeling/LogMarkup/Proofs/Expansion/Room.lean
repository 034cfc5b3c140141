import LogMarkup.Proofs.Expansion

/-!
# Room in expanded buffers

An expansion makes room for what it writes and gives none back, not even that for a value that it
takes back.

* `Buffer.capacity_le_writeAll`, `Buffer.capacity_le_writeArgument`: writing into a buffer.
* `capacity_le_expandInto`: expanding a template.
* `utf8ByteSize_ofList`: the room that a text takes.
-/

namespace LogMarkup

variable {σ : Type}

theorem utf8ByteSize_ofList (t : Text) : (String.ofList t).utf8ByteSize = byteLength t := by
  induction t with
  | nil => rfl
  | cons c t ih =>
    rw [String.ofList_cons, String.utf8ByteSize_append, ih, String.utf8ByteSize_singleton,
      byteLength_cons]

namespace Buffer

theorem content_eq (b : Buffer) : b.content = String.ofList b.text := String.ofList_toList.symm

/-! ## Writing -/

theorem capacity_le_pushEscaped (b : Buffer) (t : Text) :
    b.capacity ≤ (b.pushEscaped t).capacity := by
  fun_induction pushEscaped b t with
  | case1 b t h => exact b.capacity_le_push t
  | case2 b t before after h ih =>
    have hCut := b.capacity_le_push (before ++ [delimiter])
    have hDouble := (b.push (before ++ [delimiter])).capacity_le_push [delimiter]
    omega

theorem capacity_le_write (b : Buffer) (c : Chunk) : b.capacity ≤ (b.write c).capacity := by
  cases c with
  | text t => exact b.capacity_le_pushEscaped t
  | char c =>
    have hChar := b.capacity_le_push [c]
    have hDouble := (b.push [c]).capacity_le_push [delimiter]
    simp only [write]
    split <;> omega

theorem capacity_le_writeAll (b : Buffer) (chunks : List Chunk) :
    b.capacity ≤ (b.writeAll chunks).capacity := by
  induction chunks generalizing b with
  | nil => exact Nat.le_refl _
  | cons c rest ih => exact Nat.le_trans (b.capacity_le_write c) (ih (b.write c))

theorem capacity_le_attemptAll (b : Buffer) (attempts : List (List Chunk)) :
    b.capacity ≤ (b.attemptAll attempts).capacity := by
  induction attempts generalizing b with
  | nil => exact Nat.le_refl _
  | cons chunks rest ih =>
    exact Nat.le_trans (b.capacity_le_writeAll chunks) (ih (b.attempt chunks))

theorem capacity_le_writeArgument (b : Buffer) (name : Text) (answer : Answer) :
    b.capacity ≤ (b.writeArgument name answer).capacity := by
  let named := (b.push [delimiter]).push name
  let opened := (named.push [nameSeparator]).attemptAll answer.attempts
  let written := opened.writeAll answer.writing.chunks
  have hNamed : b.capacity ≤ named.capacity :=
    Nat.le_trans (b.capacity_le_push _) (capacity_le_push _ _)
  have hOpened : named.capacity ≤ opened.capacity :=
    Nat.le_trans (named.capacity_le_push _) (capacity_le_attemptAll _ _)
  have hWritten : b.capacity ≤ written.capacity :=
    Nat.le_trans hNamed (Nat.le_trans hOpened (opened.capacity_le_writeAll _))
  unfold writeArgument
  dsimp only
  split
  · exact Nat.le_trans hWritten (written.capacity_le_push _)
  · rename_i error hError
    -- Taking the value back leaves its room.
    let marked := ((written.rewindTo named).push [errorMarker]).push ['(']
    have hMarked : written.capacity ≤ marked.capacity :=
      Nat.le_trans ((written.rewindTo named).capacity_le_push _) (capacity_le_push _ _)
    have hEscaped := marked.capacity_le_pushEscaped error.message
    have hClosed := (marked.pushEscaped error.message).capacity_le_push [')']
    have hEnd := ((marked.pushEscaped error.message).push [')']).capacity_le_push [delimiter]
    exact Nat.le_trans hWritten (Nat.le_trans hMarked
      (Nat.le_trans hEscaped (Nat.le_trans hClosed hEnd)))

end Buffer

/-! ## Expanding -/

theorem Progress.capacity_le_expandParts (x : Progress σ) (r : Resolver σ) (parts : List Part) :
    x.buffer.capacity ≤ (x.expandParts r parts).buffer.capacity := by
  induction parts generalizing x with
  | nil => exact Nat.le_refl _
  | cons part rest ih =>
    have hPart : x.buffer.capacity ≤ (x.expandPart r part).buffer.capacity := by
      cases part with
      | literal t => exact x.buffer.capacity_le_push t
      | placeholder p => exact x.buffer.capacity_le_writeArgument p.name _
    exact Nat.le_trans hPart (ih (x.expandPart r part))

theorem capacity_le_expandInto (b : Buffer) (source : Text) (r : Resolver σ) (s : σ) :
    b.capacity ≤ (expandInto b source r s).buffer.capacity := by
  rw [buffer_expandInto]
  exact (Progress.start b s).capacity_le_expandParts r (scan source).1

end LogMarkup
