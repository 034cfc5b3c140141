import LogMarkup.Escape

/-!
# Writing in chunks

A value writes itself as a sequence of chunks and may stop with an error after any of them. What
matters for a message is the text of the chunks one after another (`Writing.text`); how it is
divided only shows in how a buffer grows.

* `Writing.text_andThen`: what follows a complete writing is appended, what would follow a
  failed one is not written.
-/

namespace LogMarkup

/-- A piece of text written at once. -/
inductive Chunk where
  | text (t : Text)
  | char (c : Char)

def Chunk.toText : Chunk → Text
  | .text t => t
  | .char c => [c]

/-- What a programmer sees of the writer that the chunks go to. -/
def writerDiagnostic : Text := "ArgWriter \x7b .. \x7d".toList

/-- The chunks written and how the writing ended. -/
structure Writing (ε : Type) where
  chunks : List Chunk
  result : Except ε Unit

namespace Writing

variable {ε ε' : Type}

/-- A writing that ends without an error. -/
def done (chunks : List Chunk) : Writing ε := ⟨chunks, .ok ()⟩

/-- A writing that fails at once. -/
def fail (error : ε) : Writing ε := ⟨[], .error error⟩

/-- Goes on with `next` unless the first writing failed. -/
def andThen (first next : Writing ε) : Writing ε :=
  match first.result with
  | .ok _ => ⟨first.chunks ++ next.chunks, next.result⟩
  | .error error => ⟨first.chunks, .error error⟩

def mapError (f : ε → ε') (w : Writing ε) : Writing ε' := ⟨w.chunks, w.result.mapError f⟩

/-- All the text written, up to the end or the failure. -/
def text (w : Writing ε) : Text := w.chunks.flatMap Chunk.toText

@[simp] theorem text_done (chunks : List Chunk) :
    (done chunks : Writing ε).text = chunks.flatMap Chunk.toText := rfl

@[simp] theorem text_fail (error : ε) : (fail error).text = [] := rfl

@[simp] theorem text_mapError (f : ε → ε') (w : Writing ε) : (w.mapError f).text = w.text := rfl

theorem text_andThen (first next : Writing ε) :
    (first.andThen next).text =
      first.text ++ match first.result with
        | .ok _ => next.text
        | .error _ => [] := by
  unfold andThen
  split <;> simp [text, *]

end Writing

end LogMarkup
