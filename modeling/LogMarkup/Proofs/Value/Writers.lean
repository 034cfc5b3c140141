import LogMarkup.Proofs.Escape.Runs
import LogMarkup.Proofs.Resolver.Choice
import LogMarkup.Proofs.Value

/-!
# Writing to any writer

A value writes itself step by step to a writer, and the values inside of it do so in their turn,
until one of the steps fails. It does not see what the writer makes of the steps. So the same value
can be written to a plain writer, which takes what it gets as it is, and to a buffer, which doubles
the delimiters of each text and of each character by itself. As a text can be escaped piece by
piece, the buffer ends with the escaped form of what the plain writer holds, and nothing else of the
steps is left in it.

* `Value.writeTo`, `Piece.writeAllTo`: writing to any writer, and `Value.writeTo_eq`: the writer is
  given the chunks of the value.
* `Piece.writePlain`: what pieces write to the plain writer.
* `Piece.writeAllTo_buffer`: the buffer beside the plain writer.
* `writing_escapes_plain_text`: pieces, values and resolvers together, and why none of them can
  close an argument.
-/

namespace LogMarkup

variable {σ τ ε : Type}

/-! ## Steps -/

/-- Goes on with the next step unless one has failed. -/
def proceed (done : Except ε Unit × τ) (next : τ → Except ε Unit × τ) : Except ε Unit × τ :=
  match done with
  | (.ok _, x) => next x
  | (.error error, x) => (.error error, x)

/-- Writes chunks one after another. -/
def writeChunks (write : τ → Chunk → τ) (chunks : List Chunk) (x : τ) : Except ε Unit × τ :=
  (.ok (), chunks.foldl write x)

def Fragment.writeTo (write : τ → Chunk → τ) : Fragment → τ → Except FormatFailure Unit × τ
  | .text t, x => (.ok (), write x (.text t))
  | .char c, x => (.ok (), write x (.char c))
  | .fail, x => (.error .failed, x)

def Fragment.writeAllTo (write : τ → Chunk → τ) :
    List Fragment → τ → Except FormatFailure Unit × τ
  | [], x => (.ok (), x)
  | f :: rest, x => proceed (f.writeTo write x) (writeAllTo write rest)

mutual

/-- Writes a value to a writer, up to the first step that fails. -/
def Value.writeTo (write : τ → Chunk → τ) : Value → τ → Except FormatFailure Unit × τ
  | .text t, x => (.ok (), write x (.text t))
  | .int i, x => writeChunks write (integerChunks i.toInt) x
  | .nat n, x => writeChunks write (integerChunks n.toNat) x
  | .bool b, x => (.ok (), write x (.text (if b then "true".toList else "false".toList)))
  | .float32 f, x => writeChunks write ((messageNotation.parts (.ofFloat32 f)).map .text) x
  | .float f, x => writeChunks write ((messageNotation.parts (.ofFloat f)).map .text) x
  | .char c, x => (.ok (), write x (.char c))
  | .custom pieces, x => Piece.writeAllTo write pieces x
  | .shown fragments, x => Fragment.writeAllTo write fragments x

def Piece.writeTo (write : τ → Chunk → τ) : Piece → τ → Except FormatFailure Unit × τ
  | .text t, x => (.ok (), write x (.text t))
  | .char c, x => (.ok (), write x (.char c))
  | .value v, x => v.writeTo write x
  | .fail, x => (.error .failed, x)

def Piece.writeAllTo (write : τ → Chunk → τ) : List Piece → τ → Except FormatFailure Unit × τ
  | [], x => (.ok (), x)
  | p :: rest, x => proceed (p.writeTo write x) (Piece.writeAllTo write rest)

end

/-! ## Chunks -/

/-- Gives the chunks of a writing to a writer. -/
def Writing.into (w : Writing ε) (write : τ → Chunk → τ) (x : τ) : Except ε Unit × τ :=
  (w.result, w.chunks.foldl write x)

theorem Writing.andThen_done (w : Writing ε) : w.andThen (.done []) = w := by
  obtain ⟨chunks, result⟩ := w
  cases result with
  | error => rfl
  | ok => simp [andThen, done]

theorem Writing.into_andThen (first next : Writing ε) (write : τ → Chunk → τ) (x : τ) :
    (first.andThen next).into write x = proceed (first.into write x) (next.into write) := by
  obtain ⟨chunks, result⟩ := first
  cases result with
  | error => rfl
  | ok => simp [andThen, into, proceed]

theorem Fragment.writeAllTo_eq (write : τ → Chunk → τ) (fragments : List Fragment) :
    writeAllTo write fragments = (writingAll fragments).into write := by
  induction fragments with
  | nil => rfl
  | cons f rest ih =>
    funext x
    rw [writeAllTo, writingAll, Writing.into_andThen, ih]
    cases f <;> rfl

mutual

theorem Value.writeTo_eq (write : τ → Chunk → τ) :
    ∀ v : Value, v.writeTo write = v.writing.into write
  | .text _ => rfl
  | .int _ => rfl
  | .nat _ => rfl
  | .bool true => rfl
  | .bool false => rfl
  | .float32 _ => rfl
  | .float _ => rfl
  | .char _ => rfl
  | .custom pieces => Piece.writeAllTo_eq write pieces
  | .shown fragments => Fragment.writeAllTo_eq write fragments

theorem Piece.writeTo_eq (write : τ → Chunk → τ) :
    ∀ p : Piece, p.writeTo write = p.writing.into write
  | .text _ => rfl
  | .char _ => rfl
  | .value v => v.writeTo_eq write
  | .fail => rfl

theorem Piece.writeAllTo_eq (write : τ → Chunk → τ) :
    ∀ pieces : List Piece,
      Piece.writeAllTo write pieces = (Piece.writingAll pieces).into write
  | [] => rfl
  | p :: rest => by
    funext x
    rw [Piece.writeAllTo, Piece.writingAll, Writing.into_andThen, p.writeTo_eq write,
      Piece.writeAllTo_eq write rest]

end

/-! ## The plain writer -/

/-- Takes a chunk as it is. -/
def Chunk.addTo (t : Text) (c : Chunk) : Text := t ++ c.toText

theorem foldl_addTo (chunks : List Chunk) (t : Text) :
    chunks.foldl Chunk.addTo t = t ++ chunks.flatMap Chunk.toText := by
  induction chunks generalizing t with
  | nil => simp
  | cons c rest ih =>
    rw [List.foldl_cons, ih, List.flatMap_cons, Chunk.addTo, List.append_assoc]

namespace Piece

/-- What pieces write as it is, up to the first that fails, and whether one does. -/
def writePlain (pieces : List Piece) : Except FormatFailure Unit × Text :=
  Piece.writeAllTo Chunk.addTo pieces []

theorem writePlain_eq (pieces : List Piece) :
    writePlain pieces = ((writingAll pieces).result, (writingAll pieces).text) := by
  rw [writePlain, Piece.writeAllTo_eq, Writing.into, foldl_addTo]
  rfl

theorem writePlain_cons_of_ok {p : Piece} (h : (writePlain [p]).1 = .ok ()) (rest : List Piece) :
    writePlain (p :: rest) =
      ((writePlain rest).1, (writePlain [p]).2 ++ (writePlain rest).2) := by
  simp only [writePlain_eq, writingAll, Writing.andThen, Writing.text] at h ⊢
  cases hResult : p.writing.result with
  | ok => simp [Writing.done]
  | error error =>
    rw [hResult] at h
    cases h

/-- Behind a piece that fails nothing is written. -/
theorem writePlain_cons_of_error {p : Piece} {error : FormatFailure}
    (h : (writePlain [p]).1 = .error error) (rest : List Piece) :
    writePlain (p :: rest) = (.error error, (writePlain [p]).2) := by
  simp only [writePlain_eq, writingAll, Writing.andThen, Writing.text] at h ⊢
  cases hResult : p.writing.result with
  | ok =>
    rw [hResult] at h
    cases h
  | error => rfl

theorem writePlain_of_ok {pieces : List Piece}
    (h : ∀ p ∈ pieces, (writePlain [p]).1 = .ok ()) :
    writePlain pieces = (.ok (), pieces.flatMap fun p => (writePlain [p]).2) := by
  induction pieces with
  | nil => rfl
  | cons p rest ih =>
    rw [List.forall_mem_cons] at h
    rw [writePlain_cons_of_ok h.1, ih h.2, List.flatMap_cons]

theorem writePlain_of_error {before : List Piece}
    (h : ∀ q ∈ before, (writePlain [q]).1 = .ok ()) {p : Piece} {error : FormatFailure}
    (hFails : (writePlain [p]).1 = .error error) (after : List Piece) :
    writePlain (before ++ p :: after) =
      (.error error, (before ++ [p]).flatMap fun q => (writePlain [q]).2) := by
  induction before with
  | nil =>
    rw [List.nil_append, writePlain_cons_of_error hFails]
    simp
  | cons q before ih =>
    rw [List.forall_mem_cons] at h
    rw [List.cons_append, writePlain_cons_of_ok h.1, ih h.2, List.cons_append, List.flatMap_cons]

/-- A value that writes itself writes the pieces that it is made of. -/
theorem writePlain_custom (inner : List Piece) :
    writePlain [.value (.custom inner)] = writePlain inner := by
  rw [writePlain_eq, writePlain_eq, writingAll, writingAll, Piece.writing, Value.writing,
    Writing.andThen_done]

/-- The buffer ends as the plain writer does, with the escaped text behind what it held. -/
theorem writeAllTo_buffer (pieces : List Piece) (b : Buffer) :
    (Piece.writeAllTo Buffer.write pieces b).1 = (writePlain pieces).1 ∧
      (Piece.writeAllTo Buffer.write pieces b).2.text =
        b.text ++ escape (writePlain pieces).2 := by
  rw [writePlain_eq, Piece.writeAllTo_eq]
  exact ⟨rfl, b.text_writeAll (writingAll pieces).chunks⟩

end Piece

/-! ## Closing delimiters -/

/-- The text holds delimiters in pairs only. So where it stands in an argument it does not close
it, and the first unpaired delimiter is the one behind it. -/
structure StaysOpen (t : Text) : Prop where
  even_of_hasRun : ∀ n, HasRun n t → 2 ∣ n
  cutSingle_eq : ∀ after, after.head? ≠ some delimiter →
    cutSingle delimiter (t ++ delimiter :: after) = some (t, after)

theorem staysOpen_escape (v : Text) : StaysOpen (escape v) where
  even_of_hasRun := escape_unescape_eq_iff.mp (congrArg escape (unescape_escape v))
  cutSingle_eq _ hAfter := cutSingle_escape_append v hAfter

/-- What stands behind the name of an argument, up to the closing delimiter. -/
def Argument.body (a : Argument) : Text :=
  if a.isError then errorMarker :: '(' :: a.written ++ [')'] else nameSeparator :: a.written

theorem Answer.staysOpen_body (name : Text) (answer : Answer) :
    StaysOpen (answer.argument name).body := by
  cases hResult : answer.result with
  | ok =>
    have hBody : (answer.argument name).body = escape (nameSeparator :: answer.text) := by
      simp [Answer.argument, Argument.body, hResult, escape, nameSeparator, delimiter]
    rw [hBody]
    exact staysOpen_escape _
  | error error =>
    have hBody : (answer.argument name).body =
        escape (errorMarker :: '(' :: error.message ++ [')']) := by
      simp [Answer.argument, Argument.body, hResult, escape_append, escape, errorMarker, delimiter]
    rw [hBody]
    exact staysOpen_escape _

/-- Whatever is written to a buffer, in whatever pieces and values in values, ends in the same way
as it does for a plain writer, and leaves the escaped form of what the plain writer holds behind the
text that was there. That is the text of all pieces, or of those up to the first that fails and of
this one up to where it fails, and values in values are no different. So neither what pieces write,
nor what a resolver writes, nor what is written for a whole argument closes the argument before it
ends. -/
theorem writing_escapes_plain_text (b : Buffer) (pieces : List Piece) :
    let plain := Piece.writePlain pieces
    let x := Piece.writeAllTo Buffer.write pieces b
    (x.1 = plain.1 ∧ x.2.text = b.text ++ escape plain.2 ∧ StaysOpen (escape plain.2)) ∧
    (∀ (other : Buffer) (others : List Piece), other.text = b.text →
      (Piece.writePlain others).2 = plain.2 →
        (Piece.writeAllTo Buffer.write others other).2.text = x.2.text) ∧
    ((∀ p ∈ pieces, (Piece.writePlain [p]).1 = .ok ()) →
      plain = (.ok (), pieces.flatMap fun p => (Piece.writePlain [p]).2)) ∧
    (∀ before p after error, pieces = before ++ p :: after →
      (∀ q ∈ before, (Piece.writePlain [q]).1 = .ok ()) →
        (Piece.writePlain [p]).1 = .error error →
          plain = (.error error, (before ++ [p]).flatMap fun q => (Piece.writePlain [q]).2)) ∧
    (∀ inner, Piece.writePlain [.value (.custom inner)] = Piece.writePlain inner) ∧
    (∀ (r : Resolver σ) (index : Nat) (name : Text) (s : σ),
      (r.resolveInto b index name s).buffer.text = b.text ++ escape (r index name s).1.text ∧
      StaysOpen (escape (r index name s).1.text) ∧
      ∀ v : Value, ((Resolver.constant v).resolveInto b index name s).buffer =
        (v.writeTo Buffer.write b).2) ∧
    ∀ (name : Text) (answer : Answer),
      (b.writeArgument name answer).text =
        b.text ++ delimiter :: name ++ (answer.argument name).body ++ [delimiter] ∧
      StaysOpen (answer.argument name).body := by
  intro plain x
  obtain ⟨hResult, hText⟩ := Piece.writeAllTo_buffer pieces b
  refine ⟨⟨hResult, hText, staysOpen_escape plain.2⟩, ?_, Piece.writePlain_of_ok, ?_,
    Piece.writePlain_custom, ?_, ?_⟩
  · intro other others hHeld hPlain
    rw [(Piece.writeAllTo_buffer others other).2, hHeld, hPlain, ← hText]
  · rintro before p after error rfl hBefore hFails
    exact Piece.writePlain_of_error hBefore hFails after
  · intro r index name s
    refine ⟨r.text_resolveInto b index name s, staysOpen_escape _, fun v => ?_⟩
    rw [v.writeTo_eq]
    rfl
  · intro name answer
    have hName : (answer.argument name).name = name := by
      unfold Answer.argument
      split <;> rfl
    refine ⟨?_, answer.staysOpen_body name⟩
    rw [b.text_writeArgument]
    simp [Argument.source, Argument.body, hName]

/-- The inner value fails behind a delimiter, and the last piece is not written any more. -/
example :
    let inner : Value := .custom [.char '`', .fail, .text ['x']]
    let x := Piece.writeAllTo Buffer.write [.text "a`".toList, .value (.bool true), .value inner,
      .text ['z']] (.ofText "`n:".toList)
    x.1 = .error .failed ∧ x.2.text = "`n:a``true``".toList := by
  decide +kernel

end LogMarkup
