import LogMarkup.Proofs.Expansion.Prescanned
import LogMarkup.Proofs.Expansion.Room
import LogMarkup.Proofs.Text.Slice

/-!
# Resolvers behind resolvers

A resolver behind another is asked for what the other reports as missing. By then the other may
have written something, and asked resolvers of its own that wrote as well. All of that is behind
the mark that was set when the first resolver was asked, so cutting the text back to the mark takes
it back, however the resolvers are nested. Only an argument reported as missing is passed on,
whatever index and name the report is about.

* `Resolver.resolveInto`: what a resolver leaves behind when it writes at the end of a buffer.
* `Buffer.truncate`, `Resolver.resolveInto_orElse`: a choice sets a mark and cuts back to it.
* `Resolver.orElse_assoc`, `Resolver.resolveInto_noArguments_orElse`: the laws of choice.
* `Resolver.traced`, `Resolver.traced_orElse`: which of several resolvers are asked.
* `orElse_chooses_for_missing`: what is written, returned and asked, for any resolvers.
-/

namespace LogMarkup

variable {σ ι : Type}

/-! ## Marks -/

theorem Buffer.size_eq (b : Buffer) : b.size = byteLength b.text := by
  rw [Buffer.size, b.content_eq, utf8ByteSize_ofList]

/-- Cuts the text back to a number of bytes. The room stays. -/
def Buffer.truncate (b : Buffer) (size : Nat) : Buffer :=
  { b with content := String.ofList (splitAtByte b.text size).1 }

/-- Cutting back to the size of a buffer takes back what was written since. -/
theorem Buffer.truncate_size {b mark : Buffer} {t : Text} (h : b.text = mark.text ++ t) :
    b.truncate mark.size = b.rewindTo mark := by
  rw [truncate, rewindTo, mark.size_eq, h, splitAtByte_byteLength, mark.content_eq]

theorem Buffer.rewindTo_self (b : Buffer) : b.rewindTo b = b := rfl

theorem Buffer.attemptAll_append (b : Buffer) (first second : List (List Chunk)) :
    b.attemptAll (first ++ second) = (b.attemptAll first).attemptAll second :=
  List.foldl_append

theorem Buffer.content_attemptAll (b : Buffer) (attempts : List (List Chunk)) :
    (b.attemptAll attempts).content = b.content := by
  rw [(b.attemptAll attempts).content_eq, b.text_attemptAll, ← b.content_eq]

/-! ## Asking a resolver -/

/-- Is the argument reported as missing, under any index and name? -/
def reportsMissing : Except ResolveError Unit → Bool
  | .ok _ => false
  | .error error => error.isMissing

theorem reportsMissing_iff {result : Except ResolveError Unit} :
    reportsMissing result = true ↔ ∃ index name, result = .error (.missing index name) := by
  cases result with
  | ok => simp [reportsMissing]
  | error error => cases error <;> simp [reportsMissing, ResolveError.isMissing]

theorem reportsMissing_eq_false_iff {result : Except ResolveError Unit} :
    reportsMissing result = false ↔ ∀ index name, result ≠ .error (.missing index name) := by
  rw [Bool.eq_false_iff, Ne, reportsMissing_iff]
  simp

/-- What is left behind when a resolver was asked. -/
structure Resolved (σ : Type) where
  result : Except ResolveError Unit
  buffer : Buffer
  state : σ

namespace Answer

/-- The buffer after the writing of an answer: the attempts that were taken back, and the chunks
that stand. -/
def writeInto (answer : Answer) (b : Buffer) : Buffer :=
  (b.attemptAll answer.attempts).writeAll answer.writing.chunks

theorem text_writeInto (answer : Answer) (b : Buffer) :
    (answer.writeInto b).text = b.text ++ escape answer.text := by
  rw [writeInto, Buffer.text_writeAll, Buffer.text_attemptAll]
  rfl

/-- Attempts that were taken back before are attempts at the buffer. -/
theorem writeInto_after (answer : Answer) (attempts : List (List Chunk)) (b : Buffer) :
    (answer.after attempts).writeInto b = answer.writeInto (b.attemptAll attempts) := by
  rw [writeInto, after, Buffer.attemptAll_append]
  rfl

theorem after_after (answer : Answer) (first second : List (List Chunk)) :
    (answer.after second).after first = answer.after (first ++ second) := by
  rw [after, after, after, List.append_assoc]

end Answer

/-- Asks a resolver, which writes at the end of a buffer. -/
def Resolver.resolveInto (r : Resolver σ) (b : Buffer) (index : Nat) (name : Text) (s : σ) :
    Resolved σ :=
  let (answer, s) := r index name s
  ⟨answer.result, answer.writeInto b, s⟩

theorem Resolver.resolveInto_eq (r : Resolver σ) (b : Buffer) (index : Nat) (name : Text) (s : σ) :
    r.resolveInto b index name s =
      ⟨(r index name s).1.result, (r index name s).1.writeInto b, (r index name s).2⟩ := rfl

theorem Resolver.text_resolveInto (r : Resolver σ) (b : Buffer) (index : Nat) (name : Text)
    (s : σ) :
    (r.resolveInto b index name s).buffer.text =
      b.text ++ escape (r index name s).1.text :=
  (r index name s).1.text_writeInto b

/-- A placeholder is expanded by asking the resolver behind the opening of its token. -/
theorem Progress.expandPlaceholder_eq (x : Progress σ) (r : Resolver σ) (p : Placeholder) :
    x.expandPlaceholder r p =
      let named := (x.buffer.push [delimiter]).push p.name
      let resolved := r.resolveInto (named.push [nameSeparator]) p.index p.name x.state
      match resolved.result with
      | .ok _ => ⟨resolved.buffer.push [delimiter], resolved.state, x.failures⟩
      | .error error =>
        let marked := ((resolved.buffer.rewindTo named).push [errorMarker]).push ['(']
        ⟨((marked.pushEscaped error.message).push [')']).push [delimiter], resolved.state,
          x.failures ++ [⟨p.start, p.index, p.name, error⟩]⟩ := by
  unfold expandPlaceholder Resolver.resolveInto Buffer.writeArgument
  cases hResult : (r p.index p.name x.state).1.result with
  | ok => simp [hResult, Answer.writeInto]
  | error error => simp [hResult, Answer.writeInto]

namespace Resolver

/-! ## Choice -/

variable (first second : Resolver σ) (index : Nat) (name : Text) (s : σ)

variable {first index name s} in
theorem orElse_of_missing (h : reportsMissing (first index name s).1.result = true) :
    first.orElse second index name s =
      ((second index name (first index name s).2).1.after
          ((first index name s).1.attempts ++ [(first index name s).1.writing.chunks]),
        (second index name (first index name s).2).2) := by
  unfold orElse
  generalize first index name s = asked at h
  obtain ⟨⟨attempts, chunks, result⟩, s'⟩ := asked
  obtain ⟨i, n, hResult⟩ := reportsMissing_iff.mp h
  obtain rfl : result = .error (.missing i n) := hResult
  rfl

variable {first index name s} in
theorem orElse_of_not_missing (h : reportsMissing (first index name s).1.result = false) :
    first.orElse second index name s = first index name s := by
  unfold orElse
  generalize first index name s = asked at h
  obtain ⟨⟨attempts, chunks, result⟩, s'⟩ := asked
  cases result with
  | ok => rfl
  | error error =>
    cases error with
    | missing i n => cases h
    | format => rfl
    | custom message => rfl

theorem orElse_assoc (third : Resolver σ) :
    (first.orElse second).orElse third = first.orElse (second.orElse third) := by
  funext index name s
  cases hFirst : reportsMissing (first index name s).1.result with
  | false =>
    have hBoth : reportsMissing (first.orElse second index name s).1.result = false := by
      rwa [orElse_of_not_missing second hFirst]
    rw [orElse_of_not_missing third hBoth, orElse_of_not_missing second hFirst,
      orElse_of_not_missing (second.orElse third) hFirst]
  | true =>
    rw [orElse_of_missing (second.orElse third) hFirst]
    -- The outer choice sees what the second resolver reports.
    have hInner := orElse_of_missing second hFirst
    cases hSecond : reportsMissing (second index name (first index name s).2).1.result with
    | false =>
      have hBoth : reportsMissing (first.orElse second index name s).1.result = false := by
        rw [hInner]
        exact hSecond
      rw [orElse_of_not_missing third hBoth, hInner, orElse_of_not_missing third hSecond]
    | true =>
      have hBoth : reportsMissing (first.orElse second index name s).1.result = true := by
        rw [hInner]
        exact hSecond
      rw [orElse_of_missing third hBoth, hInner, orElse_of_missing third hSecond,
        Answer.after_after]
      simp only [Answer.after, List.append_assoc]

/-- A choice remembers the size of the buffer before it asks the first resolver, and cuts the text
back to it before it asks the second. -/
theorem resolveInto_orElse (b : Buffer) :
    (first.orElse second).resolveInto b index name s =
      if reportsMissing (first.resolveInto b index name s).result then
        second.resolveInto ((first.resolveInto b index name s).buffer.truncate b.size) index name
          (first.resolveInto b index name s).state
      else first.resolveInto b index name s := by
  cases hMissing : reportsMissing (first index name s).1.result with
  | false =>
    have hResolved : reportsMissing (first.resolveInto b index name s).result = false := hMissing
    rw [hResolved, if_neg Bool.false_ne_true, resolveInto_eq, orElse_of_not_missing second hMissing]
    rfl
  | true =>
    have hResolved : reportsMissing (first.resolveInto b index name s).result = true := hMissing
    have hBuffer : (first.resolveInto b index name s).buffer.truncate b.size = b.attemptAll
        ((first index name s).1.attempts ++ [(first index name s).1.writing.chunks]) := by
      rw [Buffer.truncate_size (first.text_resolveInto b index name s), Buffer.attemptAll_append,
        Buffer.rewindTo, ← b.content_attemptAll (first index name s).1.attempts]
      rfl
    rw [hResolved, if_pos rfl, resolveInto_eq, orElse_of_missing second hMissing, hBuffer,
      Answer.writeInto_after]
    rfl

variable {first index name s} in
theorem resolveInto_orElse_of_missing {b : Buffer}
    (h : reportsMissing (first.resolveInto b index name s).result = true) :
    (first.orElse second).resolveInto b index name s =
      second.resolveInto ((first.resolveInto b index name s).buffer.truncate b.size) index name
        (first.resolveInto b index name s).state := by
  rw [resolveInto_orElse, h, if_pos rfl]

variable {first index name s} in
theorem resolveInto_orElse_of_not_missing {b : Buffer}
    (h : reportsMissing (first.resolveInto b index name s).result = false) :
    (first.orElse second).resolveInto b index name s = first.resolveInto b index name s := by
  rw [resolveInto_orElse, h, if_neg Bool.false_ne_true]

/-- What the second resolver writes stands right behind what was there before the first one. -/
theorem text_resolveInto_truncate (b : Buffer) (s' : σ) :
    (second.resolveInto ((first.resolveInto b index name s).buffer.truncate b.size) index name
        s').buffer.text = (second.resolveInto b index name s').buffer.text := by
  rw [Buffer.truncate_size (first.text_resolveInto b index name s), text_resolveInto,
    text_resolveInto, Buffer.text_rewindTo]

/-- Nothing is written in front of what is missing from the start. -/
theorem resolveInto_noArguments_orElse (r : Resolver σ) (b : Buffer) :
    (noArguments.orElse r).resolveInto b index name s = r.resolveInto b index name s := by
  have hMissing : reportsMissing (noArguments.resolveInto b index name s).result = true := rfl
  have hEmpty : (noArguments.resolveInto b index name s).buffer = b := rfl
  rw [resolveInto_orElse_of_missing r hMissing, hEmpty,
    Buffer.truncate_size (List.append_nil b.text).symm, Buffer.rewindTo_self]
  rfl

/-! ## Calls -/

/-- The resolver, which also takes down under its label each argument that it is asked for. -/
def traced (r : Resolver σ) (label : ι) : Resolver (σ × List (ι × Request)) :=
  fun index name (s, calls) =>
    let (answer, s) := r index name s
    (answer, s, calls ++ [(label, ⟨index, name⟩)])

/-- Tracing changes nothing else. The second resolver is called only for what is missing. -/
theorem traced_orElse (i j : ι) (calls : List (ι × Request)) :
    (first.traced i).orElse (second.traced j) index name (s, calls) =
      ((first.orElse second index name s).1, (first.orElse second index name s).2,
        calls ++ (i, ⟨index, name⟩) ::
          if reportsMissing (first index name s).1.result then [(j, ⟨index, name⟩)] else []) := by
  cases hMissing : reportsMissing (first index name s).1.result with
  | false =>
    have hTraced : reportsMissing ((first.traced i) index name (s, calls)).1.result = false :=
      hMissing
    rw [orElse_of_not_missing _ hTraced, orElse_of_not_missing second hMissing]
    rfl
  | true =>
    have hTraced : reportsMissing ((first.traced i) index name (s, calls)).1.result = true :=
      hMissing
    rw [orElse_of_missing _ hTraced, orElse_of_missing second hMissing]
    simp [traced]

theorem state_traced_orElse (i j : ι) (calls : List (ι × Request)) (b : Buffer) :
    (((first.traced i).orElse (second.traced j)).resolveInto b index name (s, calls)).state =
      (((first.orElse second).resolveInto b index name s).state,
        calls ++ (i, ⟨index, name⟩) ::
          if reportsMissing (first.resolveInto b index name s).result then [(j, ⟨index, name⟩)]
          else []) := by
  rw [resolveInto_eq, traced_orElse]
  rfl

/-! ## Defaults -/

theorem reportsMissing_ofValue (v : Value) : reportsMissing (Answer.ofValue v).result = false := by
  change reportsMissing (v.writing.result.mapError fun _ => ResolveError.format) = false
  cases v.writing.result <;> rfl

theorem reportsMissing_withDefault (r : Resolver σ) (v : Value) (b : Buffer) :
    reportsMissing ((r.withDefault v).resolveInto b index name s).result = false := by
  rw [withDefault, resolveInto_orElse]
  cases hMissing : reportsMissing (r.resolveInto b index name s).result with
  | false => exact hMissing
  | true => exact reportsMissing_ofValue v

theorem reportsMissing_positional_iff {values : List Value} (b : Buffer) :
    reportsMissing ((positional values).resolveInto b index name s).result = true ↔
      values.length ≤ index := by
  change reportsMissing (Answer.ofFound index name values[index]?).result = true ↔ _
  rw [← List.getElem?_eq_none_iff]
  cases values[index]? with
  | none => exact iff_of_true rfl rfl
  | some v => simp [Answer.ofFound, reportsMissing_ofValue]

end Resolver

/-- Choice is associative and has the resolver without arguments as its unit on the left. If the
first resolver reports the argument as missing, the second one gives the result, and behind what
was in the buffer there is only what the second one writes. If the first one ends in any other way,
the second one is not called. So an argument is never missing behind a default, which is written
for the arguments that are missing in front of it. -/
theorem orElse_chooses_for_missing (a b c : Resolver σ) (index : Nat) (name : Text) (s : σ)
    (buffer : Buffer) (i j k : ι) (calls : List (ι × Request)) :
    let ask := fun r : Resolver σ => r.resolveInto buffer index name s
    let trace := fun r : Resolver (σ × List (ι × Request)) =>
      r.resolveInto buffer index name (s, calls)
    let request : Request := ⟨index, name⟩
    (ask ((a.orElse b).orElse c) = ask (a.orElse (b.orElse c)) ∧
      trace (((a.traced i).orElse (b.traced j)).orElse (c.traced k)) =
        trace ((a.traced i).orElse ((b.traced j).orElse (c.traced k)))) ∧
    ask (Resolver.noArguments.orElse b) = ask b ∧
    (∀ otherIndex otherName, (ask a).result = .error (.missing otherIndex otherName) →
      let second := b.resolveInto buffer index name (ask a).state
      (ask (a.orElse b)).result = second.result ∧
      (ask (a.orElse b)).buffer.text = second.buffer.text ∧
      second.buffer.text = buffer.text ++ escape (b index name (ask a).state).1.text ∧
      (trace ((a.traced i).orElse (b.traced j))).state =
        (second.state, calls ++ [(i, request), (j, request)])) ∧
    ((∀ otherIndex otherName, (ask a).result ≠ .error (.missing otherIndex otherName)) →
      ask (a.orElse b) = ask a ∧
      (∀ v, ask (a.withDefault v) = ask a) ∧
      (trace ((a.traced i).orElse (b.traced j))).state =
        ((ask a).state, calls ++ [(i, request)])) ∧
    (∀ v otherIndex otherName,
      (ask (a.withDefault v)).result ≠ .error (.missing otherIndex otherName)) ∧
    ∀ (values : List Value) (v : Value),
      let found := ask ((Resolver.positional values).withDefault v)
      (∀ otherIndex otherName, found.result ≠ .error (.missing otherIndex otherName)) ∧
      (index < values.length → found = ask (Resolver.positional values)) ∧
      (values.length ≤ index → found.result = (ask (Resolver.constant v)).result ∧
        found.buffer.text = (ask (Resolver.constant v)).buffer.text) := by
  intro ask trace request
  have hDefault : ∀ (r : Resolver σ) v otherIndex otherName,
      (ask (r.withDefault v)).result ≠ .error (.missing otherIndex otherName) := fun r v =>
    reportsMissing_eq_false_iff.mp (Resolver.reportsMissing_withDefault index name s r v buffer)
  refine ⟨⟨?_, ?_⟩, ?_, ?_, ?_, hDefault a, ?_⟩
  · rw [Resolver.orElse_assoc]
  · rw [Resolver.orElse_assoc]
  · exact Resolver.resolveInto_noArguments_orElse index name s b buffer
  · intro otherIndex otherName hResult second
    have hMissing : reportsMissing (ask a).result = true :=
      reportsMissing_iff.mpr ⟨otherIndex, otherName, hResult⟩
    have hChoice : ask (a.orElse b) = _ := Resolver.resolveInto_orElse_of_missing b hMissing
    have hTrace : (trace ((a.traced i).orElse (b.traced j))).state = _ :=
      Resolver.state_traced_orElse a b index name s i j calls buffer
    refine ⟨?_, ?_, b.text_resolveInto buffer index name (ask a).state, ?_⟩
    · rw [hChoice]
      rfl
    · rw [hChoice]
      exact Resolver.text_resolveInto_truncate a b index name s buffer (ask a).state
    · rw [hTrace, if_pos hMissing]
      change ((ask (a.orElse b)).state, _) = _
      rw [hChoice]
      rfl
  · intro hOther
    have hNot : reportsMissing (ask a).result = false := reportsMissing_eq_false_iff.mpr hOther
    have hChoice : ∀ r, ask (a.orElse r) = ask a := fun r =>
      Resolver.resolveInto_orElse_of_not_missing r hNot
    have hTrace : (trace ((a.traced i).orElse (b.traced j))).state = _ :=
      Resolver.state_traced_orElse a b index name s i j calls buffer
    refine ⟨hChoice b, fun v => hChoice (.constant v), ?_⟩
    rw [hTrace, if_neg (by rw [hNot]; exact Bool.false_ne_true)]
    change ((ask (a.orElse b)).state, _) = _
    rw [hChoice]
  · intro values v found
    have hPositional : reportsMissing (ask (.positional values)).result = true ↔
        values.length ≤ index := Resolver.reportsMissing_positional_iff index name s buffer
    refine ⟨hDefault (.positional values) v, ?_, ?_⟩
    · intro hIndex
      have hNot := Bool.eq_false_iff.mpr (mt hPositional.mp (Nat.not_le.mpr hIndex))
      exact Resolver.resolveInto_orElse_of_not_missing (.constant v) hNot
    · intro hIndex
      have hFound : found = _ :=
        Resolver.resolveInto_orElse_of_missing (.constant v) (hPositional.mpr hIndex)
      rw [hFound]
      exact ⟨rfl, Resolver.text_resolveInto_truncate _ _ index name s buffer _⟩

/-- The first resolver gives up half way, and reports another argument than the one it was asked
for. -/
example :
    let half : Resolver Unit := .answering fun _ _ =>
      .direct ⟨[.text "half `".toList], .error (.missing 7 "other".toList)⟩
    let x := ((half.orElse half).withDefault (.text "`".toList)).resolveInto
      (.ofText "`a:".toList) 0 ['a'] ()
    x.result = .ok () ∧ x.buffer.text = "`a:``".toList := by
  decide +kernel

end LogMarkup
