import LogMarkup.Proofs.Offsets.Escaping
import LogMarkup.Proofs.Offsets.Scanning

/-!
# Expanding by offsets

The texts and names that are written are cut out of the source between the offsets of the parts.
Behind the name separator a mark is set; when there is no value, the text is cut back to one byte
in front of the mark, where the separator starts. The message of an expansion with failures is cut
out of the buffer from where it ended before.

* `Progress.expandRange?_eq`, `Progress.expandRanges?_eq`: parts by their offsets.
* `expandSliced_eq`: scanning and expanding in one go.
* `Template.expandSliced_eq`: expanding a template that was scanned before.
-/

namespace LogMarkup

variable {σ : Type}

/-! ## Parts -/

namespace Progress

/-- Expands a placeholder by its offsets in the source. -/
def expandPlaceholderRange? (x : Progress σ) (source : Text) (r : Resolver σ)
    (p : PlaceholderRange) : Option (Progress σ) := do
  let name ← p.name? source
  let opened := ((x.buffer.push [delimiter]).push name).push [nameSeparator]
  let valueStart := opened.size
  let (answer, state) := r p.index name x.state
  let written ← opened.answerSliced answer
  match answer.result with
  | .ok _ => return ⟨written.push [delimiter], state, x.failures⟩
  | .error error =>
    let named ← written.truncate? (valueStart - 1)
    let marked ← ((named.push [errorMarker]).push ['(']).pushEscapedSliced error.message
    return ⟨(marked.push [')']).push [delimiter], state,
      x.failures ++ [⟨p.start, p.index, name, error⟩]⟩

/-- Expands a part by its offsets in the source. -/
def expandRange? (x : Progress σ) (source : Text) (r : Resolver σ) :
    PartRange → Option (Progress σ)
  | .literal start stop => do
    return { x with buffer := x.buffer.push (← slice? source start stop) }
  | .placeholder p => x.expandPlaceholderRange? source r p

/-- The outcome of an expansion without a syntax error that started at a byte offset. -/
def finishSliced (x : Progress σ) (start : Nat) : Option (Expanded σ) := do
  if x.failures = [] then return ⟨.ok (), x.buffer, x.state⟩
  else
    let message ← slice? x.buffer.text start x.buffer.size
    return ⟨.error (.unresolved ⟨message, x.failures⟩), x.buffer, x.state⟩

theorem expandPlaceholderRange?_eq (x : Progress σ) {source : Text} (r : Resolver σ)
    {p : Placeholder} (hName : p.range.name? source = some p.name) :
    x.expandPlaceholderRange? source r p.range = some (x.expandPlaceholder r p) := by
  rw [x.expandPlaceholder_eq r p]
  unfold expandPlaceholderRange? Resolver.resolveInto
  simp only [hName, Option.bind_eq_bind, Option.bind_some, Buffer.answerSliced_eq]
  generalize hAnswer : r p.range.index p.name x.state = answered
  obtain ⟨answer, state⟩ := answered
  have hAsked : r p.index p.name x.state = (answer, state) := hAnswer
  simp only [hAsked]
  cases hResult : answer.result with
  | ok => rfl
  | error error =>
    -- The name separator is the byte in front of the mark.
    have hMark : (((x.buffer.push [delimiter]).push p.name).push [nameSeparator]).size - 1 =
        ((x.buffer.push [delimiter]).push p.name).size := by
      rw [Buffer.size_eq, Buffer.text_push, byteLength_append, Buffer.size_eq]
      rfl
    have hWritten : (answer.writeInto
        (((x.buffer.push [delimiter]).push p.name).push [nameSeparator])).text =
          ((x.buffer.push [delimiter]).push p.name).text ++
            nameSeparator :: escape answer.text := by
      rw [Answer.text_writeInto, Buffer.text_push _ [nameSeparator], List.append_assoc]
      rfl
    simp only [hMark, Buffer.truncate?_size hWritten, Option.bind_some,
      Buffer.pushEscapedSliced_eq]
    rfl

theorem expandRange?_eq (x : Progress σ) {source : Text} (r : Resolver σ) {part : Part}
    {start : Nat} (h : part.StandsAt source start) :
    x.expandRange? source r (part.range start) = some (x.expandPart r part) := by
  cases part with
  | literal t =>
    rw [Part.range, expandRange?, h.slice?_literal]
    rfl
  | placeholder p => exact x.expandPlaceholderRange?_eq r h.name?_range

/-- Expands parts one after another, by their offsets. -/
def expandRanges? (x : Progress σ) (source : Text) (r : Resolver σ) (ranges : List PartRange) :
    Option (Progress σ) :=
  ranges.foldlM (fun x range => x.expandRange? source r range) x

theorem expandRanges?_eq (x : Progress σ) {source : Text} (r : Resolver σ) (before : Text)
    {automatic : Nat} {parts : List Part} (hTiled : Tiled (byteLength before) automatic parts)
    (hSource : source = before ++ sourceOf parts) :
    x.expandRanges? source r (rangesFrom (byteLength before) parts) =
      some (x.expandParts r parts) := by
  induction parts generalizing x before automatic with
  | nil => rfl
  | cons part rest ih =>
    have hTail := hTiled.tail
    rw [← byteLength_append] at hTail
    have hParts := ih (x.expandPart r part) _ hTail (by simp [hSource])
    rw [byteLength_append] at hParts
    rw [rangesFrom, expandRanges?, List.foldlM_cons, x.expandRange?_eq r (hTiled.standsAt hSource)]
    exact hParts

theorem finishSliced_eq (x : Progress σ) {before written : Text}
    (h : x.buffer.text = before ++ written) :
    x.finishSliced (byteLength before) = some (x.finish before) := by
  have hSlice : slice? x.buffer.text (byteLength before) x.buffer.size = some written := by
    refine slice?_eq_some before written [] (by simpa using h) rfl ?_
    rw [x.buffer.size_eq, h, byteLength_append]
  unfold finishSliced finish
  by_cases hFailures : x.failures = []
  · rw [if_pos hFailures, if_pos hFailures]
    rfl
  · rw [if_neg hFailures, if_neg hFailures, hSlice, h, List.drop_left]
    rfl

end Progress

/-! ## Whole templates -/

/-- Expands the next part. -/
def RangeScanner.expandRound (s : RangeScanner) (r : Resolver σ) (x : Progress σ) :
    Option (Round (RangeScanner × Progress σ) (Option SyntaxError × Progress σ)) := do
  match ← s.next with
  | none => return .ended (none, x)
  | some (.error error, _) => return .ended (some error, x)
  | some (.ok part, after) => return .goesOn (after, ← x.expandRange? s.source r part)

/-- Expands the parts as the scanner gives them, up to the first error. -/
def RangeScanner.expandAll (s : RangeScanner) (r : Resolver σ) (x : Progress σ) :
    Option (Option SyntaxError × Progress σ) :=
  rounds (·.1.left) (fun x => x.1.expandRound r x.2) (s, x)

/-- Scans and expands a template at the end of a buffer. -/
def expandSliced (buffer : Buffer) (template : Text) (r : Resolver σ) (state : σ) :
    Option (Expanded σ) := do
  match ← (RangeScanner.mk template 0 0).expandAll r (.start buffer state) with
  | (none, x) => x.finishSliced buffer.size
  | (some error, x) => return ⟨.error (.malformed error), x.buffer, x.state⟩

/-- Expands a template by the offsets of its parts. -/
def Template.expandSliced (t : Template) (buffer : Buffer) (r : Resolver σ) (state : σ) :
    Option (Expanded σ) := do
  (← (Progress.start buffer state).expandRanges? t.source r (rangesFrom 0 t.parts)).finishSliced
    buffer.size

/-- The result that an expansion under way leads to. -/
def RangeScanner.ExpandsTo (r : Resolver σ) (x : RangeScanner × Progress σ)
    (result : Option SyntaxError × Progress σ) : Prop :=
  ∃ s : Scanner, s.Placed ∧ x.1 = s.ranges ∧ result = s.expandAll r x.2

theorem RangeScanner.expandRound_leads {r : Resolver σ} {x : RangeScanner × Progress σ}
    {result : Option SyntaxError × Progress σ} (h : ExpandsTo r x result) :
    x.1.expandRound r x.2 = some (.ended result) ∨
      ∃ next, x.1.expandRound r x.2 = some (.goesOn next) ∧ next.1.left < x.1.left ∧
        ExpandsTo r next result := by
  obtain ⟨scanner, x⟩ := x
  obtain ⟨s, hPlaced, rfl, rfl⟩ := h
  unfold expandRound
  rw [hPlaced.next_ranges]
  dsimp only
  fun_cases Scanner.expandAll s r x with
  | case1 hNext =>
    left
    rw [hNext]
    rfl
  | case2 error s' hNext =>
    left
    rw [hNext]
    rfl
  | case3 part s' hNext =>
    right
    obtain ⟨hStands, -, hNextPlaced⟩ := hPlaced.next hNext
    refine ⟨(s'.ranges, x.expandPart r part), ?_, hPlaced.left_ranges_lt hNext, s', hNextPlaced,
      rfl, rfl⟩
    rw [hNext]
    change (x.expandRange? s.source r (part.range s.position)).bind _ = _
    rw [x.expandRange?_eq r hStands]
    rfl

theorem Scanner.Placed.expandAll_ranges {s : Scanner} (h : s.Placed) (r : Resolver σ)
    (x : Progress σ) : s.ranges.expandAll r x = some (s.expandAll r x) :=
  rounds_eq (fun _ _ => RangeScanner.expandRound_leads) ⟨s, h, rfl, rfl⟩

theorem expandSliced_eq (b : Buffer) (source : Text) (r : Resolver σ) (s : σ) :
    expandSliced b source r s = some (expandInto b source r s) := by
  have hAll : (RangeScanner.mk source 0 0).expandAll r (.start b s) =
      some ((Scanner.start source).expandAll r (.start b s)) :=
    (Scanner.placed_start source).expandAll_ranges r (.start b s)
  have hText := (Progress.start b s).text_expandParts r (Scanner.start source).run.1
  unfold expandSliced expandInto
  rw [hAll, Option.bind_eq_bind, Option.bind_some, Scanner.expandAll_eq]
  cases (Scanner.start source).run.2 with
  | none =>
    dsimp only
    rw [b.size_eq]
    exact Progress.finishSliced_eq _ hText
  | some error => rfl

theorem Template.expandSliced_eq (t : Template) (b : Buffer) (r : Resolver σ) (s : σ) :
    t.expandSliced b r s = some (t.expandInto b r s) := by
  obtain ⟨hTiled, hSource⟩ := scan_eq_ok_iff.mp t.scan_source
  have hParts : (Progress.start b s).expandRanges? t.source r (rangesFrom 0 t.parts) =
      some ((Progress.start b s).expandParts r t.parts) :=
    (Progress.start b s).expandRanges?_eq r [] hTiled hSource
  have hText := (Progress.start b s).text_expandParts r t.parts
  unfold expandSliced
  rw [hParts, Option.bind_eq_bind, Option.bind_some, b.size_eq]
  exact Progress.finishSliced_eq _ hText

end LogMarkup
