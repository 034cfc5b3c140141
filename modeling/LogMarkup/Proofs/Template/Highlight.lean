import LogMarkup.Template.Highlight
import LogMarkup.Proofs.Template.Scanning
import LogMarkup.Proofs.Text.Slice

/-!
# Where highlighting fails

The line with an error is cut out of the template, and the text in front of the range and the
range itself are cut out of the line. For errors that scanning reports the first two cuts always
succeed. The last one fails if the range is past the end of the line, and the only character of a
template that can be reported and is no part of a line is a line break in an explicit index.

* `SyntaxError.template_eq`, `SyntaxError.slice?_line`: the place of the line.
* `SyntaxError.slice?_lineBefore`, `SyntaxError.slice?_range`: the cuts of the line.
* `SyntaxError.highlight_eq_slices`: highlighting in terms of the cuts.
* `Placeholder.Flaw.exists_offending`: the character that a reported error covers.
* `highlight_eq_none_iff`: the reported errors that are not highlighted.
-/

namespace LogMarkup

namespace SyntaxError

/-! ## The line -/

theorem sides_append (e : SyntaxError) : e.sides.1 ++ e.sides.2 = e.template :=
  splitAtByte_append e.template e.rangeStart

/-- The lines before that of the error, with their line breaks. -/
def linesBefore (e : SyntaxError) : Text := (e.sides.1.reverse.dropWhile (!isLineBreak ·)).reverse

/-- The line break at the end of the line, and the lines after it. -/
def linesAfter (e : SyntaxError) : Text := e.sides.2.dropWhile (!isLineBreak ·)

/-- The byte offset that the line starts at. -/
def lineStart (e : SyntaxError) : Nat := byteLength e.linesBefore

theorem linesBefore_append (e : SyntaxError) : e.linesBefore ++ e.lineBefore = e.sides.1 := by
  rw [linesBefore, lineBefore, ← List.reverse_append, List.takeWhile_append_dropWhile,
    List.reverse_reverse]

theorem lineAfter_append (e : SyntaxError) : e.lineAfter ++ e.linesAfter = e.sides.2 :=
  List.takeWhile_append_dropWhile

theorem template_eq (e : SyntaxError) : e.template = e.linesBefore ++ e.line ++ e.linesAfter := by
  rw [← e.sides_append, ← e.linesBefore_append, ← e.lineAfter_append, line]
  simp only [List.append_assoc]

theorem slice?_line (e : SyntaxError) :
    slice? e.template e.lineStart (e.lineStart + byteLength e.line) = some e.line :=
  slice?_eq_some_iff.mpr ⟨_, _, e.template_eq, rfl, rfl⟩

theorem lineStart_add (e : SyntaxError) :
    e.lineStart + byteLength e.lineBefore = byteLength e.sides.1 := by
  rw [← e.linesBefore_append, byteLength_append, lineStart]

/-! ## The range in the line -/

/-- The offset of the range in the line, if it does not start inside a character. -/
theorem rangeStart_sub {e : SyntaxError} (h : IsBoundary e.template e.rangeStart) :
    e.rangeStart - e.lineStart = byteLength e.lineBefore := by
  have hSides : byteLength e.sides.1 = e.rangeStart := h
  have hLine := e.lineStart_add
  omega

theorem isBoundary_line_iff (e : SyntaxError) :
    IsBoundary e.line (e.rangeStart - e.lineStart) ↔ IsBoundary e.template e.rangeStart := by
  constructor
  · intro h
    obtain ⟨before, after, hLine, hBefore⟩ := isBoundary_iff.mp h
    -- The range may start inside a character, so the text in front of it may be shorter.
    have hSides : byteLength e.sides.1 ≤ e.rangeStart := byteLength_splitAtByte_le _ _
    have hStart := e.lineStart_add
    refine isBoundary_iff.mpr ⟨e.linesBefore ++ before, after ++ e.linesAfter, ?_, ?_⟩
    · rw [e.template_eq, hLine]
      simp only [List.append_assoc]
    · rw [byteLength_append, hBefore, ← lineStart]
      omega
  · intro h
    exact isBoundary_iff.mpr ⟨e.lineBefore, e.lineAfter, rfl, (rangeStart_sub h).symm⟩

theorem slice?_lineBefore {e : SyntaxError} (h : IsBoundary e.template e.rangeStart) :
    slice? e.line 0 (e.rangeStart - e.lineStart) = some e.lineBefore := by
  refine slice?_eq_some_iff.mpr ⟨[], e.lineAfter, rfl, rfl, ?_⟩
  rw [rangeStart_sub h, Nat.zero_add]

/-- What the range is in the line. A line break is not in it. -/
theorem slice?_range {e : SyntaxError} (h : IsBoundary e.template e.rangeStart) :
    slice? e.line (e.rangeStart - e.lineStart) (e.rangeEnd - e.lineStart) =
      match e.covered with
      | none => some []
      | some c => if isLineBreak c then none else some [c] := by
  have hStart := e.lineStart_add
  have hSides : byteLength e.sides.1 = e.rangeStart := h
  have hCovered : e.covered = e.sides.2.head? := if_pos h
  have hLine : e.line = e.lineBefore ++ e.sides.2.takeWhile (!isLineBreak ·) := rfl
  rw [rangeEnd, hCovered, hLine, rangeStart_sub h]
  cases hAfter : e.sides.2 with
  | nil =>
    refine slice?_eq_some_iff.mpr ⟨e.lineBefore, [], by simp, rfl, ?_⟩
    simp only [byteLength_nil, List.head?_nil, Option.elim_none]
    omega
  | cons c rest =>
    have hStop : e.rangeStart + c.utf8Size - e.lineStart =
        byteLength e.lineBefore + byteLength [c] := by
      rw [byteLength_cons, byteLength_nil]
      omega
    simp only [List.head?_cons, Option.elim_some, hStop]
    by_cases hc : isLineBreak c = true
    · have hEmpty : (c :: rest).takeWhile (!isLineBreak ·) = [] := by simp [hc]
      rw [if_pos hc, hEmpty, List.append_nil]
      -- The line ends at the range, so there is no room for the line break.
      refine slice?_eq_none_of_lt ?_
      have hSize := c.utf8Size_pos
      rw [byteLength_cons]
      omega
    · have hMore : (c :: rest).takeWhile (!isLineBreak ·) =
          [c] ++ rest.takeWhile (!isLineBreak ·) := by simp [hc]
      rw [if_neg hc, hMore, ← List.append_assoc]
      exact slice?_eq_some_iff.mpr ⟨e.lineBefore, _, rfl, rfl, rfl⟩

/-- Highlighting is cutting the line at the byte offsets of the range. It fails where there is no
such cut. -/
theorem highlight_eq_slices (e : SyntaxError) :
    e.highlight =
      if displayWidth e.line > widestLine then some []
      else do
        let before ← slice? e.line 0 (e.rangeStart - e.lineStart)
        let marked ← slice? e.line (e.rangeStart - e.lineStart) (e.rangeEnd - e.lineStart)
        return "  ".toList ++ e.line ++ "\n  ".toList ++
          List.replicate (displayWidth before) ' ' ++
          List.replicate (max 1 (displayWidth marked)) '^' ++ ['\n'] := by
  unfold highlight
  split
  · rfl
  · by_cases h : IsBoundary e.template e.rangeStart
    · rw [slice?_lineBefore h, slice?_range h, underlined, if_pos h]
      cases e.covered with
      | none => rfl
      | some c => by_cases hc : isLineBreak c = true <;> simp [hc]
    · have hNone : slice? e.line 0 (e.rangeStart - e.lineStart) = none :=
        slice?_eq_none_of_not_isBoundary (mt e.isBoundary_line_iff.mp h)
      rw [hNone, underlined, if_neg h]
      rfl

end SyntaxError

/-! ## Reported errors -/

theorem isLineBreak_eq_false_of_isDecimalDigit {c : Char} (h : isDecimalDigit c = true) :
    isLineBreak c = false := by
  rw [Bool.eq_false_iff]
  intro hBreak
  have hCases : c = '\n' ∨ c = '\r' := by simpa [isLineBreak] using hBreak
  rcases hCases with rfl | rfl
  · exact absurd h (by decide)
  · exact absurd h (by decide)

/-- A flaw of an explicit index is at a character of it, or at the delimiter behind it. -/
theorem IndexFlaw.exists_offending {digits : Text} {offset : Nat} {kind : SyntaxError.Kind}
    (h : IndexFlaw digits offset kind) (rest : Text) :
    kind ≠ .unterminatedArgument ∧ ∃ before c after,
      digits ++ delimiter :: rest = before ++ c :: after ∧ offset = byteLength before ∧
        (isLineBreak c = true → kind = .notADigit) := by
  cases h with
  | empty => exact ⟨by decide, [], delimiter, rest, rfl, rfl, fun h => absurd h (by decide)⟩
  | @outOfRange digits more hDigits hValue =>
    -- It is reported at the first digit, and there is one since the value is not zero.
    cases digits with
    | nil => exact absurd hValue (Nat.not_lt_zero _)
    | cons c digits =>
      have hc := isLineBreak_eq_false_of_isDecimalDigit (hDigits c List.mem_cons_self)
      refine ⟨by decide, [], c, digits ++ more ++ delimiter :: rest, rfl, rfl, ?_⟩
      rw [hc]
      intro hBreak
      cases hBreak
  | @notADigit digits more c hDigits hValue hc =>
    exact ⟨by decide, digits, c, more ++ delimiter :: rest, by simp, rfl, fun _ => rfl⟩

/-- A flaw is reported at a character, or behind an opening delimiter. Only a character that is
no digit where a digit is expected may be a line break. -/
theorem Placeholder.Flaw.exists_offending {front rest : Text} {position : Nat}
    {kind : SyntaxError.Kind} (h : Placeholder.Flaw (byteLength front) rest position kind) :
    ∃ before c after, front ++ delimiter :: rest = before ++ c :: after ∧
      position = byteLength before + (if kind = .unterminatedArgument then 1 else 0) ∧
      (isLineBreak c = true → kind = .notADigit) := by
  cases h with
  | unterminatedArgument hEnd =>
    exact ⟨front, delimiter, rest, rfl, rfl, fun h => absurd h (by decide)⟩
  | @emptyName rest hEnd =>
    refine ⟨front ++ [delimiter], nameSeparator, rest, by simp, ?_, fun h => absurd h (by decide)⟩
    rw [byteLength_append]
    rfl
  | @nameContainsSeparator name rest hBefore hEnd =>
    refine ⟨front ++ delimiter :: name, errorMarker, rest, by simp, ?_,
      fun h => absurd h (by decide)⟩
    rw [byteLength_append, byteLength_cons, ← Nat.add_assoc]
    rfl
  | @index name digits rest offset kind hName hDigits hFlaw =>
    obtain ⟨hKind, before, c, after, hText, rfl, hBreak⟩ := hFlaw.exists_offending rest
    refine ⟨front ++ delimiter :: name ++ nameSeparator :: before, c, after, ?_, ?_, hBreak⟩
    · simp only [hText, List.append_assoc, List.cons_append]
    · have hDelimiter : delimiter.utf8Size = 1 := rfl
      have hSeparator : nameSeparator.utf8Size = 1 := rfl
      simp only [byteLength_append, byteLength_cons, hDelimiter, hSeparator, if_neg hKind]
      omega

theorem SyntaxError.rangeStart_eq {e : SyntaxError} {before after : Text}
    (hTemplate : e.template = before ++ after)
    (hPosition : e.position =
      byteLength before + (if e.kind = .unterminatedArgument then 1 else 0)) :
    e.rangeStart = byteLength before := by
  obtain ⟨template, position, kind⟩ := e
  dsimp only at hTemplate hPosition
  rw [hTemplate, hPosition]
  cases kind <;> simp [rangeStart]

theorem exists_covered_of_scan {source : Text} {error : SyntaxError}
    (h : (scan source).2 = some error) :
    error.template = source ∧ IsBoundary error.template error.rangeStart ∧
      ∃ c, error.covered = some c ∧ (isLineBreak c = true → error.kind = .notADigit) := by
  obtain ⟨hTemplate, rest, hSource, -, hFlaw⟩ := flaw_of_scan h
  obtain ⟨before, c, after, hText, hPosition, hBreak⟩ := hFlaw.exists_offending
  have hSplit : error.template = before ++ c :: after := hTemplate.trans (hSource.trans hText)
  have hStart := SyntaxError.rangeStart_eq hSplit hPosition
  have hBoundary : IsBoundary error.template error.rangeStart :=
    isBoundary_iff.mpr ⟨before, c :: after, hSplit, hStart.symm⟩
  refine ⟨hTemplate, hBoundary, c, ?_, hBreak⟩
  rw [SyntaxError.covered, if_pos hBoundary, SyntaxError.sides, hSplit, hStart,
    splitAtByte_byteLength]
  rfl

/-- Of a reported error the line and the text in front of the range can be cut out. The range
cannot iff it is a line break in an explicit index, and then there is no highlighting unless the
line is too wide for it anyway. -/
theorem highlight_eq_none_iff {source : Text} {error : SyntaxError}
    (h : (scan source).2 = some error) :
    slice? source error.lineStart (error.lineStart + byteLength error.line) = some error.line ∧
      slice? error.line 0 (error.rangeStart - error.lineStart) = some error.lineBefore ∧
      (slice? error.line (error.rangeStart - error.lineStart)
          (error.rangeEnd - error.lineStart) = none ↔
        error.kind = .notADigit ∧ ∃ c ∈ error.covered, isLineBreak c = true) ∧
      (error.highlight = none ↔ displayWidth error.line ≤ widestLine ∧
        error.kind = .notADigit ∧ ∃ c ∈ error.covered, isLineBreak c = true) := by
  obtain ⟨hTemplate, hBoundary, c, hCovered, hBreak⟩ := exists_covered_of_scan h
  have hRange : slice? error.line (error.rangeStart - error.lineStart)
      (error.rangeEnd - error.lineStart) = none ↔
        error.kind = .notADigit ∧ ∃ c ∈ error.covered, isLineBreak c = true := by
    rw [SyntaxError.slice?_range hBoundary, hCovered]
    cases hc : isLineBreak c with
    | true => simp [hc, hBreak hc]
    | false => simp [hc]
  refine ⟨hTemplate ▸ error.slice?_line, SyntaxError.slice?_lineBefore hBoundary, hRange, ?_⟩
  rw [SyntaxError.highlight_eq_slices, SyntaxError.slice?_lineBefore hBoundary, ← hRange]
  by_cases hWide : displayWidth error.line > widestLine
  · rw [if_pos hWide]
    simp
    omega
  · rw [if_neg hWide]
    cases slice? error.line (error.rangeStart - error.lineStart)
      (error.rangeEnd - error.lineStart) <;> simp [Nat.not_lt.mp hWide]

/-- A character of several bytes and two columns in an explicit index is underlined. -/
theorem highlight_of_wide_character :
    let error : SyntaxError := ⟨"`a:1日本`".toList, 4, .notADigit⟩
    (scan error.template).2 = some error ∧ error.highlight ≠ none := by
  intro error
  have hScan : (scan error.template).2 = some error := by decide +kernel
  have hCovered : error.covered = some '日' := by decide +kernel
  obtain ⟨-, -, -, hNone⟩ := highlight_eq_none_iff hScan
  refine ⟨hScan, ?_⟩
  rw [Ne, hNone, hCovered]
  rintro ⟨-, -, c, hc, hBreak⟩
  cases hc
  exact absurd hBreak (by decide)

/-- A line break in an explicit index is behind the end of the line that is to be underlined. -/
theorem highlight_of_line_break :
    let error : SyntaxError := ⟨"`a:\n`".toList, 3, .notADigit⟩
    (scan error.template).2 = some error ∧
      slice? error.line (error.rangeStart - error.lineStart)
        (error.rangeEnd - error.lineStart) = none ∧
      error.highlight = none := by
  decide +kernel

end LogMarkup
