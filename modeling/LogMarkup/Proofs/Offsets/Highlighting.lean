import LogMarkup.Proofs.Offsets.Positions
import LogMarkup.Proofs.Template.Highlight

/-!
# Highlighting by offsets

The line with an error is found by searching the bytes before and behind an offset for line
breaks. The offset is open to everyone. If it is inside a character, the search meets the bytes of
that character first, and since these are no line breaks it ends where the lines of the text do.

* `lineStartAt_eq`, `lineStopAt_eq`: the two searches.
* `IsStretch`, `SyntaxError.isStretch_line`, `SyntaxError.within_line`: the line is the largest part
  of the template around the error that has no line break.
* `SyntaxError.lineSliced_eq`: the searches find it, wherever the error is.
* `SyntaxError.highlightSliced_eq`, `SyntaxError.highlightSliced_displayWidth`: highlighting by
  offsets, for any way to measure the width of a text.
* `SyntaxError.line_and_underline`: what is shown, and where.
-/

namespace LogMarkup

/-! ## Searching for line breaks -/

def isBreakByte (b : UInt8) : Bool := b = byteOf '\n' || b = byteOf '\r'

theorem finds_isBreakByte : Finds isBreakByte isLineBreak :=
  (finds_byteOf (d := '\n') rfl).or (finds_byteOf (d := '\r') rfl)

theorem isLineBreak_of_mem_takeWhile {t : Text} {c : Char}
    (h : c ∈ t.takeWhile (!isLineBreak ·)) : isLineBreak c = false := by
  have hAll := List.all_takeWhile (p := (!isLineBreak ·)) (l := t)
  simpa using List.all_eq_true.mp hAll c h

theorem dropWhile_isLineBreak_cases (t : Text) :
    t.dropWhile (!isLineBreak ·) = [] ∨
      ∃ c rest, isLineBreak c = true ∧ t.dropWhile (!isLineBreak ·) = c :: rest := by
  have hHead := List.head?_dropWhile_not (!isLineBreak ·) t
  cases hMore : t.dropWhile (!isLineBreak ·) with
  | nil => exact .inl rfl
  | cons c rest =>
    rw [hMore] at hHead
    exact .inr ⟨c, rest, by simpa using hHead, rfl⟩

/-- The place of the last byte with a property. -/
def lastPlace (p : UInt8 → Bool) (bytes : List UInt8) : Option Nat :=
  (bytes.reverse.findIdx? p).map (bytes.length - 1 - ·)

theorem lastPlace_append_of_forall {p : UInt8 → Bool} {back : List UInt8}
    (h : ∀ b ∈ back, p b = false) (front : List UInt8) :
    lastPlace p (front ++ back) = lastPlace p front := by
  have hBack : back.reverse.findIdx? p = none := by simpa using h
  rw [lastPlace, List.reverse_append, List.findIdx?_append, hBack, Option.none_or, Option.map_map,
    lastPlace]
  refine congrArg (Option.map · _) (funext fun place => ?_)
  rw [Function.comp_apply, List.length_append, List.length_reverse]
  omega

theorem lastPlace_concat {p : UInt8 → Bool} {b : UInt8} (h : p b = true) (front : List UInt8) :
    lastPlace p (front ++ [b]) = some front.length := by
  simp [lastPlace, List.findIdx?_cons, h]

/-- The offset behind the last line break in front of `position`. -/
def lineStartAt (bytes : List UInt8) (position : Nat) : Option Nat := do
  let before ← bytesBetween? bytes 0 position
  return match lastPlace isBreakByte before with
    | some place => place + 1
    | none => 0

/-- The offset of the first line break behind `position`. -/
def lineStopAt (bytes : List UInt8) (position : Nat) : Option Nat := do
  let after ← bytesFrom? bytes position
  return match after.findIdx? isBreakByte with
    | some place => position + place
    | none => bytes.length

/-- The bytes before and behind an offset. Those of a character that the offset is inside of are
on both sides, and none of them is a line break. -/
theorem exists_bytes_around {t : Text} {n : Nat} (h : n ≤ byteLength t) :
    ∃ front back passed more,
      (utf8 t).take n = utf8 (splitAtByte t n).1 ++ front ∧
      (utf8 t).drop n = back ++ utf8 more ∧
      (splitAtByte t n).2 = passed ++ more ∧
      byteLength (splitAtByte t n).1 + byteLength passed = n + back.length ∧
      (∀ b ∈ front ++ back, isBreakByte b = false) ∧ ∀ c ∈ passed, isLineBreak c = false := by
  obtain ⟨before, after, hSplit⟩ : ∃ before after, splitAtByte t n = (before, after) := ⟨_, _, rfl⟩
  have hText : before ++ after = t := by
    have hAppend := splitAtByte_append t n
    rwa [hSplit] at hAppend
  have hBefore : byteLength before ≤ n := by
    have hLe := byteLength_splitAtByte_le t n
    rwa [hSplit] at hLe
  have hSum : byteLength before + byteLength after = byteLength t := by
    rw [← hText, byteLength_append]
  have hTake : (utf8 t).take n = utf8 before ++ (utf8 after).take (n - byteLength before) := by
    rw [← hText, utf8_append, List.take_append, length_utf8,
      List.take_of_length_le (by rwa [length_utf8])]
  have hDrop : (utf8 t).drop n = (utf8 after).drop (n - byteLength before) := by
    rw [← hText, utf8_append, List.drop_append, length_utf8,
      List.drop_eq_nil_of_le (by rwa [length_utf8]), List.nil_append]
  rw [hSplit, hTake, hDrop]
  by_cases hBetween : byteLength before = n
  · exact ⟨[], [], [], after, by simp [hBetween], by simp [hBetween], rfl, by simp [hBetween],
      by simp, by simp⟩
  cases after with
  | nil =>
    rw [byteLength_nil] at hSum
    omega
  | cons c more =>
    have hInside := lt_of_splitAtByte_eq_cons hSplit
    -- A character with an inside has several bytes, so it is no line break.
    have hBreak : isLineBreak c = false := by
      rw [Bool.eq_false_iff]
      intro hc
      have hSize := (finds_isBreakByte.found c hc).1
      omega
    have hLength : (String.utf8EncodeChar c).length = c.utf8Size := String.length_utf8EncodeChar c
    refine ⟨(String.utf8EncodeChar c).take (n - byteLength before),
      (String.utf8EncodeChar c).drop (n - byteLength before), [c], more, ?_, ?_, rfl, ?_, ?_,
      by simpa using hBreak⟩
    · rw [utf8_cons, List.take_append_of_le_length (by omega)]
    · rw [utf8_cons, List.drop_append_of_le_length (by omega)]
    · dsimp only
      rw [List.length_drop, byteLength_cons, byteLength_nil]
      omega
    · rw [List.take_append_drop]
      exact finds_isBreakByte.passed c hBreak

/-- The offset behind the last line break is where the line begins. -/
theorem lineStartAt_eq {t : Text} {n : Nat} (h : n ≤ byteLength t) :
    lineStartAt (utf8 t) n =
      some (byteLength ((splitAtByte t n).1.reverse.dropWhile (!isLineBreak ·)).reverse) := by
  obtain ⟨front, back, passed, more, hTake, -, -, -, hBytes, -⟩ := exists_bytes_around h
  have hBefore : bytesBetween? (utf8 t) 0 n = some (utf8 (splitAtByte t n).1 ++ front) := by
    rw [bytesBetween?, if_pos ⟨Nat.zero_le _, by rwa [length_utf8]⟩, hTake, List.drop_zero]
  have hFront : ∀ b ∈ front, isBreakByte b = false := fun b hb =>
    hBytes b (List.mem_append_left _ hb)
  rw [lineStartAt, hBefore, Option.bind_eq_bind, Option.bind_some,
    lastPlace_append_of_forall hFront]
  generalize (splitAtByte t n).1 = before
  have hSplit : before = (before.reverse.dropWhile (!isLineBreak ·)).reverse ++
      (before.reverse.takeWhile (!isLineBreak ·)).reverse := by
    rw [← List.reverse_append, List.takeWhile_append_dropWhile, List.reverse_reverse]
  have hLine : ∀ b ∈ utf8 (before.reverse.takeWhile (!isLineBreak ·)).reverse,
      isBreakByte b = false := by
    intro b hb
    obtain ⟨c, hc, hByte⟩ := List.mem_flatMap.mp hb
    exact finds_isBreakByte.passed c
      (isLineBreak_of_mem_takeWhile (List.mem_reverse.mp hc)) b hByte
  have hLast : lastPlace isBreakByte (utf8 before) =
      lastPlace isBreakByte (utf8 (before.reverse.dropWhile (!isLineBreak ·)).reverse) := by
    conv_lhs => rw [hSplit]
    rw [utf8_append, lastPlace_append_of_forall hLine]
  rw [hLast]
  rcases dropWhile_isLineBreak_cases before.reverse with hNone | ⟨c, rest, hc, hSome⟩
  · rw [hNone]
    rfl
  · obtain ⟨hSize, hByte⟩ := finds_isBreakByte.found c hc
    rw [hSome, List.reverse_cons, utf8_append, byteLength_append, byteLength_cons, hSize,
      utf8_cons, utf8EncodeChar_eq_byteOf hSize, utf8_nil, List.append_nil,
      lastPlace_concat hByte, length_utf8]
    rfl

/-- The offset of the first line break is where the line ends. -/
theorem lineStopAt_eq {t : Text} {n : Nat} (h : n ≤ byteLength t) :
    lineStopAt (utf8 t) n =
      some (byteLength (splitAtByte t n).1 +
        byteLength ((splitAtByte t n).2.takeWhile (!isLineBreak ·))) := by
  obtain ⟨front, back, passed, more, -, hDrop, hAfter, hLength, hBytes, hPassed⟩ :=
    exists_bytes_around h
  have hBehind : bytesFrom? (utf8 t) n = some (back ++ utf8 more) := by
    rw [bytesFrom?, if_pos (by rwa [length_utf8]), hDrop]
  have hBack : back.findIdx? isBreakByte = none := by
    rw [List.findIdx?_eq_none_iff]
    intro b hb
    exact hBytes b (List.mem_append_right _ hb)
  have hTotal : byteLength (splitAtByte t n).1 + byteLength (splitAtByte t n).2 = byteLength t := by
    rw [← byteLength_append, splitAtByte_append]
  have hMore : more = more.takeWhile (!isLineBreak ·) ++ more.dropWhile (!isLineBreak ·) :=
    List.takeWhile_append_dropWhile.symm
  have hLine : ∀ c ∈ more.takeWhile (!isLineBreak ·), isLineBreak c = false := fun _ hc =>
    isLineBreak_of_mem_takeWhile hc
  rw [lineStopAt, hBehind, Option.bind_eq_bind, Option.bind_some, List.findIdx?_append, hBack,
    Option.none_or, hAfter, List.takeWhile_append_of_pos (by simpa using hPassed),
    byteLength_append]
  rcases dropWhile_isLineBreak_cases more with hNone | ⟨c, rest, hc, hSome⟩
  · rw [hNone, List.append_nil] at hMore
    rw [← hMore] at hLine ⊢
    rw [findIdx?_utf8_eq_none finds_isBreakByte hLine, length_utf8, ← hTotal, hAfter,
      byteLength_append]
    rfl
  · rw [hSome] at hMore
    have hFound := findIdx?_utf8_append finds_isBreakByte hLine hc rest
    rw [← hMore] at hFound
    rw [hFound]
    simp only [Option.map_some, Option.pure_def, Option.some.injEq]
    omega

/-! ## Parts of a text without line breaks -/

/-- A slice around a place, without line breaks. -/
structure IsStretch (t : Text) (place start stop : Nat) : Prop where
  start_le : start ≤ place
  le_stop : place ≤ stop
  unbroken : ∃ u, slice? t start stop = some u ∧ ∀ c ∈ u, isLineBreak c = false

/-- A slice has the characters that begin between its offsets. -/
theorem mem_of_slice? {before after u : Text} {c : Char} {start stop : Nat}
    (h : slice? (before ++ c :: after) start stop = some u) (hStart : start ≤ byteLength before)
    (hStop : byteLength before < stop) : c ∈ u := by
  obtain ⟨front, back, hText, rfl, rfl⟩ := slice?_eq_some_iff.mp h
  rw [List.append_assoc] at hText
  obtain ⟨passed, rfl⟩ := exists_append_of_byteLength_le hText.symm hStart
  rw [List.append_assoc] at hText
  have hRest : passed ++ c :: after = u ++ back := List.append_cancel_left hText
  rw [byteLength_append] at hStop
  rcases List.append_eq_append_iff.mp hRest with ⟨more, rfl, hMore⟩ | ⟨more, rfl, -⟩
  · cases more with
    | nil =>
      rw [List.append_nil] at hStop
      omega
    | cons d more =>
      obtain ⟨rfl, -⟩ := List.cons.inj hMore
      exact List.mem_append_right _ List.mem_cons_self
  · rw [byteLength_append] at hStop
    omega

namespace SyntaxError

theorem isLineBreak_of_mem_line {e : SyntaxError} {c : Char} (h : c ∈ e.line) :
    isLineBreak c = false := by
  rcases List.mem_append.mp h with hBefore | hAfter
  · exact isLineBreak_of_mem_takeWhile (List.mem_reverse.mp hBefore)
  · exact isLineBreak_of_mem_takeWhile hAfter

/-- The byte offset that the line ends at. -/
def lineStop (e : SyntaxError) : Nat := e.lineStart + byteLength e.line

theorem rangeStart_le (e : SyntaxError) : e.rangeStart ≤ byteLength e.template :=
  Nat.min_le_right _ _

theorem lineStop_eq (e : SyntaxError) :
    e.lineStop = byteLength e.sides.1 + byteLength e.lineAfter := by
  rw [lineStop, line, byteLength_append, ← Nat.add_assoc, e.lineStart_add]

/-- The line begins before the range and ends behind its start. -/
theorem lineStart_le_rangeStart (e : SyntaxError) : e.lineStart ≤ e.rangeStart := by
  have hSides : byteLength e.sides.1 ≤ e.rangeStart := byteLength_splitAtByte_le _ _
  have hStart := e.lineStart_add
  omega

theorem rangeStart_le_lineStop (e : SyntaxError) : e.rangeStart ≤ e.lineStop := by
  have hLine := e.lineStop_eq
  have hSides := e.sides_append
  have hBetween : e.sides = splitAtByte e.template e.rangeStart := rfl
  have hLe := e.rangeStart_le
  obtain ⟨front, back, passed, more, -, -, hAfter, hLength, -, hPassed⟩ :=
    exists_bytes_around e.rangeStart_le
  -- What the range starts inside of is part of the line.
  have hPart : byteLength passed ≤ byteLength e.lineAfter := by
    rw [lineAfter, hBetween, hAfter, List.takeWhile_append_of_pos (by simpa using hPassed),
      byteLength_append]
    exact Nat.le_add_right _ _
  rw [← hBetween] at hLength
  omega

theorem isStretch_line (e : SyntaxError) :
    IsStretch e.template e.rangeStart e.lineStart e.lineStop where
  start_le := e.lineStart_le_rangeStart
  le_stop := e.rangeStart_le_lineStop
  unbroken := ⟨e.line, e.slice?_line, fun _ hc => isLineBreak_of_mem_line hc⟩

/-- No stretch around the start of the range goes beyond the line. -/
theorem within_line {e : SyntaxError} {start stop : Nat}
    (h : IsStretch e.template e.rangeStart start stop) :
    e.lineStart ≤ start ∧ stop ≤ e.lineStop := by
  obtain ⟨hStart, hStop, u, hSlice, hBreaks⟩ := h
  have hTemplate := e.template_eq
  have hLe := e.lineStart_le_rangeStart
  have hGe := e.rangeStart_le_lineStop
  constructor
  · -- The line break in front of the line is in every slice that begins before it.
    rcases dropWhile_isLineBreak_cases e.sides.1.reverse with hNone | ⟨c, rest, hc, hSome⟩
    · have hZero : e.lineStart = 0 := by rw [lineStart, linesBefore, hNone]; rfl
      omega
    · have hBefore : e.linesBefore = rest.reverse ++ [c] := by
        rw [linesBefore, hSome, List.reverse_cons]
      have hLength : e.lineStart = byteLength rest.reverse + 1 := by
        rw [lineStart, hBefore, byteLength_append, byteLength_cons,
          (finds_isBreakByte.found c hc).1, byteLength_nil]
      by_contra hLess
      have hBreak : e.template = rest.reverse ++ c :: (e.line ++ e.linesAfter) := by
        rw [hTemplate, hBefore]
        simp
      rw [hBreak] at hSlice
      have hMem := mem_of_slice? hSlice (by omega) (by omega)
      rw [hBreaks c hMem] at hc
      cases hc
  · rcases dropWhile_isLineBreak_cases e.sides.2 with hNone | ⟨c, rest, hc, hSome⟩
    · have hEnd : e.lineStop = byteLength e.template := by
        rw [lineStop_eq, ← e.sides_append, ← e.lineAfter_append, linesAfter, hNone,
          List.append_nil, byteLength_append]
      obtain ⟨-, -, hBound, -⟩ := bytesBetween?_of_slice? hSlice
      rwa [hEnd]
    · by_contra hMore
      rw [hTemplate, linesAfter, hSome] at hSlice
      have hLength : byteLength (e.linesBefore ++ e.line) = e.lineStop := byteLength_append _ _
      have hMem := mem_of_slice? hSlice (by omega) (by omega)
      rw [hBreaks c hMem] at hc
      cases hc

/-! ## The range -/

/-- The offsets that the range starts and stops at. It covers the first character of the text
from its start on, if there is such a text. -/
def rangeSliced (e : SyntaxError) : Nat × Nat :=
  let size := byteLength e.template
  let start := match e.kind with
    | .unterminatedArgument => min (e.position - 1) size
    | _ => min e.position size
  let width := ((slice? e.template start size).bind List.head?).elim 0 Char.utf8Size
  (start, min (start + width) size)

theorem slice?_rangeStart {e : SyntaxError} (h : IsBoundary e.template e.rangeStart) :
    slice? e.template e.rangeStart (byteLength e.template) = some e.sides.2 := by
  have hSides : byteLength e.sides.1 = e.rangeStart := h
  refine slice?_eq_some_iff.mpr ⟨e.sides.1, [], ?_, hSides, ?_⟩
  · rw [List.append_nil, e.sides_append]
  · rw [← hSides, ← byteLength_append, e.sides_append]

theorem rangeEnd_le (e : SyntaxError) : e.rangeEnd ≤ byteLength e.template := by
  have hStart := e.rangeStart_le
  rw [rangeEnd]
  by_cases h : IsBoundary e.template e.rangeStart
  · have hSides : byteLength e.sides.1 = e.rangeStart := h
    rw [covered, if_pos h, ← e.sides_append, byteLength_append, hSides]
    cases e.sides.2 with
    | nil => exact Nat.le_refl _
    | cons c rest =>
      rw [List.head?_cons, Option.elim_some, byteLength_cons]
      omega
  · rwa [covered, if_neg h, Option.elim_none, Nat.add_zero]

theorem rangeSliced_eq (e : SyntaxError) : e.rangeSliced = (e.rangeStart, e.rangeEnd) := by
  have hStart : (match e.kind with
      | .unterminatedArgument => min (e.position - 1) (byteLength e.template)
      | _ => min e.position (byteLength e.template)) = e.rangeStart := by
    rw [rangeStart]
    cases e.kind <;> rfl
  have hCovered : (slice? e.template e.rangeStart (byteLength e.template)).bind List.head? =
      e.covered := by
    by_cases h : IsBoundary e.template e.rangeStart
    · rw [slice?_rangeStart h, Option.bind_some, covered, if_pos h]
    · rw [covered, if_neg h, slice?, if_neg fun hBounds => h hBounds.2.1, Option.bind_none]
  have hEnd : e.rangeStart + e.covered.elim 0 Char.utf8Size = e.rangeEnd := rfl
  simp only [rangeSliced]
  rw [hStart, hCovered, hEnd, Nat.min_eq_left e.rangeEnd_le]

theorem slice?_covered {e : SyntaxError} (h : IsBoundary e.template e.rangeStart) :
    slice? e.template e.rangeStart e.rangeEnd = some e.covered.toList := by
  have hSides : byteLength e.sides.1 = e.rangeStart := h
  have hCovered : e.covered = e.sides.2.head? := if_pos h
  refine slice?_eq_some_iff.mpr ⟨e.sides.1, e.sides.2.tail, ?_, hSides, ?_⟩
  · rw [List.append_assoc, hCovered]
    cases hAfter : e.sides.2 with
    | nil => simpa [hAfter] using e.sides_append.symm
    | cons c rest => simpa [hAfter] using e.sides_append.symm
  · rw [rangeEnd]
    cases e.covered <;> rfl

/-- The text between the beginning of the line and the range. -/
theorem slice?_lineStart {e : SyntaxError} (h : IsBoundary e.template e.rangeStart) :
    slice? e.template e.lineStart e.rangeStart = some e.lineBefore := by
  have hSides : byteLength e.sides.1 = e.rangeStart := h
  refine slice?_eq_some_iff.mpr ⟨e.linesBefore, e.sides.2, ?_, rfl, ?_⟩
  · rw [e.linesBefore_append, e.sides_append]
  · rw [e.lineStart_add, hSides]

/-- The range covers one character or nothing. -/
theorem rangeEnd_cases (e : SyntaxError) :
    e.rangeEnd = e.rangeStart ∨ ∃ c, slice? e.template e.rangeStart e.rangeEnd = some [c] := by
  by_cases h : IsBoundary e.template e.rangeStart
  · rw [slice?_covered h, rangeEnd]
    cases e.covered with
    | none => exact .inl rfl
    | some c => exact .inr ⟨c, rfl⟩
  · left
    rw [rangeEnd, covered, if_neg h]
    rfl

/-! ## Highlighting -/

/-- The line between the line breaks around the start of the range. -/
def lineSliced (e : SyntaxError) : Option Text := do
  let start ← lineStartAt (utf8 e.template) e.rangeSliced.1
  let stop ← lineStopAt (utf8 e.template) e.rangeSliced.1
  slice? e.template start stop

/-- A line and its underline, both two columns from the left. -/
def framed (width : Text → Nat) (line before marked : Text) : Text :=
  "  ".toList ++ line ++ "\n  ".toList ++ List.replicate (width before) ' ' ++
    List.replicate (max 1 (width marked)) '^' ++ ['\n']

/-- Cuts the line out of the template, and what is in front of the range and what is in the range
out of the line. -/
def highlightSliced (width : Text → Nat) (e : SyntaxError) : Option Text := do
  let (start, stop) := e.rangeSliced
  let lineStart ← lineStartAt (utf8 e.template) start
  let line ← e.lineSliced
  if width line > widestLine then return []
  else
    let before ← slice? line 0 (start - lineStart)
    let marked ← slice? line (start - lineStart) (stop - lineStart)
    return framed width line before marked

theorem lineStartAt_rangeStart (e : SyntaxError) :
    lineStartAt (utf8 e.template) e.rangeStart = some e.lineStart :=
  lineStartAt_eq e.rangeStart_le

theorem lineSliced_eq (e : SyntaxError) : e.lineSliced = some e.line := by
  have hStop : lineStopAt (utf8 e.template) e.rangeStart = some e.lineStop := by
    rw [lineStop_eq]
    exact lineStopAt_eq e.rangeStart_le
  simp only [lineSliced, rangeSliced_eq, lineStartAt_rangeStart, hStop, Option.bind_eq_bind,
    Option.bind_some]
  exact e.slice?_line

theorem highlightSliced_eq (width : Text → Nat) (e : SyntaxError) :
    e.highlightSliced width =
      if widestLine < width e.line then some []
      else if IsBoundary e.template e.rangeStart ∧ e.covered.any isLineBreak = false then
        some (framed width e.line e.lineBefore e.covered.toList)
      else none := by
  simp only [highlightSliced, rangeSliced_eq, lineStartAt_rangeStart, lineSliced_eq,
    Option.bind_eq_bind, Option.bind_some]
  split
  · rfl
  · by_cases h : IsBoundary e.template e.rangeStart
    · rw [slice?_lineBefore h, slice?_range h]
      cases e.covered with
      | none => simp [h]
      | some c => cases hc : isLineBreak c <;> simp [h, hc]
    · have hNone : slice? e.line 0 (e.rangeStart - e.lineStart) = none :=
        slice?_eq_none_of_not_isBoundary (mt e.isBoundary_line_iff.mp h)
      rw [hNone, if_neg fun hBoth => h hBoth.1]
      rfl

theorem highlightSliced_displayWidth (e : SyntaxError) :
    e.highlightSliced displayWidth = e.highlight := by
  rw [highlight_eq_slices]
  simp only [highlightSliced, rangeSliced_eq, lineStartAt_rangeStart, lineSliced_eq,
    Option.bind_eq_bind, Option.bind_some]
  rfl

/-- Of every error, wherever its position is, the range and the line can be cut out. The line is
the largest stretch around the range. It is shown with as many spaces below it as the text in
front of the range is wide, and carets below what the range covers, for any way to measure
widths. -/
theorem line_and_underline (width : Text → Nat) (e : SyntaxError) :
    e.rangeSliced = (e.rangeStart, e.rangeEnd) ∧
    e.rangeStart ≤ e.rangeEnd ∧ e.rangeEnd ≤ byteLength e.template ∧
    (e.rangeEnd = e.rangeStart ∨ ∃ c, slice? e.template e.rangeStart e.rangeEnd = some [c]) ∧
    e.lineSliced = some e.line ∧ slice? e.template e.lineStart e.lineStop = some e.line ∧
    IsStretch e.template e.rangeStart e.lineStart e.lineStop ∧
    (∀ start stop, IsStretch e.template e.rangeStart start stop →
      e.lineStart ≤ start ∧ stop ≤ e.lineStop) ∧
    (IsBoundary e.template e.rangeStart → (∀ c ∈ e.covered, isLineBreak c = false) →
      slice? e.template e.lineStart e.rangeStart = some e.lineBefore ∧
      slice? e.template e.rangeStart e.rangeEnd = some e.covered.toList ∧
      (e.highlightSliced width = some [] ↔ 60 < width e.line) ∧
      (width e.line ≤ 60 → e.highlightSliced width =
        some ("  ".toList ++ e.line ++ ['\n'] ++
          ("  ".toList ++ List.replicate (width e.lineBefore) ' ' ++
            List.replicate (max 1 (width e.covered.toList)) '^' ++ ['\n'])))) ∧
    e.highlightSliced displayWidth = e.highlight := by
  refine ⟨e.rangeSliced_eq, Nat.le_add_right _ _, e.rangeEnd_le, e.rangeEnd_cases, e.lineSliced_eq,
    e.slice?_line, e.isStretch_line, fun _ _ h => within_line h, ?_,
    e.highlightSliced_displayWidth⟩
  intro hBoundary hCovered
  have hShown : e.highlightSliced width =
      if 60 < width e.line then some []
      else some (framed width e.line e.lineBefore e.covered.toList) := by
    have hAny : e.covered.any isLineBreak = false := by
      cases hChar : e.covered with
      | none => rfl
      | some c => exact hCovered c hChar
    rw [highlightSliced_eq, if_pos (And.intro hBoundary hAny)]
    rfl
  refine ⟨slice?_lineStart hBoundary, slice?_covered hBoundary, ?_, ?_⟩
  · rw [hShown]
    by_cases hWide : 60 < width e.line
    · simp [hWide]
    · simp [hWide, framed]
  · intro hNarrow
    rw [hShown, if_neg (Nat.not_lt.mpr hNarrow), framed]
    simp

end SyntaxError

end LogMarkup
