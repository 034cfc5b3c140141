import Mathlib.Data.List.TakeWhile
import LogMarkup.Proofs.Template.Scanning

/-!
# The first flaw of a template

Scanning stops at the opening delimiter of the first placeholder that has a flaw. The text in front
of that delimiter is a template by itself, and its parts have been given by then. What is reported
is decided by the text behind the delimiter, by looking for one flaw after another.

An explicit index is read digit by digit, and the first digit that leads out of range ends it. To
look at all its digits at once is the same, because more digits never denote less.

* `Placeholder.flaw?`: the flaws in the order in which they are looked for.
* `Placeholder.read_eq_error_iff`: reading a placeholder reports the flaw that is found so.
* `Scanner.run_append`: scanning goes on behind parts that a placeholder follows.
* `ofText_eq_error_iff_first_flaw`: where scanning stops, and with what error.
-/

namespace LogMarkup

/-! ## Looking for flaws -/

/-- The text in front of the first `d`, or all of it if there is none. -/
def upTo (d : Char) (t : Text) : Text := t.takeWhile (· ≠ d)

theorem upTo_append_of_notMem {d : Char} {before : Text} (h : d ∉ before) (after : Text) :
    upTo d (before ++ after) = before ++ upTo d after := by
  refine List.takeWhile_append_of_pos ?_
  intro c hc
  have hNe : c ≠ d := fun hEq => h (hEq ▸ hc)
  simpa using hNe

theorem upTo_of_notMem {d : Char} {t : Text} (h : d ∉ t) : upTo d t = t := by
  have hAll := upTo_append_of_notMem h []
  simpa [upTo] using hAll

theorem upTo_append {d : Char} {before : Text} (h : d ∉ before) (after : Text) :
    upTo d (before ++ d :: after) = before := by
  rw [upTo_append_of_notMem h]
  simp [upTo]

namespace Placeholder

/-- What is wrong with the text behind an opening delimiter at `start`, and the byte offset of the
error. The flaws are looked for from top to bottom, so each line tells what is wrong only if
nothing above it is. -/
def flaw? (start : Nat) (rest : Text) : Option (Nat × SyntaxError.Kind) :=
  let body := upTo delimiter rest
  let name := upTo nameSeparator body
  let index := body.drop (name.length + 1)
  let digits := index.takeWhile isDecimalDigit
  let indexStart := start + 1 + byteLength name + 1
  if delimiter ∉ rest then some (start + 1, .unterminatedArgument)
  else if body.head? = some nameSeparator then some (start + 1, .emptyName)
  else if errorMarker ∈ name then
    some (start + 1 + byteLength (upTo errorMarker name), .nameContainsSeparator)
  else if nameSeparator ∉ body then none
  else if index = [] then some (indexStart, .emptyIndex)
  else if maxIndex < readDecimal digits then some (indexStart, .indexOutOfRange)
  else if digits = index then none
  else some (indexStart + byteLength digits, .notADigit)

theorem flaw?_of_notMem {start : Nat} {rest : Text} (h : delimiter ∉ rest) :
    flaw? start rest = some (start + 1, .unterminatedArgument) := by
  simp [flaw?, h]

theorem flaw?_of_separator_first {start : Nat} {rest : Text} (h : delimiter ∈ rest) :
    flaw? start (nameSeparator :: rest) = some (start + 1, .emptyName) := by
  have hNe : nameSeparator ≠ delimiter := by decide
  simp [flaw?, h, upTo, hNe]

theorem flaw?_of_marker {start : Nat} {before rest : Text}
    (hBefore : ∀ c ∈ before, endsName c = false) (h : delimiter ∈ rest) :
    flaw? start (before ++ errorMarker :: rest) =
      some (start + 1 + byteLength before, .nameContainsSeparator) := by
  have hNotMem : ∀ c, endsName c = true → c ∉ before := by
    intro c hc hMem
    rw [hBefore c hMem] at hc
    cases hc
  have hBody : upTo delimiter (before ++ errorMarker :: rest) =
      before ++ errorMarker :: upTo delimiter rest := by
    rw [upTo_append_of_notMem (hNotMem delimiter rfl)]
    rfl
  have hName : upTo nameSeparator (before ++ errorMarker :: upTo delimiter rest) =
      before ++ errorMarker :: upTo nameSeparator (upTo delimiter rest) := by
    rw [upTo_append_of_notMem (hNotMem nameSeparator rfl)]
    rfl
  have hHead : (before ++ errorMarker :: upTo delimiter rest).head? ≠ some nameSeparator := by
    cases before with
    | nil => simp [errorMarker, nameSeparator]
    | cons c before =>
      intro hEq
      obtain rfl : c = nameSeparator := by simpa using hEq
      exact hNotMem nameSeparator rfl List.mem_cons_self
  simp only [flaw?, hBody, hName, upTo_append (hNotMem errorMarker rfl)]
  rw [if_neg (by simp [h]), if_neg hHead, if_pos (by simp)]

theorem flaw?_of_name {start : Nat} {name after : Text} (hName : IsName name) :
    flaw? start (name ++ delimiter :: after) = none := by
  have hDelimiter : delimiter ∉ name := hName.notMem rfl
  have hSeparator : nameSeparator ∉ name := hName.notMem rfl
  have hMarker : errorMarker ∉ name := hName.notMem rfl
  have hHead : name.head? ≠ some nameSeparator := fun h => hSeparator (List.mem_of_head? h)
  simp [flaw?, upTo_append hDelimiter, upTo_of_notMem hSeparator, hHead, hMarker, hSeparator]

/-- Behind a name and a separator only the index is left to be looked at. -/
theorem flaw?_of_index {start : Nat} {name index after : Text} (hName : IsName name)
    (hIndex : delimiter ∉ index) :
    flaw? start (name ++ nameSeparator :: (index ++ delimiter :: after)) =
      let digits := index.takeWhile isDecimalDigit
      let indexStart := start + 1 + byteLength name + 1
      if index = [] then some (indexStart, .emptyIndex)
      else if maxIndex < readDecimal digits then some (indexStart, .indexOutOfRange)
      else if digits = index then none
      else some (indexStart + byteLength digits, .notADigit) := by
  have hDelimiter : delimiter ∉ name := hName.notMem rfl
  have hSeparator : nameSeparator ∉ name := hName.notMem rfl
  have hMarker : errorMarker ∉ name := hName.notMem rfl
  have hBody : delimiter ∉ name ++ nameSeparator :: index := by
    have hNe : delimiter ≠ nameSeparator := by decide
    simp [hDelimiter, hNe, hIndex]
  have hText : name ++ nameSeparator :: (index ++ delimiter :: after) =
      (name ++ nameSeparator :: index) ++ delimiter :: after := by simp
  have hHead : (name ++ nameSeparator :: index).head? ≠ some nameSeparator :=
    hName.head?_append_ne rfl _
  have hDrop : (name ++ nameSeparator :: index).drop (name.length + 1) = index := by simp
  rw [hText, flaw?, upTo_append hBody, upTo_append hSeparator, hDrop, if_neg (by simp),
    if_neg hHead, if_neg hMarker, if_neg (by simp)]

/-! ## Flaws that are found -/

theorem readDecimal_le_append (digits more : Text) :
    readDecimal digits ≤ readDecimal (digits ++ more) := by
  rw [readDecimal, readDecimal, Nat.ofDigitChars_append]
  exact le_ofDigitChars _ more

theorem flaw?_of_indexFlaw {start offset : Nat} {name digits after : Text}
    {kind : SyntaxError.Kind} (hName : IsName name) (hDigits : delimiter ∉ digits)
    (h : IndexFlaw digits offset kind) :
    flaw? start (name ++ nameSeparator :: (digits ++ delimiter :: after)) =
      some (start + 1 + byteLength name + 1 + offset, kind) := by
  rw [flaw?_of_index hName hDigits]
  cases h with
  | empty => rfl
  | @outOfRange digits rest hAll hValue =>
    have hNe : digits ++ rest ≠ [] := by
      intro hEmpty
      obtain ⟨rfl, -⟩ := List.append_eq_nil_iff.mp hEmpty
      exact absurd hValue (by decide)
    have hMore := readDecimal_le_append digits (rest.takeWhile isDecimalDigit)
    rw [List.takeWhile_append_of_pos hAll, if_neg hNe, if_pos (Nat.lt_of_lt_of_le hValue hMore),
      Nat.add_zero]
  | @notADigit digits rest c hAll hValue hc =>
    have hRun : (digits ++ c :: rest).takeWhile isDecimalDigit = digits := by
      rw [List.takeWhile_append_of_pos hAll]
      simp [hc]
    rw [hRun, if_neg (by simp), if_neg (Nat.not_lt.mpr hValue), if_neg (by simp)]

/-- A flaw by the shape of the text is the one that is found by looking for flaws in order. -/
theorem Flaw.flaw?_eq {start position : Nat} {rest : Text} {kind : SyntaxError.Kind}
    (h : Flaw start rest position kind) : flaw? start rest = some (position, kind) := by
  cases h with
  | unterminatedArgument hEnd => exact flaw?_of_notMem hEnd
  | emptyName hEnd => exact flaw?_of_separator_first hEnd
  | nameContainsSeparator hBefore hEnd => exact flaw?_of_marker hBefore hEnd
  | index hName hDigits hFlaw => exact flaw?_of_indexFlaw hName hDigits hFlaw

theorem Fits.flaw?_eq_none {start automatic : Nat} {p : Placeholder} (h : p.Fits start automatic)
    {rest after : Text} (hSource : delimiter :: rest = p.source ++ after) :
    flaw? start rest = none := by
  obtain ⟨-, hName, hIndex, -⟩ := fits_iff.mp h
  cases hDigits : p.digits with
  | none =>
    obtain rfl : rest = p.name ++ delimiter :: after := by
      simpa [Placeholder.source, hDigits] using hSource
    exact flaw?_of_name hName
  | some digits =>
    obtain rfl : rest = p.name ++ nameSeparator :: (digits ++ delimiter :: after) := by
      simpa [Placeholder.source, hDigits] using hSource
    have hIsIndex : IsIndex digits := hIndex digits hDigits
    have hRun : digits.takeWhile isDecimalDigit = digits :=
      List.takeWhile_eq_self_iff.mpr hIsIndex.isDecimalDigit
    rw [flaw?_of_index hName hIsIndex.delimiter_notMem]
    simp only [hRun, if_neg hIsIndex.ne_nil, if_neg (Nat.not_lt.mpr hIsIndex.le_maxIndex), if_true]

/-- Reading reports the flaw that is found, if there is one. -/
theorem read_eq_error_iff {start automatic position : Nat} {rest : Text}
    {kind : SyntaxError.Kind} (hSingle : rest.head? ≠ some delimiter) :
    Placeholder.read start automatic rest = .error (position, kind) ↔
      flaw? start rest = some (position, kind) := by
  constructor
  · intro h
    exact (Flaw.of_read hSingle h).flaw?_eq
  · intro h
    cases hRead : Placeholder.read start automatic rest with
    | ok result =>
      obtain ⟨hFits, hSource⟩ := read_eq_ok_iff.mp hRead
      rw [hFits.flaw?_eq_none hSource] at h
      cases h
    | error found =>
      rw [(Flaw.of_read hSingle hRead).flaw?_eq] at h
      cases h
      rfl

end Placeholder

/-! ## Where scanning stops -/

/-- Parts that a placeholder follows are scanned as if nothing followed. -/
theorem Scanner.run_append {s : Scanner} {parts : List Part} {rest : Text}
    (h : Tiled s.position s.nextIndex parts) (hSource : s.rest = sourceOf parts ++ rest)
    (hRest : Opens rest) :
    s.run = (parts ++ (s.past parts rest).run.1, (s.past parts rest).run.2) := by
  induction parts generalizing s with
  | nil =>
    have hSame : s.past [] rest = s := by
      rw [← show s.rest = rest from hSource, Scanner.past_nil]
    rw [hSame]
    rfl
  | cons part more ih =>
    have hTiled : Tiled (s.past [part] (sourceOf more ++ rest)).position
        (s.past [part] (sourceOf more ++ rest)).nextIndex more := by
      simpa [Scanner.past] using h.tail
    rw [sourceOf_cons, List.append_assoc] at hSource
    have hNext : s.next? = some (.ok part, s.past [part] (sourceOf more ++ rest)) := by
      cases part with
      | placeholder p =>
        obtain ⟨tail, hTail, hSingle, hRead⟩ := h.1.read (sourceOf more ++ rest)
        have hNext := Scanner.next?_of_delimiter (hSource.trans hTail) hSingle
        rw [hRead] at hNext
        exact hNext
      | literal t =>
        obtain ⟨hNe, ⟨v, rfl⟩, hHead, -⟩ := h
        refine Scanner.next?_of_escape_append (escape_ne_nil_iff.mp hNe) hSource ?_
        -- What follows the literal text is a placeholder among the parts or the one behind them.
        cases more with
        | nil => exact hRest
        | cons next others =>
          cases next with
          | literal u => exact absurd (hHead _ rfl) id
          | placeholder p =>
            obtain ⟨tail, hTail, hSingle, -⟩ := hTiled.1.read (sourceOf others ++ rest)
            refine ⟨tail, ?_, hSingle⟩
            rw [sourceOf_cons, List.append_assoc]
            exact hTail
    rw [Scanner.run_of_ok hNext, ih hTiled rfl, Scanner.past_past]
    rfl

/-- Scanning stops at a placeholder with a flaw, behind the parts of the template in front. -/
theorem scan_of_flaw? {t : Template} {rest : Text} {position : Nat} {kind : SyntaxError.Kind}
    (hSingle : rest.head? ≠ some delimiter)
    (hFlaw : Placeholder.flaw? (byteLength t.source) rest = some (position, kind)) :
    scan (t.source ++ delimiter :: rest) =
      (t.parts, some ⟨t.source ++ delimiter :: rest, position, kind⟩) := by
  obtain ⟨hTiled, hSource⟩ := scan_eq_ok_iff.mp t.scan_source
  have hRun : (Scanner.start (t.source ++ delimiter :: rest)).run = _ :=
    Scanner.run_append hTiled (congrArg (· ++ delimiter :: rest) hSource) ⟨rest, rfl, hSingle⟩
  generalize hStop : (Scanner.start (t.source ++ delimiter :: rest)).past t.parts
    (delimiter :: rest) = stopped at hRun
  have hPosition : stopped.position = byteLength t.source := by
    rw [← hStop, hSource]
    simp [Scanner.past, Scanner.start]
  have hRead : Placeholder.read (byteLength t.source) stopped.nextIndex rest =
      .error (position, kind) := (Placeholder.read_eq_error_iff hSingle).mpr hFlaw
  have hNext := Scanner.next?_of_delimiter (s := stopped) (by rw [← hStop]; rfl) hSingle
  rw [hPosition, hRead] at hNext
  rw [scan, hRun, Scanner.run_of_error hNext, List.append_nil, ← hStop]
  rfl

/-- A text has an error iff a placeholder with a flaw opens behind a template. The error tells the
first flaw of the placeholder in the order in which flaws are looked for, and the whole text. Up to
the placeholder scanning has given the parts of the template. -/
theorem ofText_eq_error_iff_first_flaw (source : Text) (error : SyntaxError) :
    (Template.ofText source = .error error ↔
      error.template = source ∧ ∃ (t : Template) (rest : Text),
        source = t.source ++ delimiter :: rest ∧ rest.head? ≠ some delimiter ∧
        Placeholder.flaw? (byteLength t.source) rest = some (error.position, error.kind)) ∧
    ∀ (t : Template) (rest : Text), source = t.source ++ delimiter :: rest →
      rest.head? ≠ some delimiter → (Placeholder.flaw? (byteLength t.source) rest).isSome →
        (scan source).1 = t.parts := by
  refine ⟨?_, ?_⟩
  · rw [Template.ofText_eq_error_iff]
    constructor
    · intro hError
      obtain ⟨hTemplate, rest, hSource, hSingle, hFlaw⟩ := flaw_of_scan hError
      have hFront : scan (sourceOf (scan source).1) = ((scan source).1, none) :=
        scan_eq_ok_iff.mpr ⟨tiled_scan source, rfl⟩
      exact ⟨hTemplate, ⟨_, _, hFront⟩, rest, hSource, hSingle, hFlaw.flaw?_eq⟩
    · rintro ⟨hTemplate, t, rest, rfl, hSingle, hFlaw⟩
      rw [scan_of_flaw? hSingle hFlaw, ← hTemplate]
  · rintro t rest rfl hSingle hFlaw
    obtain ⟨⟨position, kind⟩, hFound⟩ := Option.isSome_iff_exists.mp hFlaw
    rw [scan_of_flaw? hSingle hFound]

/-- The letter is no digit, but the digits in front of it are out of range already. -/
example : Placeholder.flaw? 4 "i:99999999999999999999x` `b!`".toList =
    some (7, .indexOutOfRange) := by
  decide +kernel

end LogMarkup
