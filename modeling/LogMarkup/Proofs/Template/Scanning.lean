import LogMarkup.Proofs.Template.Tiling

/-!
# Scanning gives tiling parts

Each step of the scanner takes a part off the front of what is left, or fails at a placeholder
there. So the parts of a run tile the text up to the place where it stops, and what is said about
templates holds of the text in front of an error as well.

* `Scanner.next_next?`: what a step can do.
* `Scanner.tiled_run`: the parts of a run tile the text in front of the place where it stops.
* `Scanner.run_eq_ok_iff`, `scan_eq_ok_iff`: scanning without error gives the tiling sequence of
  parts whose texts make up the source.
* `flaw_of_scan`: an error is a flaw where a placeholder opens behind tiling parts.
* `Template.ofText_eq_ok_iff`, `Template.ofText_eq_error_iff`: which texts are templates.
-/

namespace LogMarkup

/-! ## Steps of the scanner -/

/-- A single delimiter, which opens a placeholder, stands in front of the text. -/
def Opens (t : Text) : Prop := ∃ rest, t = delimiter :: rest ∧ rest.head? ≠ some delimiter

/-- The scanner behind parts, with `rest` left to scan. -/
def Scanner.past (s : Scanner) (parts : List Part) (rest : Text) : Scanner :=
  { s with
    rest
    position := s.position + byteLength (sourceOf parts)
    nextIndex := s.nextIndex + parts.countP Part.isAutomatic }

theorem Scanner.past_nil (s : Scanner) : s.past [] s.rest = s := rfl

theorem Scanner.past_past (s : Scanner) (parts more : List Part) (rest tail : Text) :
    (s.past parts rest).past more tail = s.past (parts ++ more) tail := by
  simp [Scanner.past, List.countP_append, Nat.add_assoc]

theorem Scanner.afterLiteral_eq (s : Scanner) (t rest : Text) :
    s.afterLiteral t rest = s.past [.literal t] rest := by
  simp [Scanner.afterLiteral, Scanner.past, Part.source, Part.isAutomatic]

theorem Scanner.afterPlaceholder_eq (s : Scanner) (p : Placeholder) (rest : Text) :
    s.afterPlaceholder p rest = s.past [.placeholder p] rest := by
  cases hDigits : p.digits <;>
    simp [Scanner.afterPlaceholder, Scanner.past, Part.source, Part.isAutomatic, hDigits]

theorem Scanner.next?_of_nil {s : Scanner} (h : s.rest = []) : s.next? = none := by
  simp [Scanner.next?, h]

theorem Scanner.next?_of_escape {s : Scanner} {v : Text} (hv : v ≠ []) (h : s.rest = escape v) :
    s.next? = some (.ok (.literal (escape v)), s.past [.literal (escape v)] []) := by
  have hNe : escape v ≠ [] := escape_ne_nil_iff.mpr hv
  rw [← Scanner.afterLiteral_eq]
  simp only [Scanner.next?, h, if_neg hNe, cutSingle_escape]

theorem Scanner.next?_of_escape_append {s : Scanner} {v rest : Text} (hv : v ≠ [])
    (h : s.rest = escape v ++ rest) (hRest : Opens rest) :
    s.next? = some (.ok (.literal (escape v)), s.past [.literal (escape v)] rest) := by
  obtain ⟨tail, rfl, hSingle⟩ := hRest
  have hNe : escape v ≠ [] := escape_ne_nil_iff.mpr hv
  have hText : escape v ++ delimiter :: tail ≠ [] := by simp
  rw [← Scanner.afterLiteral_eq]
  simp only [Scanner.next?, h, if_neg hText, cutSingle_escape_append v hSingle]

theorem Scanner.next?_of_delimiter {s : Scanner} {rest : Text} (h : s.rest = delimiter :: rest)
    (hRest : rest.head? ≠ some delimiter) :
    s.next? = match Placeholder.read s.position s.nextIndex rest with
      | .ok (p, after) => some (.ok (.placeholder p), s.past [.placeholder p] after)
      | .error (position, kind) => some (.error ⟨s.source, position, kind⟩, s.exhausted) := by
  simp only [← Scanner.afterPlaceholder_eq]
  cases hRead : Placeholder.read s.position s.nextIndex rest <;>
    simp [Scanner.next?, h, cutSingle_delimiter hRest, hRead]

/-- What a step of the scanner can do. -/
inductive Scanner.Next (s : Scanner) : Option (Except SyntaxError Part × Scanner) → Prop where
  | finished (hRest : s.rest = []) : Next s none
  | literal {v rest : Text} (hv : v ≠ []) (hRest : s.rest = escape v ++ rest)
      (hEnd : rest = [] ∨ Opens rest) :
      Next s (some (.ok (.literal (escape v)), s.past [.literal (escape v)] rest))
  | placeholder {p : Placeholder} {rest : Text} (hFits : p.Fits s.position s.nextIndex)
      (hRest : s.rest = p.source ++ rest) :
      Next s (some (.ok (.placeholder p), s.past [.placeholder p] rest))
  | malformed {rest : Text} {position : Nat} {kind : SyntaxError.Kind}
      (hRest : s.rest = delimiter :: rest) (hSingle : rest.head? ≠ some delimiter)
      (hFlaw : Placeholder.Flaw s.position rest position kind) :
      Next s (some (.error ⟨s.source, position, kind⟩, s.exhausted))

theorem Scanner.next_next? (s : Scanner) : s.Next s.next? := by
  rcases escaped_or_single s.rest with ⟨v, hRest⟩ | ⟨v, rest, hRest, hSingle⟩
  · by_cases hv : v = []
    · subst hv
      rw [Scanner.next?_of_nil hRest]
      exact .finished hRest
    · rw [Scanner.next?_of_escape hv hRest]
      exact .literal hv (by rw [hRest, List.append_nil]) (.inl rfl)
  · by_cases hv : v = []
    · subst hv
      rw [Scanner.next?_of_delimiter hRest hSingle]
      cases hRead : Placeholder.read s.position s.nextIndex rest with
      | error found => exact .malformed hRest hSingle (.of_read hSingle hRead)
      | ok result =>
        obtain ⟨hFits, hText⟩ := Placeholder.read_eq_ok_iff.mp hRead
        exact .placeholder hFits (hRest.trans hText)
    · have hOpens : Opens (delimiter :: rest) := ⟨rest, rfl, hSingle⟩
      rw [Scanner.next?_of_escape_append hv hRest hOpens]
      exact .literal hv hRest (.inr hOpens)

/-! ## Runs -/

theorem Scanner.run_eq (s : Scanner) :
    s.run = match s.next? with
      | none => ([], none)
      | some (.error error, _) => ([], some error)
      | some (.ok part, s') => (part :: s'.run.1, s'.run.2) := by
  rw [Scanner.run]
  split <;> simp [*]

theorem Scanner.run_of_none {s : Scanner} (h : s.next? = none) : s.run = ([], none) := by
  rw [Scanner.run_eq, h]

theorem Scanner.run_of_ok {s s' : Scanner} {part : Part} (h : s.next? = some (.ok part, s')) :
    s.run = (part :: s'.run.1, s'.run.2) := by
  rw [Scanner.run_eq, h]

theorem Scanner.run_of_error {s s' : Scanner} {error : SyntaxError}
    (h : s.next? = some (.error error, s')) : s.run = ([], some error) := by
  rw [Scanner.run_eq, h]

/-- The parts of a run tile a front of what was left to scan. The scanner behind them stops, with
the outcome of the run. -/
theorem Scanner.tiled_run (s : Scanner) :
    ∃ rest, s.rest = sourceOf s.run.1 ++ rest ∧ Tiled s.position s.nextIndex s.run.1 ∧
      (s.past s.run.1 rest).run = ([], s.run.2) := by
  induction hLength : s.rest.length using Nat.strongRecOn generalizing s with
  | ind length ih =>
    -- What the induction gives for the rest of the run, behind a first part.
    have hLater : ∀ {part tail}, s.next? = some (.ok part, s.past [part] tail) →
        ∃ more rest, s.run = (part :: more, (s.past [part] tail).run.2) ∧
          tail = sourceOf more ++ rest ∧
          Tiled (s.past [part] tail).position (s.past [part] tail).nextIndex more ∧
          (s.past (part :: more) rest).run = ([], (s.past [part] tail).run.2) := by
      intro part tail hNext
      have hShorter : tail.length < length := hLength ▸ Scanner.length_of_next? hNext
      obtain ⟨rest, hTail, hTiled, hStop⟩ := ih tail.length hShorter (s.past [part] tail) rfl
      rw [Scanner.past_past] at hStop
      exact ⟨_, rest, Scanner.run_of_ok hNext, hTail, hTiled, hStop⟩
    have hStep := s.next_next?
    generalize hNext : s.next? = next at hStep
    cases hStep with
    | finished hRest =>
      have hRun := Scanner.run_of_none hNext
      rw [hRun]
      refine ⟨s.rest, rfl, trivial, ?_⟩
      rw [Scanner.past_nil, hRun]
    | malformed hRest hSingle hRead =>
      have hRun := Scanner.run_of_error hNext
      rw [hRun]
      refine ⟨s.rest, rfl, trivial, ?_⟩
      rw [Scanner.past_nil, hRun]
    | @placeholder p tail hFits hRest =>
      obtain ⟨more, rest, hRun, rfl, hTiled, hStop⟩ := hLater hNext
      rw [hRun]
      refine ⟨rest, by simp [hRest, Part.source], ⟨hFits, ?_⟩, hStop⟩
      rw [Placeholder.automaticAfter_eq]
      simpa [Scanner.past, Part.source] using hTiled
    | @literal v tail hv hRest hEnd =>
      obtain ⟨more, rest, hRun, hTail, hTiled, hStop⟩ := hLater hNext
      -- The literal text goes on until a placeholder opens, so no literal text follows it.
      have hHead : ∀ part ∈ more.head?, part.IsPlaceholder := by
        rcases hEnd with hEmpty | ⟨opened, hOpened, hSingle⟩
        · rw [hEmpty] at hTail
          rw [hTiled.eq_nil (List.append_eq_nil_iff.mp hTail.symm).1]
          simp
        · exact hTiled.head_isPlaceholder (hOpened.symm.trans hTail) hSingle
      rw [hRun]
      refine ⟨rest, by simp [hRest, hTail, Part.source],
        ⟨escape_ne_nil_iff.mpr hv, ⟨v, rfl⟩, hHead, ?_⟩, hStop⟩
      simpa [Scanner.past, Part.source, Part.isAutomatic] using hTiled

theorem Scanner.rest_eq_nil_of_run {s : Scanner} (h : s.run = ([], none)) : s.rest = [] := by
  have hStep := s.next_next?
  generalize hNext : s.next? = next at hStep
  cases hStep with
  | finished hRest => exact hRest
  | literal hv hRest hEnd => simp [Scanner.run_of_ok hNext] at h
  | placeholder hFits hRest => simp [Scanner.run_of_ok hNext] at h
  | malformed hRest hSingle hRead => simp [Scanner.run_of_error hNext] at h

theorem Scanner.flaw_of_run {s : Scanner} {error : SyntaxError} (h : s.run = ([], some error)) :
    error.template = s.source ∧ ∃ rest, s.rest = delimiter :: rest ∧
      rest.head? ≠ some delimiter ∧
      Placeholder.Flaw s.position rest error.position error.kind := by
  have hStep := s.next_next?
  generalize hNext : s.next? = next at hStep
  cases hStep with
  | finished hRest => simp [Scanner.run_of_none hNext] at h
  | literal hv hRest hEnd => simp [Scanner.run_of_ok hNext] at h
  | placeholder hFits hRest => simp [Scanner.run_of_ok hNext] at h
  | @malformed rest position kind hRest hSingle hFlaw =>
    rw [Scanner.run_of_error hNext] at h
    cases h
    exact ⟨rfl, rest, hRest, hSingle, hFlaw⟩

theorem Scanner.tiled_of_run {s : Scanner} {parts : List Part} (h : s.run = (parts, none)) :
    Tiled s.position s.nextIndex parts ∧ s.rest = sourceOf parts := by
  obtain ⟨rest, hRest, hTiled, hStop⟩ := s.tiled_run
  rw [h] at hRest hTiled hStop
  have hEmpty : rest = [] := Scanner.rest_eq_nil_of_run hStop
  exact ⟨hTiled, by rw [hRest, hEmpty, List.append_nil]⟩

theorem Scanner.run_of_tiled {s : Scanner} {parts : List Part}
    (h : Tiled s.position s.nextIndex parts) (hSource : s.rest = sourceOf parts) :
    s.run = (parts, none) := by
  induction parts generalizing s with
  | nil => exact Scanner.run_of_none (Scanner.next?_of_nil hSource)
  | cons part rest ih =>
    have hTiled : Tiled (s.past [part] (sourceOf rest)).position
        (s.past [part] (sourceOf rest)).nextIndex rest := by
      simpa [Scanner.past] using h.tail
    have hNext : s.next? = some (.ok part, s.past [part] (sourceOf rest)) := by
      cases part with
      | literal t =>
        obtain ⟨hNe, ⟨v, rfl⟩, hHead, -⟩ := h
        have hv : v ≠ [] := escape_ne_nil_iff.mp hNe
        cases rest with
        | nil => exact Scanner.next?_of_escape hv (by simpa [Part.source] using hSource)
        | cons next more =>
          cases next with
          | literal u => exact absurd (hHead _ rfl) id
          | placeholder p =>
            obtain ⟨tail, hTail, hSingle, -⟩ := hTiled.1.read (sourceOf more)
            exact Scanner.next?_of_escape_append hv hSource ⟨tail, hTail, hSingle⟩
      | placeholder p =>
        obtain ⟨tail, hTail, hSingle, hRead⟩ := h.1.read (sourceOf rest)
        have hNext := Scanner.next?_of_delimiter (hSource.trans hTail) hSingle
        rw [hRead] at hNext
        exact hNext
    rw [Scanner.run_of_ok hNext, ih hTiled rfl]

theorem Scanner.run_eq_ok_iff {s : Scanner} {parts : List Part} :
    s.run = (parts, none) ↔ Tiled s.position s.nextIndex parts ∧ s.rest = sourceOf parts :=
  ⟨Scanner.tiled_of_run, fun h => Scanner.run_of_tiled h.1 h.2⟩

/-! ## Scanning a text -/

theorem scan_eq_ok_iff {source : Text} {parts : List Part} :
    scan source = (parts, none) ↔ Tiled 0 0 parts ∧ source = sourceOf parts :=
  Scanner.run_eq_ok_iff

theorem tiled_scan (source : Text) : Tiled 0 0 (scan source).1 := by
  obtain ⟨-, -, hTiled, -⟩ := (Scanner.start source).tiled_run
  exact hTiled

/-- The error that scanning ends with is a flaw of the text behind the parts. -/
theorem flaw_of_scan {source : Text} {error : SyntaxError} (h : (scan source).2 = some error) :
    error.template = source ∧ ∃ rest, source = sourceOf (scan source).1 ++ delimiter :: rest ∧
      rest.head? ≠ some delimiter ∧
      Placeholder.Flaw (byteLength (sourceOf (scan source).1)) rest error.position
        error.kind := by
  obtain ⟨tail, hTail, -, hStop⟩ := (Scanner.start source).tiled_run
  rw [show (Scanner.start source).run.2 = some error from h] at hStop
  obtain ⟨hTemplate, rest, hOpened, hSingle, hFlaw⟩ := Scanner.flaw_of_run hStop
  have hRest : tail = delimiter :: rest := hOpened
  refine ⟨hTemplate, rest, hRest ▸ hTail, hSingle, ?_⟩
  simpa [scan, Scanner.past, Scanner.start] using hFlaw

/-! ## Templates -/

theorem Template.ofText_of_scan {source : Text} {parts : List Part}
    (h : scan source = (parts, none)) : Template.ofText source = .ok ⟨source, parts, h⟩ := by
  unfold Template.ofText
  split
  · rename_i found hFound
    obtain rfl : found = parts := congrArg Prod.fst (hFound.symm.trans h)
    rfl
  · rename_i error hError
    rw [hError] at h
    cases h

/-- A text that is the source of a template is scanned to it, and to no other. -/
theorem Template.ofText_eq_ok_iff {source : Text} {t : Template} :
    Template.ofText source = .ok t ↔ t.source = source := by
  constructor
  · intro h
    unfold Template.ofText at h
    split at h
    · cases h
      rfl
    · cases h
  · rintro rfl
    exact Template.ofText_of_scan t.scan_source

theorem Template.ofText_eq_error_iff {source : Text} {error : SyntaxError} :
    Template.ofText source = .error error ↔ (scan source).2 = some error := by
  unfold Template.ofText
  split
  · rename_i parts hScan
    simp [hScan]
  · rename_i parts found hScan
    simp [hScan]

end LogMarkup
