import LogMarkup.Proofs.Offsets.Expanding
import LogMarkup.Proofs.Offsets.Positions
import LogMarkup.Proofs.Offsets.Reading

/-!
# Offsets between characters

Nothing is cut inside a character or past the end of a text. The programs that search bytes and
cut by the offsets that they find ask for bytes and slices that are there, so they end with the
results that are defined on texts. The offsets that are reported are between characters too.

* `isSome_slice?_iff`: which offsets a text can be cut at.
* `offsets_at_boundaries`: all programs and reports.
-/

namespace LogMarkup

variable {σ τ ε : Type}

/-! ## Slices -/

theorem isSome_slice?_iff {t : Text} {start stop : Nat} :
    (slice? t start stop).isSome ↔
      start ≤ stop ∧ stop ≤ byteLength t ∧ IsBoundary t start ∧ IsBoundary t stop := by
  unfold slice?
  constructor
  · intro h
    obtain ⟨hLe, hStart, hStop⟩ : start ≤ stop ∧ IsBoundary t start ∧ IsBoundary t stop := by
      by_contra hNone
      rw [if_neg hNone] at h
      cases h
    exact ⟨hLe, hStop.le, hStart, hStop⟩
  · rintro ⟨hLe, -, hStart, hStop⟩
    rw [if_pos ⟨hLe, hStart, hStop⟩]
    rfl

/-! ## Programs and reports -/

/-- A reported offset is between two characters of the text, or at one of its ends. -/
def WithinText (t : Text) (position : Nat) : Prop :=
  position ≤ byteLength t ∧ IsBoundary t position

theorem IsBoundary.withinText {t : Text} {n : Nat} (h : IsBoundary t n) : WithinText t n :=
  ⟨h.le, h⟩

/-- A slice is cut between characters and is the text of the bytes between its offsets. Every
program that cuts by offsets gets all its bytes and slices, and ends as the one on texts does. All
reported offsets are between characters. -/
theorem offsets_at_boundaries (text : Text) (t : Template) (b : Buffer) (sink : Option Text)
    (r : Resolver σ) (s : σ) (hear : Event → τ → Except ε Unit × τ) (x : τ) :
    (∀ start stop, (slice? text start stop).isSome ↔
      start ≤ stop ∧ stop ≤ byteLength text ∧ IsBoundary text start ∧ IsBoundary text stop) ∧
    (∀ start stop u, slice? text start stop = some u →
      bytesBetween? (utf8 text) start stop = some (utf8 u)) ∧
    unescapeSliced text = some (unescape? text) ∧
    b.pushEscapedSliced text = some (b.pushEscaped text) ∧
    scanRanges text = some (rangesFrom 0 (scan text).1, (scan text).2) ∧
    namesAt t.source (rangesFrom 0 t.parts) = some t.names ∧
    expandSliced b text r s = some (expandInto b text r s) ∧
    t.expandSliced b r s = some (t.expandInto b r s) ∧
    readSliced text sink hear x = some (readMessage text sink (.hearing hear) x) ∧
    (∀ error, (scan text).2 = some error → WithinText text error.position) ∧
    (∀ u, (expandInto b text r s).result = .error (.unresolved u) →
      ∀ f ∈ u.failures, WithinText text f.position) ∧
    (∀ u, (t.expandInto b r s).result = .error (.unresolved u) →
      ∀ f ∈ u.failures, WithinText t.source f.position) ∧
    ∀ error, (readMessage text sink (.hearing hear) x).result = .error error →
      WithinText text error.position := by
  refine ⟨fun _ _ => isSome_slice?_iff, fun _ _ _ h => (bytesBetween?_of_slice? h).2.2.2,
    unescapeSliced_eq text, b.pushEscapedSliced_eq text, scanRanges_eq text, namesAt_eq t,
    expandSliced_eq b text r s, t.expandSliced_eq b r s, readSliced_eq hear text sink x,
    fun _ h => (SyntaxError.isBoundary_position h).withinText,
    fun _ h _ hf => (FailedArgument.isBoundary_position h hf).withinText, ?_,
    fun _ h => (ReadError.isBoundary_position h).withinText⟩
  intro u h f hf
  rw [t.expandInto_eq] at h
  exact (FailedArgument.isBoundary_position h hf).withinText

end LogMarkup
