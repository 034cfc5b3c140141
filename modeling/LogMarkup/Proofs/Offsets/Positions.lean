import LogMarkup.Proofs.Expansion.Filled
import LogMarkup.Proofs.Message.Diagnosis
import LogMarkup.Proofs.Offsets.Bytes

/-!
# Positions of errors

Every error is reported at a place between two characters, or at an end of the text. Errors are
found next to delimiters and separators, which are single bytes, or at a character that should be
another.

* `SyntaxError.isBoundary_position`: errors in templates.
* `FailedArgument.isBoundary_position`: arguments without a value.
* `ReadError.isBoundary_position`: errors in messages.
-/

namespace LogMarkup

variable {σ ε : Type}

theorem IsBoundary.le {t : Text} {n : Nat} (h : IsBoundary t n) : n ≤ byteLength t := by
  obtain ⟨before, after, rfl, rfl⟩ := isBoundary_iff.mp h
  rw [byteLength_append]
  exact Nat.le_add_right _ _

theorem isBoundary_byteLength_append (before after : Text) :
    IsBoundary (before ++ after) (byteLength before) :=
  isBoundary_iff.mpr ⟨before, after, rfl, rfl⟩

/-- Places behind an opening delimiter. -/
theorem isBoundary_behind {t : Text} {position : Nat} (front between after : Text)
    (hText : t = front ++ delimiter :: (between ++ after))
    (hPosition : position = byteLength front + 1 + byteLength between) : IsBoundary t position := by
  have hSplit := isBoundary_byteLength_append (front ++ delimiter :: between) after
  rw [byteLength_append, byteLength_cons, ← Nat.add_assoc, List.append_assoc] at hSplit
  rw [hText, hPosition]
  exact hSplit

/-! ## Templates -/

theorem IndexFlaw.exists_split {digits : Text} {offset : Nat} {kind : SyntaxError.Kind}
    (h : IndexFlaw digits offset kind) :
    ∃ before after, digits = before ++ after ∧ offset = byteLength before := by
  cases h with
  | empty => exact ⟨[], [], rfl, rfl⟩
  | outOfRange => exact ⟨[], _, rfl, rfl⟩
  | notADigit => exact ⟨_, _, rfl, rfl⟩

theorem Placeholder.Flaw.isBoundary {front rest : Text} {position : Nat} {kind : SyntaxError.Kind}
    (h : Placeholder.Flaw (byteLength front) rest position kind) :
    IsBoundary (front ++ delimiter :: rest) position := by
  cases h with
  | unterminatedArgument => exact isBoundary_behind front [] _ rfl rfl
  | emptyName => exact isBoundary_behind front [] _ rfl rfl
  | @nameContainsSeparator before => exact isBoundary_behind front before _ rfl rfl
  | @index name digits rest offset kind hName hDigits hFlaw =>
    obtain ⟨before, after, rfl, rfl⟩ := hFlaw.exists_split
    refine isBoundary_behind front (name ++ nameSeparator :: before) (after ++ delimiter :: rest)
      (by simp) ?_
    rw [byteLength_append_cons name before rfl]
    omega

theorem SyntaxError.isBoundary_position {source : Text} {error : SyntaxError}
    (h : (scan source).2 = some error) : IsBoundary source error.position := by
  obtain ⟨-, rest, hSource, -, hFlaw⟩ := flaw_of_scan h
  have hBoundary := hFlaw.isBoundary
  rwa [← hSource] at hBoundary

/-- Failures are reported at the opening delimiters of their placeholders. -/
theorem FailedArgument.isBoundary_position {b : Buffer} {source : Text} {r : Resolver σ} {s : σ}
    {u : UnresolvedArguments} (h : (expandInto b source r s).result = .error (.unresolved u))
    {f : FailedArgument} (hf : f ∈ u.failures) : IsBoundary source f.position := by
  cases hError : (scan source).2 with
  | some error =>
    rw [expandInto_of_error hError] at h
    cases h
  | none =>
    have hScan : scan source = ((scan source).1, none) := Prod.ext rfl hError
    rw [result_expandInto hScan] at h
    split at h
    · cases h
    · cases h
      obtain ⟨⟨p, answer⟩, hAsked, hFailure⟩ := List.mem_filterMap.mp hf
      have hp : p ∈ placeholdersOf (scan source).1 := by
        rw [← r.map_fst_ask (placeholdersOf (scan source).1) s]
        exact List.mem_map_of_mem hAsked
      obtain ⟨before, after, hSource, hStart⟩ :=
        (Template.mk source _ hScan).exists_source_eq_append hp
      have hPosition : f.position = p.start := by
        cases hResult : answer.result with
        | ok => simp [Placeholder.failure?, hResult] at hFailure
        | error error =>
          simp only [Placeholder.failure?, hResult, Option.some.injEq] at hFailure
          rw [← hFailure]
      rw [hPosition, hStart]
      exact isBoundary_iff.mpr ⟨before, p.source ++ after, by simpa using hSource, rfl⟩

/-! ## Messages -/

theorem Flaw.isBoundary {front rest : Text} {defect : Defect}
    (h : Flaw (byteLength front) rest defect) :
    IsBoundary (front ++ delimiter :: rest) defect.position := by
  cases h with
  | emptyArgument => exact isBoundary_byteLength_append front _
  | unterminatedName => exact isBoundary_byteLength_append front _
  | unterminatedArgument => exact isBoundary_byteLength_append front _
  | emptyName => exact isBoundary_behind front [] _ rfl rfl
  | @missingErrorMarker name => exact isBoundary_behind front name _ rfl rfl
  | @invalidErrorStart name rest c =>
    refine isBoundary_behind front (name ++ [errorMarker]) (c :: rest) (by simp) ?_
    rw [byteLength_append_cons name [] rfl]
    rfl
  | @invalidErrorEnd name v before rest last hName hError hLast hRest =>
    refine isBoundary_behind front (name ++ errorMarker :: before) (last :: delimiter :: rest) ?_ ?_
    · have hText : '(' :: (escape v ++ delimiter :: rest) =
          '(' :: escape v ++ delimiter :: rest := rfl
      rw [hText, hError]
      simp
    · rw [byteLength_append_cons name before rfl]
      dsimp only
      omega

theorem ReadError.isBoundary_position {message : Text} {sink : Option Text}
    {receive : Receiver ε σ} {s : σ} {error : ReadError ε}
    (h : (readMessage message sink receive s).result = .error error) :
    IsBoundary message error.position := by
  obtain ⟨items, defect?, hRead⟩ : ∃ items defect?, readItems message = (items, defect?) :=
    ⟨_, _, rfl⟩
  rcases receive.takes_or_refuses items s with
    ⟨s', hTakes⟩ | ⟨front, a, back, middle, cause, s', rfl, hTakes, hRefused⟩
  · rw [hTakes.readMessage hRead] at h
    cases defect? with
    | none => cases h
    | some defect =>
      cases h
      obtain ⟨after, rfl, -, hFlaw⟩ := flaw_of_readItems hRead
      exact hFlaw.isBoundary
  · rw [hTakes.readMessage_refused hRefused hRead] at h
    cases h
    obtain ⟨rest, rfl, -⟩ := argument_of_readItems hRead
    exact isBoundary_byteLength_append _ _

end LogMarkup
