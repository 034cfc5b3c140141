import Mathlib.Data.List.Forall2
import LogMarkup.Proofs.Expansion.Prescanned
import LogMarkup.Proofs.Template.Numbered

/-!
# Expanding templates with all indices written out

An expansion sees the literal text of a template, and of its placeholders the names and the
indices. Whether an index was counted or written out has no influence, and where the placeholders
are is told only in the failures.

* `Part.Alike`, `Progress.Alike`: parts, and expansions under way, that differ in places only.
* `Progress.Alike.expandParts`: what one part keeps a whole run keeps.
* `expandInto_numbered`: the template with all indices written out, beside the one it was.
-/

namespace LogMarkup

variable {σ : Type}

/-! ## Parts that differ in places -/

/-- The same literal text, or placeholders that ask for the same argument. -/
inductive Part.Alike : Part → Part → Prop where
  | literal (t : Text) : Alike (.literal t) (.literal t)
  | placeholder {p q : Placeholder} (hRequest : p.request = q.request) :
      Alike (.placeholder p) (.placeholder q)

theorem Part.alike_movedTo_numbered (start : Nat) (part : Part) :
    (part.numbered.movedTo start).Alike part := by
  cases part with
  | literal t => exact .literal t
  | placeholder p => exact .placeholder rfl

theorem alike_placedFrom (start : Nat) (parts : List Part) :
    List.Forall₂ Part.Alike (placedFrom start (parts.map Part.numbered)) parts := by
  induction parts generalizing start with
  | nil => exact .nil
  | cons part rest ih => exact .cons (part.alike_movedTo_numbered start) (ih _)

theorem map_request_of_alike {parts others : List Part} (h : List.Forall₂ Part.Alike parts others) :
    (placeholdersOf parts).map Placeholder.request =
      (placeholdersOf others).map Placeholder.request := by
  induction h with
  | nil => rfl
  | cons hPart _ ih =>
    cases hPart with
    | literal t => exact ih
    | placeholder hRequest =>
      rw [placeholdersOf_placeholder, placeholdersOf_placeholder, List.map_cons, List.map_cons,
        hRequest, ih]

/-! ## Expansions that differ in places -/

/-- The failure, without its place. -/
def FailedArgument.unplaced (f : FailedArgument) : FailedArgument := { f with position := 0 }

/-- The error, without the places of failures. -/
def ExpandError.unplaced : ExpandError → ExpandError
  | .malformed error => .malformed error
  | .unresolved u => .unresolved { u with failures := u.failures.map FailedArgument.unplaced }

namespace Progress

structure Alike (x y : Progress σ) : Prop where
  buffer : x.buffer = y.buffer
  state : x.state = y.state
  failures : x.failures.map FailedArgument.unplaced = y.failures.map FailedArgument.unplaced

theorem Alike.expandPart {x y : Progress σ} (h : x.Alike y) (r : Resolver σ) {part other : Part}
    (hPart : part.Alike other) : (x.expandPart r part).Alike (y.expandPart r other) := by
  obtain ⟨hBuffer, hState, hFailures⟩ := h
  cases hPart with
  | literal t => exact ⟨congrArg (Buffer.push · t) hBuffer, hState, hFailures⟩
  | @placeholder p q hRequest =>
    obtain ⟨hIndex, hName⟩ := Request.mk.inj hRequest
    simp only [Progress.expandPart, expandPlaceholder, hIndex, hName, hState, hBuffer]
    refine ⟨rfl, rfl, ?_⟩
    cases hResult : (r q.index q.name y.state).1.result with
    | ok => exact hFailures
    | error error => simp [hFailures, FailedArgument.unplaced]

theorem Alike.expandParts {x y : Progress σ} (h : x.Alike y) (r : Resolver σ)
    {parts others : List Part} (hParts : List.Forall₂ Part.Alike parts others) :
    (x.expandParts r parts).Alike (y.expandParts r others) := by
  induction hParts generalizing x y with
  | nil => exact h
  | cons hPart _ ih =>
    rw [expandParts_cons, expandParts_cons]
    exact ih (h.expandPart r hPart)

theorem Alike.finish {x y : Progress σ} (h : x.Alike y) (before : Text) :
    (x.finish before).result.mapError ExpandError.unplaced =
      (y.finish before).result.mapError ExpandError.unplaced := by
  obtain ⟨hBuffer, -, hFailures⟩ := h
  have hNone : x.failures = [] ↔ y.failures = [] := by
    rw [← List.map_eq_nil_iff (f := FailedArgument.unplaced), hFailures, List.map_eq_nil_iff]
  by_cases hx : x.failures = []
  · simp only [Progress.finish, if_pos hx, if_pos (hNone.mp hx)]
  · simp only [Progress.finish, if_neg hx, if_neg (mt hNone.mpr hx), Except.mapError,
      ExpandError.unplaced, hBuffer, hFailures]

end Progress

theorem expandInto_of_alike {source other : Text} {parts others : List Part}
    (hScan : scan source = (parts, none)) (hOther : scan other = (others, none))
    (hParts : List.Forall₂ Part.Alike parts others) (b : Buffer) (r : Resolver σ) (s : σ) :
    let x := expandInto b source r s
    let y := expandInto b other r s
    x.buffer = y.buffer ∧ x.state = y.state ∧
      x.result.mapError ExpandError.unplaced = y.result.mapError ExpandError.unplaced ∧
      requests b source r s = requests b other r s := by
  intro x y
  have hStart : (Progress.start b s).Alike (Progress.start b s) := ⟨rfl, rfl, rfl⟩
  have hEnd := hStart.expandParts r hParts
  have hx : x = _ := expandInto_of_scan hScan b r s
  have hy : y = _ := expandInto_of_scan hOther b r s
  rw [hx, hy]
  refine ⟨hEnd.buffer, hEnd.state, hEnd.finish b.text, ?_⟩
  rw [requests, requests, expandInto_logged, expandInto_logged, hScan, hOther]
  exact map_request_of_alike hParts

/-! ## Templates -/

/-- Writing out all indices of a template gives a template with the same names and indices, none of
which is counted, and writing them out again gives no other. Expanding it does the same, but for the
places of failures. The bound holds of every text in memory, as an offset is no larger than an
index. Indices that are not written out do not depend on those that are: they are the same in each
template with the same placeholders without explicit index. -/
theorem expandInto_numbered (t : Template) (hSize : byteLength t.source ≤ maxIndex) :
    (∃ u, Template.ofText t.numbered = .ok u ∧ u.names = t.names ∧
      u.placeholders.map Placeholder.index = t.placeholders.map Placeholder.index ∧
      u.automatic = [] ∧ u.numbered = t.numbered) ∧
    (∀ {σ : Type} (b : Buffer) (r : Resolver σ) (s : σ),
      let x := expandInto b t.numbered r s
      let y := expandInto b t.source r s
      x.buffer = y.buffer ∧ x.state = y.state ∧
        x.result.mapError ExpandError.unplaced = y.result.mapError ExpandError.unplaced ∧
        requests b t.numbered r s = requests b t.source r s) ∧
    ∀ other : Template,
      other.automatic.map Placeholder.name = t.automatic.map Placeholder.name →
        other.automatic.map (fun p => (p.name, p.index)) =
          t.automatic.map (fun p => (p.name, p.index)) := by
  have hScan := t.scan_numbered hSize
  have hAlike := alike_placedFrom 0 t.parts
  refine ⟨⟨_, Template.ofText_of_scan hScan, ?_, ?_, automatic_placedFrom 0 t.parts,
      sourceOf_numbered_placedFrom 0 t.parts⟩,
    fun b r s => expandInto_of_alike hScan t.scan_source hAlike b r s, ?_⟩
  · have hNames := congrArg (List.map Request.name) (map_request_of_alike hAlike)
    rw [List.map_map, List.map_map] at hNames
    rw [Template.names_eq, Template.names_eq]
    exact hNames
  · have hIndices := congrArg (List.map Request.index) (map_request_of_alike hAlike)
    rw [List.map_map, List.map_map] at hIndices
    exact hIndices
  · intro other hNames
    rw [other.zipIdx_automatic, t.zipIdx_automatic, hNames]

/-- The explicit index between the two automatic ones stays as it is written, with its zero. -/
theorem expandInto_numbered_of_mixed :
    let t : Template := ⟨"`a``b:07` `a`".toList,
      [.placeholder ⟨0, ['a'], none, 0⟩, .placeholder ⟨3, ['b'], some ['0', '7'], 7⟩,
        .literal [' '], .placeholder ⟨10, ['a'], none, 1⟩], by decide +kernel⟩
    byteLength t.source ≤ maxIndex ∧ t.numbered = "`a:0``b:07` `a:1`".toList ∧
      ∃ u, Template.ofText t.numbered = .ok u ∧ u.names = t.names ∧
        u.placeholders.map Placeholder.index = [0, 7, 1] ∧ u.automatic = [] ∧
        u.numbered = t.numbered := by
  intro t
  have hSize : byteLength t.source ≤ maxIndex := by decide +kernel
  exact ⟨hSize, by decide +kernel, (expandInto_numbered t hSize).1⟩

end LogMarkup
