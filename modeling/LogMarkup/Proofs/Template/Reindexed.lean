import Mathlib.Data.List.Forall2
import LogMarkup.Proofs.Template.Scanning

/-!
# Templates with other explicit indices

The explicit index of each placeholder of a template can be replaced, added or removed. That moves
what is behind it, and it changes the automatic indices behind it, as they count the placeholders
that have no explicit one. What is left are the literal text and the names.

* `Template.reindexed`: the text of the template with the indices that were chosen.
* `reindexedFrom`: its parts, at their offsets and with the indices that they get.
* `Part.Reindexes`: what such a part has in common with the old one.
* `Template.exists_reindexed`: the text is a template, if the chosen indices are in range.
-/

namespace LogMarkup

/-! ## The new text and its parts -/

/-- The part, with the chosen digits in place of its explicit index. -/
def Part.reindexed (choose : Placeholder → Option Text) : Part → Part
  | .literal t => .literal t
  | .placeholder p => .placeholder { p with digits := choose p }

/-- The text of the template in which each placeholder has the chosen digits for an explicit
index, or no explicit index. -/
def Template.reindexed (t : Template) (choose : Placeholder → Option Text) : Text :=
  sourceOf (t.parts.map (Part.reindexed choose))

/-- The parts with the chosen digits, from a byte offset and an automatic index on. -/
def reindexedFrom (choose : Placeholder → Option Text) (start automatic : Nat) :
    List Part → List Part
  | [] => []
  | .literal t :: rest =>
    .literal t :: reindexedFrom choose (start + byteLength t) automatic rest
  | .placeholder p :: rest =>
    let q : Placeholder := ⟨start, p.name, choose p, (choose p).elim automatic readDecimal⟩
    .placeholder q ::
      reindexedFrom choose (start + byteLength q.source) (q.automaticAfter automatic) rest

/-- The second part is the first one with the chosen digits, at any offset and with any index. -/
inductive Part.Reindexes (choose : Placeholder → Option Text) : Part → Part → Prop where
  | literal (t : Text) : Reindexes choose (.literal t) (.literal t)
  | placeholder {p q : Placeholder} (hName : q.name = p.name) (hDigits : q.digits = choose p) :
      Reindexes choose (.placeholder p) (.placeholder q)

variable {choose : Placeholder → Option Text}

theorem reindexes_reindexedFrom (choose : Placeholder → Option Text) (start automatic : Nat)
    (parts : List Part) :
    List.Forall₂ (Part.Reindexes choose) parts (reindexedFrom choose start automatic parts) := by
  induction parts generalizing start automatic with
  | nil => exact .nil
  | cons part rest ih =>
    cases part with
    | literal t => exact .cons (.literal t) (ih _ _)
    | placeholder p => exact .cons (.placeholder rfl rfl) (ih _ _)

theorem sourceOf_of_reindexes {parts others : List Part}
    (h : List.Forall₂ (Part.Reindexes choose) parts others) :
    sourceOf others = sourceOf (parts.map (Part.reindexed choose)) := by
  induction h with
  | nil => rfl
  | cons hPart _ ih =>
    rw [List.map_cons, sourceOf_cons, sourceOf_cons, ih]
    cases hPart with
    | literal t => rfl
    | placeholder hName hDigits =>
      simp only [Part.reindexed, Part.source, Placeholder.source, hName, hDigits]

theorem placeholdersOf_of_reindexes {parts others : List Part}
    (h : List.Forall₂ (Part.Reindexes choose) parts others) :
    List.Forall₂ (fun p q => q.name = p.name ∧ q.digits = choose p) (placeholdersOf parts)
      (placeholdersOf others) := by
  induction h with
  | nil => exact .nil
  | cons hPart _ ih =>
    cases hPart with
    | literal t => exact ih
    | placeholder hName hDigits => exact .cons ⟨hName, hDigits⟩ ih

/-! ## Scanning the new text -/

theorem tiled_reindexedFrom {start automatic : Nat} {parts : List Part}
    (h : Tiled start automatic parts)
    (hChosen : ∀ p ∈ placeholdersOf parts, ∀ digits ∈ choose p, IsIndex digits)
    (offset next : Nat) : Tiled offset next (reindexedFrom choose offset next parts) := by
  induction parts generalizing start automatic offset next with
  | nil => trivial
  | cons part rest ih =>
    cases part with
    | placeholder p =>
      rw [placeholdersOf_placeholder, List.forall_mem_cons] at hChosen
      obtain ⟨-, hName, -, -⟩ := Placeholder.fits_iff.mp h.1
      exact ⟨Placeholder.fits_iff.mpr ⟨rfl, hName, hChosen.1, rfl⟩, ih h.2 hChosen.2 _ _⟩
    | literal t =>
      obtain ⟨hNe, hEscaped, hHead, hRest⟩ := h
      refine ⟨hNe, hEscaped, ?_, ih hRest hChosen _ _⟩
      cases rest with
      | nil => simp [reindexedFrom]
      | cons next more =>
        cases next with
        | literal u => exact absurd (hHead _ rfl) id
        | placeholder p => simp [reindexedFrom, Part.IsPlaceholder]

/-- The text with the chosen indices is a template with the same literal text and the same names,
in the same order. -/
theorem Template.exists_reindexed (t : Template)
    (hChosen : ∀ p ∈ t.placeholders, ∀ digits ∈ choose p, IsIndex digits) :
    ∃ u, Template.ofText (t.reindexed choose) = .ok u ∧ u.source = t.reindexed choose ∧
      List.Forall₂ (Part.Reindexes choose) t.parts u.parts := by
  have hTiled := (scan_eq_ok_iff.mp t.scan_source).1
  have hReindexes := reindexes_reindexedFrom choose 0 0 t.parts
  have hScan : scan (t.reindexed choose) = (reindexedFrom choose 0 0 t.parts, none) :=
    scan_eq_ok_iff.mpr
      ⟨tiled_reindexedFrom hTiled hChosen 0 0, (sourceOf_of_reindexes hReindexes).symm⟩
  exact ⟨_, Template.ofText_of_scan hScan, rfl, hReindexes⟩

end LogMarkup
