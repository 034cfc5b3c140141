import LogMarkup.Template
import LogMarkup.Proofs.Template.Placeholder

/-!
# Parts that tile a template

The parts of a template lie one behind the other. Literal text between placeholders is one part,
in which all delimiters are doubled, and a placeholder without explicit index gets the number of
such placeholders in front of it.

* `Tiled`: sequences of parts that lie so from a byte offset and an automatic index on.
* `Tiled.of_append`: what is behind parts lies at the offset and the index that they lead to.
* `tiled_consLiteral`: literal text in front joins the literal text that is there.
-/

namespace LogMarkup

/-! ## Tiling -/

/-- The next automatic index behind the placeholder. -/
def Placeholder.automaticAfter (p : Placeholder) (automatic : Nat) : Nat :=
  if p.digits.isNone then automatic + 1 else automatic

def Part.IsPlaceholder : Part → Prop
  | .literal _ => False
  | .placeholder _ => True

def Tiled (start automatic : Nat) : List Part → Prop
  | [] => True
  | .literal t :: rest =>
    t ≠ [] ∧ (∃ v, t = escape v) ∧ (∀ part ∈ rest.head?, part.IsPlaceholder) ∧
      Tiled (start + byteLength t) automatic rest
  | .placeholder p :: rest =>
    p.Fits start automatic ∧
      Tiled (start + byteLength p.source) (p.automaticAfter automatic) rest

/-- The text of a sequence of parts. -/
def sourceOf (parts : List Part) : Text := parts.flatMap Part.source

@[simp] theorem sourceOf_nil : sourceOf [] = [] := rfl

@[simp] theorem sourceOf_cons (part : Part) (parts : List Part) :
    sourceOf (part :: parts) = part.source ++ sourceOf parts := List.flatMap_cons

@[simp] theorem sourceOf_append (parts more : List Part) :
    sourceOf (parts ++ more) = sourceOf parts ++ sourceOf more := List.flatMap_append

/-- Does the part take an automatic index? -/
def Part.isAutomatic : Part → Bool
  | .literal _ => false
  | .placeholder p => p.digits.isNone

theorem Placeholder.automaticAfter_eq (p : Placeholder) (automatic : Nat) :
    p.automaticAfter automatic = automatic + [Part.placeholder p].countP Part.isAutomatic := by
  cases hDigits : p.digits <;> simp [Placeholder.automaticAfter, Part.isAutomatic, hDigits]

/-! ## Sequences of parts -/

theorem Placeholder.byteLength_source_pos (p : Placeholder) : 0 < byteLength p.source := by
  change 0 < delimiter.utf8Size + _
  exact Nat.add_pos_left (Char.utf8Size_pos delimiter) _

theorem Part.source_ne_nil_of_tiled {start automatic : Nat} {part : Part} {rest : List Part}
    (h : Tiled start automatic (part :: rest)) : part.source ≠ [] := by
  cases part with
  | literal t => exact h.1
  | placeholder p => simp [Part.source, Placeholder.source]

theorem Tiled.eq_nil {start automatic : Nat} {parts : List Part} (h : Tiled start automatic parts)
    (hSource : sourceOf parts = []) : parts = [] := by
  cases parts with
  | nil => rfl
  | cons part rest =>
    rw [sourceOf_cons, List.append_eq_nil_iff] at hSource
    exact absurd hSource.1 (Part.source_ne_nil_of_tiled h)

/-- A single delimiter in front is the opening one of a placeholder. -/
theorem Tiled.head_isPlaceholder {start automatic : Nat} {parts : List Part}
    (h : Tiled start automatic parts) {t rest : Text}
    (hSource : delimiter :: t = sourceOf parts ++ rest) (ht : t.head? ≠ some delimiter) :
    ∀ part ∈ parts.head?, part.IsPlaceholder := by
  intro part hPart
  cases parts with
  | nil => cases hPart
  | cons first more =>
    obtain rfl : first = part := by simpa using hPart
    cases first with
    | placeholder p => trivial
    | literal u =>
      obtain ⟨hNe, ⟨v, rfl⟩, -⟩ := h
      cases v with
      | nil => exact absurd rfl hNe
      | cons c v =>
        by_cases hc : c = delimiter
        · have hTail : t = delimiter :: (escape v ++ (sourceOf more ++ rest)) := by
            simpa [Part.source, escape, hc] using hSource
          rw [hTail] at ht
          exact absurd rfl ht
        · have hHead : delimiter = c := by
            have hFirst := congrArg List.head? hSource
            simpa [Part.source, escape, hc] using hFirst
          exact absurd hHead.symm hc

theorem Tiled.tail {start automatic : Nat} {part : Part} {rest : List Part}
    (h : Tiled start automatic (part :: rest)) :
    Tiled (start + byteLength part.source) (automatic + [part].countP Part.isAutomatic) rest := by
  cases part with
  | literal t => exact h.2.2.2
  | placeholder p =>
    rw [← Placeholder.automaticAfter_eq]
    exact h.2

/-- What is behind some parts of a tiling sequence is one too. Of two parts that follow each
other there, one is a placeholder. -/
theorem Tiled.of_append {start automatic : Nat} {front back : List Part}
    (h : Tiled start automatic (front ++ back)) :
    Tiled (start + byteLength (sourceOf front)) (automatic + front.countP Part.isAutomatic) back ∧
      ∀ part ∈ front.getLast?, part.IsPlaceholder ∨ ∀ next ∈ back.head?, next.IsPlaceholder := by
  induction front generalizing start automatic with
  | nil => exact ⟨h, by simp⟩
  | cons part rest ih =>
    obtain ⟨hBack, hJoint⟩ := ih h.tail
    refine ⟨?_, ?_⟩
    · rw [sourceOf_cons, byteLength_append, List.countP_cons, ← Nat.add_assoc]
      rw [List.countP_singleton] at hBack
      convert hBack using 1
      omega
    · cases rest with
      | cons next more => simpa using hJoint
      | nil =>
        intro last hLast
        obtain rfl : part = last := by simpa using hLast
        cases part with
        | literal t => exact .inr h.2.2.1
        | placeholder p => exact .inl trivial

/-! ## Literal text in front -/

/-- Puts literal text in front of parts, joining it with literal text that is there. -/
def consLiteral (t : Text) : List Part → List Part
  | .literal u :: rest => .literal (t ++ u) :: rest
  | parts => .literal t :: parts

theorem sourceOf_consLiteral (t : Text) (parts : List Part) :
    sourceOf (consLiteral t parts) = t ++ sourceOf parts := by
  cases parts with
  | nil => simp [consLiteral, Part.source]
  | cons part rest => cases part <;> simp [consLiteral, Part.source]

theorem tiled_consLiteral {start automatic : Nat} {v : Text} (hv : v ≠ []) {parts : List Part}
    (h : Tiled (start + byteLength (escape v)) automatic parts) :
    Tiled start automatic (consLiteral (escape v) parts) := by
  have hNe : escape v ≠ [] := escape_ne_nil_iff.mpr hv
  cases parts with
  | nil => exact ⟨hNe, ⟨v, rfl⟩, by simp, trivial⟩
  | cons part rest =>
    cases part with
    | placeholder p => exact ⟨hNe, ⟨v, rfl⟩, by simp [Part.IsPlaceholder], h⟩
    | literal u =>
      obtain ⟨-, ⟨w, rfl⟩, hHead, hRest⟩ := h
      rw [Nat.add_assoc, ← byteLength_append] at hRest
      exact ⟨by simp [hNe], ⟨v ++ w, (escape_append v w).symm⟩, hHead, hRest⟩

/-! ## Placeholders -/

def Part.placeholder? : Part → Option Placeholder
  | .literal _ => none
  | .placeholder p => some p

def placeholdersOf (parts : List Part) : List Placeholder := parts.filterMap Part.placeholder?

@[simp] theorem placeholdersOf_nil : placeholdersOf [] = [] := rfl

@[simp] theorem placeholdersOf_literal (t : Text) (parts : List Part) :
    placeholdersOf (.literal t :: parts) = placeholdersOf parts := rfl

@[simp] theorem placeholdersOf_placeholder (p : Placeholder) (parts : List Part) :
    placeholdersOf (.placeholder p :: parts) = p :: placeholdersOf parts := rfl

theorem placeholdersOf_consLiteral (t : Text) (parts : List Part) :
    placeholdersOf (consLiteral t parts) = placeholdersOf parts := by
  cases parts with
  | nil => rfl
  | cons part rest => cases part <;> rfl

def Template.placeholders (t : Template) : List Placeholder := placeholdersOf t.parts

theorem Template.names_eq (t : Template) : t.names = t.placeholders.map Placeholder.name := by
  rw [Template.names, Template.placeholders, placeholdersOf, List.map_filterMap]
  congr 1
  funext part
  cases part <;> rfl

end LogMarkup
