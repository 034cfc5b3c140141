import LogMarkup.Delimiter
import LogMarkup.Decimal.Natural
import LogMarkup.Template.SyntaxError

/-!
# Parts of templates

A template is made of literal text and placeholders. A placeholder is a name between delimiters,
with an explicit index or without one; one without gets the next automatic index.

* `Part.source`: the text of a part, from which the template is put together again.
* `readIndex`: explicit indices are read digit by digit and never exceed `maxIndex`.
* `Placeholder.source_of_read`: reading a placeholder uses up exactly its text.
-/

namespace LogMarkup

/-- The largest index that an argument can have. -/
def maxIndex : Nat := UInt64.size - 1

structure Placeholder where
  /-- The byte offset of the opening delimiter in the template. -/
  start : Nat
  name : Text
  /-- The digits of the explicit index, if there is one. -/
  digits : Option Text
  /-- The index that the argument is looked up with. -/
  index : Nat
  deriving DecidableEq, Repr

/-- The text of the placeholder in the template. -/
def Placeholder.source (p : Placeholder) : Text :=
  delimiter :: p.name ++ (p.digits.elim [] (nameSeparator :: ·)) ++ [delimiter]

inductive Part where
  /-- Text that is copied as it is, with its doubled delimiters. -/
  | literal (t : Text)
  | placeholder (p : Placeholder)
  deriving DecidableEq, Repr

def Part.source : Part → Text
  | .literal t => t
  | .placeholder p => p.source

/-! ## Explicit indices -/

def isDecimalDigit (c : Char) : Bool := '0' ≤ c && c ≤ '9'

/-- Continues an index with the digits after those that denote `value`. An error carries its
offset from the first digit; an index out of range is reported at the first digit. -/
def readIndexFrom (value offset : Nat) : Text → Except (Nat × SyntaxError.Kind) Nat
  | [] => .ok value
  | c :: rest =>
    if isDecimalDigit c then
      let extended := 10 * value + (c.toNat - '0'.toNat)
      if extended ≤ maxIndex then readIndexFrom extended (offset + 1) rest
      else .error (0, .indexOutOfRange)
    else .error (offset, .notADigit)

/-- The index denoted by the text after a name separator. -/
def readIndex (digits : Text) : Except (Nat × SyntaxError.Kind) Nat :=
  if digits = [] then .error (0, .emptyIndex) else readIndexFrom 0 0 digits

/-! ## Reading a placeholder -/

/-- Reads a placeholder whose opening delimiter at `start` is followed by `rest`, and gives the
text after it. An error carries its byte offset in the template. -/
def Placeholder.read (start automatic : Nat) (rest : Text) :
    Except (Nat × SyntaxError.Kind) (Placeholder × Text) :=
  match cutAt delimiter rest with
  | none => .error (start + 1, .unterminatedArgument)
  | some (body, after) =>
    let (name, digits) := match cutAt nameSeparator body with
      | none => (body, none)
      | some (name, digits) => (name, some digits)
    if name = [] then .error (start + 1, .emptyName)
    else match cutAt errorMarker name with
      | some (before, _) => .error (start + 1 + byteLength before, .nameContainsSeparator)
      | none => match digits with
        | none => .ok (⟨start, name, none, automatic⟩, after)
        | some digits => match readIndex digits with
          | .ok index => .ok (⟨start, name, some digits, index⟩, after)
          | .error (offset, kind) =>
            .error (start + 1 + byteLength name + 1 + offset, kind)

theorem Placeholder.source_of_read {start automatic : Nat} {rest after : Text} {p : Placeholder}
    (h : Placeholder.read start automatic rest = .ok (p, after)) :
    delimiter :: rest = p.source ++ after := by
  unfold Placeholder.read at h
  split at h
  · cases h
  · rename_i body after' hbody
    obtain ⟨rfl, -⟩ := cutAt_eq_some hbody
    cases hsep : cutAt nameSeparator body with
    | none =>
      simp only [hsep] at h
      split at h
      · cases h
      · split at h
        · cases h
        · cases h
          simp [Placeholder.source]
    | some split =>
      obtain ⟨name, digits⟩ := split
      obtain ⟨rfl, -⟩ := cutAt_eq_some hsep
      simp only [hsep] at h
      split at h
      · cases h
      · split at h
        · cases h
        · split at h
          · cases h
            simp [Placeholder.source]
          · cases h

end LogMarkup
