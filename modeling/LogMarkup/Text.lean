/-!
# Text

Templates and messages are lists of characters. Every offset counts the bytes of the UTF-8
form, so an offset is the byte length of the text in front of it.

* `byteLength_append`: byte lengths add up.
* `splitAtByte_append`, `byteLength_splitAtByte_le`, `lt_of_splitAtByte_eq_cons`: cutting at an
  offset loses nothing, and cuts in front of a character that the offset falls into.
* `splitAtByte_byteLength`: cutting at the length of a first part gives the parts.
-/

namespace LogMarkup

abbrev Text := List Char

/-! ## Byte lengths -/

/-- The number of bytes of the UTF-8 form. -/
def byteLength : Text → Nat
  | [] => 0
  | c :: rest => c.utf8Size + byteLength rest

@[simp] theorem byteLength_nil : byteLength [] = 0 := rfl

@[simp] theorem byteLength_cons (c : Char) (t : Text) :
    byteLength (c :: t) = c.utf8Size + byteLength t := rfl

@[simp] theorem byteLength_append (s t : Text) :
    byteLength (s ++ t) = byteLength s + byteLength t := by
  induction s with
  | nil => simp
  | cons c s ih => simp [ih, Nat.add_assoc]

/-! ## Cutting at an offset -/

/-- The characters that end at or before a byte offset, and the others. -/
def splitAtByte : Text → Nat → Text × Text
  | [], _ => ([], [])
  | c :: rest, n =>
    if c.utf8Size ≤ n then
      let (before, after) := splitAtByte rest (n - c.utf8Size)
      (c :: before, after)
    else ([], c :: rest)

theorem splitAtByte_append (t : Text) (n : Nat) :
    (splitAtByte t n).1 ++ (splitAtByte t n).2 = t := by
  fun_induction splitAtByte t n with
  | case1 => rfl
  | case2 c rest n h before after heq ih =>
    rw [heq] at ih
    simpa using ih
  | case3 => rfl

theorem byteLength_splitAtByte_le (t : Text) (n : Nat) :
    byteLength (splitAtByte t n).1 ≤ n := by
  fun_induction splitAtByte t n with
  | case1 => exact Nat.zero_le _
  | case2 c rest n h before after heq ih =>
    rw [heq] at ih
    simp only [byteLength_cons] at ih ⊢
    omega
  | case3 => exact Nat.zero_le _

theorem lt_of_splitAtByte_eq_cons {t before after : Text} {c : Char} {n : Nat}
    (h : splitAtByte t n = (before, c :: after)) : n < byteLength before + c.utf8Size := by
  fun_induction splitAtByte t n generalizing before with
  | case1 => cases h
  | case2 d rest n hd b a heq ih =>
    simp only [Prod.mk.injEq] at h
    obtain ⟨rfl, rfl⟩ := h
    have := ih heq
    simp only [byteLength_cons]
    omega
  | case3 d rest n hd =>
    simp only [Prod.mk.injEq, List.cons.injEq] at h
    obtain ⟨rfl, rfl, rfl⟩ := h
    simpa using hd

theorem splitAtByte_byteLength (s t : Text) : splitAtByte (s ++ t) (byteLength s) = (s, t) := by
  induction s with
  | nil =>
    cases t with
    | nil => rfl
    | cons c t => simp [splitAtByte, Nat.not_le.mpr c.utf8Size_pos]
  | cons c s ih => simp [splitAtByte, ih]

/-- Is the offset between two characters, or at an end of the text? -/
def IsBoundary (t : Text) (n : Nat) : Prop := byteLength (splitAtByte t n).1 = n

instance (t : Text) (n : Nat) : Decidable (IsBoundary t n) :=
  inferInstanceAs (Decidable (_ = _))

/-! ## Joining -/

/-- The texts in order, with a separator between each two. -/
def joinWith (separator : Text) : List Text → Text
  | [] => []
  | [t] => t
  | t :: rest => t ++ separator ++ joinWith separator rest

end LogMarkup
