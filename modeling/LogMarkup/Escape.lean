import LogMarkup.Delimiter

/-!
# Escaping

A text is escaped by doubling its delimiters, which lets it stand inside an argument without
closing it. Unescaping collapses doubled delimiters from left to right and keeps a delimiter
that stands alone.

* `escape_append`: texts may be escaped piece by piece.
* `unescape_escape`: every text comes back.
* `escape?`, `unescape?`: the same operations, telling a text that needs no change from one
  that does; `escape?_getD` and `unescape?_getD` say that the result is the same.
-/

namespace LogMarkup

/-! ## Doubling -/

def escape : Text → Text
  | [] => []
  | c :: rest => if c = delimiter then c :: c :: escape rest else c :: escape rest

@[simp] theorem escape_nil : escape [] = [] := rfl

theorem escape_cons (c : Char) (t : Text) :
    escape (c :: t) = (if c = delimiter then [c, c] else [c]) ++ escape t := by
  simp only [escape]
  split <;> rfl

theorem escape_append (s t : Text) : escape (s ++ t) = escape s ++ escape t := by
  induction s with
  | nil => rfl
  | cons c s ih => simp [escape_cons, ih]

theorem escape_of_notMem {t : Text} (h : delimiter ∉ t) : escape t = t := by
  induction t with
  | nil => rfl
  | cons c t ih =>
    simp only [List.mem_cons, not_or] at h
    simp [escape, Ne.symm h.1, ih h.2]

/-! ## Collapsing -/

def unescape : Text → Text
  | [] => []
  | [c] => [c]
  | c :: d :: rest =>
    if c = delimiter ∧ d = delimiter then c :: unescape rest else c :: unescape (d :: rest)

/-- Does the text have two delimiters in a row? -/
def hasDoubled : Text → Bool
  | c :: d :: rest => (c = delimiter && d = delimiter) || hasDoubled (d :: rest)
  | _ => false

theorem unescape_cons_of_ne {c : Char} (h : c ≠ delimiter) (t : Text) :
    unescape (c :: t) = c :: unescape t := by
  cases t with
  | nil => rfl
  | cons d rest => simp [unescape, h]

theorem unescape_escape (t : Text) : unescape (escape t) = t := by
  induction t with
  | nil => rfl
  | cons c t ih =>
    by_cases hc : c = delimiter
    · simp [escape, unescape, hc, ih]
    · simp [escape, hc, unescape_cons_of_ne hc, ih]

theorem unescape_of_not_hasDoubled {t : Text} (h : hasDoubled t = false) : unescape t = t := by
  fun_induction unescape t with
  | case1 => rfl
  | case2 => rfl
  | case3 c d rest hcd => simp [hasDoubled, hcd] at h
  | case4 c d rest hcd ih =>
    simp only [hasDoubled, Bool.or_eq_false_iff] at h
    rw [ih h.2]

/-! ## Whether anything changes -/

/-- The escaped text, if there is a delimiter to be doubled. -/
def escape? (t : Text) : Option Text := if delimiter ∈ t then some (escape t) else none

/-- The unescaped text, if there is a doubled delimiter to be collapsed. -/
def unescape? (t : Text) : Option Text := if hasDoubled t then some (unescape t) else none

theorem escape?_getD (t : Text) : (escape? t).getD t = escape t := by
  unfold escape?
  split
  · rfl
  · rename_i h
    exact (escape_of_notMem h).symm

theorem unescape?_getD (t : Text) : (unescape? t).getD t = unescape t := by
  unfold unescape?
  split
  · rfl
  · rename_i h
    exact (unescape_of_not_hasDoubled (by simpa using h)).symm

end LogMarkup
