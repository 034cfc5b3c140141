import LogMarkup.Text

/-!
# Delimiters

An argument stands between two delimiters. A delimiter that is part of a text is doubled, so
what opens or closes an argument is the first delimiter that is not one of a doubled pair,
where pairs are formed from left to right.

* `cutAt_eq_some`, `cutAt_eq_none_iff`: cutting at the first occurrence of an element.
* `cutSingle_eq_some`: cutting at the first unpaired element loses nothing.
* `length_of_cutAt`, `length_of_cutSingle`: what follows the cut is shorter, so readers that
  continue after it come to an end.
-/

namespace LogMarkup

/-- Opens and closes an argument. -/
def delimiter : Char := '\x60'

/-- Separates the name of an argument from its value, or from its index in a template. -/
def nameSeparator : Char := ':'

/-- Separates the name of an argument from the error that stands in place of its value. -/
def errorMarker : Char := '!'

/-! ## The first occurrence -/

variable {α : Type} [DecidableEq α]

/-- The elements before and after the first `d`. -/
def cutAt (d : α) : List α → Option (List α × List α)
  | [] => none
  | x :: rest =>
    if x = d then some ([], rest)
    else (cutAt d rest).map fun (before, after) => (x :: before, after)

theorem cutAt_eq_some {d : α} {xs before after : List α} (h : cutAt d xs = some (before, after)) :
    xs = before ++ d :: after ∧ d ∉ before := by
  induction xs generalizing before with
  | nil => simp [cutAt] at h
  | cons x rest ih =>
    simp only [cutAt] at h
    split at h
    · rename_i hx
      simp only [Option.some.injEq, Prod.mk.injEq] at h
      obtain ⟨rfl, rfl⟩ := h
      exact ⟨by simp [hx], by simp⟩
    · rename_i hx
      obtain ⟨⟨b, a⟩, hcut, heq⟩ := Option.map_eq_some_iff.mp h
      simp only [Prod.mk.injEq] at heq
      obtain ⟨rfl, rfl⟩ := heq
      obtain ⟨rfl, hmem⟩ := ih hcut
      exact ⟨rfl, by simp [hmem, Ne.symm hx]⟩

theorem cutAt_append {d : α} {before : List α} (h : d ∉ before) (after : List α) :
    cutAt d (before ++ d :: after) = some (before, after) := by
  induction before with
  | nil => simp [cutAt]
  | cons x rest ih =>
    simp only [List.mem_cons, not_or] at h
    simp [cutAt, Ne.symm h.1, ih h.2]

theorem cutAt_eq_none_iff {d : α} {xs : List α} : cutAt d xs = none ↔ d ∉ xs := by
  induction xs with
  | nil => simp [cutAt]
  | cons x rest ih =>
    by_cases hx : x = d
    · simp [cutAt, hx]
    · simp [cutAt, hx, ih, Ne.symm hx]

theorem length_of_cutAt {d : α} {xs before after : List α}
    (h : cutAt d xs = some (before, after)) : after.length < xs.length := by
  rw [(cutAt_eq_some h).1]
  simp
  omega

/-! ## The first unpaired occurrence -/

/-- The elements before and after the first `d` that is not one of a doubled pair. -/
def cutSingle (d : α) : List α → Option (List α × List α)
  | [] => none
  | [x] => if x = d then some ([], []) else none
  | x :: y :: rest =>
    if x = d then
      if y = d then
        (cutSingle d rest).map fun (before, after) => (x :: y :: before, after)
      else some ([], y :: rest)
    else (cutSingle d (y :: rest)).map fun (before, after) => (x :: before, after)

theorem cutSingle_eq_some {d : α} {xs before after : List α}
    (h : cutSingle d xs = some (before, after)) : xs = before ++ d :: after := by
  fun_induction cutSingle d xs generalizing before after with
  | case1 => cases h
  | case2 =>
    simp only [Option.some.injEq, Prod.mk.injEq] at h
    obtain ⟨rfl, rfl⟩ := h
    rfl
  | case3 => cases h
  | case4 rest ih =>
    obtain ⟨⟨b, a⟩, hcut, heq⟩ := Option.map_eq_some_iff.mp h
    simp only [Prod.mk.injEq] at heq
    obtain ⟨rfl, rfl⟩ := heq
    rw [ih hcut]
    rfl
  | case5 y rest hy =>
    simp only [Option.some.injEq, Prod.mk.injEq] at h
    obtain ⟨rfl, rfl⟩ := h
    rfl
  | case6 x y rest hx ih =>
    obtain ⟨⟨b, a⟩, hcut, heq⟩ := Option.map_eq_some_iff.mp h
    simp only [Prod.mk.injEq] at heq
    obtain ⟨rfl, rfl⟩ := heq
    rw [ih hcut]
    rfl

theorem length_of_cutSingle {d : α} {xs before after : List α}
    (h : cutSingle d xs = some (before, after)) : after.length < xs.length := by
  rw [cutSingle_eq_some h]
  simp
  omega

/-- The place of the first unpaired `d` at or after `start`. Pairs are formed from `start` on, so
a `d` before `start` has no say in what is paired. -/
def findSingle (d : α) (xs : List α) (start : Nat) : Option Nat :=
  (cutSingle d (xs.drop start)).map fun (before, _) => start + before.length

end LogMarkup
