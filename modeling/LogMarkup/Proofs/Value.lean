import LogMarkup.Value

/-!
# What values write

A value that writes itself in pieces writes them one after another, up to the first that fails.

* `Writing.andThen_assoc`, `Piece.writingAll_append`: writing in two parts.
* `Piece.Spells`, `Piece.Spells.append`: pieces that write a text without delimiters.
-/

namespace LogMarkup

/-! ## Writing in parts -/

namespace Writing

variable {ε : Type}

theorem andThen_assoc (first second third : Writing ε) :
    (first.andThen second).andThen third = first.andThen (second.andThen third) := by
  obtain ⟨chunks, result⟩ := first
  cases result with
  | error => rfl
  | ok =>
    obtain ⟨more, result⟩ := second
    cases result with
    | error => rfl
    | ok => simp only [andThen, List.append_assoc]

end Writing

namespace Piece

theorem writingAll_append (pieces more : List Piece) :
    writingAll (pieces ++ more) = (writingAll pieces).andThen (writingAll more) := by
  induction pieces with
  | nil => rfl
  | cons piece rest ih =>
    rw [List.cons_append, writingAll, writingAll, ih, Writing.andThen_assoc]

/-! ## Plain texts -/

/-- The pieces write a text that needs no escaping, and do not fail. -/
structure Spells (pieces : List Piece) (t : Text) : Prop where
  result_eq : (writingAll pieces).result = .ok ()
  text_eq : (writingAll pieces).text = t
  delimiter_notMem : delimiter ∉ t

namespace Spells

theorem nil : Spells [] [] := ⟨rfl, rfl, by simp⟩

theorem text {t : Text} (h : delimiter ∉ t) : Spells [.text t] t :=
  ⟨rfl, List.append_nil t, h⟩

theorem append {pieces more : List Piece} {s t : Text} (h : Spells pieces s) (h' : Spells more t) :
    Spells (pieces ++ more) (s ++ t) where
  result_eq := by
    rw [writingAll_append, Writing.andThen, h.result_eq]
    exact h'.result_eq
  text_eq := by
    rw [writingAll_append, Writing.text_andThen, h.result_eq, h.text_eq, h'.text_eq]
  delimiter_notMem := by
    rw [List.mem_append, not_or]
    exact ⟨h.delimiter_notMem, h'.delimiter_notMem⟩

/-- Characters may be written one by one. -/
theorem chars {t : Text} (h : delimiter ∉ t) : Spells (t.map .char) t := by
  induction t with
  | nil => exact nil
  | cons c t ih =>
    rw [List.mem_cons, not_or] at h
    have hFirst : Spells [.char c] [c] := ⟨rfl, rfl, by simpa using h.1⟩
    exact hFirst.append (ih h.2)

end Spells

end Piece

end LogMarkup
