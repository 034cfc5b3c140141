import LogMarkup.Text.Classes

/-!
# Letters that are drawn together

The letters of a few scripts that merge with their neighbour into one sign.
-/

namespace LogMarkup.CharClass

/-- Letters that merge with a lam before them. -/
def alef : List (Nat × Nat) := [
   (0x622, 0x623), (0x625, 0x625), (0x627, 0x627), (0x671, 0x673), (0x675, 0x675), (0x773, 0x774),
   (0x870, 0x882)]

/-- Letters that merge with an alef after them. -/
def lam : List (Nat × Nat) := [
   (0x644, 0x644), (0x6B5, 0x6B8), (0x76A, 0x76A), (0x8A6, 0x8A6), (0x8C7, 0x8C7)]

/-- Khmer letters that are written below the letter before them after a coeng. -/
def khmer : List (Nat × Nat) := [
   (0x1780, 0x1782), (0x1784, 0x1787), (0x1789, 0x178C), (0x178E, 0x1793), (0x1795, 0x1798),
   (0x179B, 0x179D), (0x17A0, 0x17A0), (0x17A2, 0x17A2), (0x17A7, 0x17A7), (0x17AB, 0x17AC),
   (0x17AF, 0x17AF)]

/-- Tifinagh consonants. -/
def tifinagh : List (Nat × Nat) := [(0x2D31, 0x2D65), (0x2D6F, 0x2D6F)]

/-- Lisu tone letters that a second one merges with. -/
def lisuFirstTone : List (Nat × Nat) := [(0xA4F8, 0xA4FB)]

/-- Lisu tone letters that merge with a first one. -/
def lisuSecondTone : List (Nat × Nat) := [(0xA4FC, 0xA4FD)]

/-- Marks that may stand between two letters without parting them. -/
def unobtrusive : List (Nat × Nat) := [
   (0x34F, 0x34F), (0x17B4, 0x17B5), (0x180B, 0x180D), (0x180F, 0x180F), (0x200D, 0x200D),
   (0xFE00, 0xFE0F), (0xE0100, 0xE01EF)]

end LogMarkup.CharClass
