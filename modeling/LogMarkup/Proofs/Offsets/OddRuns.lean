import LogMarkup.Proofs.Offsets.Bytes

/-!
# Odd runs

Pairs of delimiters are formed from the place where a search starts, which may be inside of a run.
So what is left over stands at the end of a run, and it does so if the part of the run that the
search sees has an odd length. A search that passes a pair sees two delimiters less of the run that
it is in, or it comes to another run. Either way it still looks for the same places.

* `EndsOddRun`: a run ends at a place, and the part of it that is seen is odd.
* `isFirst_findSingle`: the first unpaired element is at the first such place.
* `singleRound_cases`: what a round of the search can do.
* `endsOddRun_of_reaches`: on its way the search passes none of the places.
* `findSingle_first_odd_end`: the first such place is found, in any bytes and from any start.
-/

namespace LogMarkup

/-! ## First places -/

/-- The first number with a property, if there is one. -/
def IsFirst (P : Nat → Prop) : Option Nat → Prop
  | none => ∀ i, ¬ P i
  | some i => P i ∧ ∀ j, P j → i ≤ j

namespace IsFirst

variable {P Q : Nat → Prop} {place? : Option Nat}

theorem eq_none_iff (h : IsFirst P place?) : place? = none ↔ ∀ i, ¬ P i := by
  cases place? with
  | none => exact iff_of_true rfl h
  | some i => exact iff_of_false (by simp) fun hNone => hNone i h.1

theorem eq_some_iff (h : IsFirst P place?) {i : Nat} :
    place? = some i ↔ P i ∧ ∀ j, P j → i ≤ j := by
  constructor
  · rintro rfl
    exact h
  · rintro ⟨hHere, hFirst⟩
    cases place? with
    | none => exact absurd hHere (h i)
    | some j => rw [Nat.le_antisymm (h.2 i hHere) (hFirst j h.1)]

theorem unique (h : IsFirst P place?) {other? : Option Nat} (h' : IsFirst P other?) :
    place? = other? := by
  cases other? with
  | none => exact h.eq_none_iff.mpr h'
  | some i => exact h.eq_some_iff.mpr h'

theorem congr (h : IsFirst P place?) (hSame : ∀ i, P i ↔ Q i) : IsFirst Q place? := by
  obtain rfl : P = Q := funext fun i => propext (hSame i)
  exact h

/-- What is looked for stands further on, and nowhere else. -/
theorem shift (h : IsFirst P place?) {n : Nat} (hShift : ∀ i, Q i ↔ n ≤ i ∧ P (i - n)) :
    IsFirst Q (place?.map (· + n)) := by
  cases place? with
  | none => exact fun i hHere => h _ ((hShift i).mp hHere).2
  | some i =>
    refine ⟨(hShift (i + n)).mpr ⟨Nat.le_add_left n i, ?_⟩, fun j hThere => ?_⟩
    · rw [Nat.add_sub_cancel]
      exact h.1
    · obtain ⟨hLe, hPlace⟩ := (hShift j).mp hThere
      exact Nat.le_sub_iff_add_le hLe |>.mp (h.2 _ hPlace)

end IsFirst

/-! ## Where runs end -/

variable {α : Type} [DecidableEq α] {d : α}

/-- The number of `d` in a row at the end of a list. -/
def trailing (d : α) (xs : List α) : Nat := (xs.reverse.takeWhile (· = d)).length

/-- A run of `d` ends at the place `i`, and the part of it that does not begin before `start` has
an odd length. -/
structure EndsOddRun (d : α) (xs : List α) (start i : Nat) : Prop where
  start_le : start ≤ i
  here : xs[i]? = some d
  next : xs[i + 1]? ≠ some d
  odd : trailing d ((xs.take (i + 1)).drop start) % 2 = 1

theorem trailing_cons_of_ne {x : α} (hx : x ≠ d) (xs : List α) :
    trailing d (x :: xs) = trailing d xs := by
  have hNone : [x].takeWhile (· = d) = [] := by simp [hx]
  rw [trailing, trailing, List.reverse_cons, List.takeWhile_append, hNone]
  split <;> simp [*]

/-- Two more in front lengthen the run by two if it gets there, and otherwise not at all. -/
theorem trailing_pair_mod_two (xs : List α) :
    trailing d (d :: d :: xs) % 2 = trailing d xs % 2 := by
  simp only [trailing, List.reverse_cons, List.append_assoc, List.takeWhile_append]
  split <;> simp [*]

/-- What is not seen of the list does not matter. -/
theorem endsOddRun_iff_drop (xs : List α) (start i : Nat) :
    EndsOddRun d xs start i ↔ start ≤ i ∧ EndsOddRun d (xs.drop start) 0 (i - start) := by
  constructor
  · rintro ⟨hStart, hHere, hNext, hOdd⟩
    refine ⟨hStart, Nat.zero_le _, ?_, ?_, ?_⟩
    · rwa [List.getElem?_drop, Nat.add_sub_cancel' hStart]
    · rwa [List.getElem?_drop, ← Nat.add_assoc, Nat.add_sub_cancel' hStart]
    · rwa [List.drop_zero, ← Nat.sub_add_comm hStart, ← List.drop_take]
  · rintro ⟨hStart, -, hHere, hNext, hOdd⟩
    rw [List.getElem?_drop, Nat.add_sub_cancel' hStart] at hHere
    rw [List.getElem?_drop, ← Nat.add_assoc, Nat.add_sub_cancel' hStart] at hNext
    rw [List.drop_zero, ← Nat.sub_add_comm hStart, ← List.drop_take] at hOdd
    exact ⟨hStart, hHere, hNext, hOdd⟩

theorem endsOddRun_cons_iff {x : α} (hx : x ≠ d) {xs : List α} {i : Nat} :
    EndsOddRun d (x :: xs) 0 i ↔ 1 ≤ i ∧ EndsOddRun d xs 0 (i - 1) := by
  cases i with
  | zero =>
    refine iff_of_false (fun h => hx ?_) (by simp)
    simpa using h.here
  | succ i =>
    have hOdd : trailing d (((x :: xs).take (i + 1 + 1)).drop 0) =
        trailing d ((xs.take (i + 1)).drop 0) := trailing_cons_of_ne hx (xs.take (i + 1))
    constructor
    · rintro ⟨-, hHere, hNext, hRun⟩
      exact ⟨Nat.le_add_left 1 i, Nat.zero_le _, hHere, hNext, hOdd ▸ hRun⟩
    · rintro ⟨-, -, hHere, hNext, hRun⟩
      exact ⟨Nat.zero_le _, hHere, hNext, hOdd.symm ▸ hRun⟩

theorem endsOddRun_pair_iff {xs : List α} {i : Nat} :
    EndsOddRun d (d :: d :: xs) 0 i ↔ 2 ≤ i ∧ EndsOddRun d xs 0 (i - 2) := by
  rcases i with - | - | i
  · exact iff_of_false (fun h => h.next rfl) (by simp)
  · refine iff_of_false (fun h => ?_) (by simp)
    have hRun := h.odd
    simp [trailing] at hRun
  · have hOdd : trailing d (((d :: d :: xs).take (i + 1 + 1 + 1)).drop 0) % 2 =
        trailing d ((xs.take (i + 1)).drop 0) % 2 := trailing_pair_mod_two (xs.take (i + 1))
    constructor
    · rintro ⟨-, hHere, hNext, hRun⟩
      exact ⟨Nat.le_add_left 2 i, Nat.zero_le _, hHere, hNext, hOdd ▸ hRun⟩
    · rintro ⟨-, -, hHere, hNext, hRun⟩
      exact ⟨Nat.zero_le _, hHere, hNext, hOdd.symm ▸ hRun⟩

theorem endsOddRun_append_iff {before : List α} (h : d ∉ before) {xs : List α} {i : Nat} :
    EndsOddRun d (before ++ xs) 0 i ↔
      before.length ≤ i ∧ EndsOddRun d xs 0 (i - before.length) := by
  induction before generalizing i with
  | nil => simp
  | cons x before ih =>
    rw [List.mem_cons, not_or] at h
    rw [List.cons_append, endsOddRun_cons_iff (Ne.symm h.1), ih h.2, List.length_cons,
      Nat.sub_sub, Nat.add_comm 1, ← and_assoc]
    refine and_congr_left fun _ => ?_
    omega

theorem not_endsOddRun_nil (start i : Nat) : ¬ EndsOddRun d [] start i := fun h => by
  cases h.here

theorem isFirst_single {xs : List α} (h : xs.head? ≠ some d) :
    IsFirst (EndsOddRun d (d :: xs) 0) (some 0) where
  left :=
    { start_le := Nat.le_refl 0
      here := rfl
      next := by rwa [List.getElem?_cons_succ, ← List.head?_eq_getElem?]
      odd := by simp [trailing] }
  right i _ := Nat.zero_le i

/-! ## The first unpaired element -/

theorem isFirst_cutSingle (xs : List α) :
    IsFirst (EndsOddRun d xs 0) ((cutSingle d xs).map fun (before, _) => before.length) := by
  fun_induction cutSingle d xs with
  | case1 => exact not_endsOddRun_nil 0
  | case2 => exact isFirst_single (by simp)
  | case3 x hx => exact fun i h => not_endsOddRun_nil 0 _ ((endsOddRun_cons_iff hx).mp h).2
  | case4 rest ih =>
    have hPair := ih.shift fun _ => endsOddRun_pair_iff
    rw [Option.map_map] at hPair ⊢
    exact hPair
  | case5 y rest hy => exact isFirst_single (by simpa using hy)
  | case6 x y rest hx ih =>
    have hOther := ih.shift fun _ => endsOddRun_cons_iff hx
    rw [Option.map_map] at hOther ⊢
    exact hOther

theorem isFirst_findSingle (xs : List α) (start : Nat) :
    IsFirst (EndsOddRun d xs start) (findSingle d xs start) := by
  have hSeen := (isFirst_cutSingle (xs.drop start)).shift
    fun i => endsOddRun_iff_drop (d := d) xs start i
  rw [Option.map_map] at hSeen
  simpa only [findSingle, Function.comp_def, Nat.add_comm] using hSeen

/-! ## Searching bytes -/

theorem findIdx?_eq_cutAt (xs : List α) :
    xs.findIdx? (· = d) = (cutAt d xs).map fun (before, _) => before.length := by
  induction xs with
  | nil => rfl
  | cons x rest ih =>
    rw [List.findIdx?_cons, cutAt, ih]
    by_cases hx : x = d
    · simp [hx]
    · simp only [hx, decide_false, Bool.false_eq_true, if_false, Option.map_map]
      rfl

/-- The place of the first delimiter of any bytes. -/
theorem delimiterFrom_bytes (bytes : List UInt8) (finger : Nat) :
    delimiterFrom bytes finger =
      some ((cutAt (byteOf delimiter) (bytes.drop finger)).map fun (front, after) =>
        (finger + front.length, decide (after.head? = some (byteOf delimiter)))) := by
  unfold delimiterFrom
  by_cases hEnd : finger < bytes.length
  · rw [if_pos hEnd, bytesFrom?, if_pos (Nat.le_of_lt hEnd), Option.bind_eq_bind,
      Option.bind_some, findByte, findIdx?_eq_cutAt]
    cases hCut : cutAt (byteOf delimiter) (bytes.drop finger) with
    | none => rfl
    | some cut =>
      obtain ⟨front, after⟩ := cut
      have hDrop := (cutAt_eq_some hCut).1
      have hBehind : bytes[finger + front.length + 1]? = after.head? := by
        rw [Nat.add_assoc, ← List.getElem?_drop, hDrop, List.getElem?_append_right (by omega),
          List.head?_eq_getElem?]
        simp
      simp only [Option.map_some, hBehind]
      rfl
  · rw [if_neg hEnd, List.drop_eq_nil_of_le (Nat.le_of_not_lt hEnd)]
    rfl

/-- A round ends at the first delimiter, passes it with the one behind it, or finds none. -/
theorem singleRound_cases (bytes : List UInt8) (finger : Nat) :
    (byteOf delimiter ∉ bytes.drop finger ∧ singleRound bytes finger = some (.ended none)) ∨
    (∃ front more, byteOf delimiter ∉ front ∧
      bytes.drop finger = front ++ byteOf delimiter :: byteOf delimiter :: more ∧
      singleRound bytes finger = some (.goesOn (finger + front.length + 2))) ∨
    ∃ front after, byteOf delimiter ∉ front ∧ after.head? ≠ some (byteOf delimiter) ∧
      bytes.drop finger = front ++ byteOf delimiter :: after ∧
      singleRound bytes finger = some (.ended (some (finger + front.length))) := by
  unfold singleRound
  rw [delimiterFrom_bytes]
  cases hCut : cutAt (byteOf delimiter) (bytes.drop finger) with
  | none => exact .inl ⟨cutAt_eq_none_iff.mp hCut, rfl⟩
  | some cut =>
    obtain ⟨front, after⟩ := cut
    obtain ⟨hDrop, hFront⟩ := cutAt_eq_some hCut
    by_cases hPair : after.head? = some (byteOf delimiter)
    · obtain ⟨more, rfl⟩ := List.head?_eq_some_iff.mp hPair
      refine .inr (.inl ⟨front, more, hFront, hDrop, ?_⟩)
      simp
    · refine .inr (.inr ⟨front, after, hFront, hPair, hDrop, ?_⟩)
      simp [hPair]

/-- A round that goes on gets ahead, and it passes none of the places that are looked for. -/
theorem endsOddRun_of_goesOn {bytes : List UInt8} {finger next : Nat}
    (h : singleRound bytes finger = some (.goesOn next)) :
    finger < next ∧ ∀ i, EndsOddRun (byteOf delimiter) bytes finger i ↔
      EndsOddRun (byteOf delimiter) bytes next i := by
  rcases singleRound_cases bytes finger with ⟨-, hRound⟩ | ⟨front, more, hFront, hDrop, hRound⟩ |
    ⟨front, after, -, -, -, hRound⟩ <;> rw [hRound] at h <;> cases h
  have hMore : bytes.drop (finger + front.length + 2) = more := by
    rw [Nat.add_assoc, ← List.drop_drop, hDrop, ← List.drop_drop, List.drop_left]
    rfl
  refine ⟨by omega, fun i => ?_⟩
  rw [endsOddRun_iff_drop, hDrop, endsOddRun_append_iff hFront, endsOddRun_pair_iff,
    endsOddRun_iff_drop bytes (finger + front.length + 2), hMore, Nat.sub_sub, Nat.sub_sub,
    ← and_assoc, ← and_assoc, Nat.add_assoc]
  refine and_congr_left fun _ => ?_
  omega

theorem endsOddRun_of_reaches {bytes : List UInt8} {start finger : Nat}
    (h : Reaches (singleRound bytes) start finger) :
    start ≤ finger ∧ ∀ i, EndsOddRun (byteOf delimiter) bytes start i ↔
      EndsOddRun (byteOf delimiter) bytes finger i := by
  induction h with
  | here => exact ⟨Nat.le_refl start, fun i => Iff.rfl⟩
  | goesOn hReach hRound ih =>
    obtain ⟨hLess, hStep⟩ := endsOddRun_of_goesOn hRound
    exact ⟨Nat.le_trans ih.1 (Nat.le_of_lt hLess), fun i => (ih.2 i).trans (hStep i)⟩

theorem singleRound_isFirst {bytes : List UInt8} {finger : Nat} {place? : Option Nat}
    (h : IsFirst (EndsOddRun (byteOf delimiter) bytes finger) place?) :
    singleRound bytes finger = some (.ended place?) ∨
      ∃ next, singleRound bytes finger = some (.goesOn next) ∧
        bytes.length - next < bytes.length - finger ∧
        IsFirst (EndsOddRun (byteOf delimiter) bytes next) place? := by
  have hSeen : ∀ {i}, EndsOddRun (byteOf delimiter) bytes finger i ↔
      finger ≤ i ∧ EndsOddRun (byteOf delimiter) (bytes.drop finger) 0 (i - finger) :=
    endsOddRun_iff_drop bytes finger _
  rcases singleRound_cases bytes finger with ⟨hNone, hRound⟩ | ⟨front, more, -, hDrop, hRound⟩ |
    ⟨front, after, hFront, hAfter, hDrop, hRound⟩
  · left
    have hEmpty : IsFirst (EndsOddRun (byteOf delimiter) bytes finger) none := fun i hHere =>
      hNone (List.mem_of_getElem? (hSeen.mp hHere).2.here)
    rw [hRound, h.unique hEmpty]
  · right
    refine ⟨_, hRound, ?_, h.congr (endsOddRun_of_goesOn hRound).2⟩
    have hLength := congrArg List.length hDrop
    simp only [List.length_drop, List.length_append, List.length_cons] at hLength
    omega
  · left
    have hHere := ((isFirst_single hAfter).shift fun _ => endsOddRun_append_iff hFront).shift
      fun _ => hDrop ▸ hSeen
    have hPlace : 0 + front.length + finger = finger + front.length := by omega
    rw [hRound, h.unique hHere]
    simp only [Option.map_some, hPlace]

/-- The search ends, and it finds the first delimiter at the end of a run of odd length, where only
the part of the run from the start on counts. There is none if nothing is found. On its way it only
gets ahead, and it passes no such delimiter. The bytes and the start are any, inside of a run and
past the end as well. -/
theorem findSingle_first_odd_end (bytes : List UInt8) (start : Nat) :
    let tick := byteOf delimiter
    (∀ i, findSingle tick bytes start = some i ↔
      EndsOddRun tick bytes start i ∧ ∀ j, EndsOddRun tick bytes start j → i ≤ j) ∧
    (findSingle tick bytes start = none ↔ ∀ i, ¬ EndsOddRun tick bytes start i) ∧
    singleFrom bytes start = some (findSingle tick bytes start) ∧
    ∀ finger, Reaches (singleRound bytes) start finger →
      (start ≤ finger ∧ ∀ i, EndsOddRun tick bytes start i ↔ EndsOddRun tick bytes finger i) ∧
      ∀ next, singleRound bytes finger = some (.goesOn next) → finger < next := by
  intro tick
  have hFirst := isFirst_findSingle (d := tick) bytes start
  refine ⟨fun i => hFirst.eq_some_iff, hFirst.eq_none_iff,
    rounds_eq (fun _ _ => singleRound_isFirst) hFirst, fun finger hReach => ?_⟩
  exact ⟨endsOddRun_of_reaches hReach, fun next hNext => (endsOddRun_of_goesOn hNext).1⟩

/-- Of three delimiters the second start sees two, which are a pair. -/
example :
    let bytes := utf8 "a``` b`".toList
    findSingle (byteOf delimiter) bytes 0 = some 3 ∧
      findSingle (byteOf delimiter) bytes 2 = some 6 := by
  decide

end LogMarkup
