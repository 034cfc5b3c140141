import LogMarkup.Proofs.Offsets.Positions
import LogMarkup.Proofs.Offsets.Reading
import LogMarkup.Proofs.Offsets.Scanning

/-!
# Fingers that get ahead

A scanner and a reader keep a finger at the byte offset up to which they came. A part of a template
has at least one byte, and the finger is moved behind it; an error moves it to the end, where there
is nothing more to scan. A round of reading moves the finger behind a pair of delimiters or behind
an argument, and an argument has at least four bytes: two delimiters, a name, and a separator or an
error marker. So however a text is malformed, there are only so many parts and calls.

* `Scanner.afterCalls`, `Scanner.Placed.afterCalls`: a scanner that is called again and again.
* `Scanner.outcomes`, `Scanner.given_afterCalls`: what each of the calls gives.
* `Scanner.Placed.next_gets_ahead`: the finger moves behind the part that is given.
* `Reading.round_gets_ahead`: so it does in each round of reading that is not the last.
* `counting`, `four_mul_calls_le`: the bytes of the message pay for the calls, with four bytes for
  each.
* `fingers_get_ahead`: scanning any source, and reading any message.
-/

namespace LogMarkup

variable {σ ε : Type}

/-! ## Scanning -/

namespace Scanner

/-- The scanner after one more call, which leaves it alone if there is nothing more to scan. -/
def called (s : Scanner) : Scanner := (s.next?.map Prod.snd).getD s

def afterCalls (s : Scanner) : Nat → Scanner
  | 0 => s
  | n + 1 => s.called.afterCalls n

/-- What a call gives. -/
def given (s : Scanner) : Option (Except SyntaxError Part) := s.next?.map Prod.fst

/-- The parts up to the first error, and the error. -/
def outcomes (s : Scanner) : List (Except SyntaxError Part) :=
  s.run.1.map .ok ++ s.run.2.toList.map .error

variable {s s' : Scanner}

theorem called_of_none (h : s.next? = none) : s.called = s := by
  rw [called, h]
  rfl

theorem called_of_some {outcome : Except SyntaxError Part} (h : s.next? = some (outcome, s')) :
    s.called = s' := by
  rw [called, h]
  rfl

theorem afterCalls_of_none (h : s.next? = none) (n : Nat) : s.afterCalls n = s := by
  induction n with
  | zero => rfl
  | succ n ih => rw [afterCalls, called_of_none h, ih]

/-- After an error there is nothing more to scan. -/
theorem exhausted_of_error {error : SyntaxError} (h : s.next? = some (.error error, s')) :
    s' = s.exhausted := by
  have hStep := s.next_next?
  rw [h] at hStep
  cases hStep
  rfl

theorem next?_exhausted (s : Scanner) : s.exhausted.next? = none := next?_of_nil rfl

/-! ### What the calls give -/

theorem outcomes_of_none (h : s.next? = none) : s.outcomes = [] := by
  rw [outcomes, run_of_none h]
  rfl

theorem outcomes_of_error {error : SyntaxError} (h : s.next? = some (.error error, s')) :
    s.outcomes = [.error error] := by
  rw [outcomes, run_of_error h]
  rfl

theorem outcomes_of_ok {part : Part} (h : s.next? = some (.ok part, s')) :
    s.outcomes = .ok part :: s'.outcomes := by
  rw [outcomes, run_of_ok h]
  rfl

/-- A call gives the first outcome, and leaves the others to the calls behind it. -/
theorem outcomes_called (s : Scanner) :
    s.given = s.outcomes.head? ∧ s.called.outcomes = s.outcomes.tail := by
  cases hNext : s.next? with
  | none =>
    rw [given, hNext, called_of_none hNext, outcomes_of_none hNext]
    exact ⟨rfl, rfl⟩
  | some step =>
    obtain ⟨outcome, s'⟩ := step
    rw [given, hNext, called_of_some hNext]
    cases outcome with
    | ok part =>
      rw [outcomes_of_ok hNext]
      exact ⟨rfl, rfl⟩
    | error error =>
      rw [outcomes_of_error hNext, exhausted_of_error hNext, outcomes_of_none s.next?_exhausted]
      exact ⟨rfl, rfl⟩

theorem given_afterCalls (s : Scanner) (n : Nat) : (s.afterCalls n).given = s.outcomes[n]? := by
  induction n generalizing s with
  | zero => rw [afterCalls, s.outcomes_called.1, List.head?_eq_getElem?]
  | succ n ih => rw [afterCalls, ih, s.outcomes_called.2, List.getElem?_tail]

/-! ### Where the finger is -/

theorem Placed.exhausted (s : Scanner) : s.exhausted.Placed :=
  ⟨s.source, (List.append_nil s.source).symm, rfl⟩

theorem Placed.called (h : s.Placed) : s.called.Placed ∧ s.called.source = s.source := by
  cases hNext : s.next? with
  | none =>
    rw [called_of_none hNext]
    exact ⟨h, rfl⟩
  | some step =>
    obtain ⟨outcome, s'⟩ := step
    rw [called_of_some hNext]
    cases outcome with
    | ok part =>
      obtain ⟨-, hPast, hPlaced⟩ := h.next hNext
      exact ⟨hPlaced, by rw [hPast]; rfl⟩
    | error error =>
      rw [exhausted_of_error hNext]
      exact ⟨.exhausted s, rfl⟩

theorem Placed.afterCalls (h : s.Placed) (n : Nat) :
    (s.afterCalls n).Placed ∧ (s.afterCalls n).source = s.source := by
  induction n generalizing s with
  | zero => exact ⟨h, rfl⟩
  | succ n ih =>
    obtain ⟨hCalled, hSource⟩ := h.called
    obtain ⟨hPlaced, hSame⟩ := ih hCalled
    exact ⟨hPlaced, hSame.trans hSource⟩

theorem Placed.position_le (h : s.Placed) : s.position ≤ byteLength s.source := by
  obtain ⟨before, hSource, hPosition⟩ := h
  rw [hSource, byteLength_append, hPosition]
  exact Nat.le_add_right _ _

/-- The finger is moved from where the part starts to where it stops. -/
theorem Placed.next_gets_ahead (h : s.Placed) {part : Part}
    (hNext : s.next? = some (.ok part, s')) :
    s.position < s'.position ∧ s'.position ≤ byteLength s.source ∧
      slice? s.source s.position s'.position = some part.source := by
  obtain ⟨⟨⟨before, after, hSource, hStart⟩, -⟩, hPast, hPlaced⟩ := h.next hNext
  have hStop : s'.position = s.position + byteLength part.source := by
    rw [hPast]
    simp [Scanner.past]
  have hSame : s'.source = s.source := by
    rw [hPast]
    rfl
  have hLess : byteLength s'.source - s'.position < byteLength s.source - s.position :=
    h.left_ranges_lt hNext
  have hLe := hPlaced.position_le
  rw [hSame] at hLess hLe
  exact ⟨by omega, hLe, slice?_eq_some before part.source after hSource hStart hStop⟩

/-- Each part takes a byte of what is left. -/
theorem Placed.length_run_le (h : s.Placed) :
    s.position + s.run.1.length ≤ byteLength s.source := by
  fun_induction Scanner.run s with
  | case1 => exact h.position_le
  | case2 => exact h.position_le
  | case3 s part s' hNext parts error hRun ih =>
    obtain ⟨-, hPast, hPlaced⟩ := h.next hNext
    have hSame : s'.source = s.source := by
      rw [hPast]
      rfl
    have hAhead := (h.next_gets_ahead hNext).1
    have hRest := ih hPlaced
    rw [hRun, hSame] at hRest
    dsimp only at hRest ⊢
    rw [List.length_cons]
    omega

end Scanner

/-! ## Reading -/

/-- The next round of reading. -/
def Reading.round (hear : Event → σ → Except ε Unit × σ) (message : Text) (x : Reading σ) :
    Option (Round (Reading σ) (Read ε σ)) :=
  readRound hear message x.finger x.template x.state

namespace Reading

variable {hear : Event → σ → Except ε Unit × σ} {message : Text} {x next : Reading σ}

theorem exists_round (hear : Event → σ → Except ε Unit × σ) (h : IsBoundary message x.finger) :
    ∃ before rest round, message = before ++ rest ∧ byteLength before = x.finger ∧
      x.round hear message = some round ∧
      round.Reads (.hearing hear) x.finger x.template x.state rest := by
  obtain ⟨before, rest, hMessage, hFinger⟩ := isBoundary_iff.mp h
  obtain ⟨round, hRound⟩ := readRound_reads hear hMessage hFinger.symm x.template x.state
  exact ⟨before, rest, round, hMessage, hFinger, hRound⟩

theorem round_gets_ahead (h : IsBoundary message x.finger)
    (hRound : x.round hear message = some (.goesOn next)) :
    x.finger < next.finger ∧ IsBoundary message next.finger := by
  obtain ⟨before, rest, round, hMessage, hFinger, hSome, hReads⟩ := exists_round hear h
  obtain rfl : round = .goesOn next := Option.some.inj (hSome.symm.trans hRound)
  obtain ⟨front, more, hNe, hRest, hNext, -⟩ := hReads.goesOn
  have hNonempty := mt byteLength_eq_zero_iff.mp hNe
  refine ⟨by omega, isBoundary_iff.mpr ⟨before ++ front, more, ?_, ?_⟩⟩
  · rw [hMessage, hRest, List.append_assoc]
  · rw [byteLength_append, hFinger, hNext]

theorem isBoundary_of_reaches {start : Reading σ} (hStart : IsBoundary message start.finger)
    (h : Reaches (Reading.round hear message) start x) : IsBoundary message x.finger := by
  induction h with
  | here => exact hStart
  | goesOn _ hRound ih => exact (round_gets_ahead ih hRound).2

theorem exists_last_round {template : Option Text} {s : σ} {read : Read ε σ}
    (h : readSliced message template hear s = some read) :
    ∃ x, Reaches (Reading.round hear message) ⟨0, template, s⟩ x ∧
      x.round hear message = some (.ended read) :=
  reaches_of_rounds h

end Reading

/-! ### Calls -/

/-- Counts the calls beside the state of a receiver. -/
def counting (hear : Event → σ → Except ε Unit × σ) :
    Event → σ × Nat → Except ε Unit × (σ × Nat) :=
  fun e (s, n) =>
    let (answer, s) := hear e s
    (answer, (s, n + 1))

theorem Argument.WellFormed.four_le {a : Argument} (h : a.WellFormed) :
    4 ≤ byteLength a.source := by
  have hName := mt byteLength_eq_zero_iff.mp h.isName.ne_nil
  have hDelimiter : delimiter.utf8Size = 1 := rfl
  have hSeparator : nameSeparator.utf8Size = 1 := rfl
  have hMarker : errorMarker.utf8Size = 1 := rfl
  cases hError : a.isError <;>
    simp only [Argument.source, hError, if_true, Bool.false_eq_true, if_false, byteLength_append,
      byteLength_cons, hDelimiter, hSeparator, hMarker] <;>
    omega

section Counting

variable {hear : Event → σ → Except ε Unit × σ} {start : Nat} {template : Option Text}
  {s : σ × Nat} {rest : Text}

/-- An item pays for its call. -/
theorem offer_counting (hear : Event → σ → Except ε Unit × σ) (start : Nat) (s : σ × Nat)
    {item : Item} (h : item.WellFormed) :
    4 * (item.offer (.hearing (counting hear)) start s).2.2 ≤
      4 * s.2 + byteLength item.source := by
  cases item with
  | plain c => exact Nat.le_add_right _ _
  | doubled => exact Nat.le_add_right _ _
  | argument a =>
    have hCalls : ((Item.argument a).offer (.hearing (counting hear)) start s).2.2 = s.2 + 1 := rfl
    have hBytes : 4 ≤ byteLength (Item.argument a).source := Argument.WellFormed.four_le h
    omega

theorem Round.Reads.counting_goesOn {next : Reading (σ × Nat)}
    (h : (Round.goesOn next).Reads (.hearing (counting hear)) start template s rest) :
    4 * next.state.2 + start ≤ 4 * s.2 + next.finger := by
  cases h with
  | @taken front after more item s' hFront hRead hOffer =>
    have hItem := (Item.read_eq_ok_iff.mp hRead).1
    have hCalls := offer_counting hear (start + byteLength front) s hItem
    rw [hOffer] at hCalls
    dsimp only at hCalls ⊢
    omega

theorem Round.Reads.counting_ended {read : Read ε (σ × Nat)}
    (h : (Round.ended read).Reads (.hearing (counting hear)) start template s rest) :
    4 * read.state.2 ≤ 4 * s.2 + byteLength rest := by
  cases h with
  | finished => exact Nat.le_add_right _ _
  | defect => exact Nat.le_add_right _ _
  | @refused front after more item refusal s' hFront hRead hOffer =>
    obtain ⟨hItem, hText, -⟩ := Item.read_eq_ok_iff.mp hRead
    have hCalls := offer_counting hear (start + byteLength front) s hItem
    rw [hOffer] at hCalls
    rw [hText, byteLength_append, byteLength_append]
    dsimp only at hCalls ⊢
    omega

end Counting

theorem isBoundary_zero (t : Text) : IsBoundary t 0 := isBoundary_byteLength_append [] t

/-- The bytes in front of the finger pay for the calls. -/
theorem four_mul_counted_le {hear : Event → σ → Except ε Unit × σ} {message : Text}
    {template : Option Text} {s : σ} {x : Reading (σ × Nat)}
    (h : Reaches (Reading.round (counting hear) message) ⟨0, template, (s, 0)⟩ x) :
    4 * x.state.2 ≤ x.finger := by
  induction h with
  | here => exact Nat.le_refl 0
  | @goesOn x next hReach hRound ih =>
    have hBoundary := Reading.isBoundary_of_reaches (isBoundary_zero message) hReach
    obtain ⟨-, rest, round, -, -, hSome, hReads⟩ :=
      Reading.exists_round (counting hear) hBoundary
    obtain rfl : round = .goesOn next := Option.some.inj (hSome.symm.trans hRound)
    have hPaid := hReads.counting_goesOn
    omega


/-- The last round pays with the bytes that are left. -/
theorem four_mul_calls_le {hear : Event → σ → Except ε Unit × σ} {message : Text}
    {template : Option Text} {s : σ} {read : Read ε (σ × Nat)}
    (h : readSliced message template (counting hear) (s, 0) = some read) :
    4 * read.state.2 ≤ byteLength message := by
  obtain ⟨x, hReach, hEnded⟩ := Reading.exists_last_round h
  have hPaid := four_mul_counted_le hReach
  have hBoundary := Reading.isBoundary_of_reaches (isBoundary_zero message) hReach
  obtain ⟨before, rest, round, hMessage, hFinger, hSome, hReads⟩ :=
    Reading.exists_round (counting hear) hBoundary
  obtain rfl : round = .ended read := Option.some.inj (hSome.symm.trans hEnded)
  have hLast := hReads.counting_ended
  rw [hMessage, byteLength_append, hFinger]
  omega

/-! ### Counting and not counting -/

section Agreement

variable (hear : Event → σ → Except ε Unit × σ)

theorem exists_offer_counting (start : Nat) (item : Item) (s : σ) (n : Nat) :
    ∃ calls, item.offer (.hearing (counting hear)) start (s, n) =
      ((item.offer (.hearing hear) start s).1,
        ((item.offer (.hearing hear) start s).2, calls)) := by
  cases item with
  | plain c => exact ⟨n, rfl⟩
  | doubled => exact ⟨n, rfl⟩
  | argument a => exact ⟨n + 1, rfl⟩

theorem exists_deliver_counting (defect : Option Defect) (start : Nat) (items : List Item) (s : σ)
    (n : Nat) :
    ∃ calls, deliver (.hearing (counting hear)) defect start items (s, n) =
      ((deliver (.hearing hear) defect start items s).1,
        (deliver (.hearing hear) defect start items s).2.1,
        ((deliver (.hearing hear) defect start items s).2.2, calls)) := by
  induction items generalizing start s n with
  | nil => exact ⟨n, rfl⟩
  | cons item rest ih =>
    obtain ⟨calls, hOffer⟩ := exists_offer_counting hear start item s n
    simp only [deliver, hOffer]
    cases hAnswer : item.offer (.hearing hear) start s with
    | mk answer s' =>
      cases answer with
      | error refusal => exact ⟨calls, rfl⟩
      | ok =>
        obtain ⟨all, hRest⟩ := ih (start + byteLength item.source) s' calls
        exact ⟨all, by simp only [hRest]⟩

theorem exists_readMessage_counting (message : Text) (template : Option Text) (s : σ) (n : Nat) :
    ∃ calls, readMessage message template (.hearing (counting hear)) (s, n) =
      ⟨(readMessage message template (.hearing hear) s).result,
        (readMessage message template (.hearing hear) s).template,
        ((readMessage message template (.hearing hear) s).state, calls)⟩ := by
  obtain ⟨calls, hDeliver⟩ :=
    exists_deliver_counting hear (readItems message).2 0 (readItems message).1 s n
  exact ⟨calls, by simp only [readMessage, hDeliver]⟩

end Agreement

/-! ## Any source and any message -/

/-- However often a scanner is called, its finger is inside of the source, where the scanner by
offsets takes the same step. A call that gives a part moves the finger ahead, from the start of the
part to its end. After an error or at the end no call gives anything. So the calls give the parts up
to the first error, not more than the source has bytes, then the error, and then nothing. A message
is read in rounds, and each round but the last moves the finger ahead inside of the message. So
reading ends, and it has called the receiver for at most every fourth byte. -/
theorem fingers_get_ahead (source message : Text) (template : Option Text)
    (hear : Event → σ → Except ε Unit × σ) (s : σ) :
    ((scan source).1.length ≤ byteLength source ∧
      ∀ n, let scanner := (Scanner.start source).afterCalls n
        scanner.given = ((scan source).1.map .ok ++ (scan source).2.toList.map .error)[n]? ∧
        scanner.position ≤ byteLength source ∧
        scanner.ranges.next = some (scanner.next?.map fun (outcome, next) =>
          (outcome.map (·.range scanner.position), next.ranges)) ∧
        (∀ part next, scanner.next? = some (.ok part, next) →
          scanner.position < next.position ∧ next.position ≤ byteLength source ∧
            slice? source scanner.position next.position = some part.source) ∧
        (∀ error next, scanner.next? = some (.error error, next) →
          next.position = byteLength source ∧ ∀ k, (next.afterCalls k).next? = none) ∧
        (scanner.next? = none → ∀ k, (scanner.afterCalls k).next? = none)) ∧
    (∀ x, Reaches (Reading.round hear message) ⟨0, template, s⟩ x →
      x.finger ≤ byteLength message ∧ (∃ round, x.round hear message = some round) ∧
        ∀ next, x.round hear message = some (.goesOn next) →
          x.finger < next.finger ∧ next.finger ≤ byteLength message) ∧
    ∃ read calls, readSliced message template hear s = some read ∧
      read = readMessage message template (.hearing hear) s ∧
      readSliced message template (counting hear) (s, 0) =
        some ⟨read.result, read.template, (read.state, calls)⟩ ∧
      calls ≤ byteLength message / 4 := by
  have hStart := isBoundary_zero message
  refine ⟨⟨?_, fun n => ?_⟩, fun x hReach => ?_, ?_⟩
  · have hParts := (Scanner.placed_start source).length_run_le
    exact Nat.le_trans (Nat.le_add_left _ _) hParts
  · intro scanner
    obtain ⟨hPlaced, hSource⟩ := (Scanner.placed_start source).afterCalls n
    change scanner.source = source at hSource
    refine ⟨(Scanner.start source).given_afterCalls n, hSource ▸ hPlaced.position_le,
      hPlaced.next_ranges, fun part next hNext => ?_, fun error next hNext => ?_, fun hNext k => ?_⟩
    · rw [← hSource]
      exact hPlaced.next_gets_ahead hNext
    · obtain rfl := Scanner.exhausted_of_error hNext
      refine ⟨congrArg byteLength hSource, fun k => ?_⟩
      rw [Scanner.afterCalls_of_none scanner.next?_exhausted]
      exact scanner.next?_exhausted
    · rw [Scanner.afterCalls_of_none hNext]
      exact hNext
  · have hBoundary := Reading.isBoundary_of_reaches hStart hReach
    obtain ⟨-, -, round, -, -, hRound, -⟩ := Reading.exists_round hear hBoundary
    refine ⟨hBoundary.le, ⟨round, hRound⟩, fun next hNext => ?_⟩
    obtain ⟨hAhead, hInside⟩ := Reading.round_gets_ahead hBoundary hNext
    exact ⟨hAhead, hInside.le⟩
  · obtain ⟨calls, hCounted⟩ := exists_readMessage_counting hear message template s 0
    have hRead := readSliced_eq (counting hear) message template (s, 0)
    rw [hCounted] at hRead
    have hCalls := four_mul_calls_le hRead
    refine ⟨_, calls, readSliced_eq hear message template s, rfl, hRead, ?_⟩
    dsimp only at hCalls
    omega

/-- The finger stands in front of each part, and after the error at the end. -/
example :
    let s := Scanner.start "a`b`c`".toList
    (List.range 6).map (fun n => (s.afterCalls n).position) = [0, 1, 4, 5, 6, 6] := by
  decide +kernel

end LogMarkup
