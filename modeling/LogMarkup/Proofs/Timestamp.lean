import LogMarkup.Proofs.Calendar
import LogMarkup.Proofs.Template.Numbered
import LogMarkup.Proofs.Text.Aligned
import LogMarkup.Proofs.Text.ByteOrder
import LogMarkup.Proofs.Value
import LogMarkup.Timestamp

/-!
# Timestamps in the order of time

With the year in front, a timestamp is a row of fields of fixed width, from the largest unit to
the smallest. So texts of one format are ordered like the points in time that they show, up to the
smallest unit that is written. The weekday between date and clock has no say: it only differs
where the dates do.

* `Piece.SpellAligned`: pieces that write aligned texts.
* `Date.IsValid.compare_number`, `DateTime.compare_seconds`: points in time field by field.
* `Timestamp.spellAligned_pieces`: the fields of two timestamps.
* `Timestamp.nanoseconds_time`: the fields are those of the given point in time, in the zone.
* `Timestamp.text_in_order`: their texts.
-/

namespace LogMarkup

/-! ## Aligned pieces -/

/-- The pieces write texts of one length, in the given order. -/
def Piece.SpellAligned (o : Ordering) (pieces pieces' : List Piece) : Prop :=
  ∃ s t, Spells pieces s ∧ Spells pieces' t ∧ Aligned o s t

namespace Piece.SpellAligned

theorem refl {pieces : List Piece} {t : Text} (h : Spells pieces t) :
    SpellAligned .eq pieces pieces := ⟨t, t, h, h, .refl t⟩

theorem text {t : Text} (h : delimiter ∉ t) : SpellAligned .eq [.text t] [.text t] :=
  refl (.text h)

theorem append {o o' : Ordering} {pieces pieces' more more' : List Piece}
    (h : SpellAligned o pieces pieces') (h' : SpellAligned o' more more') :
    SpellAligned (o.then o') (pieces ++ more) (pieces' ++ more') := by
  obtain ⟨s, t, hs, ht, hAligned⟩ := h
  obtain ⟨s', t', hs', ht', hAligned'⟩ := h'
  exact ⟨s ++ s', t ++ t', hs.append hs', ht.append ht', hAligned.append hAligned'⟩

end Piece.SpellAligned

theorem delimiter_notMem_decimal (n : Nat) : delimiter ∉ decimal n := by
  intro h
  exact absurd (isDecimalDigit_of_mem_decimal h) (by decide)

theorem Timestamp.spells_padded (width n : Nat) :
    Piece.Spells (padded width n) (paddedDecimal width n) := by
  refine Piece.Spells.append (.chars ?_) (.text (delimiter_notMem_decimal n))
  rw [leadingZeros, List.mem_replicate]
  rintro ⟨-, h⟩
  exact absurd h (by decide)

theorem Timestamp.spellAligned_padded {width m n : Nat} (hWidth : 1 ≤ width) (hm : m < 10 ^ width)
    (hn : n < 10 ^ width) :
    Piece.SpellAligned (compare m n) (padded width m) (padded width n) :=
  ⟨_, _, spells_padded width m, spells_padded width n, aligned_paddedDecimal hWidth hm hn⟩

/-! ## Points in time field by field -/

theorem daysInMonth_le (year : Int) (month : Nat) : daysInMonth year month ≤ 31 := by
  unfold daysInMonth
  split
  · split <;> decide
  · split <;> decide

theorem Date.IsValid.compare_number {d d' : Date} (h : d.IsValid) (h' : d'.IsValid) :
    compare d.number d'.number =
      (compare d.year d'.year).then ((compare d.month d'.month).then (compare d.day d'.day)) := by
  have hLess := h.number_lt_iff h'
  have hGreater := h'.number_lt_iff h
  refine compare_eq_then (by omega) (by omega) fun hYear => ?_
  refine compare_eq_then (by omega) (by omega) fun hMonth => ?_
  exact compare_congr (by omega) (by omega)

theorem Date.IsValid.eq_of_number_eq {d d' : Date} (h : d.IsValid) (h' : d'.IsValid)
    (hNumber : d.number = d'.number) : d = d' := by
  have hLess := h.number_lt_iff h'
  have hGreater := h'.number_lt_iff h
  have hFields : d.year = d'.year ∧ d.month = d'.month ∧ d.day = d'.day := by omega
  cases d
  cases d'
  exact (Date.mk.injEq ..).mpr hFields

namespace DateTime

/-- The order of the times that two clocks show. -/
def compareClocks (t t' : DateTime) : Ordering :=
  (compare t.hour t'.hour).then ((compare t.minute t'.minute).then (compare t.second t'.second))

theorem compare_seconds {t t' : DateTime} (h : t.IsValid) (h' : t'.IsValid) :
    compare t.seconds t'.seconds =
      (compare t.date.number t'.date.number).then (compareClocks t t') := by
  have hSeconds : t.seconds =
      t.date.number * 86400 + t.hour * 3600 + t.minute * 60 + t.second := rfl
  have hSeconds' : t'.seconds =
      t'.date.number * 86400 + t'.hour * 3600 + t'.minute * 60 + t'.second := rfl
  obtain ⟨-, hHour, hMinute, hSecond, -⟩ := h
  obtain ⟨-, hHour', hMinute', hSecond', -⟩ := h'
  refine compare_eq_then (by omega) (by omega) fun hDate => ?_
  refine compare_eq_then (by omega) (by omega) fun hHours => ?_
  refine compare_eq_then (by omega) (by omega) fun hMinutes => ?_
  exact compare_congr (by omega) (by omega)

theorem IsValid.seconds_div {t : DateTime} (h : t.IsValid) : t.seconds / 86400 = t.date.number := by
  have hSeconds : t.seconds =
      t.date.number * 86400 + t.hour * 3600 + t.minute * 60 + t.second := rfl
  obtain ⟨-, hHour, hMinute, hSecond, -⟩ := h
  omega

/-- The nanoseconds since the start of 1970. -/
def nanoseconds (t : DateTime) : Int := t.seconds * 1000000000 + t.nanosecond

end DateTime

/-- The nanoseconds of the smallest unit that is written. -/
def TimeFormat.unit (f : TimeFormat) : Int :=
  if f.micros then 1000
  else if f.millis then 1000000
  else if f.clock then 1000000000
  else 86400 * 1000000000

/-- The seconds that the clock that is shown is ahead of universal time. -/
def TimeFormat.secondsAhead (f : TimeFormat) (offset : Int) : Int := if f.utc then 0 else offset

/-- The whole units since the start of 1970: the point in time cut off behind the smallest unit
that is written. -/
def DateTime.units (t : DateTime) (f : TimeFormat) : Int := t.nanoseconds / f.unit

/-- A point in time whose year has four digits and no sign, and that is in no leap second. -/
structure DateTime.IsOrdinary (t : DateTime) : Prop where
  year_nonneg : 0 ≤ t.date.year
  year_le : t.date.year ≤ 9999
  nanosecond_lt : t.nanosecond < 1000000000

/-- The order of what is written of two seconds. -/
def DateTime.compareFractions (f : TimeFormat) (t t' : DateTime) : Ordering :=
  if f.micros then compare (t.nanosecond / 1000) (t'.nanosecond / 1000)
  else if f.millis then compare (t.nanosecond / 1000000) (t'.nanosecond / 1000000)
  else .eq

theorem DateTime.compare_units_of_clock {t t' : DateTime} (hOrdinary : t.IsOrdinary)
    (hOrdinary' : t'.IsOrdinary) {f : TimeFormat} (hClock : f.hasClock = true) :
    compare (t.units f) (t'.units f) =
      (compare t.seconds t'.seconds).then (compareFractions f t t') := by
  have hNano := hOrdinary.nanosecond_lt
  have hNano' := hOrdinary'.nanosecond_lt
  unfold units nanoseconds TimeFormat.unit compareFractions
  by_cases hMicros : f.micros = true
  · simp only [if_pos hMicros]
    refine compare_eq_then (by omega) (by omega) fun hSeconds => ?_
    exact compare_congr (by omega) (by omega)
  · simp only [if_neg hMicros]
    by_cases hMillis : f.millis = true
    · simp only [if_pos hMillis]
      refine compare_eq_then (by omega) (by omega) fun hSeconds => ?_
      exact compare_congr (by omega) (by omega)
    · have hOnly : f.clock = true := by simpa [TimeFormat.hasClock, hMicros, hMillis] using hClock
      simp only [if_neg hMillis, if_pos hOnly]
      refine compare_eq_then (by omega) (by omega) fun hSeconds => ?_
      exact compare_eq_iff_eq.mpr (by omega)

theorem DateTime.compare_units_of_date {t t' : DateTime} (h : t.IsValid) (h' : t'.IsValid)
    (hOrdinary : t.IsOrdinary) (hOrdinary' : t'.IsOrdinary) {f : TimeFormat}
    (hClock : f.hasClock = false) :
    compare (t.units f) (t'.units f) = compare t.date.number t'.date.number := by
  have hNano := hOrdinary.nanosecond_lt
  have hNano' := hOrdinary'.nanosecond_lt
  have hDay := h.seconds_div
  have hDay' := h'.seconds_div
  have hUnit : f.unit = 86400 * 1000000000 := by
    obtain ⟨⟨hNone, hMillis⟩, hMicros⟩ :
        (f.clock = false ∧ f.millis = false) ∧ f.micros = false := by
      simpa [TimeFormat.hasClock] using hClock
    simp [TimeFormat.unit, hNone, hMillis, hMicros]
  unfold units nanoseconds
  rw [hUnit]
  exact compare_congr (by omega) (by omega)

theorem DateTime.compare_units {t t' : DateTime} (h : t.IsValid) (h' : t'.IsValid)
    (hOrdinary : t.IsOrdinary) (hOrdinary' : t'.IsOrdinary) (f : TimeFormat) :
    compare (t.units f) (t'.units f) =
      (compare t.date.number t'.date.number).then
        (if f.hasClock then (compareClocks t t').then (compareFractions f t t') else .eq) := by
  cases hClock : f.hasClock with
  | true =>
    rw [compare_units_of_clock hOrdinary hOrdinary' hClock, compare_seconds h h', if_pos rfl,
      Ordering.then_assoc]
  | false =>
    rw [compare_units_of_date h h' hOrdinary hOrdinary' hClock, if_neg Bool.false_ne_true,
      Ordering.then_eq]

namespace Timestamp

theorem spellAligned_yearPieces {year year' : Int} (h : 0 ≤ year ∧ year ≤ 9999)
    (h' : 0 ≤ year' ∧ year' ≤ 9999) :
    Piece.SpellAligned (compare year year') (yearPieces year) (yearPieces year') := by
  have hCompare : compare year year' = (compare year.natAbs year'.natAbs).then .eq := by
    rw [Ordering.then_eq]
    exact compare_congr (by omega) (by omega)
  rw [hCompare, yearPieces, yearPieces, if_neg (by omega), if_neg (by omega)]
  exact (spellAligned_padded (by decide) (by omega) (by omega)).append (.text (by decide))

/-- The weekday only depends on the date. -/
theorem exists_spellAligned_weekday (d d' : Date) :
    ∃ o, Piece.SpellAligned o [.text [' '], .text (Weekday.ofDate d).short]
        [.text [' '], .text (Weekday.ofDate d').short] ∧ (d = d' → o = .eq) := by
  have hShort : ∀ w : Weekday, byteLength w.short = 2 ∧ delimiter ∉ w.short := by
    intro w
    cases w <;> decide
  have hSpells : ∀ w : Weekday, Piece.Spells [.text [' '], .text w.short] ([' '] ++ w.short) :=
    fun w => Piece.Spells.append (.text (by decide)) (.text (hShort w).2)
  have hLength : byteLength ([' '] ++ (Weekday.ofDate d).short) =
      byteLength ([' '] ++ (Weekday.ofDate d').short) := by
    rw [byteLength_append, byteLength_append, (hShort _).1, (hShort _).1]
  obtain ⟨o, hAligned⟩ := exists_aligned hLength
  refine ⟨o, ⟨_, _, hSpells _, hSpells _, hAligned⟩, ?_⟩
  rintro rfl
  exact hAligned.eq_iff.mp rfl

theorem spellAligned_datePieces {f : TimeFormat} (hYear : f.year = true) {d d' : Date}
    (h : d.IsValid) (h' : d'.IsValid) (hOrdinary : 0 ≤ d.year ∧ d.year ≤ 9999)
    (hOrdinary' : 0 ≤ d'.year ∧ d'.year ≤ 9999) :
    Piece.SpellAligned (compare d.number d'.number) (datePieces f d) (datePieces f d') := by
  have hMonth := h.month_le
  have hMonth' := h'.month_le
  have hDay := Nat.le_trans h.day_le (daysInMonth_le _ _)
  have hDay' := Nat.le_trans h'.day_le (daysInMonth_le _ _)
  have hMonthField : Piece.SpellAligned (compare d.month d'.month) (padded 2 d.month)
      (padded 2 d'.month) := spellAligned_padded (by decide) (by omega) (by omega)
  have hHyphen : Piece.SpellAligned .eq [.text ['-']] [.text ['-']] := .text (by decide)
  have hDayField : Piece.SpellAligned (compare d.day d'.day) (padded 2 d.day) (padded 2 d'.day) :=
    spellAligned_padded (by decide) (by omega) (by omega)
  have hFields := (((spellAligned_yearPieces hOrdinary hOrdinary').append hMonthField).append
    hHyphen).append hDayField
  rw [Ordering.then_eq, Ordering.then_assoc, ← h.compare_number h'] at hFields
  unfold datePieces
  rw [hYear, if_pos rfl, if_pos rfl]
  by_cases hWeekday : f.weekday = true
  · rw [if_pos hWeekday, if_pos hWeekday]
    obtain ⟨o, hAligned, hSame⟩ := exists_spellAligned_weekday d d'
    have hDate : compare d.number d'.number = .eq → o = .eq := fun hEq =>
      hSame (h.eq_of_number_eq h' (compare_eq_iff_eq.mp hEq))
    rw [← then_eq_self hDate]
    exact hFields.append hAligned
  · rw [if_neg hWeekday, if_neg hWeekday, List.append_nil, List.append_nil]
    exact hFields

theorem spellAligned_fractionPieces (f : TimeFormat) {t t' : DateTime} (h : t.IsOrdinary)
    (h' : t'.IsOrdinary) :
    Piece.SpellAligned (t.compareFractions f t') (fractionPieces f t.nanosecond)
      (fractionPieces f t'.nanosecond) := by
  have hNano := h.nanosecond_lt
  have hNano' := h'.nanosecond_lt
  unfold fractionPieces DateTime.compareFractions
  simp only [Nat.mod_eq_of_lt hNano, Nat.mod_eq_of_lt hNano']
  have hPoint : Piece.SpellAligned .eq [.text ['.']] [.text ['.']] := .text (by decide)
  by_cases hMicros : f.micros = true
  · simp only [hMicros, if_true]
    exact hPoint.append (spellAligned_padded (by decide) (by omega) (by omega))
  · by_cases hMillis : f.millis = true
    · simp only [hMicros, hMillis, if_true, Bool.false_eq_true, if_false]
      exact hPoint.append (spellAligned_padded (by decide) (by omega) (by omega))
    · simp only [hMicros, hMillis, Bool.false_eq_true, if_false]
      exact .refl .nil

theorem spellAligned_clockPieces (f : TimeFormat) {t t' : DateTime} (h : t.IsValid)
    (h' : t'.IsValid) (hOrdinary : t.IsOrdinary) (hOrdinary' : t'.IsOrdinary) :
    Piece.SpellAligned ((t.compareClocks t').then (t.compareFractions f t')) (clockPieces f t)
      (clockPieces f t') := by
  have hTwo : ∀ {m n : Nat}, m < 60 → n < 60 →
      Piece.SpellAligned (compare m n) (padded 2 m) (padded 2 n) := fun hm hn =>
    spellAligned_padded (by decide) (by omega) (by omega)
  have hColon : Piece.SpellAligned .eq [.text [':']] [.text [':']] := .text (by decide)
  obtain ⟨-, hHour, hMinute, hSecond, -⟩ := h
  obtain ⟨-, hHour', hMinute', hSecond', -⟩ := h'
  have hFields := ((((hTwo (m := t.hour) (n := t'.hour) (by omega) (by omega)).append
    hColon).append (hTwo hMinute hMinute')).append hColon).append (hTwo hSecond hSecond')
  simp only [Ordering.then_eq, Ordering.then_assoc] at hFields
  exact hFields.append (spellAligned_fractionPieces f hOrdinary hOrdinary')

/-- The texts are in the order of the points in time, up to the smallest unit that is written. -/
theorem spellAligned_pieces {s s' : Timestamp} (hFormat : s'.format = s.format)
    (hYear : s.format.year = true) (h : s.time.IsValid) (h' : s'.time.IsValid)
    (hOrdinary : s.time.IsOrdinary) (hOrdinary' : s'.time.IsOrdinary) :
    Piece.SpellAligned (compare (s.time.units s.format) (s'.time.units s.format)) s.pieces
      s'.pieces := by
  have hDate : s.format.hasDate = true := by
    rw [TimeFormat.hasDate, hYear, Bool.or_true, Bool.true_or]
  have hDatePieces := spellAligned_datePieces hYear h.date h'.date
    ⟨hOrdinary.year_nonneg, hOrdinary.year_le⟩ ⟨hOrdinary'.year_nonneg, hOrdinary'.year_le⟩
  rw [DateTime.compare_units h h' hOrdinary hOrdinary']
  unfold pieces
  rw [hFormat, if_pos hDate, if_pos hDate]
  by_cases hClock : s.format.hasClock = true
  · have hSpace : Piece.SpellAligned .eq [.char ' '] [.char ' '] :=
      .refl (.chars (t := [' ']) (by decide))
    have hDateSpace := hDatePieces.append hSpace
    rw [Ordering.then_eq] at hDateSpace
    simp only [if_pos hClock]
    exact hDateSpace.append (spellAligned_clockPieces _ h h' hOrdinary hOrdinary')
  · simp only [if_neg hClock, List.append_nil, Ordering.then_eq]
    exact hDatePieces

/-! ## Texts -/

/-- What a timestamp writes. -/
def text (s : Timestamp) : Text := (toValue s).writing.text

theorem isValid_time {t : DateTime} (h : t.IsValid) (f : TimeFormat) (offset : Int) :
    (ofUtc f t offset).time.IsValid := by
  unfold ofUtc
  split
  · exact h
  · exact DateTime.isValid_shifted h offset

/-- The fields show the given point in time on the clock of the zone. -/
theorem nanoseconds_time (f : TimeFormat) (t : DateTime) (offset : Int) :
    (ofUtc f t offset).time.nanoseconds = t.nanoseconds + f.secondsAhead offset * 1000000000 := by
  unfold ofUtc DateTime.nanoseconds TimeFormat.secondsAhead
  split
  · rw [Int.zero_mul, Int.add_zero]
  · have hNano : (t.shifted offset).nanosecond = t.nanosecond := rfl
    rw [DateTime.seconds_shifted, hNano]
    omega

/-- With the year in front, timestamps of one format are in the order of the points in time that
they show, cut off behind the smallest unit that is written. -/
theorem text_in_order {f : TimeFormat} (hYear : f.year = true) {t t' : DateTime} (h : t.IsValid)
    (h' : t'.IsValid) (offset offset' : Int)
    (hOrdinary : (ofUtc f t offset).time.IsOrdinary)
    (hOrdinary' : (ofUtc f t' offset').time.IsOrdinary) :
    let s := ofUtc f t offset
    let s' := ofUtc f t' offset'
    (s.time.nanoseconds = t.nanoseconds + f.secondsAhead offset * 1000000000 ∧
        s'.time.nanoseconds = t'.nanoseconds + f.secondsAhead offset' * 1000000000) ∧
      ((toValue s).writing.result = .ok () ∧ (toValue s').writing.result = .ok ()) ∧
      byteLength s.text = byteLength s'.text ∧
      (utf8 s.text < utf8 s'.text ↔ s.time.units f < s'.time.units f) ∧
      (s.text = s'.text ↔ s.time.units f = s'.time.units f) ∧
      -- in a message the texts stand as they are
      escape s.text = s.text ∧ escape s'.text = s'.text := by
  intro s s'
  have hFormat : s'.format = s.format := rfl
  obtain ⟨u, u', hSpells, hSpells', hAligned⟩ := spellAligned_pieces hFormat hYear
    (isValid_time h f offset) (isValid_time h' f offset') hOrdinary hOrdinary'
  have hText : s.text = u := hSpells.text_eq
  have hText' : s'.text = u' := hSpells'.text_eq
  rw [hText, hText', utf8_lt_utf8_iff, hAligned.lt_iff, hAligned.eq_iff, compare_lt_iff_lt,
    compare_eq_iff_eq]
  exact ⟨⟨nanoseconds_time f t offset, nanoseconds_time f t' offset'⟩,
    ⟨hSpells.result_eq, hSpells'.result_eq⟩, hAligned.byteLength_eq, .rfl, .rfl,
    escape_of_notMem hSpells.delimiter_notMem, escape_of_notMem hSpells'.delimiter_notMem⟩

/-- Half a millisecond before a new year, and its first moment two hours further east. -/
theorem text_in_order_newYear :
    let f : TimeFormat := { TimeFormat.empty with weekday := true, year := true, millis := true }
    let s := ofUtc f ⟨⟨2023, 12, 31⟩, 23, 59, 59, 999500000⟩ 0
    let s' := ofUtc f ⟨⟨2023, 12, 31⟩, 22, 0, 0, 0⟩ 7200
    s.text = "2023-12-31 Su 23:59:59.999".toList ∧ s'.text = "2024-01-01 Mo 00:00:00.000".toList ∧
      utf8 s.text < utf8 s'.text := by
  intro f s s'
  have hYear : f.year = true := rfl
  have hDate : Date.IsValid ⟨2023, 12, 31⟩ := ⟨by decide, by decide, by decide, by decide⟩
  have hValid : DateTime.IsValid ⟨⟨2023, 12, 31⟩, 23, 59, 59, 999500000⟩ :=
    ⟨hDate, by decide, by decide, by decide, by decide⟩
  have hValid' : DateTime.IsValid ⟨⟨2023, 12, 31⟩, 22, 0, 0, 0⟩ :=
    ⟨hDate, by decide, by decide, by decide, by decide⟩
  have hOrder := text_in_order hYear hValid hValid' 0 7200 ⟨by decide, by decide, by decide⟩
    ⟨by decide, by decide, by decide⟩
  exact ⟨by decide, by decide, hOrder.2.2.2.1.mpr (by decide)⟩

end Timestamp

end LogMarkup
