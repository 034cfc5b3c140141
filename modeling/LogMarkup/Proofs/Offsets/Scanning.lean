import LogMarkup.Proofs.Offsets.Bytes
import LogMarkup.Proofs.Template.Scanning

/-!
# Scanning by offsets

A template is scanned by searching its bytes. Its parts are kept as the byte offsets at which they
start and stop, and so are the names of its placeholders. An explicit index is read byte by byte;
a character of several bytes is no digit at its first byte.

* `PartRange`, `Part.range`: parts by offsets.
* `RangeScanner`: a scanner that goes from offset to offset.
* `Scanner.Placed.next_ranges`: it takes the steps of the scanner for texts.
* `scanRanges_eq`, `namesAt_eq`: scanning a whole template, and cutting the names out of it.
-/

namespace LogMarkup

/-! ## Parts by offsets -/

structure PlaceholderRange where
  /-- The byte offset of the opening delimiter. -/
  start : Nat
  nameStart : Nat
  nameStop : Nat
  index : Nat

inductive PartRange where
  | literal (start stop : Nat)
  | placeholder (p : PlaceholderRange)

def Placeholder.range (p : Placeholder) : PlaceholderRange :=
  ⟨p.start, p.start + 1, p.start + 1 + byteLength p.name, p.index⟩

/-- The offsets of a part that starts at the byte offset `start`. -/
def Part.range (start : Nat) : Part → PartRange
  | .literal t => .literal start (start + byteLength t)
  | .placeholder p => .placeholder p.range

/-- The part stands in a source at a byte offset. -/
structure Part.StandsAt (part : Part) (source : Text) (start : Nat) : Prop where
  source_eq : ∃ before after, source = before ++ (part.source ++ after) ∧ start = byteLength before
  start_eq : ∀ p, part = .placeholder p → p.start = start

theorem Tiled.standsAt {source before : Text} {automatic : Nat} {part : Part} {rest : List Part}
    (h : Tiled (byteLength before) automatic (part :: rest))
    (hSource : source = before ++ sourceOf (part :: rest)) :
    part.StandsAt source (byteLength before) where
  source_eq := ⟨before, sourceOf rest, by rw [hSource, sourceOf_cons], rfl⟩
  start_eq := by
    rintro p rfl
    exact h.1.start_eq

/-! ## Cutting out -/

/-- The name between the offsets of a placeholder. -/
def PlaceholderRange.name? (source : Text) (p : PlaceholderRange) : Option Text :=
  slice? source p.nameStart p.nameStop

theorem Part.StandsAt.slice?_literal {source t : Text} {start : Nat}
    (h : (Part.literal t).StandsAt source start) :
    slice? source start (start + byteLength t) = some t := by
  obtain ⟨before, after, hSource, hStart⟩ := h.source_eq
  exact slice?_eq_some before t after hSource hStart rfl

theorem Part.StandsAt.name?_range {source : Text} {start : Nat} {p : Placeholder}
    (h : (Part.placeholder p).StandsAt source start) : p.range.name? source = some p.name := by
  obtain ⟨before, after, hSource, hStart⟩ := h.source_eq
  refine slice?_eq_some (before ++ [delimiter]) p.name
    (p.digits.elim [] (nameSeparator :: ·) ++ delimiter :: after)
    (by simp [hSource, Part.source, Placeholder.source]) ?_ rfl
  rw [byteLength_append, ← hStart, ← h.start_eq p rfl]
  rfl

/-! ## Explicit indices -/

def isDigitByte (b : UInt8) : Bool := byteOf '0' ≤ b && b ≤ byteOf '9'

/-- Continues an index with the bytes behind those that denote `value`. -/
def readDigits (value offset : Nat) : List UInt8 → Except (Nat × SyntaxError.Kind) Nat
  | [] => .ok value
  | b :: rest =>
    if isDigitByte b then
      let extended := 10 * value + (b.toNat - (byteOf '0').toNat)
      if extended ≤ maxIndex then readDigits extended (offset + 1) rest
      else .error (0, .indexOutOfRange)
    else .error (offset, .notADigit)

theorem isDigitByte_iff {b : UInt8} : isDigitByte b = true ↔ 48 ≤ b.toNat ∧ b.toNat ≤ 57 := by
  rw [isDigitByte, Bool.and_eq_true, decide_eq_true_iff, decide_eq_true_iff]
  exact Iff.rfl

/-- The first byte of a character is a digit iff the character is one. -/
theorem isDigitByte_of_utf8EncodeChar {c : Char} {b : UInt8} {bytes : List UInt8}
    (h : String.utf8EncodeChar c = b :: bytes) : isDigitByte b = isDecimalDigit c := by
  rw [Bool.eq_iff_iff, isDigitByte_iff, isDecimalDigit_iff]
  by_cases hc : c.utf8Size = 1
  · rw [utf8EncodeChar_eq_byteOf hc] at h
    obtain ⟨rfl, -⟩ := List.cons.inj h
    rw [(toNat_byteOf hc).1]
  · have hLarge := le_toNat_of_mem hc b (h ▸ List.mem_cons_self)
    have hCode : ¬ c.val.toNat ≤ 127 := by
      rw [Char.utf8Size_eq_one_iff, UInt32.le_iff_toNat_le] at hc
      exact hc
    omega

theorem readDigits_utf8 (value offset : Nat) (t : Text) :
    readDigits value offset (utf8 t) = readIndexFrom value offset t := by
  induction t generalizing value offset with
  | nil => rfl
  | cons c rest ih =>
    obtain ⟨b, bytes, hBytes⟩ := List.exists_cons_of_ne_nil (String.utf8EncodeChar_ne_nil (c := c))
    have hDigit := isDigitByte_of_utf8EncodeChar hBytes
    rw [utf8_cons, hBytes, List.cons_append, readDigits, readIndexFrom, hDigit]
    by_cases hc : isDecimalDigit c = true
    · have hSize := utf8Size_of_isDecimalDigit hc
      rw [utf8EncodeChar_eq_byteOf hSize] at hBytes
      obtain ⟨rfl, rfl⟩ := List.cons.inj hBytes
      have hValue : (byteOf c).toNat - (byteOf '0').toNat = c.toNat - '0'.toNat := by
        rw [(toNat_byteOf hSize).1]
        rfl
      rw [if_pos hc, if_pos hc, hValue]
      simp only [List.nil_append, ih]
    · rw [if_neg hc, if_neg hc]

/-! ## Scanning -/

structure RangeScanner where
  source : Text
  /-- The byte offset up to which the source was scanned. -/
  finger : Nat
  nextIndex : Nat

namespace RangeScanner

def fail {α : Type} (s : RangeScanner) (position : Nat) (kind : SyntaxError.Kind) :
    Except SyntaxError α × RangeScanner :=
  (.error ⟨s.source, position, kind⟩, { s with finger := byteLength s.source })

/-- The explicit index between two offsets. -/
def explicitIndex (s : RangeScanner) (start stop : Nat) :
    Option (Except (Nat × SyntaxError.Kind) Nat) := do
  if start = stop then return .error (start, .emptyIndex)
  else match readDigits 0 0 (← bytesBetween? (utf8 s.source) start stop) with
    | .ok index => return .ok index
    | .error (offset, kind) => return .error (start + offset, kind)

/-- The placeholder with a name that ends at `nameStop`, closed at `stop`. -/
def indexed (s : RangeScanner) (start nameStop stop : Nat) :
    Option (Except SyntaxError PlaceholderRange × RangeScanner) := do
  if nameStop = stop then
    return (.ok ⟨start, start + 1, nameStop, s.nextIndex⟩,
      { s with finger := stop + 1, nextIndex := s.nextIndex + 1 })
  else match ← s.explicitIndex (nameStop + 1) stop with
    | .ok index => return (.ok ⟨start, start + 1, nameStop, index⟩, { s with finger := stop + 1 })
    | .error (position, kind) => return s.fail position kind

/-- The placeholder between the delimiters at `start` and `stop`. -/
def closed (s : RangeScanner) (start stop : Nat) :
    Option (Except SyntaxError PlaceholderRange × RangeScanner) := do
  let nameStart := start + 1
  let body ← bytesBetween? (utf8 s.source) nameStart stop
  let nameStop := (findByte nameSeparator body).elim stop (nameStart + ·)
  if nameStop = nameStart then return s.fail nameStart .emptyName
  else match findByte errorMarker (← bytesBetween? (utf8 s.source) nameStart nameStop) with
    | some x => return s.fail (nameStart + x) .nameContainsSeparator
    | none => s.indexed start nameStop stop

/-- The placeholder that opens at `start`. -/
def placeholder (s : RangeScanner) (start : Nat) :
    Option (Except SyntaxError PlaceholderRange × RangeScanner) := do
  match findByte delimiter (← bytesFrom? (utf8 s.source) (start + 1)) with
  | none => return s.fail (start + 1) .unterminatedArgument
  | some x => s.closed start (start + 1 + x)

/-- The next part, or the error in front of it. -/
def next (s : RangeScanner) : Option (Option (Except SyntaxError PartRange × RangeScanner)) := do
  let size := byteLength s.source
  if size ≤ s.finger then return none
  else match ← singleFrom (utf8 s.source) s.finger with
    | none => return some (.ok (.literal s.finger size), { s with finger := size })
    | some place =>
      if s.finger < place then
        return some (.ok (.literal s.finger place), { s with finger := place })
      else
        let (result, s) ← s.placeholder place
        return some (result.map .placeholder, s)

/-- The number of bytes that are left to scan. -/
def left (s : RangeScanner) : Nat := byteLength s.source - s.finger

/-- Takes the next part behind those that were taken. -/
def collectRound (s : RangeScanner) (parts : List PartRange) :
    Option (Round (RangeScanner × List PartRange) (List PartRange × Option SyntaxError)) := do
  match ← s.next with
  | none => return .ended (parts, none)
  | some (.error error, _) => return .ended (parts, some error)
  | some (.ok part, s) => return .goesOn (s, parts ++ [part])

/-- All parts up to the first error. -/
def run (s : RangeScanner) : Option (List PartRange × Option SyntaxError) :=
  rounds (·.1.left) (fun x => x.1.collectRound x.2) (s, [])

/-! ## The scanner for texts -/

theorem explicitIndex_eq (s : RangeScanner) {start stop : Nat} (before digits after : Text)
    (hSource : s.source = before ++ (digits ++ after)) (hStart : start = byteLength before)
    (hStop : stop = start + byteLength digits) :
    s.explicitIndex start stop =
      some ((readIndex digits).mapError fun (offset, kind) => (start + offset, kind)) := by
  have hEmpty : start = stop ↔ digits = [] := by
    rw [← byteLength_eq_zero_iff]
    omega
  unfold explicitIndex readIndex
  by_cases hDigits : digits = []
  · rw [if_pos (hEmpty.mpr hDigits), if_pos hDigits]
    rfl
  · rw [if_neg (mt hEmpty.mp hDigits), if_neg hDigits,
      bytesBetween?_utf8 before digits after hSource hStart hStop, Option.bind_eq_bind,
      Option.bind_some, readDigits_utf8]
    cases readIndexFrom 0 0 digits <;> rfl

end RangeScanner

/-! ## Placeholders in front of more text -/

/-- The name in front of the closing delimiter, and the digits behind a name separator. -/
def nameAndDigits (body : Text) : Text × Option Text :=
  match cutAt nameSeparator body with
  | none => (body, none)
  | some (name, digits) => (name, some digits)

theorem nameAndDigits_eq (body : Text) :
    body = (nameAndDigits body).1 ++ (nameAndDigits body).2.elim [] (nameSeparator :: ·) := by
  unfold nameAndDigits
  cases hCut : cutAt nameSeparator body with
  | none => exact (List.append_nil body).symm
  | some cut => exact (cutAt_eq_some hCut).1

/-- Reads a placeholder with a given name and digits. -/
def Placeholder.readParts (start automatic : Nat) (after name : Text) (digits? : Option Text) :
    Except (Nat × SyntaxError.Kind) (Placeholder × Text) :=
  if name = [] then .error (start + 1, .emptyName)
  else match cutAt errorMarker name with
    | some (before, _) => .error (start + 1 + byteLength before, .nameContainsSeparator)
    | none => match digits? with
      | none => .ok (⟨start, name, none, automatic⟩, after)
      | some digits => match readIndex digits with
        | .ok index => .ok (⟨start, name, some digits, index⟩, after)
        | .error (offset, kind) => .error (start + 1 + byteLength name + 1 + offset, kind)

theorem Placeholder.read_of_cutAt {rest body after : Text} (start automatic : Nat)
    (h : cutAt delimiter rest = some (body, after)) :
    Placeholder.read start automatic rest =
      Placeholder.readParts start automatic after (nameAndDigits body).1
        (nameAndDigits body).2 := by
  rw [Placeholder.read, h]
  rfl

/-- The scanner by offsets at the same place. -/
def Scanner.ranges (s : Scanner) : RangeScanner := ⟨s.source, s.position, s.nextIndex⟩

/-- The outcome of reading a placeholder, and the scanner behind it, by offsets. -/
def Scanner.opened (s : Scanner) :
    Except (Nat × SyntaxError.Kind) (Placeholder × Text) →
      Except SyntaxError PlaceholderRange × RangeScanner
  | .ok (p, after) => (.ok p.range, (s.afterPlaceholder p after).ranges)
  | .error (position, kind) => (.error ⟨s.source, position, kind⟩, s.exhausted.ranges)

namespace Scanner

variable {s : Scanner} {before after : Text}

theorem ranges_afterPlaceholder (s : Scanner) (p : Placeholder) (after : Text) :
    (s.afterPlaceholder p after).ranges =
      ⟨s.source,
        s.position + 1 + byteLength (p.name ++ p.digits.elim [] (nameSeparator :: ·)) + 1,
        if p.digits.isNone then s.nextIndex + 1 else s.nextIndex⟩ := by
  have hSize : delimiter.utf8Size = 1 := rfl
  have hPosition : s.position + byteLength p.source =
      s.position + 1 + byteLength (p.name ++ p.digits.elim [] (nameSeparator :: ·)) + 1 := by
    simp only [Placeholder.source, byteLength_append, byteLength_cons, byteLength_nil, hSize]
    omega
  rw [← hPosition]
  rfl

theorem indexed_ranges {name : Text} {digits? : Option Text}
    (hSource : s.source = before ++ delimiter :: (name ++
      (digits?.elim [] (nameSeparator :: ·) ++ delimiter :: after)))
    (hPosition : s.position = byteLength before) (hName : name ≠ [])
    (hMarker : cutAt errorMarker name = none) :
    s.ranges.indexed s.position (s.position + 1 + byteLength name)
        (s.position + 1 + byteLength (name ++ digits?.elim [] (nameSeparator :: ·))) =
      some (s.opened (Placeholder.readParts s.position s.nextIndex after name digits?)) := by
  unfold RangeScanner.indexed Placeholder.readParts
  rw [if_neg hName, hMarker]
  cases digits? with
  | none =>
    rw [Option.elim_none, List.append_nil, if_pos rfl]
    simp only [opened, ranges_afterPlaceholder, Option.elim_none, List.append_nil]
    rfl
  | some digits =>
    have hSize : nameSeparator.utf8Size = 1 := rfl
    have hStop : s.position + 1 + byteLength (name ++ nameSeparator :: digits) =
        s.position + 1 + byteLength name + 1 + byteLength digits := by
      rw [byteLength_append, byteLength_cons]
      omega
    have hStart := byteLength_behind_name name hSize hPosition
    have hIndex := s.ranges.explicitIndex_eq (before ++ delimiter :: (name ++ [nameSeparator]))
      digits (delimiter :: after) (by simp [ranges, hSource]) hStart hStop
    have hApart : ¬ s.position + 1 + byteLength name =
        s.position + 1 + byteLength (name ++ nameSeparator :: digits) := by omega
    rw [Option.elim_some, if_neg hApart, hIndex, Option.bind_eq_bind, Option.bind_some]
    dsimp only
    cases hRead : readIndex digits with
    | ok index =>
      simp only [opened, ranges_afterPlaceholder, Option.elim_some]
      rfl
    | error e => rfl

theorem closed_ranges {body : Text}
    (hSource : s.source = before ++ delimiter :: (body ++ delimiter :: after))
    (hPosition : s.position = byteLength before) :
    s.ranges.closed s.position (s.position + 1 + byteLength body) =
      some (s.opened (Placeholder.readParts s.position s.nextIndex after (nameAndDigits body).1
        (nameAndDigits body).2)) := by
  have hBody := nameAndDigits_eq body
  have hBytes : bytesBetween? (utf8 s.ranges.source) (s.position + 1)
      (s.position + 1 + byteLength body) = some (utf8 body) := by
    refine bytesBetween?_utf8 (before ++ [delimiter]) body (delimiter :: after)
      (by simp [ranges, hSource]) ?_ rfl
    rw [byteLength_append, hPosition]
    rfl
  have hStop : (findByte nameSeparator (utf8 body)).elim (s.position + 1 + byteLength body)
      (s.position + 1 + ·) = s.position + 1 + byteLength (nameAndDigits body).1 := by
    rw [findByte_utf8 rfl, nameAndDigits]
    cases cutAt nameSeparator body <;> rfl
  unfold RangeScanner.closed
  simp only [hBytes, Option.bind_eq_bind, Option.bind_some, hStop]
  generalize nameAndDigits body = parts at hBody ⊢
  obtain ⟨name, digits?⟩ := parts
  subst hBody
  dsimp only
  have hText : s.source = before ++ delimiter :: (name ++
      (digits?.elim [] (nameSeparator :: ·) ++ delimiter :: after)) := by
    rw [hSource, List.append_assoc]
  by_cases hName : name = []
  · have hStart : s.position + 1 + byteLength name = s.position + 1 := by
      rw [hName]
      rfl
    rw [if_pos hStart, hName]
    rfl
  · have hNonempty : byteLength name ≠ 0 := mt byteLength_eq_zero_iff.mp hName
    have hNameBytes : bytesBetween? (utf8 s.ranges.source) (s.position + 1)
        (s.position + 1 + byteLength name) = some (utf8 name) := by
      refine bytesBetween?_utf8 (before ++ [delimiter]) name
        (digits?.elim [] (nameSeparator :: ·) ++ delimiter :: after)
        (by simp [ranges, hText]) ?_ rfl
      rw [byteLength_append, hPosition]
      rfl
    rw [if_neg (by omega), hNameBytes, Option.bind_some, findByte_utf8 rfl]
    cases hMarker : cutAt errorMarker name with
    | none => exact indexed_ranges hText hPosition hName hMarker
    | some cut =>
      unfold Placeholder.readParts
      rw [if_neg hName, hMarker]
      rfl

theorem placeholder_ranges {rest : Text} (hSource : s.source = before ++ delimiter :: rest)
    (hPosition : s.position = byteLength before) :
    s.ranges.placeholder s.position =
      some (s.opened (Placeholder.read s.position s.nextIndex rest)) := by
  have hRest : bytesFrom? (utf8 s.ranges.source) (s.position + 1) = some (utf8 rest) := by
    refine bytesFrom?_utf8 (before ++ [delimiter]) rest (by simp [ranges, hSource]) ?_
    rw [byteLength_append, hPosition]
    rfl
  unfold RangeScanner.placeholder
  rw [hRest, Option.bind_eq_bind, Option.bind_some, findByte_utf8 rfl]
  cases hCut : cutAt delimiter rest with
  | none =>
    rw [Placeholder.read, hCut]
    rfl
  | some cut =>
    obtain ⟨body, after⟩ := cut
    rw [Placeholder.read_of_cutAt _ _ hCut]
    obtain ⟨rfl, -⟩ := cutAt_eq_some hCut
    exact closed_ranges hSource hPosition

/-- The position is where the rest starts in the source. -/
def Placed (s : Scanner) : Prop :=
  ∃ before, s.source = before ++ s.rest ∧ s.position = byteLength before

theorem placed_start (source : Text) : (start source).Placed := ⟨[], rfl, rfl⟩

theorem Placed.past (h : s.Placed) {parts : List Part} {rest : Text}
    (hRest : s.rest = sourceOf parts ++ rest) : (s.past parts rest).Placed := by
  obtain ⟨before, hSource, hPosition⟩ := h
  refine ⟨before ++ sourceOf parts, ?_, ?_⟩
  · rw [List.append_assoc]
    exact hSource.trans (by rw [hRest]; rfl)
  · rw [byteLength_append, ← hPosition]
    rfl

theorem Placed.next (h : s.Placed) {part : Part} {s' : Scanner}
    (hNext : s.next? = some (.ok part, s')) :
    part.StandsAt s.source s.position ∧ s' = s.past [part] s'.rest ∧ s'.Placed := by
  obtain ⟨before, hSource, hPosition⟩ := id h
  have hStep := s.next_next?
  rw [hNext] at hStep
  cases hStep with
  | @literal v rest hv hRest hEnd =>
    refine ⟨⟨⟨before, rest, by rw [hSource, hRest]; rfl, hPosition⟩, ?_⟩, rfl,
      h.past (by simp [hRest, Part.source])⟩
    rintro p ⟨⟩
  | @placeholder p rest hFits hRest =>
    refine ⟨⟨⟨before, rest, by rw [hSource, hRest]; rfl, hPosition⟩, ?_⟩, rfl,
      h.past (by simp [hRest, Part.source])⟩
    rintro p ⟨⟩
    exact hFits.start_eq

/-- A step of the scanner, by offsets. -/
theorem Placed.next_ranges (h : s.Placed) :
    s.ranges.next = some (s.next?.map fun step =>
      (step.1.map (·.range s.position), step.2.ranges)) := by
  obtain ⟨before, hSource, hPosition⟩ := h
  have hLength : byteLength s.source = s.position + byteLength s.rest := by
    rw [hSource, byteLength_append, hPosition]
  unfold RangeScanner.next Scanner.next?
  by_cases hRest : s.rest = []
  · rw [if_pos hRest, if_pos (by rw [hRest] at hLength; exact Nat.le_of_eq hLength)]
    rfl
  · have hMore : byteLength s.rest ≠ 0 := mt byteLength_eq_zero_iff.mp hRest
    have hSingle : singleFrom (utf8 s.ranges.source) s.ranges.finger =
        some ((cutSingle delimiter s.rest).map fun cut => s.position + byteLength cut.1) :=
      singleFrom_eq before s.rest hSource hPosition
    have hBefore : ¬ byteLength s.ranges.source ≤ s.ranges.finger := by
      change ¬ byteLength s.source ≤ s.position
      omega
    rw [if_neg hRest, if_neg hBefore, hSingle, Option.bind_eq_bind, Option.bind_some]
    cases hCut : cutSingle delimiter s.rest with
    | none =>
      simp only [Option.map_none, Option.map_some, Scanner.ranges, Scanner.afterLiteral, hLength]
      rfl
    | some cut =>
      obtain ⟨front, rest⟩ := cut
      have hText := cutSingle_eq_some hCut
      cases front with
      | nil =>
        have hRead : s.ranges.placeholder s.position =
            some (s.opened (Placeholder.read s.position s.nextIndex rest)) :=
          placeholder_ranges (by rw [hSource, hText]; rfl) hPosition
        have hHere : ¬ s.ranges.finger < s.position + byteLength [] := Nat.lt_irrefl _
        simp only [Option.map_some, if_neg hHere]
        change (s.ranges.placeholder s.position).bind _ = _
        rw [hRead, Option.bind_some]
        cases Placeholder.read s.position s.nextIndex rest <;> rfl
      | cons c literal =>
        have hHere : s.ranges.finger < s.position + byteLength (c :: literal) := by
          have hSize := c.utf8Size_pos
          rw [byteLength_cons]
          change s.position < _
          omega
        simp only [Option.map_some, if_pos hHere]
        rfl

end Scanner

/-! ## Whole templates -/

/-- The offsets of parts that follow each other. -/
def rangesFrom (start : Nat) : List Part → List PartRange
  | [] => []
  | part :: rest => part.range start :: rangesFrom (start + byteLength part.source) rest

theorem Scanner.Placed.left_ranges {s : Scanner} (h : s.Placed) :
    s.ranges.left = byteLength s.rest := by
  obtain ⟨before, hSource, hPosition⟩ := h
  change byteLength s.source - s.position = _
  rw [hSource, hPosition, byteLength_append, Nat.add_sub_cancel_left]

theorem Scanner.Placed.left_ranges_lt {s s' : Scanner} {part : Part} (h : s.Placed)
    (hNext : s.next? = some (.ok part, s')) : s'.ranges.left < s.ranges.left := by
  rw [h.left_ranges, (h.next hNext).2.2.left_ranges]
  have hStep := s.next_next?
  rw [hNext] at hStep
  cases hStep with
  | literal hv hRest hEnd =>
    have hNonempty := mt byteLength_eq_zero_iff.mp (escape_ne_nil_iff.mpr hv)
    rw [hRest, byteLength_append]
    exact Nat.lt_add_of_pos_left (Nat.pos_of_ne_zero hNonempty)
  | @placeholder p rest hFits hRest =>
    rw [hRest, byteLength_append]
    exact Nat.lt_add_of_pos_left p.byteLength_source_pos

/-- The result that the parts taken by a scanner lead to. -/
def RangeScanner.LeadsTo (x : RangeScanner × List PartRange)
    (result : List PartRange × Option SyntaxError) : Prop :=
  ∃ s : Scanner, s.Placed ∧ x.1 = s.ranges ∧
    result = (x.2 ++ rangesFrom s.position s.run.1, s.run.2)

theorem RangeScanner.collectRound_leads {x : RangeScanner × List PartRange}
    {result : List PartRange × Option SyntaxError} (h : LeadsTo x result) :
    x.1.collectRound x.2 = some (.ended result) ∨
      ∃ next, x.1.collectRound x.2 = some (.goesOn next) ∧ next.1.left < x.1.left ∧
        LeadsTo next result := by
  obtain ⟨scanner, parts⟩ := x
  obtain ⟨s, hPlaced, rfl, rfl⟩ := h
  unfold collectRound
  rw [hPlaced.next_ranges, Scanner.run_eq]
  cases hNext : s.next? with
  | none =>
    left
    simp [rangesFrom]
  | some step =>
    obtain ⟨outcome, s'⟩ := step
    cases outcome with
    | error error =>
      left
      simp [rangesFrom]
      rfl
    | ok part =>
      right
      obtain ⟨-, hPast, hNextPlaced⟩ := hPlaced.next hNext
      have hPosition : s'.position = s.position + byteLength part.source := by
        rw [hPast]
        simp [Scanner.past]
      refine ⟨(s'.ranges, parts ++ [part.range s.position]), rfl, hPlaced.left_ranges_lt hNext,
        s', hNextPlaced, rfl, ?_⟩
      simp [rangesFrom, hPosition]

theorem Scanner.Placed.run_ranges {s : Scanner} (h : s.Placed) :
    s.ranges.run = some (rangesFrom s.position s.run.1, s.run.2) :=
  rounds_eq (fun _ _ => RangeScanner.collectRound_leads) ⟨s, h, rfl, rfl⟩

def scanRanges (source : Text) : Option (List PartRange × Option SyntaxError) :=
  (RangeScanner.mk source 0 0).run

theorem scanRanges_eq (source : Text) :
    scanRanges source = some (rangesFrom 0 (scan source).1, (scan source).2) :=
  (Scanner.placed_start source).run_ranges

/-- The names of the placeholders, cut out of the source. -/
def namesAt (source : Text) : List PartRange → Option (List Text)
  | [] => some []
  | .literal .. :: rest => namesAt source rest
  | .placeholder p :: rest => do return (← p.name? source) :: (← namesAt source rest)

theorem namesAt_rangesFrom {source : Text} (before : Text) {automatic : Nat} {parts : List Part}
    (hTiled : Tiled (byteLength before) automatic parts)
    (hSource : source = before ++ sourceOf parts) :
    namesAt source (rangesFrom (byteLength before) parts) =
      some ((placeholdersOf parts).map Placeholder.name) := by
  induction parts generalizing before automatic with
  | nil => rfl
  | cons part rest ih =>
    have hStands := hTiled.standsAt hSource
    have hTail := hTiled.tail
    rw [← byteLength_append] at hTail
    have hNames := ih (before ++ part.source) hTail (by simp [hSource])
    rw [byteLength_append] at hNames
    cases part with
    | literal t => exact hNames
    | placeholder p =>
      rw [rangesFrom, Part.range, namesAt, hStands.name?_range, hNames]
      rfl

theorem namesAt_eq (t : Template) : namesAt t.source (rangesFrom 0 t.parts) = some t.names := by
  obtain ⟨hTiled, hSource⟩ := scan_eq_ok_iff.mp t.scan_source
  rw [t.names_eq]
  exact namesAt_rangesFrom [] hTiled hSource

end LogMarkup
