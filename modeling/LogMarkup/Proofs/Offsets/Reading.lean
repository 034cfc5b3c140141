import LogMarkup.Proofs.Message.Reading
import LogMarkup.Proofs.Offsets.Escaping

/-!
# Reading by offsets

A message is read by searching its bytes for delimiters, separators and error markers. Names,
values and the text between arguments are cut out of the message, and so are the last characters
before an offset where an error does not end as it should.

* `argumentFrom`, `argumentFrom_eq`: the argument that opens at an offset.
* `copyBetween`: the text between two offsets is only cut out when there is a template to append
  it to.
* `readRest`: what the reader for texts does with the rest of a message.
* `Round.Reads`, `readRound_reads`: a round up to the next delimiter and behind what stands there.
* `readSliced_eq`: a whole message.
-/

namespace LogMarkup

variable {σ ε : Type}

/-! ## Names -/

def endsNameByte (b : UInt8) : Bool :=
  b = byteOf nameSeparator || b = byteOf errorMarker || b = byteOf delimiter

theorem finds_endsNameByte : Finds endsNameByte endsName :=
  ((finds_byteOf rfl).or (finds_byteOf rfl)).or (finds_byteOf rfl)

/-- The place where the name that starts at an offset ends, unless it ends with a delimiter or
not at all. -/
def nameStop (bytes : List UInt8) (start : Nat) : Option (Option Nat) := do
  match (← bytesFrom? bytes start).findIdx? endsNameByte with
  | none => return none
  | some x => return if (← bytes[start + x]?) = byteOf delimiter then none else some (start + x)

theorem nameStop_eq {message : Text} {start : Nat} (before : Text) {name t : Text}
    (hName : ∀ c ∈ name, endsName c = false) (hEnd : ∀ c ∈ t.head?, endsName c = true)
    (hMessage : message = before ++ (name ++ t)) (hStart : start = byteLength before) :
    nameStop (utf8 message) start = some (t.head?.bind fun c =>
      if c = delimiter then none else some (start + byteLength name)) := by
  unfold nameStop
  rw [bytesFrom?_utf8 before (name ++ t) hMessage hStart, Option.bind_eq_bind, Option.bind_some]
  cases t with
  | nil =>
    rw [List.append_nil, findIdx?_utf8_eq_none finds_endsNameByte hName]
    rfl
  | cons c after =>
    have hc : endsName c = true := hEnd c rfl
    have hSize : c.utf8Size = 1 := (finds_endsNameByte.found c hc).1
    have hByte : (utf8 message)[start + byteLength name]? = some (byteOf c) := by
      have hBehind := getElem?_utf8_cons (before ++ name) after hSize
      rw [byteLength_append, List.append_assoc, ← hStart, ← hMessage] at hBehind
      exact hBehind
    rw [findIdx?_utf8_append finds_endsNameByte hName hc]
    have hDelimiter : byteOf c = byteOf delimiter ↔ c = delimiter := byteOf_inj hSize rfl
    simp only [hByte, Option.bind_some, Option.bind_eq_bind, hDelimiter, List.head?_cons]
    rfl

/-- The text up to the next delimiter, where a name does not end. -/
def unterminatedName (message : Text) (start : Nat) : Option Text := do
  let place? := findByte delimiter (← bytesFrom? (utf8 message) start)
  slice? message start (place?.elim (byteLength message) (start + ·))

theorem unterminatedName_eq {message : Text} {start : Nat} (before : Text) {name t : Text}
    (hName : delimiter ∉ name) (hEnd : t = [] ∨ ∃ after, t = delimiter :: after)
    (hMessage : message = before ++ (name ++ t)) (hStart : start = byteLength before) :
    unterminatedName message start = some name := by
  unfold unterminatedName
  rw [bytesFrom?_utf8 before (name ++ t) hMessage hStart, Option.bind_eq_bind, Option.bind_some,
    findByte_utf8 rfl]
  refine slice?_eq_some before name t hMessage hStart ?_
  rcases hEnd with rfl | ⟨after, rfl⟩
  · rw [List.append_nil, cutAt_eq_none_iff.mpr hName, hMessage, hStart]
    simp
  · rw [cutAt_append hName]
    rfl

/-! ## Values and errors -/

/-- The place where an error starts, behind the error marker and an opening parenthesis. -/
def errorStart (message name : Text) (marker : Nat) : Option (Except Defect Nat) := do
  match (← slice? message (marker + 1) (byteLength message)).head? with
  | none => return .error ⟨marker, .missingErrorMarker name⟩
  | some c =>
    return if c = '(' then .ok (marker + 1 + 1)
      else .error ⟨marker + 1, .invalidErrorStart name c⟩

/-- The character that ends a name is the byte behind it. -/
theorem byte_behind_name {message : Text} {opening : Nat} (before name rest : Text) {c : Char}
    (hc : c.utf8Size = 1) (hMessage : message = before ++ delimiter :: (name ++ c :: rest))
    (hOpening : opening = byteLength before) :
    (utf8 message)[opening + 1 + byteLength name]? = some (byteOf c) := by
  have hBehind := getElem?_utf8_cons (before ++ delimiter :: name) rest hc
  have hSize : delimiter.utf8Size = 1 := rfl
  rw [byteLength_append, byteLength_cons, hSize, ← hOpening, ← Nat.add_assoc, List.append_assoc]
    at hBehind
  rw [hMessage]
  exact hBehind

theorem errorStart_eq {message : Text} {opening : Nat} (before name rest : Text)
    (hMessage : message = before ++ delimiter :: (name ++ errorMarker :: rest))
    (hOpening : opening = byteLength before) :
    errorStart message name (opening + 1 + byteLength name) = some (match rest.head? with
      | none => .error ⟨opening + 1 + byteLength name, .missingErrorMarker name⟩
      | some c =>
        if c = '(' then .ok (opening + 1 + byteLength name + 1 + 1)
        else .error ⟨opening + 1 + byteLength name + 1, .invalidErrorStart name c⟩) := by
  have hText : message = (before ++ delimiter :: (name ++ [errorMarker])) ++ rest := by
    simp [hMessage]
  have hStart : opening + 1 + byteLength name + 1 =
      byteLength (before ++ delimiter :: (name ++ [errorMarker])) :=
    byteLength_behind_name name rfl hOpening
  have hSlice : slice? message (opening + 1 + byteLength name + 1) (byteLength message) =
      some rest := by
    refine slice?_eq_some _ rest [] (by rw [List.append_nil]; exact hText) hStart ?_
    rw [hStart, ← byteLength_append, ← hText]
  unfold errorStart
  rw [hSlice, Option.bind_eq_bind, Option.bind_some]
  cases rest <;> rfl

/-- The value or error between two offsets, without the closing parenthesis of an error. -/
def writtenBetween (message name : Text) (isError : Bool) (opening start stop : Nat) :
    Option (Except Defect Text) := do
  let written ← slice? message start stop
  if isError then
    if written.getLast? = some ')' then return .ok written.dropLast
    else
      let before ← slice? message 0 stop
      match before.getLast? with
      | none => return .error ⟨opening, .invalidErrorEnd name delimiter⟩
      | some last => return .error ⟨byteLength before.dropLast, .invalidErrorEnd name last⟩
  else return .ok written

theorem writtenBetween_value {message : Text} {start stop : Nat} (before written after : Text)
    (hMessage : message = before ++ (written ++ after)) (hStart : start = byteLength before)
    (hStop : stop = start + byteLength written) (name : Text) (opening : Nat) :
    writtenBetween message name false opening start stop = some (.ok written) := by
  rw [writtenBetween, slice?_eq_some before written after hMessage hStart hStop]
  rfl

/-- What is wrong with the end of an error is found at the character that is the last one in front
of the end, which is the opening parenthesis if there is no other. -/
theorem writtenBetween_error {message : Text} {start stop : Nat} (before inner after : Text)
    (hMessage : message = before ++ '(' :: (inner ++ after))
    (hStart : start = byteLength before + 1) (hStop : stop = start + byteLength inner)
    (name : Text) (opening : Nat) :
    writtenBetween message name true opening start stop = some (match inner.getLast? with
      | none => .error ⟨byteLength before, .invalidErrorEnd name '('⟩
      | some last =>
        if last = ')' then .ok inner.dropLast
        else .error ⟨start + byteLength inner.dropLast, .invalidErrorEnd name last⟩) := by
  have hOpened : byteLength (before ++ ['(']) = start := by
    rw [byteLength_append, hStart]
    rfl
  have hInner : slice? message start stop = some inner :=
    slice?_eq_some (before ++ ['(']) inner after (by simp [hMessage]) hOpened.symm hStop
  have hFront : slice? message 0 stop = some (before ++ ['('] ++ inner) := by
    refine slice?_eq_some [] (before ++ ['('] ++ inner) after (by simp [hMessage]) rfl ?_
    rw [byteLength_append, hOpened, Nat.zero_add, hStop]
  unfold writtenBetween
  rw [hInner, hFront]
  rcases inner.eq_nil_or_concat' with rfl | ⟨more, last, rfl⟩
  · simp
  · have hFrontLast : (before ++ ['('] ++ (more ++ [last])).getLast? = some last := by
      rw [← List.append_assoc, List.getLast?_concat]
    have hFrontMore : (before ++ ['('] ++ (more ++ [last])).dropLast = before ++ ['('] ++ more := by
      rw [← List.append_assoc, List.dropLast_concat]
    have hPosition : byteLength (before ++ ['('] ++ more) = start + byteLength more := by
      rw [byteLength_append, hOpened]
    simp only [Option.bind_eq_bind, Option.bind_some, if_true, List.getLast?_concat,
      List.dropLast_concat, hFrontLast, hFrontMore, hPosition, Option.some_inj]
    by_cases hLast : last = ')'
    · rw [if_pos hLast, if_pos hLast]
      rfl
    · rw [if_neg hLast, if_neg hLast]
      rfl

/-- The argument with a given name whose value or error starts at an offset, and the place behind
it. -/
def argumentWritten (message name : Text) (isError : Bool) (opening start : Nat) :
    Option (Except Defect (Argument × Nat)) := do
  match ← singleFrom (utf8 message) start with
  | none => return .error ⟨opening, .unterminatedArgument name⟩
  | some stop =>
    return (← writtenBetween message name isError opening start stop).map fun written =>
      (⟨name, written, isError⟩, stop + 1)

/-- The place behind an argument that opens at an offset. -/
def behind (opening : Nat) : Argument × Text → Argument × Nat
  | (a, _) => (a, opening + byteLength a.source)

theorem behind_eq (opening : Nat) (name written after : Text) (isError : Bool) :
    behind opening (⟨name, written, isError⟩, after) =
      (⟨name, written, isError⟩,
        opening + 1 + byteLength name + 1 + byteLength written +
          if isError then 3 else 1) := by
  have hDelimiter : delimiter.utf8Size = 1 := rfl
  have hSeparator : nameSeparator.utf8Size = 1 := rfl
  have hMarker : errorMarker.utf8Size = 1 := rfl
  have hOpening : '('.utf8Size = 1 := rfl
  have hClosing : ')'.utf8Size = 1 := rfl
  refine Prod.ext rfl ?_
  cases isError <;>
    simp only [behind, Argument.source, if_true, Bool.false_eq_true, if_false, byteLength_append,
      byteLength_cons, byteLength_nil, hDelimiter, hSeparator, hMarker, hOpening, hClosing] <;>
    omega

theorem argumentWritten_value {message : Text} {opening : Nat} (before name rest : Text)
    (hMessage : message = before ++ delimiter :: (name ++ nameSeparator :: rest))
    (hOpening : opening = byteLength before) :
    argumentWritten message name false opening (opening + 1 + byteLength name + 1) =
      some ((Argument.readValue opening name rest).map (behind opening)) := by
  have hText : message = (before ++ delimiter :: (name ++ [nameSeparator])) ++ rest := by
    simp [hMessage]
  have hStart : opening + 1 + byteLength name + 1 =
      byteLength (before ++ delimiter :: (name ++ [nameSeparator])) :=
    byteLength_behind_name name rfl hOpening
  unfold argumentWritten Argument.readValue
  rw [singleFrom_eq _ rest hText hStart, Option.bind_eq_bind, Option.bind_some]
  cases hCut : cutSingle delimiter rest with
  | none => rfl
  | some cut =>
    obtain ⟨written, after⟩ := cut
    have hRest := cutSingle_eq_some hCut
    simp only [Option.map_some]
    rw [writtenBetween_value _ written (delimiter :: after) (by rw [hText, hRest]) hStart rfl]
    refine congrArg (fun found => some (Except.ok found)) ?_
    rw [behind_eq]
    rfl

theorem argumentWritten_error {message : Text} {opening : Nat} (before name body : Text)
    (hMessage : message = before ++ delimiter :: (name ++ errorMarker :: '(' :: body))
    (hOpening : opening = byteLength before) :
    argumentWritten message name true opening (opening + 1 + byteLength name + 1 + 1) =
      some ((Argument.readError opening (opening + 1 + byteLength name) name ('(' :: body)).map
        (behind opening)) := by
  have hOpened : byteLength (before ++ delimiter :: (name ++ [errorMarker])) =
      opening + 1 + byteLength name + 1 :=
    (byteLength_behind_name name rfl hOpening).symm
  have hStart : opening + 1 + byteLength name + 1 + 1 =
      byteLength (before ++ delimiter :: (name ++ [errorMarker, '('])) := by
    have hFront : before ++ delimiter :: (name ++ [errorMarker, '(']) =
        before ++ delimiter :: (name ++ [errorMarker]) ++ ['('] := by simp
    rw [hFront, byteLength_append, hOpened]
    rfl
  unfold argumentWritten Argument.readError
  rw [singleFrom_eq (before ++ delimiter :: (name ++ [errorMarker, '('])) body
    (by simp [hMessage]) hStart, Option.bind_eq_bind, Option.bind_some]
  dsimp only
  rw [if_pos rfl]
  cases hCut : cutSingle delimiter body with
  | none => rfl
  | some cut =>
    obtain ⟨inner, after⟩ := cut
    have hBody := cutSingle_eq_some hCut
    simp only [Option.map_some]
    rw [writtenBetween_error (before ++ delimiter :: (name ++ [errorMarker])) inner
      (delimiter :: after) (by simp [hMessage, hBody]) (by rw [hOpened]) rfl, hOpened]
    rcases inner.eq_nil_or_concat' with rfl | ⟨written, last, rfl⟩
    · rfl
    · simp only [List.getLast?_concat, List.dropLast_concat]
      by_cases hLast : last = ')'
      · have hLength : byteLength (written ++ [last]) = byteLength written + 1 := by
          rw [byteLength_append, hLast]
          rfl
        rw [if_pos hLast, if_pos hLast, hLength]
        refine congrArg (fun found => some (Except.ok found)) ?_
        rw [behind_eq, if_pos rfl]
        refine Prod.ext rfl ?_
        dsimp only
        omega
      · rw [if_neg hLast, if_neg hLast]
        rfl

/-- The argument with a name that ends at an offset, and the place behind it. -/
def argumentNamed (message name : Text) (opening stop : Nat) :
    Option (Except Defect (Argument × Nat)) := do
  if (← (utf8 message)[stop]?) = byteOf errorMarker then
    match ← errorStart message name stop with
    | .error defect => return .error defect
    | .ok start => argumentWritten message name true opening start
  else argumentWritten message name false opening (stop + 1)

/-- The argument that opens at an offset, and the place behind it. -/
def argumentFrom (message : Text) (opening : Nat) :
    Option (Except Defect (Argument × Nat)) := do
  match ← nameStop (utf8 message) (opening + 1) with
  | none => return .error ⟨opening, .unterminatedName (← unterminatedName message (opening + 1))⟩
  | some stop =>
    if stop = opening + 1 then return .error ⟨stop, .emptyName⟩
    else argumentNamed message (← slice? message (opening + 1) stop) opening stop

theorem argumentNamed_separator {message : Text} {opening : Nat} (before name rest : Text)
    (hMessage : message = before ++ delimiter :: (name ++ nameSeparator :: rest))
    (hOpening : opening = byteLength before) :
    argumentNamed message name opening (opening + 1 + byteLength name) =
      some ((Argument.readValue opening name rest).map (behind opening)) := by
  have hByte := byte_behind_name before name rest rfl hMessage hOpening
  have hOther : byteOf nameSeparator ≠ byteOf errorMarker := by decide
  rw [argumentNamed, hByte, Option.bind_eq_bind, Option.bind_some, if_neg hOther]
  exact argumentWritten_value before name rest hMessage hOpening

theorem argumentNamed_marker {message : Text} {opening : Nat} (before name rest : Text)
    (hMessage : message = before ++ delimiter :: (name ++ errorMarker :: rest))
    (hOpening : opening = byteLength before) :
    argumentNamed message name opening (opening + 1 + byteLength name) =
      some ((Argument.readError opening (opening + 1 + byteLength name) name rest).map
        (behind opening)) := by
  have hByte := byte_behind_name before name rest rfl hMessage hOpening
  rw [argumentNamed, hByte, Option.bind_eq_bind, Option.bind_some, if_pos rfl,
    errorStart_eq before name rest hMessage hOpening, Option.bind_eq_bind, Option.bind_some]
  cases rest with
  | nil => rfl
  | cons c body =>
    by_cases hc : c = '('
    · subst hc
      exact argumentWritten_error before name body hMessage hOpening
    · simp only [List.head?_cons, if_neg hc, Argument.readError]
      rfl

theorem argumentFrom_eq {message : Text} {opening : Nat} (before rest : Text)
    (hMessage : message = before ++ delimiter :: rest) (hOpening : opening = byteLength before) :
    argumentFrom message opening = some ((Argument.read opening rest).map (behind opening)) := by
  obtain ⟨name, t, rfl, hName, hEnd⟩ := exists_name_append rest
  have hText : message = (before ++ [delimiter]) ++ (name ++ t) := by simp [hMessage]
  have hStart : opening + 1 = byteLength (before ++ [delimiter]) := by
    rw [byteLength_append, hOpening]
    rfl
  have hDelimiter : delimiter ∉ name := fun hMem => by
    have hFalse := hName delimiter hMem
    cases hFalse
  rw [Argument.read_append hName hEnd]
  unfold argumentFrom
  rw [nameStop_eq _ hName hEnd hText hStart, Option.bind_eq_bind, Option.bind_some]
  cases t with
  | nil =>
    rw [List.head?_nil, unterminatedName_eq _ hDelimiter (.inl rfl) hText hStart]
    rfl
  | cons c after =>
    rw [List.head?_cons, Option.bind_some]
    by_cases hc : c = delimiter
    · rw [if_pos hc, unterminatedName_eq _ hDelimiter (.inr ⟨after, by rw [hc]⟩) hText hStart,
        Argument.readNamed, if_pos hc]
      rfl
    · rw [if_neg hc]
      by_cases hNil : name = []
      · have hHere : opening + 1 + byteLength name = opening + 1 := by
          rw [hNil]
          rfl
        rw [Argument.readNamed, if_neg hc, if_pos hNil, hHere]
        dsimp only
        rw [if_pos rfl]
        rfl
      · have hApart : opening + 1 + byteLength name ≠ opening + 1 := by
          have hNonempty : byteLength name ≠ 0 := mt byteLength_eq_zero_iff.mp hNil
          omega
        have hSlice : slice? message (opening + 1) (opening + 1 + byteLength name) = some name :=
          slice?_eq_some _ name (c :: after) hText hStart rfl
        dsimp only
        rw [if_neg hApart, hSlice, Option.bind_eq_bind, Option.bind_some]
        rcases endsName_eq_true_iff.mp (hEnd c rfl) with rfl | rfl | rfl
        · rw [Argument.readNamed_separator hNil]
          exact argumentNamed_separator before name after hMessage hOpening
        · rw [Argument.readNamed_marker hNil]
          exact argumentNamed_marker before name after hMessage hOpening
        · exact absurd rfl hc

/-! ## Whole messages -/

/-- Learns of every argument what its event tells. -/
def Receiver.hearing (hear : Event → σ → Except ε Unit × σ) : Receiver ε σ :=
  fun a s => hear a.event s

/-- Hands over an argument with its text unescaped. -/
def offerSliced (hear : Event → σ → Except ε Unit × σ) (opening : Nat) (a : Argument) (s : σ) :
    Option (Except (Refusal ε) Unit × σ) := do
  let text? ← unescapeSliced a.written
  let (answer, s) := hear ⟨a.name, text?.getD a.written, a.isError, text?.isSome⟩ s
  return (answer.mapError fun cause => ⟨opening, a.name, a.isError, cause⟩, s)

theorem offerSliced_eq (hear : Event → σ → Except ε Unit × σ) (opening : Nat) (a : Argument)
    (s : σ) :
    offerSliced hear opening a s = some ((Item.argument a).offer (.hearing hear) opening s) := by
  rw [offerSliced, unescapeSliced_eq, Option.bind_eq_bind, Option.bind_some, unescape?_getD]
  rfl

/-- Reads what is left of a message at an offset. -/
def readRest (receive : Receiver ε σ) (start : Nat) (rest : Text) (template : Option Text)
    (s : σ) : Read ε σ :=
  let (items, defect) := readItemsFrom start rest
  let (read, error, s) := deliver receive defect start items s
  { result := match error with
      | none => .ok ()
      | some error => .error error
    template := template.map (· ++ read)
    state := s }

theorem readRest_nil (receive : Receiver ε σ) (start : Nat) (template : Option Text) (s : σ) :
    readRest receive start [] template s = ⟨.ok (), template, s⟩ := by
  rw [readRest, readItemsFrom_nil]
  simp [deliver]

theorem readRest_of_error {start : Nat} {c : Char} {rest : Text} {defect : Defect}
    (h : Item.read start c rest = .error defect) (receive : Receiver ε σ)
    (template : Option Text) (s : σ) :
    readRest receive start (c :: rest) template s =
      ⟨.error (.defect defect), template, s⟩ := by
  rw [readRest, readItemsFrom_of_error h]
  simp [deliver]

theorem readRest_of_ok {start : Nat} {c : Char} {rest after : Text} {item : Item}
    (h : Item.read start c rest = .ok (item, after)) (receive : Receiver ε σ)
    (template : Option Text) (s : σ) :
    readRest receive start (c :: rest) template s = match item.offer receive start s with
      | (.error refusal, s) => ⟨.error (.refused refusal), template, s⟩
      | (.ok _, s) => readRest receive (start + byteLength item.source) after
          (template.map (· ++ item.template)) s := by
  rw [readRest, readItemsFrom_of_ok h]
  cases hOffer : item.offer receive start s with
  | mk answer s' =>
    cases answer with
    | ok => simp [deliver, hOffer, readRest, Function.comp_def]
    | error refusal => simp [deliver, hOffer]

theorem readRest_append (receive : Receiver ε σ) (start : Nat) {front : Text}
    (h : delimiter ∉ front) (rest : Text) (template : Option Text) (s : σ) :
    readRest receive start (front ++ rest) template s =
      readRest receive (start + byteLength front) rest (template.map (· ++ front)) s := by
  induction front generalizing start template with
  | nil => simp
  | cons c front ih =>
    rw [List.mem_cons, not_or] at h
    have hRead : Item.read start c (front ++ rest) = .ok (.plain c, front ++ rest) := by
      simp [Item.read, Ne.symm h.1]
    rw [List.cons_append, readRest_of_ok hRead]
    change readRest receive (start + byteLength [c]) (front ++ rest) (template.map (· ++ [c])) s = _
    rw [ih _ h.2, Option.map_map, byteLength_cons c front, byteLength_cons c [], byteLength_nil,
      Nat.add_zero, Nat.add_assoc]
    simp [Function.comp_def]

/-- Appends the text between two offsets to a template, if there is one. -/
def copyBetween (message : Text) (start stop : Nat) : Option Text → Option (Option Text)
  | none => some none
  | some template => do return some (template ++ (← slice? message start stop))

theorem copyBetween_eq {message : Text} {start stop : Nat} (before middle after : Text)
    (hMessage : message = before ++ (middle ++ after)) (hStart : start = byteLength before)
    (hStop : stop = start + byteLength middle) (template : Option Text) :
    copyBetween message start stop template = some (template.map (· ++ middle)) := by
  cases template with
  | none => rfl
  | some t =>
    rw [copyBetween, slice?_eq_some before middle after hMessage hStart hStop]
    rfl

/-- Reading under way. -/
structure Reading (σ : Type) where
  /-- The byte offset up to which the message was read. -/
  finger : Nat
  template : Option Text
  state : σ

/-- Reads on where a delimiter stands. -/
def readOpened (hear : Event → σ → Except ε Unit × σ) (message : Text) (opening : Nat)
    (template : Option Text) (s : σ) : Option (Round (Reading σ) (Read ε σ)) := do
  match (utf8 message)[opening + 1]? with
  | none => return .ended ⟨.error (.defect ⟨opening, .emptyArgument⟩), template, s⟩
  | some b =>
    if b = byteOf delimiter then
      return .goesOn
        ⟨opening + 1 + 1, template.map fun t => t ++ [delimiter] ++ [delimiter], s⟩
    else match ← argumentFrom message opening with
      | .error defect => return .ended ⟨.error (.defect defect), template, s⟩
      | .ok (a, stop) => match ← offerSliced hear opening a s with
        | (.error refusal, s) => return .ended ⟨.error (.refused refusal), template, s⟩
        | (.ok _, s) =>
          return .goesOn
            ⟨stop, template.map fun t => t ++ [delimiter] ++ a.name ++ [delimiter], s⟩

/-- Reads up to the next delimiter and what stands there. -/
def readRound (hear : Event → σ → Except ε Unit × σ) (message : Text) (finger : Nat)
    (template : Option Text) (s : σ) : Option (Round (Reading σ) (Read ε σ)) := do
  match findByte delimiter (← bytesFrom? (utf8 message) finger) with
  | none => return .ended ⟨.ok (), ← copyBetween message finger (byteLength message) template, s⟩
  | some x =>
    let template ← copyBetween message finger (finger + x) template
    readOpened hear message (finger + x) template s

/-- Reads a message, appending its template to the given text. -/
def readSliced (message : Text) (template : Option Text) (hear : Event → σ → Except ε Unit × σ)
    (s : σ) : Option (Read ε σ) :=
  rounds (byteLength message - ·.finger)
    (fun x => readRound hear message x.finger x.template x.state) ⟨0, template, s⟩

/-- What a round can do with the rest of a message at the byte offset `start`: there is no delimiter
in it, there is a defect at the first one, or there is an item, which may be refused. -/
inductive Round.Reads (receive : Receiver ε σ) (start : Nat) (template : Option Text) (s : σ) :
    Text → Round (Reading σ) (Read ε σ) → Prop where
  | finished {rest : Text} (hRest : delimiter ∉ rest) :
      Reads receive start template s rest (.ended ⟨.ok (), template.map (· ++ rest), s⟩)
  | defect {front after : Text} {defect : Defect} (hFront : delimiter ∉ front)
      (hRead : Item.read (start + byteLength front) delimiter after = .error defect) :
      Reads receive start template s (front ++ delimiter :: after)
        (.ended ⟨.error (.defect defect), template.map (· ++ front), s⟩)
  | refused {front after more : Text} {item : Item} {refusal : Refusal ε} {s' : σ}
      (hFront : delimiter ∉ front)
      (hRead : Item.read (start + byteLength front) delimiter after = .ok (item, more))
      (hOffer : item.offer receive (start + byteLength front) s = (.error refusal, s')) :
      Reads receive start template s (front ++ delimiter :: after)
        (.ended ⟨.error (.refused refusal), template.map (· ++ front), s'⟩)
  | taken {front after more : Text} {item : Item} {s' : σ} (hFront : delimiter ∉ front)
      (hRead : Item.read (start + byteLength front) delimiter after = .ok (item, more))
      (hOffer : item.offer receive (start + byteLength front) s = (.ok (), s')) :
      Reads receive start template s (front ++ delimiter :: after)
        (.goesOn ⟨start + byteLength front + byteLength item.source,
          (template.map (· ++ front)).map (· ++ item.template), s'⟩)

variable (hear : Event → σ → Except ε Unit × σ) {message before front : Text} {start : Nat}

theorem readOpened_argument {d : Char} {more : Text} (hFront : delimiter ∉ front)
    (hd : d ≠ delimiter) (hMessage : message = before ++ (front ++ delimiter :: d :: more))
    (hStart : start = byteLength before) {b : UInt8}
    (hByte : (utf8 message)[start + byteLength front + 1]? = some b) (hb : b ≠ byteOf delimiter)
    (template : Option Text) (s : σ) :
    ∃ round, readOpened hear message (start + byteLength front) (template.map (· ++ front)) s =
        some round ∧
      round.Reads (.hearing hear) start template s (front ++ delimiter :: d :: more) := by
  have hText : message = (before ++ front) ++ delimiter :: d :: more := by
    rw [hMessage, List.append_assoc]
  have hOpening : start + byteLength front = byteLength (before ++ front) := by
    rw [byteLength_append, hStart]
  unfold readOpened
  rw [hByte]
  dsimp only
  rw [if_neg hb, argumentFrom_eq (before ++ front) (d :: more) hText hOpening, Option.bind_eq_bind,
    Option.bind_some]
  have hItem : Item.read (start + byteLength front) delimiter (d :: more) =
      (Argument.read (start + byteLength front) (d :: more)).map
        fun (a, after) => (.argument a, after) := by
    simp [Item.read, hd]
  cases hArgument : Argument.read (start + byteLength front) (d :: more) with
  | error defect =>
    rw [hArgument] at hItem
    exact ⟨_, rfl, .defect hFront hItem⟩
  | ok found =>
    obtain ⟨a, rest⟩ := found
    rw [hArgument] at hItem
    simp only [Except.map, behind, offerSliced_eq]
    cases hOffer : (Item.argument a).offer (.hearing hear) (start + byteLength front) s with
    | mk answer s' =>
      cases answer with
      | error refusal => exact ⟨_, rfl, .refused hFront hItem hOffer⟩
      | ok =>
        have hPushed : (template.map (· ++ front)).map
              (fun t => t ++ [delimiter] ++ a.name ++ [delimiter]) =
            (template.map (· ++ front)).map (· ++ (Item.argument a).template) := by
          simp [Item.template, Argument.placeholder]
        refine ⟨_, rfl, ?_⟩
        rw [hPushed]
        exact .taken hFront hItem hOffer

theorem readOpened_reads {after : Text} (hFront : delimiter ∉ front)
    (hMessage : message = before ++ (front ++ delimiter :: after))
    (hStart : start = byteLength before) (template : Option Text) (s : σ) :
    ∃ round, readOpened hear message (start + byteLength front) (template.map (· ++ front)) s =
        some round ∧
      round.Reads (.hearing hear) start template s (front ++ delimiter :: after) := by
  have hByte : (utf8 message)[start + byteLength front + 1]? = (utf8 after).head? := by
    have hBehind := getElem?_utf8 (before ++ front ++ [delimiter]) after
    have hText : before ++ front ++ [delimiter] ++ after = message := by simp [hMessage]
    rwa [byteLength_append, byteLength_append, ← hStart, hText] at hBehind
  cases after with
  | nil =>
    have hItem : Item.read (start + byteLength front) delimiter [] =
        .error ⟨start + byteLength front, .emptyArgument⟩ := rfl
    unfold readOpened
    rw [hByte]
    exact ⟨_, rfl, .defect hFront hItem⟩
  | cons d more =>
    obtain ⟨b, bytes, hEncoded, hIff⟩ := exists_cons_of_utf8EncodeChar (d := delimiter) rfl d
    rw [utf8_cons, hEncoded, List.cons_append, List.head?_cons] at hByte
    by_cases hd : d = delimiter
    · have hItem : Item.read (start + byteLength front) delimiter (d :: more) =
          .ok (.doubled, more) := by
        simp [Item.read, hd]
      have hPushed : (template.map (· ++ front)).map (fun t => t ++ [delimiter] ++ [delimiter]) =
          (template.map (· ++ front)).map (· ++ Item.doubled.template) := by
        simp [Item.template]
      unfold readOpened
      rw [hByte]
      dsimp only
      rw [if_pos (hIff.mpr hd), hPushed]
      exact ⟨_, rfl, .taken hFront hItem rfl⟩
    · exact readOpened_argument hear hFront hd hMessage hStart hByte (mt hIff.mp hd) template s

theorem readRound_reads {rest : Text} (hMessage : message = before ++ rest)
    (hStart : start = byteLength before) (template : Option Text) (s : σ) :
    ∃ round, readRound hear message start template s = some round ∧
      round.Reads (.hearing hear) start template s rest := by
  unfold readRound
  rw [bytesFrom?_utf8 before rest hMessage hStart, Option.bind_eq_bind, Option.bind_some,
    findByte_utf8 rfl]
  cases hCut : cutAt delimiter rest with
  | none =>
    have hCopy : copyBetween message start (byteLength message) template =
        some (template.map (· ++ rest)) :=
      copyBetween_eq before rest [] (by simpa using hMessage) hStart
        (by rw [hMessage, byteLength_append, hStart]) template
    simp only [Option.map_none, hCopy]
    exact ⟨_, rfl, .finished (cutAt_eq_none_iff.mp hCut)⟩
  | some cut =>
    obtain ⟨front, after⟩ := cut
    obtain ⟨rfl, hFront⟩ := cutAt_eq_some hCut
    have hCopy : copyBetween message start (start + byteLength front) template =
        some (template.map (· ++ front)) :=
      copyBetween_eq before front (delimiter :: after) hMessage hStart rfl template
    simp only [Option.map_some, hCopy, Option.bind_eq_bind, Option.bind_some]
    exact readOpened_reads hear hFront hMessage hStart template s

/-! ## The reader for texts -/

variable {receive : Receiver ε σ} {template : Option Text} {s : σ} {rest : Text}

/-- A round that ends gives the result of reading the rest. -/
theorem Round.Reads.ended {read : Read ε σ}
    (h : (Round.ended read).Reads receive start template s rest) :
    read = readRest receive start rest template s := by
  cases h with
  | finished hRest =>
    have hPlain := readRest_append receive start hRest [] template s
    rw [List.append_nil, readRest_nil] at hPlain
    exact hPlain.symm
  | defect hFront hRead => rw [readRest_append receive start hFront, readRest_of_error hRead]
  | refused hFront hRead hOffer =>
    rw [readRest_append receive start hFront, readRest_of_ok hRead, hOffer]

/-- A round that goes on takes a front off the rest. -/
theorem Round.Reads.goesOn {next : Reading σ}
    (h : (Round.goesOn next).Reads receive start template s rest) :
    ∃ front more, front ≠ [] ∧ rest = front ++ more ∧ next.finger = start + byteLength front ∧
      readRest receive start rest template s =
        readRest receive next.finger more next.template next.state := by
  cases h with
  | @taken front after more item s' hFront hRead hOffer =>
    refine ⟨front ++ item.source, more, List.append_ne_nil_of_right_ne_nil front item.source_ne_nil,
      ?_, ?_, ?_⟩
    · rw [Item.source_of_read hRead, List.append_assoc]
    · rw [byteLength_append, Nat.add_assoc]
    · rw [readRest_append receive start hFront, readRest_of_ok hRead, hOffer]

/-- The result that reading under way leads to. -/
def Reading.LeadsTo (message : Text) (x : Reading σ) (result : Read ε σ) : Prop :=
  ∃ before rest, message = before ++ rest ∧ x.finger = byteLength before ∧
    result = readRest (.hearing hear) x.finger rest x.template x.state

theorem readRound_leads {x : Reading σ} {result : Read ε σ} (h : x.LeadsTo hear message result) :
    readRound hear message x.finger x.template x.state = some (.ended result) ∨
      ∃ next, readRound hear message x.finger x.template x.state = some (.goesOn next) ∧
        byteLength message - next.finger < byteLength message - x.finger ∧
        next.LeadsTo hear message result := by
  obtain ⟨before, rest, hMessage, hFinger, rfl⟩ := h
  obtain ⟨round, hRound, hReads⟩ := readRound_reads hear hMessage hFinger x.template x.state
  rw [hRound]
  cases round with
  | ended read => exact .inl (by rw [hReads.ended])
  | goesOn next =>
    obtain ⟨front, more, hNe, hRest, hNext, hSame⟩ := hReads.goesOn
    have hText : message = (before ++ front) ++ more := by
      rw [hMessage, hRest, List.append_assoc]
    have hPlace : next.finger = byteLength (before ++ front) := by
      rw [hNext, byteLength_append, hFinger]
    have hNonempty := mt byteLength_eq_zero_iff.mp hNe
    refine .inr ⟨next, rfl, ?_, before ++ front, more, hText, hPlace, hSame⟩
    rw [hText, byteLength_append, ← hPlace]
    omega

theorem readSliced_eq (message : Text) (template : Option Text) (s : σ) :
    readSliced message template hear s =
      some (readMessage message template (.hearing hear) s) := by
  have hStart : Reading.LeadsTo hear message ⟨0, template, s⟩
      (readMessage message template (.hearing hear) s) :=
    ⟨[], message, rfl, rfl, rfl⟩
  exact rounds_eq (fun _ _ => readRound_leads hear) hStart

end LogMarkup
