import LogMarkup.Proofs.Message.Reading

/-!
# The first flaw of a message

Reading fails at the opening delimiter of the first argument that has a flaw or is refused. The
text in front of that delimiter is a message by itself, and all that was heard and written so far
belongs to it.

* `Flaw`: what can be wrong with an argument, said by the shape of the text behind its opening
  delimiter. The shapes exclude each other.
* `Item.read_eq_error_iff`: an item cannot be read iff it opens an argument with a flaw.
* `Receiver.Takes`: a run of a receiver over items without a refusal.
* `readMessage_error_at_first_flaw`: where reading fails, with what diagnosis, and what it leaves
  behind.
-/

namespace LogMarkup

variable {σ ε : Type}

/-! ## Flaws -/

/-- What is wrong with an argument whose opening delimiter at the byte offset `p` is followed by
the text. -/
inductive Flaw (p : Nat) : Text → Defect → Prop where
  | emptyArgument : Flaw p [] ⟨p, .emptyArgument⟩
  /-- A name that ends at a delimiter or at the end of the message. -/
  | unterminatedName {name rest : Text} (hName : IsName name)
      (hRest : ∀ c ∈ rest.head?, c = delimiter) :
      Flaw p (name ++ rest) ⟨p, .unterminatedName name⟩
  | emptyName {c : Char} {rest : Text} (hc : c = nameSeparator ∨ c = errorMarker) :
      Flaw p (c :: rest) ⟨p + 1, .emptyName⟩
  | missingErrorMarker {name : Text} (hName : IsName name) :
      Flaw p (name ++ [errorMarker]) ⟨p + 1 + byteLength name, .missingErrorMarker name⟩
  | invalidErrorStart {name rest : Text} {c : Char} (hName : IsName name) (hc : c ≠ '(') :
      Flaw p (name ++ errorMarker :: c :: rest)
        ⟨p + 1 + byteLength name + 1, .invalidErrorStart name c⟩
  /-- All further delimiters are doubled. -/
  | unterminatedArgument {name opening v : Text} (hName : IsName name)
      (hOpening : opening = [nameSeparator] ∨ opening = [errorMarker, '(']) :
      Flaw p (name ++ opening ++ escape v) ⟨p, .unterminatedArgument name⟩
  /-- The character in front of the closing delimiter, which is the opening parenthesis if the
  error is empty. -/
  | invalidErrorEnd {name v before rest : Text} {last : Char} (hName : IsName name)
      (hError : '(' :: escape v = before ++ [last]) (hLast : last ≠ ')')
      (hRest : rest.head? ≠ some delimiter) :
      Flaw p (name ++ errorMarker :: '(' :: (escape v ++ delimiter :: rest))
        ⟨p + 1 + byteLength name + 1 + byteLength before, .invalidErrorEnd name last⟩

/-- An argument with a flaw is opened by a delimiter that is not doubled. -/
theorem Flaw.head?_ne {p : Nat} {rest : Text} {defect : Defect} (h : Flaw p rest defect) :
    rest.head? ≠ some delimiter := by
  cases h with
  | emptyArgument => simp
  | unterminatedName hName => exact hName.head?_append_ne rfl _
  | emptyName hc => rcases hc with rfl | rfl <;> simp [nameSeparator, errorMarker, delimiter]
  | missingErrorMarker hName => exact hName.head?_append_ne rfl _
  | invalidErrorStart hName => exact hName.head?_append_ne rfl _
  | unterminatedArgument hName =>
    rw [List.append_assoc]
    exact hName.head?_append_ne rfl _
  | invalidErrorEnd hName => exact hName.head?_append_ne rfl _

/-! ## Flaws are what reading reports -/

theorem Argument.readValue_eq_error_iff {start : Nat} {name rest : Text} {defect : Defect} :
    Argument.readValue start name rest = .error defect ↔
      (∃ v, rest = escape v) ∧ defect = ⟨start, .unterminatedArgument name⟩ := by
  rw [← cutSingle_eq_none_iff, Argument.readValue]
  constructor
  · intro h
    split at h
    · rename_i hCut
      cases h
      exact ⟨hCut, rfl⟩
    · cases h
  · rintro ⟨hCut, rfl⟩
    rw [hCut]

theorem Flaw.of_readError {p : Nat} {name rest : Text} {defect : Defect} (hName : IsName name)
    (h : Argument.readError p (p + 1 + byteLength name) name rest = .error defect) :
    Flaw p (name ++ errorMarker :: rest) defect := by
  unfold Argument.readError at h
  split at h
  · cases h
    exact .missingErrorMarker hName
  · rename_i c body
    split at h
    · rename_i hc
      subst c
      split at h
      · rename_i hCut
        cases h
        obtain ⟨v, rfl⟩ := cutSingle_eq_none_iff.mp hCut
        have hFlaw := Flaw.unterminatedArgument (p := p) (v := v) hName (.inr rfl)
        simpa using hFlaw
      · rename_i inner after hCut
        obtain ⟨rfl, ⟨v, rfl⟩, hAfter⟩ := cutSingle_eq_some_iff.mp hCut
        split at h
        · rename_i hLast
          cases h
          have hEmpty : escape v = [] := List.getLast?_eq_none_iff.mp hLast
          have hError : '(' :: escape v = [] ++ ['('] := by rw [hEmpty, List.nil_append]
          exact .invalidErrorEnd hName hError (by decide) hAfter
        · rename_i last hLast
          split at h
          · cases h
          · rename_i hParen
            cases h
            obtain ⟨before, hBefore⟩ := List.getLast?_eq_some_iff.mp hLast
            have hError : '(' :: escape v = '(' :: before ++ [last] := by
              rw [hBefore, List.cons_append]
            have hFlaw := Flaw.invalidErrorEnd (p := p) hName hError hParen hAfter
            have hOffset : p + 1 + byteLength name + 2 + byteLength (escape v).dropLast =
                p + 1 + byteLength name + 1 + byteLength ('(' :: before) := by
              have hSize : ('(' : Char).utf8Size = 1 := rfl
              rw [hBefore, List.dropLast_concat, byteLength_cons, hSize]
              omega
            rw [hOffset]
            exact hFlaw
    · rename_i hc
      cases h
      exact .invalidErrorStart hName hc

theorem Flaw.of_read {p : Nat} {rest : Text} {defect : Defect}
    (h : Item.read p delimiter rest = .error defect) : Flaw p rest defect := by
  unfold Item.read at h
  rw [if_pos rfl] at h
  split at h
  · cases h
    exact .emptyArgument
  · rename_i d tail
    split at h
    · cases h
    · rename_i hd
      obtain ⟨name, t, hRest, hName, hEnd⟩ := exists_name_append (d :: tail)
      have hRead : Argument.readNamed p name t = .error defect := by
        rw [hRest, Argument.read_append hName hEnd] at h
        cases hNamed : Argument.readNamed p name t with
        | error found => simpa [hNamed, Except.map] using h
        | ok result => simp [hNamed, Except.map] at h
      rw [hRest]
      cases t with
      | nil =>
        cases hRead
        have hNe : name ≠ [] := by rintro rfl; simp at hRest
        exact .unterminatedName ⟨hNe, hName⟩ (by simp)
      | cons c t =>
        have hc := endsName_eq_true_iff.mp (hEnd c rfl)
        by_cases hNe : name = []
        · subst hNe
          obtain ⟨rfl, rfl⟩ : d = c ∧ tail = t := by simpa using hRest
          have hSep : d = nameSeparator ∨ d = errorMarker := by
            rcases hc with hc | hc | hc
            · exact .inl hc
            · exact .inr hc
            · exact absurd hc hd
          simp only [Argument.readNamed, if_neg hd, if_true, Except.error.injEq] at hRead
          rw [← hRead]
          exact .emptyName hSep
        · rcases hc with rfl | rfl | rfl
          · rw [Argument.readNamed_separator hNe] at hRead
            obtain ⟨⟨v, rfl⟩, rfl⟩ := Argument.readValue_eq_error_iff.mp hRead
            have hFlaw := Flaw.unterminatedArgument (p := p) (v := v) ⟨hNe, hName⟩ (.inl rfl)
            simpa using hFlaw
          · rw [Argument.readNamed_marker hNe] at hRead
            exact .of_readError ⟨hNe, hName⟩ hRead
          · simp only [Argument.readNamed, if_true, Except.error.injEq] at hRead
            rw [← hRead]
            exact .unterminatedName ⟨hNe, hName⟩ (by simp)

theorem Item.read_name {start : Nat} {name t : Text} (hName : IsName name)
    (hEnd : ∀ c ∈ t.head?, endsName c = true) :
    Item.read start delimiter (name ++ t) =
      (Argument.readNamed start name t).map fun (a, after) => (.argument a, after) := by
  rw [← Argument.read_append hName.endsName_eq_false hEnd]
  have hHead := hName.head?_append_ne (d := delimiter) rfl t
  cases hRest : name ++ t with
  | nil => exact absurd (List.append_eq_nil_iff.mp hRest).1 hName.ne_nil
  | cons d tail =>
    have hd : d ≠ delimiter := by simpa [hRest] using hHead
    simp [Item.read, hd]

theorem Item.read_separator {start : Nat} {name : Text} (hName : IsName name) (t : Text) :
    Item.read start delimiter (name ++ nameSeparator :: t) =
      (Argument.readValue start name t).map fun (a, after) => (.argument a, after) := by
  rw [Item.read_name hName (by simp [endsName]), Argument.readNamed_separator hName.ne_nil]

theorem Item.read_marker {start : Nat} {name : Text} (hName : IsName name) (t : Text) :
    Item.read start delimiter (name ++ errorMarker :: t) =
      (Argument.readError start (start + 1 + byteLength name) name t).map
        fun (a, after) => (.argument a, after) := by
  rw [Item.read_name hName (by simp [endsName]), Argument.readNamed_marker hName.ne_nil]

theorem Flaw.read {p : Nat} {rest : Text} {defect : Defect} (h : Flaw p rest defect) :
    Item.read p delimiter rest = .error defect := by
  cases h with
  | emptyArgument => rfl
  | @unterminatedName name rest hName hRest =>
    cases rest with
    | nil =>
      rw [Item.read_name hName (by simp)]
      rfl
    | cons c tail =>
      obtain rfl : c = delimiter := hRest c rfl
      rw [Item.read_name hName (by simp [endsName])]
      simp [Argument.readNamed, Except.map]
  | @emptyName c rest hc =>
    rcases hc with rfl | rfl
    · simp [Item.read, Argument.read, Argument.readNamed, endsName, nameSeparator, delimiter,
        Except.map]
    · simp [Item.read, Argument.read, Argument.readNamed, endsName, errorMarker, delimiter,
        Except.map]
  | missingErrorMarker hName =>
    rw [Item.read_marker hName]
    rfl
  | invalidErrorStart hName hc =>
    rw [Item.read_marker hName]
    simp [Argument.readError, hc, Except.map]
  | unterminatedArgument hName hOpening =>
    rw [List.append_assoc]
    rcases hOpening with rfl | rfl
    · rw [List.singleton_append, Item.read_separator hName]
      simp [Argument.readValue, cutSingle_escape, Except.map]
    · rw [List.cons_append, List.singleton_append, Item.read_marker hName]
      simp [Argument.readError, cutSingle_escape, Except.map]
  | @invalidErrorEnd name v before rest last hName hError hLast hRest =>
    rw [Item.read_marker hName]
    simp only [Argument.readError, if_true, cutSingle_escape_append v hRest]
    cases before with
    | nil =>
      obtain ⟨rfl, hEmpty⟩ : '(' = last ∧ escape v = [] := by simpa using hError
      simp [hEmpty, Except.map]
    | cons c before =>
      obtain ⟨rfl, hInner⟩ : '(' = c ∧ escape v = before ++ [last] := by simpa using hError
      have hSize : ('(' : Char).utf8Size = 1 := rfl
      simp only [hInner, List.getLast?_concat, if_neg hLast, List.dropLast_concat, Except.map,
        byteLength_cons, hSize, Except.error.injEq, Defect.mk.injEq, and_true]
      omega

/-- An item that cannot be read opens an argument, and the report is its flaw. -/
theorem Item.read_eq_error_iff {start : Nat} {c : Char} {rest : Text} {defect : Defect} :
    Item.read start c rest = .error defect ↔ c = delimiter ∧ Flaw start rest defect := by
  constructor
  · intro h
    by_cases hc : c = delimiter
    · subst hc
      exact ⟨rfl, .of_read h⟩
    · simp [Item.read, hc] at h
  · rintro ⟨rfl, hFlaw⟩
    exact hFlaw.read

theorem Flaw.unique {p : Nat} {rest : Text} {defect other : Defect} (h : Flaw p rest defect)
    (hOther : Flaw p rest other) : other = defect := by
  have hSame := hOther.read.symm.trans h.read
  cases hSame
  rfl

/-! ## Receivers that may refuse -/

/-- The receiver is handed the arguments among the items and refuses none, which takes it from
one state to another. -/
inductive Receiver.Takes (receive : Receiver ε σ) : List Item → σ → σ → Prop where
  | nil (s : σ) : Takes receive [] s s
  | plain {c : Char} {rest : List Item} {s s' : σ} (hRest : Takes receive rest s s') :
      Takes receive (.plain c :: rest) s s'
  | doubled {rest : List Item} {s s' : σ} (hRest : Takes receive rest s s') :
      Takes receive (.doubled :: rest) s s'
  | argument {a : Argument} {rest : List Item} {s middle s' : σ}
      (hTaken : receive a s = (.ok (), middle)) (hRest : Takes receive rest middle s') :
      Takes receive (.argument a :: rest) s s'

/-- Keeps a log of the events beside the state of a receiver. -/
def Receiver.logged (receive : Receiver ε σ) : Receiver ε (σ × List Event) := fun a s =>
  let (answer, state) := receive a s.1
  (answer, state, s.2 ++ [a.event])

/-- The events that the receiver is called with while a message is read. -/
def Receiver.calls (receive : Receiver ε σ) (message : Text) (s : σ) : List Event :=
  (readMessage message none receive.logged (s, [])).state.2

theorem Receiver.takes_or_refuses (receive : Receiver ε σ) (items : List Item) (s : σ) :
    (∃ s', receive.Takes items s s') ∨
      ∃ front a back middle cause s', items = front ++ .argument a :: back ∧
        receive.Takes front s middle ∧ receive a middle = (.error cause, s') := by
  induction items generalizing s with
  | nil => exact .inl ⟨s, .nil s⟩
  | cons item rest ih =>
    cases item with
    | plain c =>
      rcases ih s with ⟨s', hTakes⟩ | ⟨front, a, back, middle, cause, s', rfl, hTakes, hRefused⟩
      · exact .inl ⟨s', .plain hTakes⟩
      · exact .inr ⟨.plain c :: front, a, back, middle, cause, s', rfl, .plain hTakes, hRefused⟩
    | doubled =>
      rcases ih s with ⟨s', hTakes⟩ | ⟨front, a, back, middle, cause, s', rfl, hTakes, hRefused⟩
      · exact .inl ⟨s', .doubled hTakes⟩
      · exact .inr ⟨.doubled :: front, a, back, middle, cause, s', rfl, .doubled hTakes, hRefused⟩
    | argument b =>
      cases hAnswer : receive b s with
      | mk answer next =>
        cases answer with
        | error cause => exact .inr ⟨[], b, rest, s, cause, next, rfl, .nil s, hAnswer⟩
        | ok =>
          rcases ih next with
            ⟨s', hTakes⟩ | ⟨front, a, back, middle, cause, s', rfl, hTakes, hRefused⟩
          · exact .inl ⟨s', .argument hAnswer hTakes⟩
          · exact .inr ⟨.argument b :: front, a, back, middle, cause, s', rfl,
              .argument hAnswer hTakes, hRefused⟩

theorem Receiver.Takes.logged {receive : Receiver ε σ} {items : List Item} {s s' : σ}
    (h : receive.Takes items s s') (log : List Event) :
    receive.logged.Takes items (s, log) (s', log ++ eventsOf items) := by
  induction h generalizing log with
  | nil s =>
    rw [eventsOf_nil, List.append_nil]
    exact .nil _
  | plain _ ih => exact .plain (ih log)
  | doubled _ ih => exact .doubled (ih log)
  | @argument a rest s middle s' hTaken _ ih =>
    have hLogged : receive.logged a (s, log) = (.ok (), middle, log ++ [a.event]) := by
      simp [Receiver.logged, hTaken]
    have hRest := ih (log ++ [a.event])
    rw [List.append_assoc, List.singleton_append, ← eventsOf_argument] at hRest
    exact .argument hLogged hRest

theorem Receiver.Takes.deliver_append {receive : Receiver ε σ} {items : List Item} {s s' : σ}
    (h : receive.Takes items s s') (defect : Option Defect) (start : Nat) (more : List Item) :
    deliver receive defect start (items ++ more) s =
      (templateOf items ++
          (deliver receive defect (start + byteLength (messageOf items)) more s').1,
        (deliver receive defect (start + byteLength (messageOf items)) more s').2) := by
  induction h generalizing start with
  | nil s => simp
  | plain _ ih => simp [deliver, Item.offer, ih, Nat.add_assoc]
  | doubled _ ih => simp [deliver, Item.offer, ih, Nat.add_assoc]
  | argument hTaken _ ih =>
    simp [deliver, Item.offer, hTaken, Except.mapError, ih, Nat.add_assoc]

theorem Receiver.Takes.readMessage {receive : Receiver ε σ} {items : List Item} {s s' : σ}
    (h : receive.Takes items s s') {message : Text} {defect : Option Defect}
    (hRead : readItems message = (items, defect)) (sink : Option Text) :
    readMessage message sink receive s =
      ⟨match defect with
        | none => .ok ()
        | some defect => .error (.defect defect),
        sink.map (· ++ templateOf items), s'⟩ := by
  have hDeliver := h.deliver_append defect 0 []
  rw [List.append_nil] at hDeliver
  simp only [LogMarkup.readMessage, hRead, hDeliver, deliver, List.append_nil]
  cases defect <;> rfl

theorem Receiver.Takes.readMessage_refused {receive : Receiver ε σ} {front back : List Item}
    {a : Argument} {s middle s' : σ} {cause : ε} (h : receive.Takes front s middle)
    (hRefused : receive a middle = (.error cause, s')) {message : Text} {defect : Option Defect}
    (hRead : readItems message = (front ++ .argument a :: back, defect)) (sink : Option Text) :
    LogMarkup.readMessage message sink receive s =
      ⟨.error (.refused ⟨byteLength (messageOf front), a.name, a.isError, cause⟩),
        sink.map (· ++ templateOf front), s'⟩ := by
  simp [LogMarkup.readMessage, hRead, h.deliver_append, deliver, Item.offer, hRefused,
    Except.mapError]

/-! ## Where reading fails -/

/-- The items in front of a defect are grammatical, and the defect is a flaw right behind them. -/
theorem flaw_of_readItems {message : Text} {items : List Item} {defect : Defect}
    (h : readItems message = (items, some defect)) :
    ∃ after, message = messageOf items ++ delimiter :: after ∧ Grammatical items ∧
      Flaw (byteLength (messageOf items)) after defect := by
  obtain ⟨rest, hMessage, hStands, hStop⟩ := stands_of_readItems h
  cases rest with
  | nil => simp [readItemsFrom_nil] at hStop
  | cons c after =>
    cases hRead : Item.read (byteLength (messageOf items)) c after with
    | ok result => simp [readItemsFrom_of_ok hRead] at hStop
    | error found =>
      obtain rfl : found = defect := by simpa [readItemsFrom_of_error hRead] using hStop
      obtain ⟨rfl, hFlaw⟩ := Item.read_eq_error_iff.mp hRead
      exact ⟨after, hMessage, grammatical_iff_stands.mpr hStands.nil_of, hFlaw⟩

/-- An argument that was read stands behind a grammatical sequence of items. -/
theorem argument_of_readItems {message : Text} {front back : List Item} {a : Argument}
    {defect : Option Defect} (h : readItems message = (front ++ .argument a :: back, defect)) :
    ∃ rest, message = messageOf front ++ (a.source ++ rest) ∧ Grammatical front ∧
      a.WellFormed ∧ rest.head? ≠ some delimiter := by
  obtain ⟨rest, hMessage, hStands, -⟩ := stands_of_readItems h
  obtain ⟨hFront, hArgument, hBefore, -⟩ := stands_append.mp hStands
  refine ⟨messageOf back ++ rest, ?_, grammatical_iff_stands.mpr hFront.nil_of, hArgument,
    hBefore trivial⟩
  rw [hMessage]
  simp [Item.source]

theorem Flaw.not_of_wellFormed {p : Nat} {a : Argument} (hArgument : a.WellFormed)
    {after rest : Text} (hSource : delimiter :: after = a.source ++ rest)
    (hRest : rest.head? ≠ some delimiter) (defect : Defect) : ¬ Flaw p after defect := by
  intro hFlaw
  have hRead : Item.read p delimiter after = .ok (.argument a, rest) :=
    Item.read_eq_ok_iff.mpr ⟨hArgument, hSource, fun _ => hRest⟩
  rw [hFlaw.read] at hRead
  cases hRead

/-- What a message in front of a failure gives to its receiver, to one that records, and to the
sink. -/
theorem Receiver.Takes.readMessage_messageOf {receive : Receiver ε σ} {items : List Item}
    {s s' : σ} (h : receive.Takes items s s') (hItems : Grammatical items)
    (sink : Option Text) :
    LogMarkup.readMessage (messageOf items) sink receive s =
        ⟨.ok (), sink.map (· ++ templateOf items), s'⟩ ∧
      receive.calls (messageOf items) s = eventsOf items := by
  have hRead := readItems_eq_ok_iff.mpr ⟨hItems, rfl⟩
  refine ⟨h.readMessage hRead sink, ?_⟩
  rw [Receiver.calls, (h.logged []).readMessage hRead none, List.nil_append]

/-- Reading fails at an opening delimiter. What stands in front of it is a message that any
receiver without refusals accepts; its template is what the sink has got, and its events are the
calls of the receiver. At the delimiter stands an argument with a flaw, which is the diagnosis, or
an argument without a flaw that the receiver was called with and refused. -/
theorem readMessage_error_at_first_flaw {message : Text} {sink : Option Text}
    {receive : Receiver ε σ} {s : σ} {error : ReadError ε}
    (hError : (readMessage message sink receive s).result = .error error) :
    ∃ before after template events middle,
      message = before ++ delimiter :: after ∧ after.head? ≠ some delimiter ∧
      readMessage before (some []) (Receiver.recording : Receiver ε (List Event)) [] =
        ⟨.ok (), some template, events⟩ ∧
      readMessage before sink receive s = ⟨.ok (), sink.map (· ++ template), middle⟩ ∧
      receive.calls before s = events ∧
      (readMessage message sink receive s).template = sink.map (· ++ template) ∧
      ((∃ defect, error = .defect defect ∧
          (∀ d, Flaw (byteLength before) after d ↔ d = defect) ∧
          (readMessage message sink receive s).state = middle ∧
          receive.calls message s = events) ∨
        ∃ a rest cause, error = .refused ⟨byteLength before, a.name, a.isError, cause⟩ ∧
          a.WellFormed ∧ delimiter :: after = a.source ++ rest ∧
          rest.head? ≠ some delimiter ∧ (∀ d, ¬ Flaw (byteLength before) after d) ∧
          receive a middle = (.error cause, (readMessage message sink receive s).state) ∧
          receive.calls message s = events ++ [a.event]) := by
  obtain ⟨items, defect?, hRead⟩ : ∃ items defect?, readItems message = (items, defect?) :=
    ⟨_, _, rfl⟩
  rcases receive.takes_or_refuses items s with
    ⟨s', hTakes⟩ | ⟨front, a, back, middle, cause, s', rfl, hTakes, hRefused⟩
  · rw [hTakes.readMessage hRead] at hError ⊢
    cases defect? with
    | none => cases hError
    | some defect =>
      cases hError
      obtain ⟨after, hMessage, hItems, hFlaw⟩ := flaw_of_readItems hRead
      obtain ⟨hPrefix, hCalls⟩ := hTakes.readMessage_messageOf hItems sink
      refine ⟨messageOf items, after, templateOf items, eventsOf items, s', hMessage,
        hFlaw.head?_ne, readMessage_recording hItems _, hPrefix, hCalls, rfl,
        .inl ⟨defect, rfl, ?_, rfl, ?_⟩⟩
      · intro d
        exact ⟨hFlaw.unique, fun hd => hd ▸ hFlaw⟩
      · rw [Receiver.calls, (hTakes.logged []).readMessage hRead none, List.nil_append]
  · rw [hTakes.readMessage_refused hRefused hRead] at hError ⊢
    cases hError
    obtain ⟨rest, hMessage, hFront, hArgument, hRest⟩ := argument_of_readItems hRead
    obtain ⟨hPrefix, hCalls⟩ := hTakes.readMessage_messageOf hFront sink
    obtain ⟨after, hAfter⟩ : ∃ after, a.source ++ rest = delimiter :: after := ⟨_, rfl⟩
    rw [hAfter] at hMessage
    have hLogged : receive.logged a (middle, [] ++ eventsOf front) =
        (.error cause, s', [] ++ eventsOf front ++ [a.event]) := by
      simp [Receiver.logged, hRefused]
    refine ⟨messageOf front, after, templateOf front, eventsOf front, middle, hMessage,
      hArgument.head?_tail_ne hAfter.symm, readMessage_recording hFront _, hPrefix, hCalls, rfl,
      .inr ⟨a, rest, cause, rfl, hArgument, hAfter.symm, hRest,
        Flaw.not_of_wellFormed hArgument hAfter.symm hRest, hRefused, ?_⟩⟩
    rw [Receiver.calls, (hTakes.logged []).readMessage_refused hLogged hRead none,
      List.nil_append]

/-- The second argument has no parenthesis behind its error marker. -/
theorem flaw_of_marker_without_parenthesis :
    (readMessage "`a:1` `b!z`".toList (some []) (Receiver.recording : Receiver Empty _) []).result =
        .error (.defect ⟨9, .invalidErrorStart ['b'] 'z'⟩) ∧
      ∃ before after, "`a:1` `b!z`".toList = before ++ delimiter :: after ∧
        Flaw (byteLength before) after ⟨9, .invalidErrorStart ['b'] 'z'⟩ := by
  have hError : (readMessage "`a:1` `b!z`".toList (some [])
      (Receiver.recording : Receiver Empty _) []).result =
        .error (.defect ⟨9, .invalidErrorStart ['b'] 'z'⟩) := by decide +kernel
  obtain ⟨before, after, _, _, _, hMessage, -, -, -, -, -, hEnd⟩ :=
    readMessage_error_at_first_flaw hError
  rcases hEnd with ⟨defect, hDefect, hFlaw, -⟩ | ⟨_, _, _, hRefused, -⟩
  · cases hDefect
    exact ⟨hError, before, after, hMessage, (hFlaw _).mpr rfl⟩
  · cases hRefused

end LogMarkup
