import LogMarkup.Message
import LogMarkup.Proofs.Message.Grammar

/-!
# Reading exactly the grammatical messages

Reading takes items off the front of a text as long as they stand there, so it reads a whole
text iff the text is made of a grammatical sequence of items, and gives that sequence.

* `readItemsFrom_append`: items that stand in front of a text are read.
* `stands_of_readItems`: what was read stands in front of what was not.
* `readItems_eq_ok_iff`: a text is read without defect iff it is grammatical.
* `readMessage_taking`, `readMessage_accepting`: what a receiver without refusals gets, and the
  template.
* `readMessage_eq_ok_iff_grammatical`: acceptance, uniqueness, events and template together.
* `eq_of_messageOf_eq`: well-formed items are determined by their text and their arguments, even
  where they are not grammatical; `grammatical_of_recorded`.
-/

namespace LogMarkup

variable {σ ε : Type}

/-! ## Items -/

theorem readItemsFrom_nil (start : Nat) : readItemsFrom start [] = ([], none) := by
  rw [readItemsFrom]

theorem readItemsFrom_cons (start : Nat) (c : Char) (rest : Text) :
    readItemsFrom start (c :: rest) = match Item.read start c rest with
      | .error defect => ([], some defect)
      | .ok (item, after) =>
        (item :: (readItemsFrom (start + byteLength item.source) after).1,
          (readItemsFrom (start + byteLength item.source) after).2) := by
  rw [readItemsFrom]
  split <;> simp [*]

theorem readItemsFrom_of_ok {start : Nat} {c : Char} {rest after : Text} {item : Item}
    (h : Item.read start c rest = .ok (item, after)) :
    readItemsFrom start (c :: rest) =
      (item :: (readItemsFrom (start + byteLength item.source) after).1,
        (readItemsFrom (start + byteLength item.source) after).2) := by
  rw [readItemsFrom_cons, h]

theorem readItemsFrom_of_error {start : Nat} {c : Char} {rest : Text} {defect : Defect}
    (h : Item.read start c rest = .error defect) :
    readItemsFrom start (c :: rest) = ([], some defect) := by
  rw [readItemsFrom_cons, h]

theorem readItemsFrom_append {after : Text} {items : List Item} (h : Stands after items)
    (start : Nat) :
    readItemsFrom start (messageOf items ++ after) =
      (items ++ (readItemsFrom (start + byteLength (messageOf items)) after).1,
        (readItemsFrom (start + byteLength (messageOf items)) after).2) := by
  induction items generalizing start with
  | nil => simp
  | cons item rest ih =>
    obtain ⟨hItem, hBefore, hRest⟩ := h
    cases hSource : item.source with
    | nil => exact absurd hSource item.source_ne_nil
    | cons c tail =>
      have hRead : Item.read start c (tail ++ (messageOf rest ++ after)) =
          .ok (item, messageOf rest ++ after) := by
        refine Item.read_eq_ok_iff.mpr ⟨hItem, ?_, hBefore⟩
        rw [hSource]
        rfl
      have hText : messageOf (item :: rest) ++ after = c :: (tail ++ (messageOf rest ++ after)) := by
        simp [hSource]
      rw [hText, readItemsFrom_of_ok hRead, ih hRest]
      simp [Nat.add_assoc]

/-- Reading stops where no item stands, and has read the items in front of that place. -/
theorem stands_readItemsFrom (start : Nat) (t : Text) :
    ∃ after, t = messageOf (readItemsFrom start t).1 ++ after ∧
      Stands after (readItemsFrom start t).1 ∧
      readItemsFrom (start + byteLength (messageOf (readItemsFrom start t).1)) after =
        ([], (readItemsFrom start t).2) := by
  induction hLength : t.length using Nat.strongRecOn generalizing start t with
  | ind length ih =>
    cases t with
    | nil =>
      rw [readItemsFrom_nil]
      exact ⟨[], rfl, trivial, readItemsFrom_nil _⟩
    | cons c rest =>
      cases hRead : Item.read start c rest with
      | error defect =>
        rw [readItemsFrom_of_error hRead]
        exact ⟨c :: rest, rfl, trivial, readItemsFrom_of_error hRead⟩
      | ok result =>
        obtain ⟨item, tail⟩ := result
        obtain ⟨hItem, hSource, hBefore⟩ := Item.read_eq_ok_iff.mp hRead
        have hShorter : tail.length < length := hLength ▸ Item.length_of_read hRead
        obtain ⟨after, hTail, hStands, hStop⟩ :=
          ih tail.length hShorter (start + byteLength item.source) tail rfl
        rw [readItemsFrom_of_ok hRead]
        refine ⟨after, ?_, ⟨hItem, ?_, hStands⟩, ?_⟩
        · rw [hSource, messageOf_cons, List.append_assoc, ← hTail]
        · rwa [← hTail]
        · rw [messageOf_cons, byteLength_append, ← Nat.add_assoc]
          exact hStop

theorem stands_of_readItems {message : Text} {items : List Item} {defect? : Option Defect}
    (h : readItems message = (items, defect?)) :
    ∃ after, message = messageOf items ++ after ∧ Stands after items ∧
      readItemsFrom (byteLength (messageOf items)) after = ([], defect?) := by
  have hFrom : readItemsFrom 0 message = (items, defect?) := h
  have hStands := stands_readItemsFrom 0 message
  rw [hFrom, Nat.zero_add] at hStands
  exact hStands

theorem eq_nil_of_readItemsFrom {start : Nat} {t : Text}
    (h : readItemsFrom start t = ([], none)) : t = [] := by
  cases t with
  | nil => rfl
  | cons c rest =>
    cases hRead : Item.read start c rest with
    | error defect => simp [readItemsFrom_of_error hRead] at h
    | ok result => simp [readItemsFrom_of_ok hRead] at h

theorem readItems_eq_ok_iff {message : Text} {items : List Item} :
    readItems message = (items, none) ↔ Grammatical items ∧ messageOf items = message := by
  rw [grammatical_iff_stands]
  constructor
  · intro h
    obtain ⟨after, hText, hStands, hStop⟩ := stands_of_readItems h
    obtain rfl := eq_nil_of_readItemsFrom hStop
    exact ⟨hStands, by rw [hText, List.append_nil]⟩
  · rintro ⟨hStands, rfl⟩
    have hRead := readItemsFrom_append hStands 0
    rw [List.append_nil] at hRead
    rw [readItems, hRead, readItemsFrom_nil, List.append_nil]

/-! ## Events -/

/-- What a receiver learns about an argument. -/
structure Event where
  name : Text
  text : Text
  isError : Bool
  /-- Whether the text is a copy and not a part of the message. -/
  isCopy : Bool
  deriving DecidableEq, Repr

/-- A text is copied iff it has delimiters, which are doubled in the message. -/
def Event.ofText (name text : Text) (isError : Bool) : Event :=
  ⟨name, text, isError, decide (delimiter ∈ text)⟩

def Argument.event (a : Argument) : Event := ⟨a.name, a.text, a.isError, a.isRewritten⟩

theorem Argument.event_escape (name v : Text) (isError : Bool) :
    Argument.event ⟨name, escape v, isError⟩ = .ofText name v isError := by
  have hCopy : (unescape? (escape v)).isSome = decide (delimiter ∈ v) := by
    rw [← hasDoubled_escape, unescape?]
    cases hasDoubled (escape v) <;> rfl
  simp [Argument.event, Argument.text, Argument.isRewritten, Event.ofText, unescape_escape, hCopy]

theorem Argument.WellFormed.written_eq {a : Argument} (h : a.WellFormed) :
    a.written = escape a.text := by
  obtain ⟨v, hWritten⟩ := h.written
  rw [Argument.text, hWritten, unescape_escape]

/-- A well-formed argument is determined by its event. -/
theorem Argument.WellFormed.eq_of_event {a b : Argument} (ha : a.WellFormed) (hb : b.WellFormed)
    (h : a.event = b.event) : a = b := by
  obtain ⟨hName, hText, hKind, -⟩ := Event.mk.inj h
  have hWritten : a.written = b.written := by rw [ha.written_eq, hb.written_eq, hText]
  cases a
  cases b
  rw [Argument.mk.injEq]
  exact ⟨hName, hWritten, hKind⟩

def Item.event? : Item → Option Event
  | .argument a => some a.event
  | _ => none

def eventsOf (items : List Item) : List Event := items.filterMap Item.event?

@[simp] theorem eventsOf_nil : eventsOf [] = [] := rfl

@[simp] theorem eventsOf_plain (c : Char) (items : List Item) :
    eventsOf (.plain c :: items) = eventsOf items := rfl

@[simp] theorem eventsOf_doubled (items : List Item) :
    eventsOf (.doubled :: items) = eventsOf items := rfl

@[simp] theorem eventsOf_argument (a : Argument) (items : List Item) :
    eventsOf (.argument a :: items) = a.event :: eventsOf items := rfl

@[simp] theorem eventsOf_append (items more : List Item) :
    eventsOf (items ++ more) = eventsOf items ++ eventsOf more := List.filterMap_append

def Item.argument? : Item → Option Argument
  | .argument a => some a
  | _ => none

/-- The arguments among items. -/
def argumentsIn (items : List Item) : List Argument := items.filterMap Item.argument?

@[simp] theorem argumentsIn_plain (c : Char) (items : List Item) :
    argumentsIn (.plain c :: items) = argumentsIn items := rfl

@[simp] theorem argumentsIn_doubled (items : List Item) :
    argumentsIn (.doubled :: items) = argumentsIn items := rfl

@[simp] theorem argumentsIn_argument (a : Argument) (items : List Item) :
    argumentsIn (.argument a :: items) = a :: argumentsIn items := rfl

theorem eventsOf_eq_map (items : List Item) :
    eventsOf items = (argumentsIn items).map Argument.event := by
  rw [argumentsIn, List.map_filterMap]
  refine List.filterMap_congr fun item _ => ?_
  cases item <;> rfl

/-! ## Receivers without refusals -/

/-- Takes every argument and refuses none. -/
def Receiver.taking (take : Argument → σ → σ) : Receiver ε σ := fun a s => (.ok (), take a s)

/-- Hears every argument and refuses none. -/
def Receiver.accepting (hear : Event → σ → σ) : Receiver ε σ := fun a s => (.ok (), hear a.event s)

/-- Keeps the events in their order. -/
def Receiver.recording : Receiver ε (List Event) := .accepting fun e events => events ++ [e]

theorem deliver_taking (take : Argument → σ → σ) (defect : Option Defect) (start : Nat)
    (items : List Item) (s : σ) :
    deliver (Receiver.taking take : Receiver ε σ) defect start items s =
      (templateOf items, defect.map .defect,
        (argumentsIn items).foldl (fun s a => take a s) s) := by
  induction items generalizing start s with
  | nil => rfl
  | cons item rest ih =>
    cases item with
    | plain c => simp [deliver, Item.offer, ih]
    | doubled => simp [deliver, Item.offer, ih]
    | argument a => simp [deliver, Item.offer, Receiver.taking, Except.mapError, ih]

theorem readMessage_taking (message : Text) (sink : Option Text) (take : Argument → σ → σ)
    (s : σ) :
    readMessage message sink (Receiver.taking take : Receiver ε σ) s =
      { result := match (readItems message).2 with
          | none => .ok ()
          | some defect => .error (.defect defect)
        template := sink.map (· ++ templateOf (readItems message).1)
        state := (argumentsIn (readItems message).1).foldl (fun s a => take a s) s } := by
  unfold readMessage
  simp only [deliver_taking]
  cases (readItems message).2 <;> rfl

theorem readMessage_accepting (message : Text) (sink : Option Text) (hear : Event → σ → σ)
    (s : σ) :
    readMessage message sink (Receiver.accepting hear : Receiver ε σ) s =
      { result := match (readItems message).2 with
          | none => .ok ()
          | some defect => .error (.defect defect)
        template := sink.map (· ++ templateOf (readItems message).1)
        state := (eventsOf (readItems message).1).foldl (fun s e => hear e s) s } := by
  rw [eventsOf_eq_map, List.foldl_map]
  exact readMessage_taking message sink (fun a s => hear a.event s) s

theorem foldl_recording {α : Type} (events more : List α) :
    more.foldl (fun events e => events ++ [e]) events = events ++ more := by
  induction more generalizing events with
  | nil => simp
  | cons e more ih => simp [ih]

/-- A text is accepted iff its items are read without defect. -/
theorem result_accepting_eq_ok_iff {message : Text} {sink : Option Text} {hear : Event → σ → σ}
    {s : σ} :
    (readMessage message sink (Receiver.accepting hear : Receiver ε σ) s).result = .ok () ↔
      (readItems message).2 = none := by
  rw [readMessage_accepting]
  cases (readItems message).2 <;> simp

/-- What reading a grammatical sequence of items gives. -/
theorem readMessage_messageOf {items : List Item} (h : Grammatical items) (sink : Option Text)
    (hear : Event → σ → σ) (s : σ) :
    readMessage (messageOf items) sink (Receiver.accepting hear : Receiver ε σ) s =
      ⟨.ok (), sink.map (· ++ templateOf items),
        (eventsOf items).foldl (fun s e => hear e s) s⟩ := by
  rw [readMessage_accepting, readItems_eq_ok_iff.mpr ⟨h, rfl⟩]

theorem readMessage_recording {items : List Item} (h : Grammatical items) (sink : Option Text) :
    readMessage (messageOf items) sink (Receiver.recording : Receiver ε (List Event)) [] =
      ⟨.ok (), sink.map (· ++ templateOf items), eventsOf items⟩ := by
  rw [Receiver.recording, readMessage_messageOf h, foldl_recording, List.nil_append]

/-- What was recorded of a message is what its items give. -/
theorem exists_items_of_recorded {message : Text} {sink : Option Text} {read : Read ε (List Event)}
    (hRead : readMessage message sink .recording [] = read) (hResult : read.result = .ok ()) :
    ∃ items, Grammatical items ∧ messageOf items = message ∧
      read.template = sink.map (· ++ templateOf items) ∧ read.state = eventsOf items := by
  subst hRead
  have hDefect := result_accepting_eq_ok_iff.mp hResult
  obtain ⟨items, hItems⟩ : ∃ items, readItems message = (items, none) := ⟨_, Prod.ext rfl hDefect⟩
  obtain ⟨hGrammatical, rfl⟩ := readItems_eq_ok_iff.mp hItems
  rw [readMessage_recording hGrammatical]
  exact ⟨items, hGrammatical, rfl, rfl, rfl⟩

/-- The messages that a receiver without refusals lets pass are the grammatical texts. Such a
text has one sequence of items, whose arguments are the events and whose template is appended. -/
theorem readMessage_eq_ok_iff_grammatical (message : Text) (sink : Option Text)
    (hear : Event → σ → σ) (s : σ) :
    ((readMessage message sink (Receiver.accepting hear : Receiver ε σ) s).result = .ok () ↔
      ∃ items, Grammatical items ∧ messageOf items = message) ∧
    ∀ items, Grammatical items → messageOf items = message →
      (∀ others, Grammatical others → messageOf others = message → others = items) ∧
      readMessage message sink (Receiver.accepting hear : Receiver ε σ) s =
        ⟨.ok (), sink.map (· ++ templateOf items),
          (eventsOf items).foldl (fun s e => hear e s) s⟩ := by
  refine ⟨?_, ?_⟩
  · rw [result_accepting_eq_ok_iff]
    constructor
    · intro hDefect
      exact ⟨(readItems message).1, readItems_eq_ok_iff.mp (Prod.ext rfl hDefect)⟩
    · rintro ⟨items, hItems⟩
      rw [readItems_eq_ok_iff.mpr hItems]
  · rintro items hItems rfl
    refine ⟨?_, readMessage_messageOf hItems sink hear s⟩
    intro others hOthers hSource
    have hRead := readItems_eq_ok_iff.mpr ⟨hOthers, hSource⟩
    rw [readItems_eq_ok_iff.mpr ⟨hItems, rfl⟩] at hRead
    exact (Prod.mk.inj hRead).1.symm

/-! ## Items with given arguments -/

/-- Items of two sequences with the same text agree at the front if their arguments do. -/
theorem Item.eq_of_source_append {item other : Item} {t u : Text} (hItem : item.WellFormed)
    (hOther : other.WellFormed) (hSource : item.source ++ t = other.source ++ u)
    (hEvent : item.IsArgument → other.IsArgument → item.event? = other.event?) :
    item = other := by
  cases item with
  | plain c =>
    have hc : c ≠ delimiter := hItem
    cases other with
    | plain d =>
      obtain ⟨rfl, -⟩ : c = d ∧ t = u := by simpa [Item.source] using hSource
      rfl
    | doubled => exact absurd (List.cons.inj hSource).1 hc
    | argument b => exact absurd (List.cons.inj hSource).1 hc
  | doubled =>
    cases other with
    | plain d => exact absurd (List.cons.inj hSource).1.symm hOther
    | doubled => rfl
    | argument b => exact absurd rfl (Argument.WellFormed.head?_tail_ne hOther hSource)
  | argument a =>
    cases other with
    | plain d => exact absurd (List.cons.inj hSource).1.symm hOther
    | doubled => exact absurd rfl (Argument.WellFormed.head?_tail_ne hItem hSource.symm)
    | argument b =>
      have hSame : a.event = b.event := Option.some.inj (hEvent trivial trivial)
      rw [Argument.WellFormed.eq_of_event hItem hOther hSame]

/-- Well-formed items are determined by their text and their arguments. Without the arguments
this needs grammatical items. -/
theorem eq_of_messageOf_eq {items others : List Item} (hItems : ∀ item ∈ items, item.WellFormed)
    (hOthers : ∀ item ∈ others, item.WellFormed)
    (hMessage : messageOf items = messageOf others) (hEvents : eventsOf items = eventsOf others) :
    items = others := by
  induction items generalizing others with
  | nil =>
    cases others with
    | nil => rfl
    | cons other more =>
      have hEmpty : other.source = [] := (List.append_eq_nil_iff.mp hMessage.symm).1
      exact absurd hEmpty other.source_ne_nil
  | cons item rest ih =>
    cases others with
    | nil =>
      have hEmpty : item.source = [] := (List.append_eq_nil_iff.mp hMessage).1
      exact absurd hEmpty item.source_ne_nil
    | cons other more =>
      obtain ⟨hItem, hRest⟩ := List.forall_mem_cons.mp hItems
      obtain ⟨hOther, hMore⟩ := List.forall_mem_cons.mp hOthers
      have hHead : item = other := by
        refine Item.eq_of_source_append hItem hOther hMessage ?_
        intro hArgument hOtherArgument
        cases item with
        | plain c => exact False.elim hArgument
        | doubled => exact False.elim hArgument
        | argument a =>
          cases other with
          | plain d => exact False.elim hOtherArgument
          | doubled => exact False.elim hOtherArgument
          | argument b => exact congrArg List.head? hEvents
      subst hHead
      rw [messageOf_cons, messageOf_cons] at hMessage
      have hTails : eventsOf rest = eventsOf more := by
        cases item with
        | plain c => exact hEvents
        | doubled => exact hEvents
        | argument a => exact (List.cons.inj hEvents).2
      rw [ih hRest hMore (List.append_cancel_left hMessage) hTails]

/-- Well-formed items whose arguments are read from their text are grammatical. -/
theorem grammatical_of_recorded {items : List Item} (hItems : ∀ item ∈ items, item.WellFormed)
    {sink : Option Text} {read : Read ε (List Event)}
    (hRead : readMessage (messageOf items) sink .recording [] = read)
    (hResult : read.result = .ok ()) (hState : read.state = eventsOf items) :
    Grammatical items := by
  obtain ⟨others, hGrammatical, hMessage, -, hOthers⟩ := exists_items_of_recorded hRead hResult
  rw [hState] at hOthers
  rwa [eq_of_messageOf_eq hItems hGrammatical.wellFormed hMessage.symm hOthers]

end LogMarkup
