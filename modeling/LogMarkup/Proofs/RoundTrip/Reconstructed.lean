import LogMarkup.Proofs.Expansion
import LogMarkup.Proofs.Message.Reading

/-!
# Expanding reconstructed templates

The template that is put together while a message is read expands to the message again, if the
arguments are answered with what was read of them. So a message holds no more than its template
and its events.

* `partsOf`: the parts of a reconstructed template, and `scan_templateOf`: scanning finds them.
* `Answer.Replays`: answers that write what an event tells.
* `rendered_partsOf`, `failures_partsOf`: what such answers are expanded to.
* `expandInto_of_readMessage`: the round trip.
-/

namespace LogMarkup

variable {σ ε : Type}

/-! ## Parts of reconstructed templates -/

theorem rendered_consLiteral (r : Resolver σ) (t : Text) (parts : List Part) (s : σ) :
    r.rendered (consLiteral t parts) s = t ++ r.rendered parts s := by
  cases parts with
  | nil => rfl
  | cons part rest => cases part <;> simp [consLiteral]

/-- The parts of the template of items that starts at the byte offset `start`, where `automatic`
is the next index. -/
def partsOf (start automatic : Nat) : List Item → List Part
  | [] => []
  | .plain c :: rest => consLiteral [c] (partsOf (start + c.utf8Size) automatic rest)
  | .doubled :: rest =>
    consLiteral [delimiter, delimiter] (partsOf (start + 2) automatic rest)
  | .argument a :: rest =>
    .placeholder ⟨start, a.name, none, automatic⟩ ::
      partsOf (start + byteLength a.placeholder) (automatic + 1) rest

theorem sourceOf_partsOf (start automatic : Nat) (items : List Item) :
    sourceOf (partsOf start automatic items) = templateOf items := by
  induction items generalizing start automatic with
  | nil => rfl
  | cons item rest ih =>
    cases item with
    | plain c => simp [partsOf, sourceOf_consLiteral, ih, Item.template]
    | doubled => simp [partsOf, sourceOf_consLiteral, ih, Item.template]
    | argument a =>
      simp [partsOf, ih, Item.template, Part.source, Placeholder.source, Argument.placeholder]

theorem tiled_partsOf {items : List Item} (hItems : ∀ item ∈ items, item.WellFormed)
    (start automatic : Nat) : Tiled start automatic (partsOf start automatic items) := by
  induction items generalizing start automatic with
  | nil => trivial
  | cons item rest ih =>
    obtain ⟨hItem, hRest⟩ := List.forall_mem_cons.mp hItems
    cases item with
    | plain c =>
      have hc : escape [c] = [c] := by simp [escape, show c ≠ delimiter from hItem]
      have hLater : Tiled (start + byteLength (escape [c])) automatic
          (partsOf (start + c.utf8Size) automatic rest) := by
        rw [hc]
        exact ih hRest (start + c.utf8Size) automatic
      rw [partsOf, ← hc]
      exact tiled_consLiteral (List.cons_ne_nil c []) hLater
    | doubled =>
      exact tiled_consLiteral (v := [delimiter]) (List.cons_ne_nil _ _)
        (ih hRest (start + 2) automatic)
    | argument a =>
      have hArgument : a.WellFormed := hItem
      have hLength : byteLength (Placeholder.source ⟨start, a.name, none, automatic⟩) =
          byteLength a.placeholder := by simp [Placeholder.source, Argument.placeholder]
      refine ⟨⟨rfl, hArgument.isName, fun _ => rfl, ?_⟩, ?_⟩
      · intro digits hDigits
        cases hDigits
      · rw [hLength]
        exact ih hRest (start + byteLength a.placeholder) (automatic + 1)

theorem scan_templateOf {items : List Item} (hItems : ∀ item ∈ items, item.WellFormed) :
    scan (templateOf items) = (partsOf 0 0 items, none) :=
  scan_eq_ok_iff.mpr ⟨tiled_partsOf hItems 0 0, (sourceOf_partsOf 0 0 items).symm⟩

theorem placeholdersOf_partsOf (start automatic : Nat) (items : List Item) :
    (placeholdersOf (partsOf start automatic items)).map (fun p => (p.name, p.digits, p.index)) =
      ((eventsOf items).zipIdx automatic).map fun (e, k) => (e.name, none, k) := by
  induction items generalizing start automatic with
  | nil => rfl
  | cons item rest ih =>
    cases item with
    | plain c => simp [partsOf, placeholdersOf_consLiteral, ih]
    | doubled => simp [partsOf, placeholdersOf_consLiteral, ih]
    | argument a => simp [partsOf, ih, Argument.event]

/-! ## Answering as read -/

/-- The answer writes the text of the event, or fails with it if the event is an error. -/
def Answer.Replays (answer : Answer) (e : Event) : Prop :=
  if e.isError then answer.result = .error (.custom e.text)
  else answer.result = .ok () ∧ answer.text = e.text

/-- The failure of a placeholder that is answered with the event, if it is an error. -/
def Event.failure? (e : Event) (p : Placeholder) : Option FailedArgument :=
  if e.isError then some ⟨p.start, p.index, p.name, .custom e.text⟩ else none

theorem Answer.Replays.argument_eq {answer : Answer} {a : Argument} (h : answer.Replays a.event)
    (hArgument : a.WellFormed) : answer.argument a.name = a := by
  obtain ⟨name, written, isError⟩ := a
  obtain ⟨v, hWritten⟩ := hArgument.written
  obtain rfl : written = escape v := hWritten
  rw [Argument.event_escape] at h
  cases isError with
  | true =>
    have hResult : answer.result = .error (.custom v) := by
      simpa [Answer.Replays, Event.ofText] using h
    have hMessage : (ResolveError.custom v).message = v := rfl
    simp [Answer.argument, hResult, hMessage]
  | false =>
    obtain ⟨hResult, hText⟩ : answer.result = .ok () ∧ answer.text = v := by
      simpa [Answer.Replays, Event.ofText] using h
    simp [Answer.argument, hResult, hText]

theorem Answer.Replays.failure?_eq {answer : Answer} {e : Event} (h : answer.Replays e)
    (p : Placeholder) : p.failure? answer = e.failure? p := by
  obtain ⟨name, text, isError, isCopy⟩ := e
  cases isError with
  | true =>
    have hResult : answer.result = .error (.custom text) := by simpa [Answer.Replays] using h
    simp [Placeholder.failure?, hResult, Event.failure?]
  | false =>
    obtain ⟨hResult, -⟩ : answer.result = .ok () ∧ answer.text = text := by
      simpa [Answer.Replays] using h
    simp [Placeholder.failure?, hResult, Event.failure?]

/-- Whatever name and state it is asked with, the resolver answers the indices from `automatic`
on with the events. -/
def Resolver.Replays (r : Resolver σ) (automatic : Nat) (events : List Event) : Prop :=
  ∀ k e, events[k]? = some e → ∀ name s, (r (automatic + k) name s).1.Replays e

theorem Resolver.Replays.head {r : Resolver σ} {automatic : Nat} {e : Event}
    {events : List Event} (h : r.Replays automatic (e :: events)) (name : Text) (s : σ) :
    (r automatic name s).1.Replays e := h 0 e rfl name s

theorem Resolver.Replays.tail {r : Resolver σ} {automatic : Nat} {e : Event}
    {events : List Event} (h : r.Replays automatic (e :: events)) :
    r.Replays (automatic + 1) events := by
  intro k found hFound name s
  rw [Nat.add_assoc, Nat.add_comm 1 k]
  exact h (k + 1) found hFound name s

theorem rendered_partsOf {items : List Item} (hItems : ∀ item ∈ items, item.WellFormed)
    {r : Resolver σ} {automatic : Nat} (h : r.Replays automatic (eventsOf items)) (start : Nat)
    (s : σ) : r.rendered (partsOf start automatic items) s = messageOf items := by
  induction items generalizing start automatic s with
  | nil => rfl
  | cons item rest ih =>
    obtain ⟨hItem, hRest⟩ := List.forall_mem_cons.mp hItems
    cases item with
    | plain c =>
      rw [partsOf, rendered_consLiteral, ih hRest h, messageOf_cons]
      rfl
    | doubled =>
      rw [partsOf, rendered_consLiteral, ih hRest h, messageOf_cons]
      rfl
    | argument a =>
      rw [partsOf, Resolver.rendered_placeholder, (h.head a.name s).argument_eq hItem,
        ih hRest h.tail, messageOf_cons]
      rfl

theorem failures_partsOf {items : List Item} {r : Resolver σ} {automatic : Nat}
    (h : r.Replays automatic (eventsOf items)) (start : Nat) (s : σ) :
    r.failures (partsOf start automatic items) s =
      ((placeholdersOf (partsOf start automatic items)).zip (eventsOf items)).filterMap
        fun (p, e) => e.failure? p := by
  induction items generalizing start automatic s with
  | nil => rfl
  | cons item rest ih =>
    cases item with
    | plain c =>
      have hLater := ih h (start + c.utf8Size) s
      simpa [partsOf, Resolver.failures, placeholdersOf_consLiteral] using hLater
    | doubled =>
      have hLater := ih h (start + 2) s
      simpa [partsOf, Resolver.failures, placeholdersOf_consLiteral] using hLater
    | argument a =>
      have hLater := ih h.tail (start + byteLength a.placeholder) (r automatic a.name s).2
      have hHead := (h.head a.name s).failure?_eq ⟨start, a.name, none, automatic⟩
      unfold Resolver.failures at hLater ⊢
      simp only [partsOf, placeholdersOf_placeholder, Resolver.ask_cons, eventsOf_argument,
        List.zip_cons_cons, List.filterMap_cons, hLater, hHead]

theorem failures_eq_nil_iff {placeholders : List Placeholder} {events : List Event}
    (hLength : placeholders.length = events.length) :
    ((placeholders.zip events).filterMap fun (p, e) => e.failure? p) = [] ↔
      ∀ e ∈ events, e.isError = false := by
  induction events generalizing placeholders with
  | nil => simp
  | cons e rest ih =>
    cases placeholders with
    | nil => cases hLength
    | cons p more =>
      have hRest := ih (Nat.succ.inj hLength)
      cases hError : e.isError with
      | true => simp [Event.failure?, hError]
      | false =>
        rw [List.zip_cons_cons, List.filterMap_cons, List.forall_mem_cons, ← hRest]
        simp [Event.failure?, hError]

/-! ## The round trip -/

/-- Answers every index with the event at its place. -/
def Resolver.replaying (events : List Event) : Resolver σ :=
  .answering fun index name =>
    match events[index]? with
    | none => .fail (.missing index name)
    | some e => if e.isError then .fail (.custom e.text) else .direct (.done [.text e.text])

theorem Resolver.replays_replaying (events : List Event) :
    (replaying events : Resolver σ).Replays 0 events := by
  intro k e hEvent name s
  rw [Nat.zero_add]
  simp only [replaying, answering, hEvent, Answer.Replays]
  split
  · rfl
  · exact ⟨rfl, by simp [Answer.direct, Answer.text, Chunk.toText]⟩

/-- A message that was read is what its template is expanded to when the arguments are answered
with its events. All of them are values iff the expansion has no failures, and else the errors
are the failures. So no other message has the same template and the same events. -/
theorem expandInto_of_readMessage {message template : Text} {events : List Event}
    (hRead : readMessage message (some []) (Receiver.recording : Receiver ε (List Event)) [] =
      ⟨.ok (), some template, events⟩) :
    ∃ t, Template.ofText template = .ok t ∧
      parameters template = .ok (events.map Event.name) ∧
      (t.placeholders.map fun p => (p.name, p.digits, p.index)) =
        (events.zipIdx.map fun (e, k) => (e.name, none, k)) ∧
      (∀ (r : Resolver σ) (s : σ) (b : Buffer), r.Replays 0 events →
        (expandInto b template r s).buffer.text = b.text ++ message ∧
        (expandInto b template r s).result =
          if ∀ e ∈ events, e.isError = false then .ok ()
          else .error (.unresolved ⟨message,
            (t.placeholders.zip events).filterMap fun (p, e) => e.failure? p⟩)) ∧
      ∀ other, readMessage other (some []) (Receiver.recording : Receiver ε (List Event)) [] =
        ⟨.ok (), some template, events⟩ → other = message := by
  obtain ⟨items, hItems, rfl, hTemplate, rfl⟩ := exists_items_of_recorded hRead rfl
  obtain rfl : template = templateOf items := by simpa using hTemplate
  have hScan := scan_templateOf hItems.wellFormed
  have hText := Template.ofText_of_scan hScan
  have hPlaceholders := placeholdersOf_partsOf 0 0 items
  refine ⟨_, hText, ?_, hPlaceholders, ?_, ?_⟩
  · have hNames := congrArg (List.map fun x => x.1) hPlaceholders
    rw [List.map_map, List.map_map] at hNames
    have hFirst : ((eventsOf items).zipIdx.map fun x => x.1) = eventsOf items :=
      List.zipIdx_map_fst 0 (eventsOf items)
    calc parameters (templateOf items)
        = .ok ((placeholdersOf (partsOf 0 0 items)).map Placeholder.name) := by
          rw [parameters, hText, Except.map, Template.names_eq, Template.placeholders]
      _ = .ok ((eventsOf items).zipIdx.map fun x => x.1.name) := congrArg Except.ok hNames
      _ = .ok ((eventsOf items).map Event.name) := by
          conv => rhs; rw [← hFirst, List.map_map]
          rfl
  · intro r s b hReplays
    have hRendered := rendered_partsOf hItems.wellFormed hReplays 0 s
    have hFailures := failures_partsOf hReplays 0 s
    refine ⟨?_, ?_⟩
    · rw [text_expandInto hScan, hRendered]
    · have hLength : (placeholdersOf (partsOf 0 0 items)).length = (eventsOf items).length := by
        simpa using congrArg List.length hPlaceholders
      rw [result_expandInto hScan, hRendered, hFailures]
      simp only [failures_eq_nil_iff hLength]
      rfl
  · intro other hOther
    obtain ⟨others, hOthers, rfl, hSame, hEvents⟩ := exists_items_of_recorded hOther rfl
    have hTemplates : templateOf items = templateOf others := by simpa using hSame
    have hParts : partsOf 0 0 others = partsOf 0 0 items := by
      have hOtherScan := scan_templateOf hOthers.wellFormed
      rw [← hTemplates, hScan] at hOtherScan
      exact (congrArg Prod.fst hOtherScan).symm
    -- Both messages are what the one template is expanded to with the one list of events.
    let r : Resolver Unit := .replaying (eventsOf items)
    have hReplays : r.Replays 0 (eventsOf items) := Resolver.replays_replaying (eventsOf items)
    have hOtherReplays : r.Replays 0 (eventsOf others) := by
      rw [← show eventsOf items = eventsOf others from hEvents]
      exact hReplays
    calc messageOf others
        = r.rendered (partsOf 0 0 others) () :=
          (rendered_partsOf hOthers.wellFormed hOtherReplays 0 ()).symm
      _ = r.rendered (partsOf 0 0 items) () := by rw [hParts]
      _ = messageOf items := rendered_partsOf hItems.wellFormed hReplays 0 ()

/-- A message with literal delimiters, and with delimiters in a value and in an error. -/
theorem expandInto_of_mixed_message :
    let message := "a`` `b:``1` `c!(no``)`".toList
    let template := "a`` `b` `c`".toList
    let events : List Event := [.ofText ['b'] ['`', '1'] false, .ofText ['c'] ['n', 'o', '`'] true]
    readMessage message (some []) (Receiver.recording : Receiver Empty (List Event)) [] =
        ⟨.ok (), some template, events⟩ ∧
      (expandInto .empty template (.replaying events : Resolver Unit) ()).buffer.text =
        message := by
  intro message template events
  have hItems : readItems message =
      ([.plain 'a', .doubled, .plain ' ', .argument ⟨['b'], ['`', '`', '1'], false⟩, .plain ' ',
        .argument ⟨['c'], ['n', 'o', '`', '`'], true⟩], none) := by decide +kernel
  have hRead : readMessage message (some [])
      (Receiver.recording : Receiver Empty (List Event)) [] =
        ⟨.ok (), some template, events⟩ := by
    rw [Receiver.recording, readMessage_accepting, hItems]
    rfl
  obtain ⟨_, -, -, -, hExpand, -⟩ := expandInto_of_readMessage hRead
  obtain ⟨hText, -⟩ :=
    hExpand (.replaying events : Resolver Unit) () .empty (Resolver.replays_replaying events)
  exact ⟨hRead, hText⟩

end LogMarkup
