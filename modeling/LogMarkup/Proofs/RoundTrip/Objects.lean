import LogMarkup.Proofs.Message.Fields
import LogMarkup.Proofs.RoundTrip.Reconstructed

/-!
# Messages from their objects

The object of a message keeps the order of the arguments in the template, and the order of the
values and of the errors of each name. Only the order between a value and an error of one name is
lost. So a message whose names have no errors beside values is the only one with its object.

* `Unmixed`: events with no errors beside values of the same name.
* `Unmixed.eq_of_textsNamed`: such events are determined by the sequence of their names and the
  texts under each name.
* `messageOf_eq_of_templateOf_eq`: items are determined by their template and their events.
* `eq_of_messageObject_eq`: messages from their objects.
-/

namespace LogMarkup

/-! ## Events by name -/

/-- No name has both a value and an error. -/
def Unmixed (events : List Event) : Prop :=
  ∀ e ∈ events, ∀ other ∈ events, e.name = other.name → e.isError = other.isError

instance (events : List Event) : Decidable (Unmixed events) :=
  inferInstanceAs <| Decidable <|
    ∀ e ∈ events, ∀ other ∈ events, e.name = other.name → e.isError = other.isError

theorem textsNamed_cons (isError : Bool) (name : Text) (e : Event) (events : List Event) :
    textsNamed isError name (e :: events) =
      if e.name = name ∧ e.isError = isError then e.text :: textsNamed isError name events
      else textsNamed isError name events := by
  by_cases h : e.name = name ∧ e.isError = isError <;> simp [textsNamed, h]

theorem textsNamed_eq_nil_iff {isError : Bool} {name : Text} {events : List Event} :
    textsNamed isError name events = [] ↔ ∀ e ∈ events, e.name = name → e.isError ≠ isError := by
  simp [textsNamed]

theorem Unmixed.tail {e : Event} {events : List Event} (h : Unmixed (e :: events)) :
    Unmixed events := fun a ha b hb =>
  h a (List.mem_cons_of_mem e ha) b (List.mem_cons_of_mem e hb)

/-- The name at the front has texts of the kind at the front only. -/
theorem Unmixed.textsNamed_head {e : Event} {events : List Event} (h : Unmixed (e :: events)) :
    textsNamed (!e.isError) e.name (e :: events) = [] := by
  refine textsNamed_eq_nil_iff.mpr fun other hOther hName => ?_
  rw [h other hOther e List.mem_cons_self hName]
  simp

theorem Unmixed.eq_of_textsNamed {events others : List Event} (hUnmixed : Unmixed events)
    (hEvents : ∀ e ∈ events, e = .ofText e.name e.text e.isError)
    (hOthers : ∀ e ∈ others, e = .ofText e.name e.text e.isError)
    (hNames : events.map Event.name = others.map Event.name)
    (hTexts : ∀ isError name, textsNamed isError name events = textsNamed isError name others) :
    events = others := by
  induction events generalizing others with
  | nil => exact (List.map_eq_nil_iff.mp hNames.symm).symm
  | cons e rest ih =>
    cases others with
    | nil => cases hNames
    | cons other more =>
      obtain ⟨hName, hMoreNames⟩ := List.cons.inj hNames
      obtain ⟨hEvent, hRest⟩ := List.forall_mem_cons.mp hEvents
      obtain ⟨hOther, hMore⟩ := List.forall_mem_cons.mp hOthers
      -- The other event is not of the other kind, as there are no such texts under the name.
      have hNone := (hTexts (!e.isError) e.name).symm.trans hUnmixed.textsNamed_head
      have hKind : other.isError = e.isError := by
        have hNot := textsNamed_eq_nil_iff.mp hNone other List.mem_cons_self hName.symm
        simpa using hNot
      have hHeads := hTexts e.isError e.name
      rw [textsNamed_cons, textsNamed_cons, if_pos ⟨rfl, rfl⟩, if_pos ⟨hName.symm, hKind⟩]
        at hHeads
      have hSame : e = other := by
        rw [hEvent, hOther, ← hName, (List.cons.inj hHeads).1, hKind]
      subst hSame
      have hTails (isError : Bool) (name : Text) :
          textsNamed isError name rest = textsNamed isError name more := by
        have hAll := hTexts isError name
        rw [textsNamed_cons, textsNamed_cons] at hAll
        split at hAll
        · exact (List.cons.inj hAll).2
        · exact hAll
      rw [ih hUnmixed.tail hRest hMore hMoreNames hTails]

/-! ## Items by template and events -/

theorem Argument.WellFormed.event_eq {a : Argument} (h : a.WellFormed) :
    a.event = .ofText a.name a.text a.isError := by
  have hEscaped : a = ⟨a.name, escape a.text, a.isError⟩ := by rw [← h.written_eq]
  rw [hEscaped, event_escape]
  simp [text, unescape_escape]

theorem eventsOf_ofText {items : List Item} (h : ∀ item ∈ items, item.WellFormed) :
    ∀ e ∈ eventsOf items, e = .ofText e.name e.text e.isError := by
  intro e hEvent
  obtain ⟨item, hItem, hSome⟩ := List.mem_filterMap.mp hEvent
  cases item with
  | plain c => cases hSome
  | doubled => cases hSome
  | argument a =>
    cases hSome
    have hArgument : a.WellFormed := h _ hItem
    exact hArgument.event_eq

theorem partsOf_eq_of_templateOf_eq {items others : List Item}
    (hItems : ∀ item ∈ items, item.WellFormed) (hOthers : ∀ item ∈ others, item.WellFormed)
    (h : templateOf items = templateOf others) : partsOf 0 0 items = partsOf 0 0 others := by
  have hScan := scan_templateOf hItems
  rw [h, scan_templateOf hOthers] at hScan
  exact (congrArg Prod.fst hScan).symm

/-- The names of the arguments are those of the placeholders of the template. -/
theorem names_eq_of_templateOf_eq {items others : List Item}
    (hItems : ∀ item ∈ items, item.WellFormed) (hOthers : ∀ item ∈ others, item.WellFormed)
    (h : templateOf items = templateOf others) :
    (eventsOf items).map Event.name = (eventsOf others).map Event.name := by
  have hNames (items : List Item) :
      (placeholdersOf (partsOf 0 0 items)).map Placeholder.name =
        (eventsOf items).map Event.name := by
    have hPlaceholders := congrArg (List.map Prod.fst) (placeholdersOf_partsOf 0 0 items)
    rw [List.map_map, List.map_map] at hPlaceholders
    calc (placeholdersOf (partsOf 0 0 items)).map Placeholder.name
        = (eventsOf items).zipIdx.map fun x => x.1.name := hPlaceholders
      _ = ((eventsOf items).zipIdx.map Prod.fst).map Event.name := (List.map_map ..).symm
      _ = (eventsOf items).map Event.name := by rw [List.zipIdx_map_fst]
  rw [← hNames, ← hNames, partsOf_eq_of_templateOf_eq hItems hOthers h]

theorem messageOf_eq_of_templateOf_eq {items others : List Item}
    (hItems : ∀ item ∈ items, item.WellFormed) (hOthers : ∀ item ∈ others, item.WellFormed)
    (hTemplate : templateOf items = templateOf others) (hEvents : eventsOf items = eventsOf others) :
    messageOf items = messageOf others := by
  -- Both are what the one template is expanded to with the one list of events.
  let r : Resolver Unit := .replaying (eventsOf items)
  have hReplays : r.Replays 0 (eventsOf items) := Resolver.replays_replaying (eventsOf items)
  calc messageOf items
      = r.rendered (partsOf 0 0 items) () := (rendered_partsOf hItems hReplays 0 ()).symm
    _ = r.rendered (partsOf 0 0 others) () := by
      rw [partsOf_eq_of_templateOf_eq hItems hOthers hTemplate]
    _ = messageOf others := rendered_partsOf hOthers (hEvents ▸ hReplays) 0 ()

/-! ## Messages by object -/

theorem valueOfTexts_injective : Function.Injective valueOfTexts := by
  intro texts others h
  match texts with
  | [] => exact (valueOfTexts_eq_none_iff.mp h.symm).symm
  | [t] => exact ((exists_asText_eq_ok_iff others t).mpr ⟨.text t, h.symm, rfl⟩).symm
  | t :: u :: rest =>
    have hTexts := Json.asTexts_array (t :: u :: rest)
    exact ((exists_asTexts_eq_ok_iff others _).mpr ⟨_, h.symm, hTexts⟩).2.symm

theorem objectOf_eq_iff {items others : List Item} :
    objectOf items = objectOf others ↔
      valuesObject (groupsOf (argumentsIn items)) = valuesObject (groupsOf (argumentsIn others)) ∧
      errorsObject (groupsOf (argumentsIn items)) = errorsObject (groupsOf (argumentsIn others)) ∧
      templateOf items = templateOf others := by
  simp [objectOf]

/-- Under each name, an object has all the values and all the errors. -/
theorem textsNamed_eq_of_objectOf_eq {items others : List Item}
    (h : objectOf items = objectOf others) (isError : Bool) (name : Text) :
    textsNamed isError name (eventsOf items) = textsNamed isError name (eventsOf others) := by
  obtain ⟨hValues, hErrors, -⟩ := objectOf_eq_iff.mp h
  apply valueOfTexts_injective
  cases isError with
  | false => rw [← field?_valuesObject, ← field?_valuesObject, hValues]
  | true => rw [← field?_errorsObject, ← field?_errorsObject, hErrors]

theorem exists_items_of_messageObject {message : Text} {object : Json}
    (h : messageObject message = .ok object) :
    ∃ items, Grammatical items ∧ messageOf items = message ∧ objectOf items = object := by
  rw [messageObject_eq] at h
  cases hItems : readItems message with
  | mk items defect? =>
    rw [hItems] at h
    cases defect? with
    | some defect => cases h
    | none =>
      obtain ⟨hGrammatical, hMessage⟩ := readItems_eq_ok_iff.mp hItems
      exact ⟨items, hGrammatical, hMessage, Except.ok.inj h⟩

/-- No other message has the object of a message whose names have no errors beside values. -/
theorem eq_of_messageObject_eq {message : Text} {object : Json}
    (hObject : messageObject message = .ok object)
    (hUnmixed : Unmixed
      (readMessage message none (Receiver.recording : Receiver Empty (List Event)) []).state) :
    ∀ other, messageObject other = .ok object → other = message := by
  intro other hOther
  obtain ⟨items, hItems, rfl, rfl⟩ := exists_items_of_messageObject hObject
  obtain ⟨others, hOthers, rfl, hSame⟩ := exists_items_of_messageObject hOther
  rw [readMessage_recording hItems] at hUnmixed
  have hTemplate := (objectOf_eq_iff.mp hSame).2.2
  have hEvents : eventsOf items = eventsOf others :=
    hUnmixed.eq_of_textsNamed (eventsOf_ofText hItems.wellFormed)
      (eventsOf_ofText hOthers.wellFormed)
      (names_eq_of_templateOf_eq hItems.wellFormed hOthers.wellFormed hTemplate.symm)
      (textsNamed_eq_of_objectOf_eq hSame.symm)
  exact messageOf_eq_of_templateOf_eq hOthers.wellFormed hItems.wellFormed hTemplate hEvents.symm

/-- Values of one name with an error of another one between them. -/
theorem eq_of_messageObject_of_errors_between :
    let message := "`a:1` `b!(no)` `a:2`".toList
    let object : Json := .object
      [("args".toList, .object [(['a'], .array [.text ['1'], .text ['2']])]),
       ("errors".toList, .object [(['b'], .text "no".toList)]),
       ("template".toList, .text "`a` `b` `a`".toList)]
    messageObject message = .ok object ∧
      Unmixed (readMessage message none
        (Receiver.recording : Receiver Empty (List Event)) []).state ∧
      ∀ other, messageObject other = .ok object → other = message := by
  intro message object
  have hItems : readItems message =
      ([.argument ⟨['a'], ['1'], false⟩, .plain ' ', .argument ⟨['b'], "no".toList, true⟩,
        .plain ' ', .argument ⟨['a'], ['2'], false⟩], none) := by decide +kernel
  have hObject : messageObject message = .ok object := by
    rw [messageObject_eq, hItems]
    rfl
  have hUnmixed : Unmixed (readMessage message none
      (Receiver.recording : Receiver Empty (List Event)) []).state := by
    decide +kernel
  exact ⟨hObject, hUnmixed, eq_of_messageObject_eq hObject hUnmixed⟩

/-- The order between a value and an error of one name is not kept. -/
example : messageObject "`a:1` `a!(no)`".toList = messageObject "`a!(no)` `a:1`".toList := by
  cbv

end LogMarkup
