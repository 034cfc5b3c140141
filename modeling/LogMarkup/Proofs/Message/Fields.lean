import LogMarkup.Proofs.Message.Grouped
import LogMarkup.Proofs.Text.ByteOrder

/-!
# Fields of message objects

The object of a message has a field for each name with values, and another one for each name with
errors. The fields stand in the order of the names, each with all the texts of its name in the
order of the message. Decoders go through the fields of the values in that order, and stop at the
first one that they cannot take.

* `textsNamed`: the texts of a name as they are read from the message.
* `field?_fieldsOf`: what the field of a name holds, and `Json.Reports`: how it is told.
* `Decoded`: how decoding fields can end, and `Decoded.exists_least`: where it stops.
* `messageObject_reports_events`: what is in the objects, and what decoders make of it.
-/

namespace LogMarkup

open Json

variable {α : Type}

/-! ## Texts under names -/

/-- The texts of the values with a name, or of the errors, in the order of the events. -/
def textsNamed (isError : Bool) (name : Text) (events : List Event) : List Text :=
  (events.filter fun e => e.name = name ∧ e.isError = isError).map Event.text

theorem ArgValue.isError_ofArgument (a : Argument) : (ofArgument a).isError = a.isError := by
  cases hKind : a.isError <;> simp [ofArgument, hKind, isError]

theorem ArgValue.text_ofArgument (a : Argument) : (ofArgument a).text = a.text := by
  cases hKind : a.isError <;> simp [ofArgument, hKind, text]

theorem textsNamed_map_event (isError : Bool) (name : Text) (args : List Argument) :
    textsNamed isError name (args.map Argument.event) =
      ((valuesNamed name args).filter (·.isError = isError)).map ArgValue.text := by
  simp only [textsNamed, valuesNamed, List.filter_map, List.filter_filter, List.map_map]
  have hTexts : ArgValue.text ∘ ArgValue.ofArgument = Event.text ∘ Argument.event :=
    funext ArgValue.text_ofArgument
  rw [hTexts]
  congr 2
  funext a
  rw [Function.comp_apply, Function.comp_apply, ArgValue.isError_ofArgument]
  exact (Bool.decide_and ..).trans (Bool.and_comm ..)

theorem valueTexts_valuesNamed (name : Text) (args : List Argument) :
    valueTexts (valuesNamed name args) = textsNamed false name (args.map Argument.event) := by
  rw [textsNamed_map_event, valueTexts]
  simp

theorem errorTexts_valuesNamed (name : Text) (args : List Argument) :
    errorTexts (valuesNamed name args) = textsNamed true name (args.map Argument.event) := by
  rw [textsNamed_map_event, errorTexts]
  simp

/-! ## Fields -/

theorem pairwise_fieldsOf (texts : List ArgValue → List Text) (groups : ArgGroups) :
    (fieldsOf texts groups).Pairwise fun a b => a.1 < b.1 := by
  refine List.Pairwise.filterMap _ ?_ groups.sorted
  intro group other hLt field hField next hNext
  obtain ⟨_, -, rfl⟩ := Option.map_eq_some_iff.mp hField
  obtain ⟨_, -, rfl⟩ := Option.map_eq_some_iff.mp hNext
  exact hLt

theorem mem_fieldsOf_groupsOf_iff {texts : List ArgValue → List Text} (hNil : texts [] = [])
    {args : List Argument} {name : Text} {value : Json} :
    (name, value) ∈ fieldsOf texts (groupsOf args) ↔
      valueOfTexts (texts (valuesNamed name args)) = some value := by
  rw [mem_fieldsOf_iff, lookup_groupsOf]
  by_cases hNone : valuesNamed name args = []
  · simp [hNone, hNil, valueOfTexts]
  · simp [hNone]

theorem field?_fieldsOf {texts : List ArgValue → List Text} (hNil : texts [] = [])
    (args : List Argument) (name : Text) :
    (Json.object (fieldsOf texts (groupsOf args))).field? name =
      valueOfTexts (texts (valuesNamed name args)) := by
  refine Option.ext fun value => ?_
  rw [← mem_fieldsOf_groupsOf_iff hNil]
  exact (TextMap.mem_iff_find? (pairwise_fieldsOf texts (groupsOf args))).symm

theorem mem_valuesObject_iff {items : List Item} {name : Text} {value : Json} :
    (name, value) ∈ valuesObject (groupsOf (argumentsIn items)) ↔
      valueOfTexts (textsNamed false name (eventsOf items)) = some value := by
  rw [eventsOf_eq_map, ← valueTexts_valuesNamed]
  exact mem_fieldsOf_groupsOf_iff rfl

theorem field?_valuesObject (items : List Item) (name : Text) :
    (Json.object (valuesObject (groupsOf (argumentsIn items)))).field? name =
      valueOfTexts (textsNamed false name (eventsOf items)) := by
  rw [eventsOf_eq_map, ← valueTexts_valuesNamed]
  exact field?_fieldsOf rfl (argumentsIn items) name

theorem field?_errorsObject (items : List Item) (name : Text) :
    (Json.object (errorsObject (groupsOf (argumentsIn items)))).field? name =
      valueOfTexts (textsNamed true name (eventsOf items)) := by
  rw [eventsOf_eq_map, ← errorTexts_valuesNamed]
  exact field?_fieldsOf rfl (argumentsIn items) name

/-- The object tells the texts under the name: none by having no such field, one as a text, and
several as an array. -/
structure Json.Reports (object : Json) (name : Text) (texts : List Text) : Prop where
  none : texts = [] → object.field? name = .none
  one : ∀ t, texts = [t] → object.field? name = some (.text t)
  several : 2 ≤ texts.length → object.field? name = some (.array (texts.map .text))

theorem valueOfTexts_of_several {texts : List Text} (h : 2 ≤ texts.length) :
    valueOfTexts texts = some (.array (texts.map .text)) := by
  match texts, h with
  | _ :: _ :: _, _ => rfl

theorem Json.reports_of_field? {object : Json} {name : Text} {texts : List Text}
    (h : object.field? name = valueOfTexts texts) : object.Reports name texts where
  none := by
    rintro rfl
    exact h
  one := by
    rintro t rfl
    exact h
  several hSeveral := h.trans (valueOfTexts_of_several hSeveral)

/-! ## Decoding fields -/

/-- How decoding fields can end. All of them are decoded, or the first one that cannot be decoded
gives the error. -/
inductive Decoded (decode : Json → Except DecodeError α) (fields : List (Text × Json)) :
    Except DecodeError (List (Text × α)) → Prop where
  | all {decoded : List (Text × α)}
      (h : List.Forall₂ (fun field entry => entry.1 = field.1 ∧ decode field.2 = .ok entry.2)
        fields decoded) : Decoded decode fields (.ok decoded)
  | upTo (before : List (Text × Json)) {after : List (Text × Json)} {name : Text} {value : Json}
      {error : DecodeError} (hFields : fields = before ++ (name, value) :: after)
      (hBefore : ∀ field ∈ before, ∃ a, decode field.2 = .ok a)
      (hError : decode value = .error error) : Decoded decode fields (.error error)

theorem decodeFields_cons (decode : Json → Except DecodeError α) (name : Text) (value : Json)
    (rest : List (Text × Json)) :
    decodeFields decode ((name, value) :: rest) =
      match decode value with
      | .error error => .error error
      | .ok a => (decodeFields decode rest).map ((name, a) :: ·) := by
  have hStep : decodeFields decode ((name, value) :: rest) =
      ((decode value).map (name, ·)).bind fun entry =>
        (decodeFields decode rest).bind fun entries => .ok (entry :: entries) := List.mapM_cons
  rw [hStep]
  cases decode value with
  | error error => rfl
  | ok a => cases decodeFields decode rest <;> rfl

theorem decoded_decodeFields (decode : Json → Except DecodeError α) (fields : List (Text × Json)) :
    Decoded decode fields (decodeFields decode fields) := by
  induction fields with
  | nil => exact .all .nil
  | cons field rest ih =>
    obtain ⟨name, value⟩ := field
    rw [decodeFields_cons]
    cases hValue : decode value with
    | error error => exact .upTo [] rfl (by simp) hValue
    | ok a =>
      generalize decodeFields decode rest = result at ih
      cases ih with
      | all hAll => exact .all (.cons ⟨rfl, hValue⟩ hAll)
      | upTo before hFields hBefore hError =>
        refine .upTo ((name, value) :: before) (by rw [hFields]; rfl) ?_ hError
        exact List.forall_mem_cons.mpr ⟨⟨a, hValue⟩, hBefore⟩

namespace Decoded

variable {decode : Json → Except DecodeError α} {fields : List (Text × Json)}

theorem exists_ok {decoded : List (Text × α)} (h : Decoded decode fields (.ok decoded))
    {name : Text} {value : Json} (hField : (name, value) ∈ fields) : ∃ a, decode value = .ok a := by
  cases h with
  | all hAll =>
    induction hAll with
    | nil => cases hField
    | cons hEntry _ ih =>
      rcases List.mem_cons.mp hField with rfl | hLater
      · exact ⟨_, hEntry.2⟩
      · exact ih hLater

theorem mem_iff {decoded : List (Text × α)} (h : Decoded decode fields (.ok decoded))
    {name : Text} {a : α} :
    (name, a) ∈ decoded ↔ ∃ value, (name, value) ∈ fields ∧ decode value = .ok a := by
  cases h with
  | all hAll =>
    induction hAll with
    | nil => simp
    | @cons field entry fields decoded hEntry hAll ih =>
      obtain ⟨key, value⟩ := field
      obtain ⟨key', found⟩ := entry
      obtain ⟨rfl, hValue⟩ : key' = key ∧ decode value = .ok found := hEntry
      simp only [List.mem_cons, ih, Prod.mk.injEq]
      constructor
      · rintro (⟨rfl, rfl⟩ | ⟨other, hOther, hFound⟩)
        · exact ⟨value, .inl ⟨rfl, rfl⟩, hValue⟩
        · exact ⟨other, .inr hOther, hFound⟩
      · rintro ⟨other, ⟨rfl, rfl⟩ | hOther, hFound⟩
        · exact .inl ⟨rfl, Except.ok.inj (hFound.symm.trans hValue)⟩
        · exact .inr ⟨other, hOther, hFound⟩

/-- In sorted fields the error is that of the least name that is refused. -/
theorem exists_least {error : DecodeError} (h : Decoded decode fields (.error error))
    (hSorted : fields.Pairwise fun a b => a.1 < b.1) :
    ∃ name value, (name, value) ∈ fields ∧ decode value = .error error ∧
      ∀ other v e, (other, v) ∈ fields → decode v = .error e → utf8 name ≤ utf8 other := by
  cases h with
  | @upTo before _ name value _ hFields hBefore hError =>
    subst hFields
    refine ⟨name, value, by simp, hError, ?_⟩
    intro other v e hOther hRefused hLt
    have hLess : other < name := utf8_lt_utf8_iff.mp hLt
    obtain ⟨-, hBehind, -⟩ := List.pairwise_append.mp hSorted
    rcases List.mem_append.mp hOther with hEarlier | hLater
    · obtain ⟨a, hTaken⟩ := hBefore _ hEarlier
      rw [hTaken] at hRefused
      cases hRefused
    · rcases List.mem_cons.mp hLater with hSame | hMore
      · obtain ⟨rfl, -⟩ := Prod.mk.inj hSame
        exact List.lt_irrefl _ hLess
      · have hGreater : name < other := (List.pairwise_cons.mp hBehind).1 _ hMore
        exact List.lt_irrefl _ (List.lt_trans hLess hGreater)

end Decoded

/-! ## Decoding values by name -/

/-- What decoding comes to, where `texts` are the texts of each name. Names with texts that are
refused give no entry, and the error is about the least of them by the order of bytes. -/
inductive DecodedByName (texts : Text → List Text) (takes : List Text → α → Prop)
    (refuses : List Text → DecodeError → Prop) : Except DecodeError (List (Text × α)) → Prop where
  | all {entries : List (Text × α)} (hTaken : ∀ name error, ¬ refuses (texts name) error)
      (hMem : ∀ name a, (name, a) ∈ entries ↔ takes (texts name) a) :
      DecodedByName texts takes refuses (.ok entries)
  | upTo {name : Text} {error : DecodeError} (hRefused : refuses (texts name) error)
      (hLeast : ∀ other e, refuses (texts other) e → utf8 name ≤ utf8 other) :
      DecodedByName texts takes refuses (.error error)

theorem decodedByName_decodeFields {texts : Text → List Text} {fields : List (Text × Json)}
    (hSorted : fields.Pairwise fun a b => a.1 < b.1)
    (hField : ∀ name value, (name, value) ∈ fields ↔ valueOfTexts (texts name) = some value)
    {decode : Json → Except DecodeError α} {takes : List Text → α → Prop}
    {refuses : List Text → DecodeError → Prop}
    (hTakes : ∀ ts a, takes ts a ↔ ∃ value, valueOfTexts ts = some value ∧ decode value = .ok a)
    (hRefuses : ∀ ts error, refuses ts error ↔
      ∃ value, valueOfTexts ts = some value ∧ decode value = .error error) :
    DecodedByName texts takes refuses (decodeFields decode fields) := by
  have hDecoded := decoded_decodeFields decode fields
  generalize decodeFields decode fields = result at hDecoded
  cases result with
  | ok entries =>
    refine .all ?_ ?_
    · intro name error hRefused
      obtain ⟨value, hValue, hError⟩ := (hRefuses _ _).mp hRefused
      obtain ⟨a, hTaken⟩ := hDecoded.exists_ok ((hField name value).mpr hValue)
      rw [hTaken] at hError
      cases hError
    · intro name a
      simp only [hDecoded.mem_iff, hField, hTakes]
  | error error =>
    obtain ⟨name, value, hValue, hError, hLeast⟩ := hDecoded.exists_least hSorted
    refine .upTo ((hRefuses _ _).mpr ⟨value, (hField name value).mp hValue, hError⟩) ?_
    intro other e hRefused
    obtain ⟨v, hOther, hOtherError⟩ := (hRefuses _ _).mp hRefused
    exact hLeast other v e ((hField other v).mpr hOther) hOtherError

/-- A name can be decoded to a single text unless it has several. -/
theorem exists_asText_eq_ok_iff (ts : List Text) (t : Text) :
    ts = [t] ↔ ∃ value, valueOfTexts ts = some value ∧ value.asText = .ok t := by
  match ts with
  | [] => simp [valueOfTexts]
  | [u] => simp [valueOfTexts, Json.asText]
  | u :: v :: rest => simp [valueOfTexts, Json.asText]

theorem exists_asText_eq_error_iff (ts : List Text) (error : DecodeError) :
    (2 ≤ ts.length ∧ error = .invalidType .sequence "a string".toList) ↔
      ∃ value, valueOfTexts ts = some value ∧ value.asText = .error error := by
  match ts with
  | [] => simp [valueOfTexts]
  | [u] => simp [valueOfTexts, Json.asText]
  | u :: v :: rest => simp [valueOfTexts, Json.asText, Json.found, eq_comm]

theorem Json.asTexts_array (texts : List Text) :
    (Json.array (texts.map .text)).asTexts = .ok texts := by
  induction texts with
  | nil => rfl
  | cons t rest ih =>
    have hRest : (rest.map Json.text).mapM Json.asText = .ok rest := ih
    rw [Json.asTexts, List.map_cons, List.mapM_cons, hRest]
    rfl

theorem exists_asTexts_eq_ok_iff (ts us : List Text) :
    (2 ≤ ts.length ∧ ts = us) ↔
      ∃ value, valueOfTexts ts = some value ∧ value.asTexts = .ok us := by
  match ts with
  | [] => simp [valueOfTexts]
  | [u] => simp [valueOfTexts, Json.asTexts]
  | u :: v :: rest =>
    have hValue : valueOfTexts (u :: v :: rest) = some (.array ((u :: v :: rest).map .text)) := rfl
    simp only [hValue, Option.some.injEq, exists_eq_left', Json.asTexts_array]
    simp

theorem exists_asTexts_eq_error_iff (ts : List Text) (error : DecodeError) :
    (∃ t, ts = [t] ∧ error = .invalidType (.text t) "a sequence".toList) ↔
      ∃ value, valueOfTexts ts = some value ∧ value.asTexts = .error error := by
  match ts with
  | [] => simp [valueOfTexts]
  | [u] => simp [valueOfTexts, Json.asTexts, Json.found, eq_comm]
  | u :: v :: rest =>
    have hValue : valueOfTexts (u :: v :: rest) = some (.array ((u :: v :: rest).map .text)) := rfl
    simp only [hValue, Option.some.injEq, exists_eq_left', Json.asTexts_array]
    simp

/-- The least name with a property, by the order of the bytes. -/
def IsLeastName (p : Text → Prop) (name : Text) : Prop :=
  p name ∧ ∀ other, p other → utf8 name ≤ utf8 other

/-- A decoder to a single text for each name refuses the names with several. -/
structure DecodesToTexts (texts : Text → List Text)
    (result : Except MessageDecodeError (List (Text × Text))) : Prop where
  exists_ok_iff : (∃ entries, result = .ok entries) ↔ ∀ name, (texts name).length ≤ 1
  mem_iff : ∀ entries, result = .ok entries →
    ∀ name t, (name, t) ∈ entries ↔ texts name = [t]
  of_error : ∀ error, result = .error error →
    ∃ name, IsLeastName (fun name => 2 ≤ (texts name).length) name ∧
      error = .json (.invalidType .sequence "a string".toList)

/-- A decoder to a list of texts for each name refuses the names with a single one. -/
structure DecodesToLists (texts : Text → List Text)
    (result : Except MessageDecodeError (List (Text × List Text))) : Prop where
  exists_ok_iff : (∃ entries, result = .ok entries) ↔ ∀ name, (texts name).length ≠ 1
  mem_iff : ∀ entries, result = .ok entries →
    ∀ name ts, (name, ts) ∈ entries ↔ 2 ≤ ts.length ∧ texts name = ts
  of_error : ∀ error, result = .error error →
    ∃ name t, IsLeastName (fun name => (texts name).length = 1) name ∧ texts name = [t] ∧
      error = .json (.invalidType (.text t) "a sequence".toList)

section

variable {texts : Text → List Text} {fields : List (Text × Json)}

theorem decodesToTexts (hSorted : fields.Pairwise fun a b => a.1 < b.1)
    (hField : ∀ name value, (name, value) ∈ fields ↔ valueOfTexts (texts name) = some value) :
    DecodesToTexts texts ((decodeFields Json.asText fields).mapError .json) := by
  have hDecoded := decodedByName_decodeFields hSorted hField exists_asText_eq_ok_iff
    exists_asText_eq_error_iff
  generalize decodeFields Json.asText fields = result at hDecoded
  cases hDecoded with
  | @all entries hTaken hMem =>
    refine ⟨⟨fun _ name => ?_, fun _ => ⟨entries, rfl⟩⟩, ?_, nofun⟩
    · by_contra hSeveral
      exact hTaken name _ ⟨Nat.lt_of_not_le hSeveral, rfl⟩
    · intro found hFound
      cases hFound
      exact hMem
  | @upTo name error hRefused hLeast =>
    obtain ⟨hSeveral, rfl⟩ := hRefused
    refine ⟨⟨nofun, fun hFew => ?_⟩, nofun, ?_⟩
    · exact absurd (hFew name) (Nat.not_le_of_lt hSeveral)
    · intro found hFound
      cases hFound
      exact ⟨name, ⟨hSeveral, fun other hOther => hLeast other _ ⟨hOther, rfl⟩⟩, rfl⟩

theorem decodesToLists (hSorted : fields.Pairwise fun a b => a.1 < b.1)
    (hField : ∀ name value, (name, value) ∈ fields ↔ valueOfTexts (texts name) = some value) :
    DecodesToLists texts ((decodeFields Json.asTexts fields).mapError .json) := by
  have hDecoded := decodedByName_decodeFields hSorted hField exists_asTexts_eq_ok_iff
    exists_asTexts_eq_error_iff
  generalize decodeFields Json.asTexts fields = result at hDecoded
  cases hDecoded with
  | @all entries hTaken hMem =>
    refine ⟨⟨fun _ name hOne => ?_, fun _ => ⟨entries, rfl⟩⟩, ?_, nofun⟩
    · obtain ⟨t, hText⟩ := List.length_eq_one_iff.mp hOne
      exact hTaken name _ ⟨t, hText, rfl⟩
    · intro found hFound name ts
      cases hFound
      rw [hMem]
      exact and_congr_left fun hSame => by rw [hSame]
  | @upTo name error hRefused hLeast =>
    obtain ⟨t, hText, rfl⟩ := hRefused
    have hOne : (texts name).length = 1 := by rw [hText, List.length_singleton]
    refine ⟨⟨nofun, fun hOther => absurd hOne (hOther name)⟩, nofun, ?_⟩
    intro found hFound
    cases hFound
    refine ⟨name, t, ⟨hOne, fun other hOther => ?_⟩, hText, rfl⟩
    obtain ⟨u, hSingle⟩ := List.length_eq_one_iff.mp hOther
    exact hLeast other _ ⟨u, hSingle, rfl⟩

end

/-! ## Objects of messages -/

theorem decodeMessage_eq (decode : List (Text × Json) → Except DecodeError α) (message : Text) :
    decodeMessage decode message = match (readItems message).2 with
      | none =>
        (decode (valuesObject (groupsOf (argumentsIn (readItems message).1)))).mapError .json
      | some defect => .error (.message (.defect defect)) := by
  unfold decodeMessage
  rw [readGroups_eq]
  cases (readItems message).2 <;> rfl

/-- The object of a message has its template and, under each name, the texts of its values and of
its errors as they were read. The decoders read the values of the object: any data takes them,
single texts take all names but those with several, and lists take only those. What cannot be
read as a message has the same error everywhere. -/
theorem messageObject_reports_events (message : Text) :
    let read := readMessage message (some []) (Receiver.recording : Receiver Empty (List Event)) []
    (read.result = .ok () →
      ∃ (template : Text) (args errors : List (Text × Json)),
        read.template = some template ∧
        messageObject message = .ok (.object
          [("args".toList, .object args), ("errors".toList, .object errors),
            ("template".toList, .text template)]) ∧
        ((args.Pairwise fun a b => a.1 < b.1) ∧
          ∀ name, (Json.object args).Reports name (textsNamed false name read.state)) ∧
        ((errors.Pairwise fun a b => a.1 < b.1) ∧
          ∀ name, (Json.object errors).Reports name (textsNamed true name read.state)) ∧
        decodeMessage (fun fields => .ok (Json.object fields)) message = .ok (.object args) ∧
        DecodesToTexts (fun name => textsNamed false name read.state)
          (decodeMessage (decodeFields Json.asText) message) ∧
        DecodesToLists (fun name => textsNamed false name read.state)
          (decodeMessage (decodeFields Json.asTexts) message)) ∧
    ∀ error, read.result = .error error →
      (∀ sink, (readGroups message sink).result = .error error) ∧
        messageObject message = .error error ∧
        ∀ {α : Type} (decode : List (Text × Json) → Except DecodeError α),
          decodeMessage decode message = .error (.message error) := by
  intro read
  refine ⟨?_, ?_⟩
  · intro hResult
    obtain ⟨items, hGrammatical, rfl, hTemplate, hState⟩ := exists_items_of_recorded rfl hResult
    have hItems := readItems_eq_ok_iff.mpr ⟨hGrammatical, rfl⟩
    rw [hState, messageObject_eq, decodeMessage_eq, decodeMessage_eq, decodeMessage_eq, hItems]
    have hSorted := pairwise_fieldsOf valueTexts (groupsOf (argumentsIn items))
    refine ⟨templateOf items, valuesObject (groupsOf (argumentsIn items)),
      errorsObject (groupsOf (argumentsIn items)), hTemplate, rfl, ⟨hSorted, fun name => ?_⟩,
      ⟨pairwise_fieldsOf errorTexts _, fun name => ?_⟩, rfl, ?_, ?_⟩
    · exact Json.reports_of_field? (field?_valuesObject items name)
    · exact Json.reports_of_field? (field?_errorsObject items name)
    · exact decodesToTexts hSorted fun _ _ => mem_valuesObject_iff
    · exact decodesToLists hSorted fun _ _ => mem_valuesObject_iff
  · intro error hError
    cases hDefect : (readItems message).2 with
    | none =>
      have hResult : read.result = .ok () := result_accepting_eq_ok_iff.mpr hDefect
      rw [hResult] at hError
      cases hError
    | some defect =>
      simp only [read, Receiver.recording, readMessage_accepting, hDefect] at hError
      cases hError
      refine ⟨fun sink => ?_, ?_, fun decode => ?_⟩
      · rw [readGroups_eq, hDefect]
      · rw [messageObject_eq, hDefect]
      · rw [decodeMessage_eq, hDefect]

end LogMarkup
