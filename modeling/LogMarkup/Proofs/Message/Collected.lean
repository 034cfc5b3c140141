import LogMarkup.Proofs.Message.Appearance
import LogMarkup.Proofs.Message.Diagnosis
import LogMarkup.Proofs.Text.ByteOrder

/-!
# Collecting the arguments of a message

All collections are made of the events that reading a message gives. The groups are the same,
whether they stand in the order of the names or in that of their first appearance. Single values
are those of a message without repeated names; otherwise reading ends at the first argument whose
name was there before, unless there is a defect in front of it.

* `Receiver.Takes.single`: what the receiver for single values has taken.
* `FirstRepeat`: where a name is repeated for the first time.
* `readUnique_takes_or_repeats`: single values are given, or reading ends there.
* `collections_of_events`: the three collections beside the events.
-/

namespace LogMarkup

/-! ## Single values -/

/-- Takes the first argument of each name. -/
def Receiver.single : Receiver DuplicateArgument (TextMap ArgValue) := fun a values =>
  if values.contains a.name then (.error ⟨a.name⟩, values)
  else (.ok (), values.insert a.name (.ofArgument a))

theorem Receiver.single_eq_ok_iff {a : Argument} {values next : TextMap ArgValue} :
    Receiver.single a values = (.ok (), next) ↔
      a.name ∉ values.keys ∧ next = values.insert a.name (.ofArgument a) := by
  rw [← TextMap.contains_eq_true_iff, Receiver.single]
  by_cases hKnown : values.contains a.name = true <;> simp [hKnown, eq_comm]

theorem Receiver.single_eq_error_iff {a : Argument} {values next : TextMap ArgValue}
    {cause : DuplicateArgument} :
    Receiver.single a values = (.error cause, next) ↔
      a.name ∈ values.keys ∧ cause = ⟨a.name⟩ ∧ next = values := by
  rw [← TextMap.contains_eq_true_iff, Receiver.single]
  by_cases hKnown : values.contains a.name = true <;> simp [hKnown, eq_comm]

/-- The receiver of single values has taken arguments of different names that it did not know, and
holds the value of each. -/
theorem Receiver.Takes.single {items : List Item} {values next : TextMap ArgValue}
    (h : Receiver.single.Takes items values next) :
    next.entries.Perm (values.entries ++ (eventsOf items).map fun e => (e.name, e.value)) ∧
      ((eventsOf items).map Event.name).Nodup ∧ ∀ e ∈ eventsOf items, e.name ∉ values.keys := by
  induction h with
  | nil values => exact ⟨by simp, by simp, by simp⟩
  | plain _ ih => exact ih
  | doubled _ ih => exact ih
  | @argument a rest values middle next hTaken _ ih =>
    obtain ⟨hFresh, rfl⟩ := Receiver.single_eq_ok_iff.mp hTaken
    obtain ⟨hEntries, hNodup, hUnknown⟩ := ih
    -- From here on the name of the argument is known as well.
    have hApart : ∀ e ∈ eventsOf rest, e.name ≠ a.name ∧ e.name ∉ values.keys := by
      intro e he
      have hKeys := hUnknown e he
      rw [TextMap.insert, TextMap.mem_keys_alter, not_or] at hKeys
      exact hKeys
    refine ⟨?_, ?_, ?_⟩
    · have hInserted := TextMap.perm_alterEntries (f := fun _ => ArgValue.ofArgument a) hFresh
      refine hEntries.trans ?_
      rw [eventsOf_argument, List.map_cons, List.append_cons]
      exact hInserted.append_right _
    · rw [eventsOf_argument, List.map_cons, List.nodup_cons]
      refine ⟨?_, hNodup⟩
      intro hMem
      obtain ⟨e, he, hName⟩ := List.mem_map.mp hMem
      exact (hApart e he).1 hName
    · rw [eventsOf_argument, List.forall_mem_cons]
      exact ⟨hFresh, fun e he => (hApart e he).2⟩

theorem readUnique_of_takes {message : Text} {items : List Item} {defect : Option Defect}
    (hRead : readItems message = (items, defect)) {values : TextMap ArgValue}
    (hTakes : Receiver.single.Takes items .empty values) (sink : Option Text) :
    readUnique message sink =
      { result := match defect with
          | none => .ok values
          | some defect => .error (.defect defect)
        template := sink.map (· ++ templateOf items) } := by
  change collect message sink Receiver.single .empty = _
  unfold collect
  rw [hTakes.readMessage hRead]
  cases defect <;> rfl

theorem readUnique_of_refused {message : Text} {front back : List Item} {a : Argument}
    {defect : Option Defect} (hRead : readItems message = (front ++ .argument a :: back, defect))
    {values next : TextMap ArgValue} {cause : DuplicateArgument}
    (hTakes : Receiver.single.Takes front .empty values)
    (hRefused : Receiver.single a values = (.error cause, next)) (sink : Option Text) :
    readUnique message sink =
      { result := .error (.refused ⟨byteLength (messageOf front), a.name, a.isError, cause⟩)
        template := sink.map (· ++ templateOf front) } := by
  change collect message sink Receiver.single .empty = _
  unfold collect
  rw [hTakes.readMessage_refused hRefused hRead]
  rfl

/-! ## Repeated names -/

/-- Behind `before` stands the first argument of the message whose name was there before. -/
structure FirstRepeat (message before : Text) (a : Argument) (template : Text)
    (earlier : List Event) : Prop where
  source : ∃ after, message = before ++ a.source ++ after ∧ after.head? ≠ some delimiter
  wellFormed : a.WellFormed
  read_before : readMessage before (some []) (Receiver.recording : Receiver Empty (List Event)) [] =
    ⟨.ok (), some template, earlier⟩
  nodup : (earlier.map Event.name).Nodup
  mem : a.name ∈ earlier.map Event.name

theorem Flaw.le_position {p : Nat} {rest : Text} {defect : Defect} (h : Flaw p rest defect) :
    p ≤ defect.position := by
  cases h <;> dsimp only <;> omega

theorem Argument.byteLength_source_pos (a : Argument) : 0 < byteLength a.source := by
  change 0 < delimiter.utf8Size + _
  exact Nat.add_pos_left (Char.utf8Size_pos delimiter) _

/-- A defect is behind all arguments that were read. -/
theorem lt_position_of_readItems {message : Text} {front back : List Item} {a : Argument}
    {defect : Defect} (h : readItems message = (front ++ .argument a :: back, some defect)) :
    byteLength (messageOf front) < defect.position := by
  obtain ⟨after, -, -, hFlaw⟩ := flaw_of_readItems h
  have hBehind := hFlaw.le_position
  have hArgument := a.byteLength_source_pos
  rw [messageOf_append, messageOf_cons, byteLength_append, byteLength_append] at hBehind
  change byteLength (messageOf front) + (byteLength a.source + _) ≤ _ at hBehind
  omega

theorem readMessage_recorded (message : Text) (sink : Option Text) :
    readMessage message sink (Receiver.recording : Receiver Empty (List Event)) [] =
      { result := match (readItems message).2 with
          | none => .ok ()
          | some defect => .error (.defect defect)
        template := sink.map (· ++ templateOf (readItems message).1)
        state := eventsOf (readItems message).1 } := by
  have hEvents := foldl_recording [] (eventsOf (readItems message).1)
  rw [List.nil_append] at hEvents
  rw [← hEvents]
  exact readMessage_accepting message sink _ []

/-- What becomes of the receiver for single values, by the names of the events. -/
theorem readUnique_takes_or_repeats (message : Text) (sink : Option Text) :
    let read := readMessage message sink (Receiver.recording : Receiver Empty (List Event)) []
    ((read.state.map Event.name).Nodup ∧ ∃ values : TextMap ArgValue,
      values.entries.Perm (read.state.map fun e => (e.name, e.value)) ∧
      (readUnique message sink).template = read.template ∧
      (∀ found, (readUnique message sink).result = .ok found ↔
        read.result = .ok () ∧ found = values) ∧
      ∀ defect, read.result = .error (.defect defect) →
        (readUnique message sink).result = .error (.defect defect)) ∨
    ¬ (read.state.map Event.name).Nodup ∧ ∃ before a template earlier later,
      FirstRepeat message before a template earlier ∧
      read.state = earlier ++ a.event :: later ∧
      (∀ error, read.result = .error error → byteLength before < error.position) ∧
      (readUnique message sink).template = sink.map (· ++ template) ∧
      (readUnique message sink).result =
        .error (.refused ⟨byteLength before, a.name, a.isError, ⟨a.name⟩⟩) := by
  intro read
  obtain ⟨items, defect?, hRead⟩ : ∃ items defect?, readItems message = (items, defect?) :=
    ⟨_, _, rfl⟩
  have hRecorded := readMessage_recorded message sink
  rw [hRead] at hRecorded
  change read = _ at hRecorded
  rw [hRecorded]
  rcases Receiver.single.takes_or_refuses items .empty with
    ⟨values, hTakes⟩ | ⟨front, a, back, values, cause, next, rfl, hTakes, hRefused⟩
  · obtain ⟨hEntries, hNodup, -⟩ := hTakes.single
    rw [readUnique_of_takes hRead hTakes]
    refine .inl ⟨hNodup, values, hEntries, rfl, ?_, ?_⟩
    · intro found
      cases defect? with
      | none => simp [eq_comm]
      | some defect => simp
    · intro defect hResult
      cases defect? with
      | none => cases hResult
      | some found =>
        cases hResult
        rfl
  · obtain ⟨hEntries, hNodup, -⟩ := hTakes.single
    obtain ⟨hKnown, rfl, -⟩ := Receiver.single_eq_error_iff.mp hRefused
    obtain ⟨rest, hMessage, hFront, hArgument, hRest⟩ := argument_of_readItems hRead
    have hMem : a.name ∈ (eventsOf front).map Event.name := by
      have hKeys := hEntries.map Prod.fst
      simpa [TextMap.keys, TextMap.empty] using hKeys.mem_iff.mp hKnown
    rw [readUnique_of_refused hRead hTakes hRefused]
    refine .inr ⟨?_, messageOf front, a, templateOf front, eventsOf front, eventsOf back,
      ⟨⟨rest, by rw [hMessage, List.append_assoc], hRest⟩, hArgument,
        readMessage_recording hFront _, hNodup, hMem⟩, by simp, ?_, rfl, rfl⟩
    · rw [eventsOf_append, eventsOf_argument, List.map_append, List.map_cons, List.nodup_middle,
        List.nodup_cons]
      rintro ⟨hNew, -⟩
      exact hNew (List.mem_append_left _ hMem)
    · intro error hResult
      cases defect? with
      | none => cases hResult
      | some defect =>
        cases hResult
        exact lt_position_of_readItems hRead

theorem TextMap.pairwise_utf8_keys {α : Type} (m : TextMap α) :
    m.keys.Pairwise fun a b => utf8 a < utf8 b :=
  m.pairwise_keys.imp utf8_lt_utf8

/-- Each name is given the values and errors under it in the order of the message, and no event is
lost or told twice. The map of groups is sorted by the bytes of the names, the other one by their
first appearance. Single values are given if no name is repeated. Otherwise reading ends at the
first argument that repeats a name, which is in front of a defect if there is one, and the template
is that of the message up to the argument. -/
theorem collections_of_events (message : Text) (sink : Option Text) :
    let read := readMessage message sink (Receiver.recording : Receiver Empty (List Event)) []
    let told := read.state.map fun e => (e.name, e.value)
    let groups := readGroups message sink
    let byAppearance := readByAppearance message sink
    let unique := readUnique message sink
    (groups.template = read.template ∧ byAppearance.template = read.template) ∧
    (∀ error, read.result = .error error →
      groups.result = .error error ∧ byAppearance.result = .error error) ∧
    (read.result = .ok () → ∃ sorted : ArgGroups,
      groups.result = .ok sorted ∧
      byAppearance.result = .ok (groupsByAppearance read.state) ∧
      (sorted.keys.Pairwise fun a b => utf8 a < utf8 b) ∧
      sorted.entries.Perm (groupsByAppearance read.state) ∧
      (sorted.entries.flatMap fun (name, values) => values.map fun v => (name, v)).Perm told) ∧
    ((∃ values, unique.result = .ok values) ↔
      read.result = .ok () ∧ (read.state.map Event.name).Nodup) ∧
    ((read.state.map Event.name).Nodup →
      unique.template = read.template ∧
      (∀ values, unique.result = .ok values →
        (values.keys.Pairwise fun a b => utf8 a < utf8 b) ∧ values.entries.Perm told) ∧
      ∀ defect, read.result = .error (.defect defect) →
        unique.result = .error (.defect defect)) ∧
    (¬ (read.state.map Event.name).Nodup → ∃ before a template earlier later,
      FirstRepeat message before a template earlier ∧
      read.state = earlier ++ a.event :: later ∧
      (∀ error, read.result = .error error → byteLength before < error.position) ∧
      unique.template = sink.map (· ++ template) ∧
      unique.result = .error (.refused ⟨byteLength before, a.name, a.isError, ⟨a.name⟩⟩)) := by
  intro read told groups byAppearance unique
  have hRead : read = _ := readMessage_recorded message sink
  have hGroups : groups = _ := readGroups_eq message sink
  have hByAppearance : byAppearance = _ := readByAppearance_eq message sink
  refine ⟨?_, ?_, ?_, ?_⟩
  · rw [hRead, hGroups, hByAppearance]
    exact ⟨rfl, rfl⟩
  · intro error hError
    rw [hRead] at hError
    rw [hGroups, hByAppearance]
    cases hDefect : (readItems message).2 with
    | none => simp [hDefect] at hError
    | some defect =>
      obtain rfl : ReadError.defect defect = error := by simpa [hDefect] using hError
      exact ⟨rfl, rfl⟩
  · intro hResult
    have hDefect : (readItems message).2 = none := result_accepting_eq_ok_iff.mp hResult
    have hState : read.state = (argumentsIn (readItems message).1).map Argument.event := by
      rw [hRead, ← eventsOf_eq_map]
    have hSame := perm_groupsOf (argumentsIn (readItems message).1)
    rw [← hState] at hSame
    refine ⟨groupsOf (argumentsIn (readItems message).1), ?_, ?_, TextMap.pairwise_utf8_keys _,
      hSame, (hSame.flatMap_right _).trans (perm_flatMap_groups read.state)⟩
    · rw [hGroups, hDefect]
    · rw [hByAppearance, hDefect, hRead]
  · rcases readUnique_takes_or_repeats message sink with
      ⟨hNodup, values, hEntries, hTemplate, hOk, hDefects⟩ | ⟨hRepeated, hWhere⟩
    · refine ⟨⟨?_, ?_⟩, ?_, fun hRepeated => absurd hNodup hRepeated⟩
      · rintro ⟨found, hFound⟩
        exact ⟨((hOk found).mp hFound).1, hNodup⟩
      · rintro ⟨hResult, -⟩
        exact ⟨values, (hOk values).mpr ⟨hResult, rfl⟩⟩
      · intro _
        refine ⟨hTemplate, ?_, hDefects⟩
        intro found hFound
        obtain ⟨-, rfl⟩ := (hOk found).mp hFound
        exact ⟨found.pairwise_utf8_keys, hEntries⟩
    · refine ⟨⟨?_, ?_⟩, fun hNodup => absurd hNodup hRepeated, fun _ => hWhere⟩
      · rintro ⟨values, hFound⟩
        obtain ⟨_, _, _, _, _, -, -, -, -, hResult⟩ := hWhere
        have hRefused : unique.result = _ := hResult
        rw [hRefused] at hFound
        cases hFound
      · rintro ⟨-, hNodup⟩
        exact absurd hNodup hRepeated

/-- The names are in no order, and the error is told with the value. -/
example : (readByAppearance "`b:1` `a:2` `b!(x)`".toList none).result =
    .ok [(['b'], [.value ['1'], .error ['x']]), (['a'], [.value ['2']])] := by
  decide +kernel

end LogMarkup
