import LogMarkup.Proofs.Expansion
import LogMarkup.Proofs.Message.Reading

/-!
# Reading joined messages

Messages that are read on their own are read one behind the other as well, with the events and the
templates one behind the other, unless an argument at the end of one meets a delimiter at the
start of the next. The delimiter that closes the argument would be taken for one of a doubled pair
then, and what is read is something else, if anything.

* `EndsInArgument`, `endsInArgument_iff`: messages whose last item is an argument.
* `grammatical_append_iff`, `grammatical_flatten_iff`: joining grammatical sequences of items.
* `readMessage_append_iff`: two messages, which may be written into one buffer.
* `readMessage_flatten_iff`: any number of messages.
-/

namespace LogMarkup

variable {σ ε : Type}

/-! ## Items at the ends -/

/-- The last delimiter of the message closes an argument. -/
def EndsInArgument (message : Text) : Prop :=
  ∃ items a, Grammatical (items ++ [.argument a]) ∧ messageOf (items ++ [.argument a]) = message

/-- A message has only one sequence of items, so they tell whether it ends in an argument. -/
theorem endsInArgument_iff {items : List Item} (h : Grammatical items) :
    EndsInArgument (messageOf items) ↔ ∃ last ∈ items.getLast?, last.IsArgument := by
  constructor
  · rintro ⟨front, a, hFront, hMessage⟩
    have hRead := readItems_eq_ok_iff.mpr ⟨hFront, hMessage⟩
    rw [readItems_eq_ok_iff.mpr ⟨h, rfl⟩] at hRead
    -- Both sequences are what reading the message gives.
    obtain rfl : items = front ++ [.argument a] := (Prod.mk.inj hRead).1
    exact ⟨.argument a, by simp, trivial⟩
  · rintro ⟨last, hLast, hArgument⟩
    obtain ⟨front, rfl⟩ := List.getLast?_eq_some_iff.mp hLast
    cases last with
    | plain c => exact False.elim hArgument
    | doubled => exact False.elim hArgument
    | argument a => exact ⟨front, a, h, rfl⟩

theorem head?_messageOf (items : List Item) :
    (messageOf items).head? = items.head?.bind fun item => item.source.head? := by
  cases items with
  | nil => rfl
  | cons item rest => rw [messageOf_cons, item.head?_source_append, List.head?_cons, Option.bind_some]

/-- What has to hold where two sequences of items meet, said of their texts. -/
theorem joint_iff {items more : List Item} (h : Grammatical items) :
    (∀ last ∈ items.getLast?, ∀ next ∈ more.head?,
        last.IsArgument → next.source.head? ≠ some delimiter) ↔
      ¬ (EndsInArgument (messageOf items) ∧ (messageOf more).head? = some delimiter) := by
  rw [endsInArgument_iff h, head?_messageOf, not_and]
  constructor
  · rintro hJoint ⟨last, hLast, hArgument⟩ hHead
    obtain ⟨next, hNext, hDelimiter⟩ := Option.bind_eq_some_iff.mp hHead
    exact hJoint last hLast next hNext hArgument hDelimiter
  · intro hApart last hLast next hNext hArgument hDelimiter
    refine hApart ⟨last, hLast, hArgument⟩ ?_
    exact Option.bind_eq_some_iff.mpr ⟨next, hNext, hDelimiter⟩

/-! ## Joined sequences of items -/

theorem grammatical_append_iff {items more : List Item} (hItems : Grammatical items)
    (hMore : Grammatical more) :
    Grammatical (items ++ more) ↔
      ¬ (EndsInArgument (messageOf items) ∧ (messageOf more).head? = some delimiter) := by
  rw [← joint_iff hItems]
  constructor
  · intro h
    exact (List.isChain_append.mp h.apart).2.2
  · intro hJoint
    refine ⟨?_, List.isChain_append.mpr ⟨hItems.apart, hMore.apart, hJoint⟩⟩
    rw [List.forall_mem_append]
    exact ⟨hItems.wellFormed, hMore.wellFormed⟩

theorem wellFormed_flatten {groups : List (List Item)}
    (hGroups : ∀ items ∈ groups, items ≠ [] ∧ Grammatical items) :
    ∀ item ∈ groups.flatten, item.WellFormed := by
  intro item hItem
  obtain ⟨items, hItems, hMem⟩ := List.mem_flatten.mp hItem
  exact (hGroups items hItems).2.wellFormed item hMem

theorem grammatical_flatten_iff {groups : List (List Item)}
    (hGroups : ∀ items ∈ groups, items ≠ [] ∧ Grammatical items) :
    Grammatical groups.flatten ↔ (groups.map messageOf).IsChain fun a b =>
      ¬ (EndsInArgument a ∧ b.head? = some delimiter) := by
  have hNe : [] ∉ groups := fun hNil => (hGroups [] hNil).1 rfl
  have hJoints : (groups.map messageOf).IsChain
        (fun a b => ¬ (EndsInArgument a ∧ b.head? = some delimiter)) ↔
      groups.IsChain fun items more => ∀ last ∈ items.getLast?, ∀ next ∈ more.head?,
        last.IsArgument → next.source.head? ≠ some delimiter := by
    rw [List.isChain_map]
    apply List.IsChain.iff_of_mem_imp
    intro items more hItems _
    exact (joint_iff (hGroups items hItems).2).symm
  rw [hJoints]
  constructor
  · intro h
    exact ((List.isChain_flatten hNe).mp h.apart).2
  · intro hChain
    have hApart : ∀ items ∈ groups, items.IsChain _ := fun items h => (hGroups items h).2.apart
    exact ⟨wellFormed_flatten hGroups, (List.isChain_flatten hNe).mpr ⟨hApart, hChain⟩⟩

/-! ## Joined messages -/

theorem readMessage_messageOf_iff {items : List Item} (h : ∀ item ∈ items, item.WellFormed)
    (sink : Text) :
    readMessage (messageOf items) (some sink) (Receiver.recording : Receiver ε (List Event)) [] =
        ⟨.ok (), some (sink ++ templateOf items), eventsOf items⟩ ↔ Grammatical items := by
  constructor
  · intro hRead
    exact grammatical_of_recorded h hRead rfl rfl
  · intro hItems
    exact readMessage_recording hItems (some sink)

/-- Two messages that are read on their own are read when they are joined iff no argument at the
end of the first meets a delimiter at the start of the second. So it is when the second is the
expansion of a template that is appended to the first in a buffer. -/
theorem readMessage_append_iff {a b templateA templateB : Text} {eventsA eventsB : List Event}
    (hA : readMessage a (some []) (Receiver.recording : Receiver ε (List Event)) [] =
      ⟨.ok (), some templateA, eventsA⟩)
    (hB : readMessage b (some []) (Receiver.recording : Receiver ε (List Event)) [] =
      ⟨.ok (), some templateB, eventsB⟩) (sink : Text) :
    (readMessage (a ++ b) (some sink) (Receiver.recording : Receiver ε (List Event)) [] =
        ⟨.ok (), some (sink ++ templateA ++ templateB), eventsA ++ eventsB⟩ ↔
      ¬ (EndsInArgument a ∧ b.head? = some delimiter)) ∧
    ∀ (buffer : Buffer) (source : Text) (r : Resolver σ) (s : σ), buffer.text = a →
      (expandInto .empty source r s).buffer.text = b →
      (readMessage (expandInto buffer source r s).buffer.text (some sink)
          (Receiver.recording : Receiver ε (List Event)) [] =
          ⟨.ok (), some (sink ++ templateA ++ templateB), eventsA ++ eventsB⟩ ↔
        ¬ (EndsInArgument a ∧ b.head? = some delimiter)) := by
  obtain ⟨items, hItems, rfl, hTemplateA, rfl⟩ := exists_items_of_recorded hA rfl
  obtain ⟨more, hMore, rfl, hTemplateB, rfl⟩ := exists_items_of_recorded hB rfl
  obtain rfl : templateA = templateOf items := by simpa using hTemplateA
  obtain rfl : templateB = templateOf more := by simpa using hTemplateB
  have hWellFormed : ∀ item ∈ items ++ more, item.WellFormed :=
    List.forall_mem_append.mpr ⟨hItems.wellFormed, hMore.wellFormed⟩
  have hJoined := (readMessage_messageOf_iff (ε := ε) hWellFormed sink).trans
    (grammatical_append_iff hItems hMore)
  rw [messageOf_append, templateOf_append, eventsOf_append, ← List.append_assoc] at hJoined
  refine ⟨hJoined, ?_⟩
  intro buffer source r s hBuffer hText
  rw [text_expandInto_eq_append, hBuffer, hText]
  exact hJoined

/-- The lines of a log, the second of which does not start with an argument. -/
theorem readMessage_of_joined_lines :
    let a := "`a:1`".toList
    let b := "\nb `c!(``)`".toList
    let eventsA : List Event := [.ofText ['a'] ['1'] false]
    let eventsB : List Event := [.ofText ['c'] ['`'] true]
    readMessage a (some []) (Receiver.recording : Receiver Empty (List Event)) [] =
        ⟨.ok (), some "`a`".toList, eventsA⟩ ∧
      readMessage b (some []) (Receiver.recording : Receiver Empty (List Event)) [] =
        ⟨.ok (), some "\nb `c`".toList, eventsB⟩ ∧
      readMessage (a ++ b) (some ['>']) (Receiver.recording : Receiver Empty (List Event)) [] =
        ⟨.ok (), some ">`a`\nb `c`".toList, eventsA ++ eventsB⟩ := by
  intro a b eventsA eventsB
  have hItemsA : readItems a = ([.argument ⟨['a'], ['1'], false⟩], none) := by decide +kernel
  have hItemsB : readItems b =
      ([.plain '\n', .plain 'b', .plain ' ', .argument ⟨['c'], ['`', '`'], true⟩], none) := by
    decide +kernel
  have hA : readMessage a (some []) (Receiver.recording : Receiver Empty (List Event)) [] =
      ⟨.ok (), some "`a`".toList, eventsA⟩ := by
    rw [Receiver.recording, readMessage_accepting, hItemsA]
    rfl
  have hB : readMessage b (some []) (Receiver.recording : Receiver Empty (List Event)) [] =
      ⟨.ok (), some "\nb `c`".toList, eventsB⟩ := by
    rw [Receiver.recording, readMessage_accepting, hItemsB]
    rfl
  have hApart : ¬ (EndsInArgument a ∧ b.head? = some delimiter) := by
    rintro ⟨-, hHead⟩
    exact absurd hHead (by decide)
  obtain ⟨hJoined, -⟩ := readMessage_append_iff (σ := Unit) hA hB ['>']
  exact ⟨hA, hB, hJoined.mpr hApart⟩

/-- Two arguments whose delimiters meet are read as one. -/
example :
    (readMessage "`a:1``b:2`".toList none (Receiver.recording : Receiver Empty _) []).state =
      [.ofText ['a'] "1`b:2".toList false] := by
  decide +kernel

theorem exists_groups_of_recorded {messages : List Text} {template : Text → Text}
    {events : Text → List Event}
    (h : ∀ m ∈ messages, m ≠ [] ∧
      readMessage m (some []) (Receiver.recording : Receiver ε (List Event)) [] =
        ⟨.ok (), some (template m), events m⟩) :
    ∃ groups : List (List Item), (∀ items ∈ groups, items ≠ [] ∧ Grammatical items) ∧
      messages = groups.map messageOf ∧ messages.flatten = messageOf groups.flatten ∧
      messages.flatMap template = templateOf groups.flatten ∧
      messages.flatMap events = eventsOf groups.flatten := by
  induction messages with
  | nil => exact ⟨[], by simp, rfl, rfl, rfl, rfl⟩
  | cons m rest ih =>
    obtain ⟨⟨hNe, hRead⟩, hRest⟩ := List.forall_mem_cons.mp h
    obtain ⟨groups, hGroups, hMessages, hText, hTemplates, hEvents⟩ := ih hRest
    obtain ⟨items, hItems, hMessage, hTemplate, hState⟩ := exists_items_of_recorded hRead rfl
    have hItemsNe : items ≠ [] := by
      rintro rfl
      exact hNe hMessage.symm
    have hSame : template m = templateOf items := by simpa using hTemplate
    refine ⟨items :: groups, List.forall_mem_cons.mpr ⟨⟨hItemsNe, hItems⟩, hGroups⟩, ?_, ?_, ?_, ?_⟩
    · rw [List.map_cons, hMessage, hMessages]
    · rw [List.flatten_cons, List.flatten_cons, messageOf_append, hMessage, hText]
    · rw [List.flatMap_cons, List.flatten_cons, templateOf_append, hSame, hTemplates]
    · rw [List.flatMap_cons, List.flatten_cons, eventsOf_append, hEvents]
      exact congrArg (· ++ _) hState

/-- Messages that are read on their own are read when they are joined iff no argument at the end
of one meets a delimiter at the start of the next. -/
theorem readMessage_flatten_iff {messages : List Text} {template : Text → Text}
    {events : Text → List Event}
    (h : ∀ m ∈ messages, m ≠ [] ∧
      readMessage m (some []) (Receiver.recording : Receiver ε (List Event)) [] =
        ⟨.ok (), some (template m), events m⟩) (sink : Text) :
    readMessage messages.flatten (some sink) (Receiver.recording : Receiver ε (List Event)) [] =
        ⟨.ok (), some (sink ++ messages.flatMap template), messages.flatMap events⟩ ↔
      messages.IsChain fun a b => ¬ (EndsInArgument a ∧ b.head? = some delimiter) := by
  obtain ⟨groups, hGroups, hMessages, hText, hTemplates, hEvents⟩ := exists_groups_of_recorded h
  rw [hText, hTemplates, hEvents, readMessage_messageOf_iff (wellFormed_flatten hGroups),
    grammatical_flatten_iff hGroups, hMessages]

end LogMarkup
