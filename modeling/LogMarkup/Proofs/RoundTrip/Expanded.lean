import LogMarkup.Proofs.Expansion
import LogMarkup.Proofs.Message.Reading

/-!
# Reading expanded templates

An expanded template is made of items: the characters of the literal text, and an argument for
each placeholder. All of them are well-formed whatever the resolver answers. They are grammatical
iff no placeholder is followed by a delimiter, and then reading gives them back. If a placeholder
is followed by one, no reading gives all the arguments, whatever they are.

* `Resolver.items`: the items of an expanded template.
* `grammatical_items_iff`: when they are grammatical.
* `readMessage_expandInto_iff`: the round trip and its boundary.
-/

namespace LogMarkup

variable {σ ε : Type}

/-! ## Items of literal text -/

/-- The items of the literal text in which `v` is written. -/
def literalItems (v : Text) : List Item :=
  v.map fun c => if c = delimiter then .doubled else .plain c

theorem literalItems_cons (c : Char) (v : Text) :
    literalItems (c :: v) =
      (if c = delimiter then Item.doubled else .plain c) :: literalItems v := rfl

theorem messageOf_literalItems (v : Text) : messageOf (literalItems v) = escape v := by
  induction v with
  | nil => rfl
  | cons c v ih =>
    by_cases hc : c = delimiter <;>
      simp [literalItems_cons, ih, escape_cons, hc, Item.source]

theorem templateOf_literalItems (v : Text) : templateOf (literalItems v) = escape v := by
  induction v with
  | nil => rfl
  | cons c v ih =>
    by_cases hc : c = delimiter <;>
      simp [literalItems_cons, ih, escape_cons, hc, Item.template]

theorem eventsOf_literalItems (v : Text) : eventsOf (literalItems v) = [] := by
  induction v with
  | nil => rfl
  | cons c v ih => by_cases hc : c = delimiter <;> simp [literalItems_cons, ih, hc]

theorem stands_literalItems (after : Text) (v : Text) : Stands after (literalItems v) := by
  induction v with
  | nil => trivial
  | cons c v ih =>
    by_cases hc : c = delimiter
    · rw [literalItems_cons, if_pos hc]
      exact ⟨trivial, False.elim, ih⟩
    · rw [literalItems_cons, if_neg hc]
      exact ⟨hc, False.elim, ih⟩

/-! ## Items of expanded templates -/

/-- The event of the argument that stands in the message for an answer. -/
def Answer.event (name : Text) (answer : Answer) : Event :=
  match answer.result with
  | .ok _ => .ofText name answer.text false
  | .error error => .ofText name error.message true

theorem Answer.event_argument (name : Text) (answer : Answer) :
    (answer.argument name).event = answer.event name := by
  cases hResult : answer.result with
  | ok => simp only [Answer.argument, Answer.event, hResult, Argument.event_escape]
  | error error => simp only [Answer.argument, Answer.event, hResult, Argument.event_escape]

theorem Answer.wellFormed_argument {name : Text} (hName : IsName name) (answer : Answer) :
    (answer.argument name).WellFormed := by
  unfold Answer.argument
  split
  · exact ⟨hName, _, rfl⟩
  · exact ⟨hName, _, rfl⟩

theorem Answer.placeholder_argument (name : Text) (answer : Answer) :
    (answer.argument name).placeholder = delimiter :: name ++ [delimiter] := by
  unfold Answer.argument
  split <;> rfl

/-- The part without its explicit index. -/
def Part.unindexed : Part → Text
  | .literal t => t
  | .placeholder p => delimiter :: p.name ++ [delimiter]

/-- The items of the message that parts are expanded to. -/
def Resolver.items (r : Resolver σ) : List Part → σ → List Item
  | [], _ => []
  | .literal t :: rest, s => literalItems (unescape t) ++ r.items rest s
  | .placeholder p :: rest, s =>
    let (answer, s) := r p.index p.name s
    .argument (answer.argument p.name) :: r.items rest s

/-- The events that the placeholders give rise to, in the order of the template. -/
def Resolver.events (r : Resolver σ) (placeholders : List Placeholder) (s : σ) : List Event :=
  (r.ask placeholders s).1.map fun (p, answer) => answer.event p.name

theorem messageOf_items {start automatic : Nat} {parts : List Part}
    (h : Tiled start automatic parts) (r : Resolver σ) (s : σ) :
    messageOf (r.items parts s) = r.rendered parts s := by
  induction parts generalizing start automatic s with
  | nil => rfl
  | cons part rest ih =>
    cases part with
    | literal t =>
      obtain ⟨-, ⟨v, rfl⟩, -, hRest⟩ := h
      simp [Resolver.items, messageOf_literalItems, unescape_escape, ih hRest]
    | placeholder p => simp [Resolver.items, Item.source, ih h.2]

theorem templateOf_items {start automatic : Nat} {parts : List Part}
    (h : Tiled start automatic parts) (r : Resolver σ) (s : σ) :
    templateOf (r.items parts s) = parts.flatMap Part.unindexed := by
  induction parts generalizing start automatic s with
  | nil => rfl
  | cons part rest ih =>
    cases part with
    | literal t =>
      obtain ⟨-, ⟨v, rfl⟩, -, hRest⟩ := h
      simp [Resolver.items, templateOf_literalItems, unescape_escape, ih hRest, Part.unindexed]
    | placeholder p =>
      simp [Resolver.items, Item.template, Answer.placeholder_argument, ih h.2, Part.unindexed]

theorem eventsOf_items (parts : List Part) (r : Resolver σ) (s : σ) :
    eventsOf (r.items parts s) = r.events (placeholdersOf parts) s := by
  induction parts generalizing s with
  | nil => rfl
  | cons part rest ih =>
    cases part with
    | literal t => simp [Resolver.items, eventsOf_literalItems, ih]
    | placeholder p => simp [Resolver.items, Resolver.events, Answer.event_argument, ih]

theorem wellFormed_items {start automatic : Nat} {parts : List Part}
    (h : Tiled start automatic parts) (r : Resolver σ) (s : σ) :
    ∀ item ∈ r.items parts s, item.WellFormed := by
  induction parts generalizing start automatic s with
  | nil => simp [Resolver.items]
  | cons part rest ih =>
    cases part with
    | literal t =>
      obtain ⟨-, -, -, hRest⟩ := h
      intro item hItem
      rcases List.mem_append.mp hItem with hItem | hItem
      · exact (stands_literalItems [] _).wellFormed item hItem
      · exact ih hRest s item hItem
    | placeholder p =>
      intro item hItem
      rcases List.mem_cons.mp hItem with rfl | hItem
      · exact Answer.wellFormed_argument h.1.isName _
      · exact ih h.2 _ item hItem

/-! ## Placeholders in front of delimiters -/

/-- The text of the template behind the placeholder. -/
def Placeholder.following (p : Placeholder) (template : Text) : Text :=
  (splitAtByte template (p.start + byteLength p.source)).2

/-- No placeholder is followed by a delimiter. -/
def Untouched : List Part → Prop
  | [] => True
  | .literal _ :: rest => Untouched rest
  | .placeholder _ :: rest => (sourceOf rest).head? ≠ some delimiter ∧ Untouched rest

theorem untouched_iff {automatic : Nat} {parts : List Part} (before : Text)
    (h : Tiled (byteLength before) automatic parts) :
    Untouched parts ↔ ∀ p ∈ placeholdersOf parts,
      (p.following (before ++ sourceOf parts)).head? ≠ some delimiter := by
  induction parts generalizing before automatic with
  | nil => simp [Untouched]
  | cons part rest ih =>
    cases part with
    | literal t =>
      obtain ⟨-, -, -, hRest⟩ := h
      rw [← byteLength_append] at hRest
      have hLater := ih (before ++ t) hRest
      rw [List.append_assoc] at hLater
      exact hLater
    | placeholder p =>
      obtain ⟨hFits, hRest⟩ := h
      rw [← byteLength_append] at hRest
      have hLater := ih (before ++ p.source) hRest
      rw [List.append_assoc] at hLater
      have hFollowing : p.following (before ++ (p.source ++ sourceOf rest)) = sourceOf rest := by
        rw [Placeholder.following, hFits.start_eq, ← byteLength_append, ← List.append_assoc,
          splitAtByte_byteLength]
      have hText : before ++ sourceOf (.placeholder p :: rest) =
          before ++ (p.source ++ sourceOf rest) := rfl
      rw [Untouched, hText, placeholdersOf_placeholder, List.forall_mem_cons, hFollowing, hLater]

/-- The message starts with a delimiter iff the template does. -/
theorem head?_rendered {start automatic : Nat} {parts : List Part}
    (h : Tiled start automatic parts) (r : Resolver σ) (s : σ) :
    (r.rendered parts s).head? = (sourceOf parts).head? := by
  cases parts with
  | nil => rfl
  | cons part rest =>
    cases part with
    | literal t =>
      cases t with
      | nil => exact absurd rfl h.1
      | cons c t => rfl
    | placeholder p => rfl

theorem stands_items_iff {start automatic : Nat} {parts : List Part}
    (h : Tiled start automatic parts) (r : Resolver σ) (s : σ) :
    Stands [] (r.items parts s) ↔ Untouched parts := by
  induction parts generalizing start automatic s with
  | nil => exact Iff.rfl
  | cons part rest ih =>
    cases part with
    | literal t =>
      obtain ⟨-, -, -, hRest⟩ := h
      rw [Resolver.items, stands_append, ih hRest s]
      exact and_iff_right (stands_literalItems _ _)
    | placeholder p =>
      have hArgument := Answer.wellFormed_argument h.1.isName (r p.index p.name s).1
      have hHead := head?_rendered h.2 r (r p.index p.name s).2
      rw [← messageOf_items h.2] at hHead
      have hBefore : ∀ a : Argument, (Item.argument a).Before
          (messageOf (r.items rest (r p.index p.name s).2) ++ []) ↔
            (sourceOf rest).head? ≠ some delimiter := by
        intro a
        rw [List.append_nil, Item.Before, hHead]
        exact ⟨fun hImplies => hImplies trivial, fun hNe _ => hNe⟩
      change Item.WellFormed (.argument ((r p.index p.name s).1.argument p.name)) ∧ _ ∧ _ ↔ _
      rw [hBefore, ih h.2, Untouched]
      exact and_iff_right hArgument

theorem grammatical_items_iff {parts : List Part} (h : Tiled 0 0 parts) (r : Resolver σ)
    (s : σ) :
    Grammatical (r.items parts s) ↔ ∀ p ∈ placeholdersOf parts,
      (p.following (sourceOf parts)).head? ≠ some delimiter := by
  rw [grammatical_iff_stands, stands_items_iff h, untouched_iff [] h, List.nil_append]

/-! ## The boundary -/

/-- Reading an expanded template gives one event for each placeholder, with the text that was
written for it or the text of its error, and the template without explicit indices, iff no
placeholder is followed by a delimiter. Otherwise the events are others, or reading fails. -/
theorem readMessage_expandInto_iff (t : Template) (r : Resolver σ) (s : σ) (room : Nat)
    (sink : Text) :
    let message := (expandInto (.withCapacity room) t.source r s).buffer.text
    let read : Read ε (List Event) := readMessage message (some sink) .recording []
    ((∀ p ∈ t.placeholders, (p.following t.source).head? ≠ some delimiter) ↔
      read = ⟨.ok (), some (sink ++ t.parts.flatMap Part.unindexed),
        r.events t.placeholders s⟩) ∧
    ((∃ p ∈ t.placeholders, (p.following t.source).head? = some delimiter) →
      read.result ≠ .ok () ∨ read.state ≠ r.events t.placeholders s) := by
  obtain ⟨source, parts, hScan⟩ := t
  obtain ⟨hTiled, rfl⟩ := scan_eq_ok_iff.mp hScan
  have hItems := wellFormed_items hTiled r s
  have hUntouched := grammatical_items_iff hTiled r s
  intro message read
  have hMessage : message = messageOf (r.items parts s) := by
    rw [messageOf_items hTiled]
    exact text_expandInto hScan _ r s
  have hRead : readMessage (messageOf (r.items parts s)) (some sink) .recording [] = read := by
    rw [← hMessage]
  have hEvents : r.events (placeholdersOf parts) s = eventsOf (r.items parts s) :=
    (eventsOf_items parts r s).symm
  refine ⟨⟨?_, ?_⟩, ?_⟩
  · intro hClear
    rw [← hRead, readMessage_recording (hUntouched.mpr hClear), templateOf_items hTiled,
      eventsOf_items]
    rfl
  · intro hSame
    refine hUntouched.mp (grammatical_of_recorded hItems hRead ?_ ?_)
    · rw [hSame]
    · rw [hSame, ← hEvents]
      rfl
  · rintro ⟨p, hp, hTouched⟩
    by_contra hNeither
    obtain ⟨hResult, hState⟩ := not_or.mp hNeither
    have hGrammatical := grammatical_of_recorded hItems hRead (not_not.mp hResult)
      ((not_not.mp hState).trans hEvents)
    exact hUntouched.mp hGrammatical p hp hTouched

/-- What a template with a placeholder right in front of a doubled delimiter was expanded to. The
argument runs on to the last delimiter. -/
example :
    (readMessage "`a:1```".toList none (Receiver.recording : Receiver Empty _) []).state =
      [.ofText ['a'] ['1', '`'] false] := by
  decide +kernel

end LogMarkup
