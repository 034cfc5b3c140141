import Mathlib.Data.List.Chain
import LogMarkup.Message.Item
import LogMarkup.Proofs.Escape

/-!
# The grammar of messages

A message is a sequence of well-formed items in which no argument is followed by a delimiter:
the delimiter that closes the argument would be taken for one of a doubled pair.

* `Grammatical`: such sequences, said of neighbouring items.
* `Stands`: the same for items in front of more text, which is what reading needs. Sequences in
  front of the empty text are the grammatical ones (`grammatical_iff_stands`).
* `Argument.read_eq_ok_iff`, `Item.read_eq_ok_iff`: reading gives an item and a rest iff the item
  is well-formed and stands in front of the rest.
-/

namespace LogMarkup

/-! ## Well-formed items -/

/-- A text that can be the name of an argument. -/
structure IsName (t : Text) : Prop where
  ne_nil : t ≠ []
  endsName_eq_false : ∀ c ∈ t, endsName c = false

structure Argument.WellFormed (a : Argument) : Prop where
  isName : IsName a.name
  written : ∃ v, a.written = escape v

def Item.WellFormed : Item → Prop
  | .plain c => c ≠ delimiter
  | .doubled => True
  | .argument a => a.WellFormed

def Item.IsArgument : Item → Prop
  | .argument _ => True
  | _ => False

structure Grammatical (items : List Item) : Prop where
  wellFormed : ∀ item ∈ items, item.WellFormed
  apart : items.IsChain fun item next => item.IsArgument → next.source.head? ≠ some delimiter

/-- The text that is made of items. -/
def messageOf (items : List Item) : Text := items.flatMap Item.source

/-- The template of the message that is made of items. -/
def templateOf (items : List Item) : Text := items.flatMap Item.template

@[simp] theorem messageOf_nil : messageOf [] = [] := rfl

@[simp] theorem messageOf_cons (item : Item) (items : List Item) :
    messageOf (item :: items) = item.source ++ messageOf items := List.flatMap_cons

@[simp] theorem messageOf_append (items more : List Item) :
    messageOf (items ++ more) = messageOf items ++ messageOf more := List.flatMap_append

@[simp] theorem templateOf_nil : templateOf [] = [] := rfl

@[simp] theorem templateOf_cons (item : Item) (items : List Item) :
    templateOf (item :: items) = item.template ++ templateOf items := List.flatMap_cons

@[simp] theorem templateOf_append (items more : List Item) :
    templateOf (items ++ more) = templateOf items ++ templateOf more := List.flatMap_append

/-! ## Items in front of a text -/

/-- The item remains as it is when `after` follows. -/
def Item.Before (item : Item) (after : Text) : Prop :=
  item.IsArgument → after.head? ≠ some delimiter

def Stands (after : Text) : List Item → Prop
  | [] => True
  | item :: rest => item.WellFormed ∧ item.Before (messageOf rest ++ after) ∧ Stands after rest

theorem stands_append {after : Text} {items more : List Item} :
    Stands after (items ++ more) ↔
      Stands (messageOf more ++ after) items ∧ Stands after more := by
  induction items with
  | nil => simp [Stands]
  | cons item rest ih => simp [Stands, ih, and_assoc]

theorem Stands.wellFormed {after : Text} {items : List Item} (h : Stands after items) :
    ∀ item ∈ items, item.WellFormed := by
  induction items with
  | nil => simp
  | cons item rest ih =>
    intro i hi
    rcases List.mem_cons.mp hi with rfl | hi
    · exact h.1
    · exact ih h.2.2 i hi

theorem Stands.nil_of {after : Text} {items : List Item} (h : Stands after items) :
    Stands [] items := by
  induction items with
  | nil => trivial
  | cons item rest ih =>
    obtain ⟨hItem, hBefore, hRest⟩ := h
    refine ⟨hItem, ?_, ih hRest⟩
    intro hArgument
    have hHead := hBefore hArgument
    cases hText : messageOf rest with
    | nil => simp
    | cons c t => simpa [hText] using hHead

theorem Item.head?_source_append (item : Item) (t : Text) :
    (item.source ++ t).head? = item.source.head? := by
  cases hSource : item.source with
  | nil => exact absurd hSource item.source_ne_nil
  | cons c rest => rfl

theorem grammatical_iff_stands {items : List Item} : Grammatical items ↔ Stands [] items := by
  induction items with
  | nil => exact ⟨fun _ => trivial, fun _ => ⟨by simp, .nil⟩⟩
  | cons item rest ih =>
    have hHead : (∀ next ∈ rest.head?, item.IsArgument → next.source.head? ≠ some delimiter) ↔
        item.Before (messageOf rest ++ []) := by
      cases rest with
      | nil => simp [Item.Before]
      | cons next more =>
        have hSource : (messageOf (next :: more) ++ []).head? = next.source.head? := by
          rw [messageOf_cons, List.append_assoc, next.head?_source_append]
        rw [Item.Before, hSource]
        simp
    constructor
    · rintro ⟨hItems, hChain⟩
      rw [List.isChain_cons] at hChain
      have hRest : Grammatical rest := ⟨fun i hi => hItems i (List.mem_cons_of_mem _ hi), hChain.2⟩
      exact ⟨hItems item List.mem_cons_self, hHead.mp hChain.1, ih.mp hRest⟩
    · intro hStands
      obtain ⟨-, hChain⟩ := ih.mpr hStands.2.2
      exact ⟨hStands.wellFormed, List.isChain_cons.mpr ⟨hHead.mpr hStands.2.1, hChain⟩⟩

/-! ## Reading arguments -/

theorem endsName_eq_true_iff {c : Char} :
    endsName c = true ↔ c = nameSeparator ∨ c = errorMarker ∨ c = delimiter := by
  simp [endsName, or_assoc]

theorem IsName.head?_append_ne {name : Text} (h : IsName name) {d : Char}
    (hd : endsName d = true) (t : Text) : (name ++ t).head? ≠ some d := by
  cases name with
  | nil => exact absurd rfl h.ne_nil
  | cons c rest =>
    have hc := h.endsName_eq_false c List.mem_cons_self
    rintro hHead
    obtain rfl : c = d := by simpa using hHead
    rw [hd] at hc
    cases hc

theorem takeWhile_name {name t : Text} (hName : ∀ c ∈ name, endsName c = false)
    (hEnd : ∀ c ∈ t.head?, endsName c = true) :
    (name ++ t).takeWhile (!endsName ·) = name := by
  rw [List.takeWhile_append_of_pos (by simpa using hName)]
  cases t with
  | nil => simp
  | cons c rest => simp [hEnd c (by simp)]

theorem dropWhile_name {name t : Text} (hName : ∀ c ∈ name, endsName c = false)
    (hEnd : ∀ c ∈ t.head?, endsName c = true) :
    (name ++ t).dropWhile (!endsName ·) = t := by
  rw [List.dropWhile_append_of_pos (by simpa using hName)]
  cases t with
  | nil => simp
  | cons c rest => simp [hEnd c (by simp)]

theorem Argument.readValue_eq_ok_iff {start : Nat} {name rest after : Text} {a : Argument} :
    Argument.readValue start name rest = .ok (a, after) ↔
      ∃ v, a = ⟨name, escape v, false⟩ ∧ rest = escape v ++ delimiter :: after ∧
        after.head? ≠ some delimiter := by
  unfold Argument.readValue
  constructor
  · intro h
    split at h
    · cases h
    · rename_i written tail hCut
      cases h
      obtain ⟨hRest, ⟨v, rfl⟩, hAfter⟩ := cutSingle_eq_some_iff.mp hCut
      exact ⟨v, rfl, hRest, hAfter⟩
  · rintro ⟨v, rfl, rfl, hAfter⟩
    rw [cutSingle_escape_append v hAfter]

theorem Argument.readError_eq_ok_iff {start marker : Nat} {name rest after : Text}
    {a : Argument} :
    Argument.readError start marker name rest = .ok (a, after) ↔
      ∃ v, a = ⟨name, escape v, true⟩ ∧ rest = '(' :: escape v ++ ')' :: delimiter :: after ∧
        after.head? ≠ some delimiter := by
  constructor
  · intro h
    unfold Argument.readError at h
    split at h
    · cases h
    · rename_i c body
      split at h
      · rename_i hc
        split at h
        · cases h
        · rename_i inner tail hCut
          obtain ⟨rfl, ⟨w, rfl⟩, hAfter⟩ := cutSingle_eq_some_iff.mp hCut
          split at h
          · cases h
          · rename_i last hLast
            split at h
            · rename_i hParen
              cases h
              obtain ⟨before, hBefore⟩ := List.getLast?_eq_some_iff.mp hLast
              have hNe : last ≠ delimiter := by rw [hParen]; decide
              obtain ⟨v, rfl, -⟩ := exists_escape_of_concat hNe hBefore
              refine ⟨v, ?_, ?_, hAfter⟩
              · simp [hBefore]
              · simp [hBefore, hParen, hc]
            · cases h
      · cases h
  · rintro ⟨v, rfl, rfl, hAfter⟩
    have hInner : escape v ++ ')' :: delimiter :: after =
        escape (v ++ [')']) ++ delimiter :: after := by
      rw [escape_append]
      simp [escape, delimiter]
    have hLast : escape (v ++ [')']) = escape v ++ [')'] := by
      rw [escape_append]
      rfl
    simp only [Argument.readError, List.cons_append, if_true, hInner,
      cutSingle_escape_append (v ++ [')']) hAfter]
    simp [hLast]

/-- Every text is cut in one way into a name and what ends it. -/
theorem exists_name_append (rest : Text) :
    ∃ name t, rest = name ++ t ∧ (∀ c ∈ name, endsName c = false) ∧
      ∀ c ∈ t.head?, endsName c = true := by
  refine ⟨rest.takeWhile (!endsName ·), rest.dropWhile (!endsName ·), ?_, ?_, ?_⟩
  · exact List.takeWhile_append_dropWhile.symm
  · intro c hc
    have hAll := List.all_takeWhile (p := (!endsName ·)) (l := rest)
    simpa using List.all_eq_true.mp hAll c hc
  · intro c hc
    have hHead := List.head?_dropWhile_not (!endsName ·) rest
    rw [Option.mem_def.mp hc] at hHead
    simpa using hHead

theorem Argument.read_append {start : Nat} {name t : Text}
    (hName : ∀ c ∈ name, endsName c = false) (hEnd : ∀ c ∈ t.head?, endsName c = true) :
    Argument.read start (name ++ t) = Argument.readNamed start name t := by
  rw [Argument.read, takeWhile_name hName hEnd, dropWhile_name hName hEnd]

theorem Argument.readNamed_separator {start : Nat} {name : Text} (hName : name ≠ [])
    (rest : Text) :
    Argument.readNamed start name (nameSeparator :: rest) =
      Argument.readValue start name rest := by
  simp [Argument.readNamed, hName, nameSeparator, delimiter, errorMarker]

theorem Argument.readNamed_marker {start : Nat} {name : Text} (hName : name ≠ [])
    (rest : Text) :
    Argument.readNamed start name (errorMarker :: rest) =
      Argument.readError start (start + 1 + byteLength name) name rest := by
  simp [Argument.readNamed, hName, delimiter, errorMarker]

theorem Argument.read_eq_ok_iff {start : Nat} {rest after : Text} {a : Argument} :
    Argument.read start rest = .ok (a, after) ↔
      a.WellFormed ∧ delimiter :: rest = a.source ++ after ∧ after.head? ≠ some delimiter := by
  constructor
  · intro h
    have hSource := Argument.source_of_read h
    obtain ⟨name, t, rfl, hName, hEnd⟩ := exists_name_append rest
    rw [Argument.read_append hName hEnd] at h
    unfold Argument.readNamed at h
    split at h
    · cases h
    · rename_i c tail
      split at h
      · cases h
      · split at h
        · cases h
        · rename_i hNe
          split at h
          · obtain ⟨v, rfl, -, hAfter⟩ := Argument.readError_eq_ok_iff.mp h
            exact ⟨⟨⟨hNe, hName⟩, v, rfl⟩, hSource, hAfter⟩
          · obtain ⟨v, rfl, -, hAfter⟩ := Argument.readValue_eq_ok_iff.mp h
            exact ⟨⟨⟨hNe, hName⟩, v, rfl⟩, hSource, hAfter⟩
  · rintro ⟨⟨hName, v, hWritten⟩, hSource, hAfter⟩
    obtain ⟨name, written, isError⟩ := a
    obtain rfl : written = escape v := hWritten
    cases isError with
    | true =>
      have hRest : rest = name ++ errorMarker :: ('(' :: escape v ++ ')' :: delimiter :: after) := by
        simpa [Argument.source] using hSource
      rw [hRest, Argument.read_append hName.endsName_eq_false (by simp [endsName]),
        Argument.readNamed_marker hName.ne_nil]
      exact Argument.readError_eq_ok_iff.mpr ⟨v, rfl, rfl, hAfter⟩
    | false =>
      have hRest : rest = name ++ nameSeparator :: (escape v ++ delimiter :: after) := by
        simpa [Argument.source] using hSource
      rw [hRest, Argument.read_append hName.endsName_eq_false (by simp [endsName]),
        Argument.readNamed_separator hName.ne_nil]
      exact Argument.readValue_eq_ok_iff.mpr ⟨v, rfl, rfl, hAfter⟩

/-! ## Reading items -/

/-- The opening delimiter of an argument is not doubled. -/
theorem Argument.WellFormed.head?_tail_ne {a : Argument} (h : a.WellFormed) {rest t : Text}
    (hSource : delimiter :: rest = a.source ++ t) : rest.head? ≠ some delimiter := by
  have hRest : rest = a.name ++ ((if a.isError then errorMarker :: '(' :: a.written ++ [')']
      else nameSeparator :: a.written) ++ [delimiter] ++ t) := by
    simpa [Argument.source] using hSource
  rw [hRest]
  exact h.isName.head?_append_ne rfl _

theorem Item.read_eq_ok_iff {start : Nat} {c : Char} {rest after : Text} {item : Item} :
    Item.read start c rest = .ok (item, after) ↔
      item.WellFormed ∧ c :: rest = item.source ++ after ∧ item.Before after := by
  constructor
  · intro h
    have hSource := Item.source_of_read h
    unfold Item.read at h
    split at h
    · split at h
      · cases h
      · rename_i d tail
        split at h
        · cases h
          exact ⟨trivial, hSource, False.elim⟩
        · cases hRead : Argument.read start (d :: tail) with
          | error defect => simp [hRead, Except.map] at h
          | ok result =>
            simp only [hRead, Except.map, Except.ok.injEq, Prod.mk.injEq] at h
            obtain ⟨rfl, rfl⟩ := h
            obtain ⟨hArgument, -, hAfter⟩ := Argument.read_eq_ok_iff.mp hRead
            exact ⟨hArgument, hSource, fun _ => hAfter⟩
    · rename_i hc
      cases h
      exact ⟨hc, hSource, False.elim⟩
  · rintro ⟨hItem, hSource, hBefore⟩
    cases item with
    | plain d =>
      obtain ⟨rfl, rfl⟩ : c = d ∧ rest = after := by simpa [Item.source] using hSource
      simp [Item.read, show c ≠ delimiter from hItem]
    | doubled =>
      obtain ⟨rfl, rfl⟩ : c = delimiter ∧ rest = delimiter :: after := by
        simpa [Item.source] using hSource
      simp [Item.read]
    | argument a =>
      obtain rfl : c = delimiter := by
        have hHead := congrArg List.head? hSource
        simpa [Item.source, Argument.source] using hHead
      have hOpen := Argument.WellFormed.head?_tail_ne hItem hSource
      have hRead : Argument.read start rest = .ok (a, after) :=
        Argument.read_eq_ok_iff.mpr ⟨hItem, hSource, hBefore trivial⟩
      cases rest with
      | nil => simp [Item.source, Argument.source] at hSource
      | cons d tail =>
        have hd : d ≠ delimiter := by simpa using hOpen
        simp [Item.read, hd, hRead, Except.map]

end LogMarkup
