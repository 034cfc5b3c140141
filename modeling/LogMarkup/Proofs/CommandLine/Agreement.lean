import LogMarkup.Proofs.CommandLine.Lines
import LogMarkup.Proofs.Json.Print

/-!
# Commands that agree

What the commands find in an input in which they pass over the lines that are no messages. Each
goes through the lines in a way of its own, and still they tell the same of them. The objects are
known from what is printed of them, since each stands on a line and no other has its text.

* `shows_listNames`, `shows_filterLines`, `shows_convertLines`: what each command prints.
* `unlines_print_inj`: objects that are printed alike are the same.
* `Agreement`, `commands_agree`: what is listed is what can be searched for and what is converted.
-/

namespace LogMarkup.CommandLine

variable {α : Type}

/-- Does it succeed with the value after printing the text? -/
structure Outcome.Shows (x : Outcome α) (a : α) (t : Text) : Prop where
  result : x.result = .ok a
  printed : x.printed = t

/-! ## What is found in lines -/

def messagesOf (lines : List Text) : List Text := lines.filter IsMessage

theorem isMessage_of_mem {lines : List Text} {line : Text} (h : line ∈ messagesOf lines) :
    IsMessage line := by
  simpa using (List.mem_filter.mp h).2

/-- The messages that have an argument of one of the names. -/
def mentioning (names lines : List Text) : List Text := (messagesOf lines).filter (Matches names)

theorem mem_mentioning {names lines : List Text} {line : Text} :
    line ∈ mentioning names lines ↔ line ∈ messagesOf lines ∧ Matches names line := by
  simp [mentioning]

theorem matches_append {names others : List Text} {line : Text} :
    Matches (names ++ others) line ↔ Matches names line ∨ Matches others line := by
  simp only [Matches, List.mem_append, and_or_left, exists_or]

theorem matches_singleton {name line : Text} : Matches [name] line ↔ name ∈ namesIn line := by
  simp [Matches]

/-- The names that are found in messages. -/
def namesOf (lines : List Text) : TextSet := .ofList ((messagesOf lines).flatMap namesIn)

theorem mem_keys_namesOf {lines : List Text} {name : Text} :
    name ∈ (namesOf lines).keys ↔ ∃ line ∈ messagesOf lines, name ∈ namesIn line := by
  change name ∈ (TextSet.insertAll .empty _).keys ↔ _
  rw [TextSet.mem_keys_insertAll, List.mem_flatMap]
  exact or_iff_right List.not_mem_nil

theorem mentioning_singleton_ne_nil_iff {name : Text} {lines : List Text} :
    mentioning [name] lines ≠ [] ↔ name ∈ (namesOf lines).keys := by
  rw [mem_keys_namesOf]
  constructor
  · intro hSome
    obtain ⟨line, hLine⟩ := List.exists_mem_of_ne_nil _ hSome
    obtain ⟨hMessage, hMatches⟩ := mem_mentioning.mp hLine
    exact ⟨line, hMessage, matches_singleton.mp hMatches⟩
  · rintro ⟨line, hMessage, hName⟩
    have hLine : line ∈ mentioning [name] lines :=
      mem_mentioning.mpr ⟨hMessage, matches_singleton.mpr hName⟩
    exact List.ne_nil_of_mem hLine

/-- The objects of messages. -/
def objectsOf (lines : List Text) : List Json :=
  (messagesOf lines).map fun line => objectOf (readItems line).1

theorem mentions_iff_mem_namesIn {line name : Text} :
    (objectOf (readItems line).1).Mentions name ↔ name ∈ namesIn line := by
  rw [Json.mentions_objectOf_iff, namesIn_eq, List.mem_map]

theorem exists_mentions_iff {lines : List Text} {name : Text} :
    (∃ object ∈ objectsOf lines, object.Mentions name) ↔ name ∈ (namesOf lines).keys := by
  rw [mem_keys_namesOf]
  constructor
  · rintro ⟨object, hObject, hMentions⟩
    obtain ⟨line, hMessage, rfl⟩ := List.mem_map.mp hObject
    exact ⟨line, hMessage, mentions_iff_mem_namesIn.mp hMentions⟩
  · rintro ⟨line, hMessage, hName⟩
    exact ⟨_, List.mem_map_of_mem hMessage, mentions_iff_mem_namesIn.mpr hName⟩

/-! ## Texts of listings and lines -/

/-- The text of the names that were found. -/
def listing (source : Text) (names : List Text) : Text :=
  names.flatMap fun name => source ++ ": '".toList ++ name ++ "'\n".toList

/-- The text of one line after another. -/
def unlines (lines : List Text) : Text := lines.flatMap (· ++ ['\n'])

theorem unlines_ne_nil_iff {lines : List Text} : unlines lines ≠ [] ↔ lines ≠ [] := by
  cases lines <;> simp [unlines]

/-! ## Lines that are told apart -/

/-- A line without line feeds is known from a text that it is the first line of. -/
theorem line_append_inj {line line' r r' : Text} (h : '\n' ∉ line) (h' : '\n' ∉ line')
    (hSame : line ++ '\n' :: r = line' ++ '\n' :: r') : line = line' ∧ r = r' := by
  have hFirst : ∀ {t : Text} (s : Text), '\n' ∉ t →
      (t ++ '\n' :: s).takeWhile (· ≠ '\n') = t := by
    intro t s ht
    rw [List.takeWhile_append_of_pos]
    · simp
    · exact fun c hc => decide_eq_true (ne_of_mem_of_not_mem hc ht)
  obtain rfl : line = line' := by rw [← hFirst r h, hSame, hFirst r' h']
  exact ⟨rfl, (List.cons.inj (List.append_cancel_left hSame)).2⟩

/-- Texts without line feeds are known from what is printed when each is a line. -/
theorem eq_of_unlines_eq {texts others : List Text} (h : ∀ t ∈ texts, '\n' ∉ t)
    (h' : ∀ t ∈ others, '\n' ∉ t) (hSame : unlines texts = unlines others) : texts = others := by
  induction texts generalizing others with
  | nil =>
    cases others with
    | nil => rfl
    | cons u others => exact absurd hSame.symm (unlines_ne_nil_iff.mpr (List.cons_ne_nil _ _))
  | cons t texts ih =>
    cases others with
    | nil => exact absurd hSame (unlines_ne_nil_iff.mpr (List.cons_ne_nil _ _))
    | cons u others =>
      obtain ⟨hFirst, hRest⟩ := List.forall_mem_cons.mp h
      obtain ⟨hFirst', hRest'⟩ := List.forall_mem_cons.mp h'
      have hLines : t ++ '\n' :: unlines texts = u ++ '\n' :: unlines others := by
        simpa [unlines] using hSame
      obtain ⟨rfl, hTail⟩ := line_append_inj hFirst hFirst' hLines
      rw [ih hRest hRest' hTail]

theorem count_unlines {texts : List Text} (h : ∀ t ∈ texts, '\n' ∉ t) :
    (unlines texts).count '\n' = texts.length := by
  induction texts with
  | nil => rfl
  | cons t texts ih =>
    obtain ⟨hFirst, hRest⟩ := List.forall_mem_cons.mp h
    change (t ++ ['\n'] ++ unlines texts).count '\n' = _
    rw [List.count_append, List.count_append, List.count_eq_zero.mpr hFirst, ih hRest,
      List.length_cons]
    exact Nat.add_comm _ _

theorem newline_notMem_of_mem_print {objects : List Json} :
    ∀ t ∈ objects.map Json.print, '\n' ∉ t := by
  simp [Json.newline_notMem_print]

/-- Objects are known from what is printed when each is a line. -/
theorem unlines_print_inj {objects others : List Json} :
    unlines (objects.map Json.print) = unlines (others.map Json.print) ↔ objects = others := by
  constructor
  · intro h
    have hTexts : objects.map Json.print = others.map Json.print :=
      eq_of_unlines_eq newline_notMem_of_mem_print newline_notMem_of_mem_print h
    exact Json.print_injective.list_map hTexts
  · rintro rfl
    rfl

/-! ## What the commands print -/

theorem useInput_readable (use : Nat → Text → α → Outcome α) (source : Text) (lines : List Text)
    (a : α) : useInput use source ⟨lines, false⟩ a = useLines use 1 lines a :=
  Outcome.bind_done _

theorem foldl_count (p : Text → Prop) [DecidablePred p] (lines : List Text) (count : Nat) :
    lines.foldl (fun count line => if p line then count + 1 else count) count =
      count + (lines.filter p).length := by
  induction lines generalizing count with
  | nil => rfl
  | cons line rest ih =>
    by_cases hLine : p line
    · simp [ih, hLine, Nat.add_assoc, Nat.add_comm 1]
    · simp [ih, hLine]

theorem flatMap_chosen (p : Text → Prop) [DecidablePred p] (text : Text → Text)
    (lines : List Text) :
    lines.flatMap (fun line => if p line then text line else []) =
      (lines.filter p).flatMap text := by
  induction lines with
  | nil => rfl
  | cons line rest ih =>
    by_cases hLine : p line
    · simp [ih, hLine]
    · simp [ih, hLine]

theorem shows_listNames (source : Text) (lines : List Text) :
    (listNames false source ⟨lines, false⟩).Shows () (listing source (namesOf lines).keys) := by
  obtain ⟨hResult, hPrinted⟩ := (handles_addNames source).lenient 1 lines .empty
  have hNames : (messagesOf lines).foldl
      (fun names line => TextSet.insertAll names (namesIn line)) .empty = namesOf lines :=
    List.foldl_flatMap.symm
  change _ = Except.ok ((messagesOf lines).foldl _ _) at hResult
  rw [hNames] at hResult
  replace hPrinted := hPrinted.trans (List.flatMap_eq_nil_iff.mpr fun _ _ => rfl)
  rw [listNames, useInput_readable, Outcome.bind_of_ok hResult, hPrinted]
  exact ⟨rfl, rfl⟩

theorem shows_filterLines (names : List Text) (source : Text) (lines : List Text) :
    (filterLines names false source ⟨lines, false⟩).Shows (mentioning names lines).length
      (unlines (mentioning names lines)) := by
  obtain ⟨hResult, hPrinted⟩ := (handles_filterLine names source).lenient 1 lines 0
  rw [foldl_count, Nat.zero_add] at hResult
  rw [flatMap_chosen] at hPrinted
  rw [filterLines, useInput_readable]
  exact ⟨hResult, hPrinted⟩

theorem shows_convertLines (source : Text) (lines : List Text) :
    (convertLines false source ⟨lines, false⟩).Shows ()
      (unlines ((objectsOf lines).map Json.print)) := by
  obtain ⟨hResult, hPrinted⟩ := (handles_convertLine source).lenient 1 lines ()
  rw [convertLines, useInput_readable]
  refine ⟨hResult, hPrinted.trans ?_⟩
  rw [unlines, objectsOf, List.map_map, List.flatMap_map]
  rfl

/-! ## What they agree on -/

/-- What the commands tell of an input in which the names are listed and the objects are printed. -/
structure Agreement (source : Text) (lines listed : List Text) (objects : List Json) : Prop where
  sorted : listed.Pairwise (· < ·)
  mem_listed : ∀ name, name ∈ listed ↔ ∃ line ∈ messagesOf lines, name ∈ namesIn line
  names : (listNames false source ⟨lines, false⟩).Shows () (listing source listed)
  filter : ∀ names, (filterLines names false source ⟨lines, false⟩).Shows
    (mentioning names lines).length (unlines (mentioning names lines))
  converted : List.Forall₂ (fun line object => messageObject line = .ok object)
    (messagesOf lines) objects
  json : (convertLines false source ⟨lines, false⟩).Shows () (unlines (objects.map Json.print))
  /-- Each message gives one line. -/
  json_lines : (convertLines false source ⟨lines, false⟩).printed.count '\n' =
    (messagesOf lines).length
  /-- What is printed is the text of these objects and of no others. -/
  told_by_json : ∀ others : List Json,
    (convertLines false source ⟨lines, false⟩).printed = unlines (others.map Json.print) ↔
      objects = others
  /-- Other lines with the same messages are the same to every command. -/
  only_messages : ∀ others, messagesOf others = messagesOf lines →
    (listNames false source ⟨others, false⟩).Shows () (listing source listed) ∧
      (∀ names, (filterLines names false source ⟨others, false⟩).Shows
        (mentioning names lines).length (unlines (mentioning names lines))) ∧
      (convertLines false source ⟨others, false⟩).Shows () (unlines (objects.map Json.print))
  listed_iff_found : ∀ name,
    name ∈ listed ↔ (filterLines [name] false source ⟨lines, false⟩).printed ≠ []
  listed_iff_mentioned : ∀ name, name ∈ listed ↔ ∃ object ∈ objects, object.Mentions name
  mem_union : ∀ names others line, line ∈ mentioning (names ++ others) lines ↔
    line ∈ mentioning names lines ∨ line ∈ mentioning others lines

/-- In every input the commands find the same messages and the same names. -/
theorem commands_agree (source : Text) (lines : List Text) :
    ∃ listed objects, Agreement source lines listed objects := by
  refine ⟨(namesOf lines).keys, objectsOf lines, ?_⟩
  exact {
    sorted := TextMap.pairwise_keys _
    mem_listed := fun _ => mem_keys_namesOf
    names := shows_listNames source lines
    filter := fun names => shows_filterLines names source lines
    converted := by
      rw [objectsOf, List.forall₂_map_right_iff, List.forall₂_same]
      exact fun line hLine => messageObject_of_isMessage (isMessage_of_mem hLine)
    json := shows_convertLines source lines
    json_lines := by
      rw [(shows_convertLines source lines).printed, count_unlines newline_notMem_of_mem_print,
        List.length_map, objectsOf, List.length_map]
    told_by_json := by
      intro others
      rw [(shows_convertLines source lines).printed, unlines_print_inj]
    only_messages := by
      intro others hOthers
      have hNames : namesOf others = namesOf lines := by rw [namesOf, hOthers, namesOf]
      have hMentioning : ∀ names, mentioning names others = mentioning names lines := by
        intro names
        rw [mentioning, hOthers, mentioning]
      have hObjects : objectsOf others = objectsOf lines := by rw [objectsOf, hOthers, objectsOf]
      refine ⟨hNames ▸ shows_listNames source others, fun names => ?_,
        hObjects ▸ shows_convertLines source others⟩
      exact hMentioning names ▸ shows_filterLines names source others
    listed_iff_found := by
      intro name
      rw [(shows_filterLines [name] source lines).printed, unlines_ne_nil_iff,
        mentioning_singleton_ne_nil_iff]
    listed_iff_mentioned := fun _ => exists_mentions_iff.symm
    mem_union := by
      intro names others line
      simp only [mem_mentioning, matches_append, and_or_left] }

/-- An argument in front of a defect does not make a line be found. -/
example :
    (filterLines ["a".toList] false "log".toList
      ⟨["`a:1` `b".toList, "`a:2`".toList], false⟩).printed = "`a:2`\n".toList := by
  decide +kernel

end LogMarkup.CommandLine
