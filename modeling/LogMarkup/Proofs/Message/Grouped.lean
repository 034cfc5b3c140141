import LogMarkup.Message.Json
import LogMarkup.Proofs.Message.Reading

/-!
# Arguments by name

The arguments of a message as they are found under their names: in a map of groups, and in the
objects that messages are converted to.

* `TextMap.mem_entries_iff`, `TextSet.mem_keys_insertAll`: what sorted maps and sets hold.
* `lookup_groupsOf`: a group has the values of its name in the order of the message.
* `mem_fieldsOf_iff`: a field of an object has the texts of its name.
* `messageObject_eq`, `Json.mentions_objectOf_iff`: the object of a message, and its names.
-/

namespace LogMarkup

/-! ## Sorted maps -/

namespace TextMap

variable {α : Type}

theorem pairwise_keys (m : TextMap α) : m.keys.Pairwise (· < ·) := List.pairwise_map.mpr m.sorted

theorem nodup_entries (m : TextMap α) : m.entries.Nodup := by
  refine m.sorted.imp ?_
  rintro a b hLt rfl
  exact List.lt_irrefl a.1 hLt

theorem contains_eq_true_iff {m : TextMap α} {key : Text} :
    m.contains key = true ↔ key ∈ m.keys := by
  simp [contains, keys]

/-- An entry with a new key is put among the others. -/
theorem perm_alterEntries {key : Text} {f : Option α → α} {entries : List (Text × α)}
    (h : key ∉ entries.map Prod.fst) :
    (alterEntries key f entries).Perm (entries ++ [(key, f none)]) := by
  induction entries with
  | nil => exact .refl _
  | cons entry rest ih =>
    obtain ⟨k, v⟩ := entry
    rw [List.map_cons, List.mem_cons, not_or] at h
    rw [alterEntries]
    split
    · exact (List.perm_append_singleton _ _).symm
    · rw [if_neg h.1, List.cons_append]
      exact (ih h.2).cons _

theorem mem_iff_find? {entries : List (Text × α)} (h : entries.Pairwise fun a b => a.1 < b.1)
    {k : Text} {v : α} :
    (k, v) ∈ entries ↔ (entries.find? (·.1 = k)).map (·.2) = some v := by
  induction entries with
  | nil => simp
  | cons entry rest ih =>
    obtain ⟨k', v'⟩ := entry
    obtain ⟨hFirst, hRest⟩ := List.pairwise_cons.mp h
    rw [lookupEntries_cons, List.mem_cons, Prod.mk.injEq]
    by_cases hKey : k' = k
    · -- A smaller key than all others is not among them.
      have hOnce : (k, v) ∉ rest := fun hMem => List.lt_irrefl k (hKey ▸ hFirst (k, v) hMem)
      simp [hKey, hOnce, eq_comm]
    · simp [hKey, Ne.symm hKey, ih hRest]

theorem mem_entries_iff {m : TextMap α} {k : Text} {v : α} :
    (k, v) ∈ m.entries ↔ m.lookup k = some v := mem_iff_find? m.sorted

end TextMap

/-- Adds texts one after another. -/
def TextSet.insertAll (s : TextSet) (texts : List Text) : TextSet :=
  texts.foldl (fun s t => s.insert t ()) s

theorem TextSet.mem_keys_insertAll {s : TextSet} {texts : List Text} {t : Text} :
    t ∈ (s.insertAll texts).keys ↔ t ∈ s.keys ∨ t ∈ texts := by
  induction texts generalizing s with
  | nil => simp [insertAll]
  | cons first rest ih =>
    change t ∈ (TextSet.insertAll (s.insert first ()) rest).keys ↔ _
    rw [ih, TextMap.insert, TextMap.mem_keys_alter, List.mem_cons, or_assoc, or_left_comm]

/-! ## Groups -/

/-- The arguments of a list by name. -/
def groupsOf (args : List Argument) : ArgGroups :=
  args.foldl (fun groups a => groups.add a) .empty

/-- The values of one name. -/
def valuesNamed (name : Text) (args : List Argument) : List ArgValue :=
  (args.filter (·.name = name)).map .ofArgument

theorem valuesNamed_ne_nil_iff {name : Text} {args : List Argument} :
    valuesNamed name args ≠ [] ↔ ∃ a ∈ args, a.name = name := by
  simp [valuesNamed]

theorem lookup_foldl_add (args : List Argument) (groups : ArgGroups) (name : Text) :
    (args.foldl (fun groups a => groups.add a) groups).lookup name =
      if valuesNamed name args = [] then groups.lookup name
      else some ((groups.lookup name).getD [] ++ valuesNamed name args) := by
  induction args generalizing groups with
  | nil => simp [valuesNamed]
  | cons a rest ih =>
    rw [List.foldl_cons, ih, ArgGroups.add, TextMap.lookup_alter]
    by_cases hName : a.name = name
    · subst hName
      by_cases hRest : valuesNamed a.name rest = []
      · simp_all [valuesNamed]
      · simp_all [valuesNamed]
    · have hSame : valuesNamed name (a :: rest) = valuesNamed name rest := by
        simp [valuesNamed, hName]
      simp only [hSame, if_neg (Ne.symm hName)]

theorem lookup_groupsOf (args : List Argument) (name : Text) :
    (groupsOf args).lookup name =
      if valuesNamed name args = [] then none else some (valuesNamed name args) := by
  rw [groupsOf, lookup_foldl_add]
  rfl

theorem collect_taking {ε α : Type} (message : Text) (template : Option Text)
    (take : Argument → α → α) (none : α) :
    collect message template (Receiver.taking take : Receiver ε α) none =
      { result := match (readItems message).2 with
          | .none => .ok ((argumentsIn (readItems message).1).foldl (fun x a => take a x) none)
          | some defect => .error (.defect defect)
        template := template.map (· ++ templateOf (readItems message).1) } := by
  unfold collect
  rw [readMessage_taking]
  cases (readItems message).2 <;> rfl

theorem readGroups_eq (message : Text) (template : Option Text) :
    readGroups message template =
      { result := match (readItems message).2 with
          | none => .ok (groupsOf (argumentsIn (readItems message).1))
          | some defect => .error (.defect defect)
        template := template.map (· ++ templateOf (readItems message).1) } :=
  collect_taking message template ArgGroups.add TextMap.empty

/-! ## Objects -/

/-- Each value is told in one of the objects. -/
theorem texts_ne_nil_iff {values : List ArgValue} :
    valueTexts values ≠ [] ∨ errorTexts values ≠ [] ↔ values ≠ [] := by
  cases values with
  | nil => simp [valueTexts, errorTexts]
  | cons v rest => cases v <;> simp [valueTexts, errorTexts, ArgValue.isError]

theorem valueOfTexts_eq_none_iff {texts : List Text} : valueOfTexts texts = none ↔ texts = [] := by
  cases texts with
  | nil => exact iff_of_true rfl rfl
  | cons t rest => cases rest <;> exact iff_of_false nofun nofun

theorem mem_fieldsOf_iff {texts : List ArgValue → List Text} {groups : ArgGroups} {name : Text}
    {value : Json} :
    (name, value) ∈ fieldsOf texts groups ↔
      ∃ values, groups.lookup name = some values ∧ valueOfTexts (texts values) = some value := by
  simp only [fieldsOf, List.mem_filterMap, Option.map_eq_some_iff, Prod.mk.injEq]
  constructor
  · rintro ⟨⟨k, values⟩, hMem, v, hValue, rfl, rfl⟩
    exact ⟨values, TextMap.mem_entries_iff.mp hMem, hValue⟩
  · rintro ⟨values, hLookup, hValue⟩
    exact ⟨(name, values), TextMap.mem_entries_iff.mpr hLookup, value, hValue, rfl, rfl⟩

/-- The object of a message that is made of items. -/
def objectOf (items : List Item) : Json :=
  .object
    [("args".toList, .object (valuesObject (groupsOf (argumentsIn items)))),
     ("errors".toList, .object (errorsObject (groupsOf (argumentsIn items)))),
     ("template".toList, .text (templateOf items))]

theorem messageObject_eq (message : Text) :
    messageObject message = match (readItems message).2 with
      | none => .ok (objectOf (readItems message).1)
      | some defect => .error (.defect defect) := by
  unfold messageObject
  rw [readGroups_eq]
  cases (readItems message).2 <;> rfl

namespace Json

/-- The field of an object. -/
def field? (name : Text) : Json → Option Json
  | .object fields => (fields.find? (·.1 = name)).map (·.2)
  | _ => none

/-- Is the name a key of the values or of the errors? -/
def Mentions (object : Json) (name : Text) : Prop :=
  ∃ part ∈ ["args".toList, "errors".toList], ∃ inner,
    object.field? part = some inner ∧ (inner.field? name).isSome

theorem isSome_field?_object_iff {fields : List (Text × Json)} {name : Text} :
    ((Json.object fields).field? name).isSome ↔ ∃ value, (name, value) ∈ fields := by
  simp [field?]

theorem isSome_field?_fieldsOf_iff {texts : List ArgValue → List Text} {args : List Argument}
    {name : Text} :
    ((Json.object (fieldsOf texts (groupsOf args))).field? name).isSome ↔
      valuesNamed name args ≠ [] ∧ texts (valuesNamed name args) ≠ [] := by
  simp only [isSome_field?_object_iff, mem_fieldsOf_iff, lookup_groupsOf]
  constructor
  · rintro ⟨value, values, hLookup, hValue⟩
    split at hLookup
    · cases hLookup
    · rename_i hSome
      cases hLookup
      refine ⟨hSome, fun hNone => ?_⟩
      rw [valueOfTexts_eq_none_iff.mpr hNone] at hValue
      cases hValue
  · rintro ⟨hSome, hTexts⟩
    obtain ⟨value, hValue⟩ := Option.ne_none_iff_exists'.mp (mt valueOfTexts_eq_none_iff.mp hTexts)
    exact ⟨value, _, if_neg hSome, hValue⟩

/-- The object of a message mentions the names of all its arguments. -/
theorem mentions_objectOf_iff {items : List Item} {name : Text} :
    (objectOf items).Mentions name ↔ ∃ a ∈ argumentsIn items, a.name = name := by
  have hArgs : (objectOf items).field? "args".toList =
      some (.object (valuesObject (groupsOf (argumentsIn items)))) := rfl
  have hErrors : (objectOf items).field? "errors".toList =
      some (.object (errorsObject (groupsOf (argumentsIn items)))) := rfl
  have hParts : (objectOf items).Mentions name ↔
      ((Json.object (valuesObject (groupsOf (argumentsIn items)))).field? name).isSome ∨
        ((Json.object (errorsObject (groupsOf (argumentsIn items)))).field? name).isSome := by
    simp only [Mentions, List.mem_cons, List.not_mem_nil, or_false, exists_eq_or_imp,
      exists_eq_left, hArgs, hErrors, Option.some.injEq, exists_eq_left']
  rw [hParts, valuesObject, errorsObject, isSome_field?_fieldsOf_iff, isSome_field?_fieldsOf_iff,
    ← and_or_left, texts_ne_nil_iff, and_self, valuesNamed_ne_nil_iff]

end Json

end LogMarkup
