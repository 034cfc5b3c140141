import LogMarkup.Proofs.Json.Literal

/-!
# The text of JSON values

The text of a value tells where it ends: from whatever begins with it both the value and what stands
behind it are known. A string ends at a quote, and between the brackets of an array or an object the
texts of the parts follow one another, each of which tells where it ends. So no two values have the
same text. A line feed is in no text, since strings escape it.

* `Json.induction`: from the values in an array or an object to the array or the object.
* `TellsEnd`, `tellsEnd_print`, `print_injective`: a value is known from its text.
* `newline_notMem_print`: a value stands on one line.
-/

namespace LogMarkup

/-! ## Joined texts -/

theorem joinWith_cons (separator t : Text) (rest : List Text) :
    joinWith separator (t :: rest) = t ++ rest.flatMap (separator ++ ·) := by
  induction rest generalizing t with
  | nil => exact (List.append_nil t).symm
  | cons u rest ih =>
    change t ++ separator ++ joinWith separator (u :: rest) = _
    rw [ih, List.flatMap_cons, List.append_assoc, List.append_assoc]

theorem notMem_joinWith {c : Char} {separator : Text} {texts : List Text}
    (hSeparator : c ∉ separator) (hTexts : ∀ t ∈ texts, c ∉ t) :
    c ∉ joinWith separator texts := by
  cases texts with
  | nil => exact List.not_mem_nil
  | cons t rest =>
    obtain ⟨hFirst, hRest⟩ := List.forall_mem_cons.mp hTexts
    rw [joinWith_cons, List.mem_append, List.mem_flatMap]
    rintro (hMem | ⟨u, hu, hMem⟩)
    · exact hFirst hMem
    · exact (List.mem_append.mp hMem).elim hSeparator (hRest u hu)

namespace Json

variable {α : Type} {r r' : Text}

@[elab_as_elim]
theorem induction {motive : Json → Prop} (null : motive .null) (text : ∀ t, motive (.text t))
    (array : ∀ items, (∀ item ∈ items, motive item) → motive (.array items))
    (object : ∀ fields, (∀ field ∈ fields, motive field.2) → motive (.object fields)) (j : Json) :
    motive j :=
  match j with
  | .null => null
  | .text t => text t
  | .array items => array items fun item _ => induction null text array object item
  | .object fields => object fields fun field _ => induction null text array object field.2
termination_by j
decreasing_by
  · have := List.sizeOf_lt_of_mem ‹item ∈ items›
    simp only [Json.array.sizeOf_spec]
    omega
  · have := List.sizeOf_lt_of_mem ‹field ∈ fields›
    obtain ⟨name, value⟩ := field
    simp only [Json.object.sizeOf_spec, Prod.mk.sizeOf_spec] at this ⊢
    omega

/-! ## Texts that tell where they end -/

/-- Are the value and what stands behind its text known from both together? -/
def TellsEnd (f : α → Text) (a : α) : Prop := ∀ b r r', f a ++ r = f b ++ r' → a = b ∧ r = r'

theorem tellsEnd_stringLiteral (t : Text) : TellsEnd stringLiteral t := by
  intro t' r r' h
  have hRead := readLeading_stringLiteral t r
  rw [h, readLeading_stringLiteral] at hRead
  cases hRead
  exact ⟨rfl, rfl⟩

/-- Further parts of an array or an object, each behind a comma, up to the closing bracket. -/
theorem further_append_inj {f : α → Text} {close : Char} (hClose : close ≠ ',') {as bs : List α}
    (hTells : ∀ a ∈ as, TellsEnd f a)
    (h : as.flatMap (fun a => ',' :: f a) ++ close :: r =
      bs.flatMap (fun b => ',' :: f b) ++ close :: r') : as = bs ∧ r = r' := by
  induction as generalizing bs with
  | nil =>
    cases bs with
    | nil => exact ⟨rfl, (List.cons.inj h).2⟩
    | cons b bs => exact absurd (List.cons.inj h).1 hClose
  | cons a as ih =>
    cases bs with
    | nil => exact absurd (List.cons.inj h).1.symm hClose
    | cons b bs =>
      simp only [List.flatMap_cons, List.cons_append, List.append_assoc, List.cons.injEq,
        true_and] at h
      obtain ⟨hFirst, hRest⟩ := List.forall_mem_cons.mp hTells
      obtain ⟨rfl, hBehind⟩ := hFirst _ _ _ h
      obtain ⟨rfl, rfl⟩ := ih hRest hBehind
      exact ⟨rfl, rfl⟩

/-- The parts of an array or an object, none of which begins like the closing bracket. -/
theorem joined_append_inj {f : α → Text} {close : Char} (hClose : close ≠ ',')
    (hBegin : ∀ a, ∃ c rest, f a = c :: rest ∧ c ≠ close) {as bs : List α}
    (hTells : ∀ a ∈ as, TellsEnd f a)
    (h : joinWith [','] (as.map f) ++ close :: r = joinWith [','] (bs.map f) ++ close :: r') :
    as = bs ∧ r = r' := by
  have hJoined : ∀ a as, joinWith [','] ((a :: as).map f) =
      f a ++ as.flatMap fun b => ',' :: f b := by
    intro a as
    rw [List.map_cons, joinWith_cons, List.flatMap_map]
    rfl
  have hNone : ∀ a as s s', close :: s ≠ joinWith [','] ((a :: as).map f) ++ s' := by
    intro a as s s' hSame
    obtain ⟨c, rest, hForm, hOther⟩ := hBegin a
    rw [hJoined, hForm] at hSame
    exact hOther (List.cons.inj hSame).1.symm
  cases as with
  | nil =>
    cases bs with
    | nil => exact ⟨rfl, (List.cons.inj h).2⟩
    | cons b bs => exact absurd h (hNone b bs _ _)
  | cons a as =>
    cases bs with
    | nil => exact absurd h.symm (hNone a as _ _)
    | cons b bs =>
      obtain ⟨hFirst, hRest⟩ := List.forall_mem_cons.mp hTells
      rw [hJoined, hJoined, List.append_assoc, List.append_assoc] at h
      obtain ⟨rfl, hBehind⟩ := hFirst _ _ _ h
      obtain ⟨rfl, rfl⟩ := further_append_inj hClose hRest hBehind
      exact ⟨rfl, rfl⟩

/-! ## Values -/

theorem printItems_eq_map (items : List Json) : printItems items = items.map print := by
  induction items with
  | nil => rfl
  | cons item items ih => rw [printItems, ih, List.map_cons]

theorem printFields_eq_map (fields : List (Text × Json)) :
    printFields fields = fields.map printField := by
  induction fields with
  | nil => rfl
  | cons field fields ih => rw [printFields, ih, List.map_cons]

theorem print_array_append (items : List Json) (r : Text) :
    (Json.array items).print ++ r = '[' :: (joinWith [','] (items.map print) ++ ']' :: r) := by
  simp [print, printItems_eq_map]

theorem print_object_append (fields : List (Text × Json)) (r : Text) :
    (Json.object fields).print ++ r =
      '\x7b' :: (joinWith [','] (fields.map printField) ++ '\x7d' :: r) := by
  simp [print, printFields_eq_map]

/-- The character that the text of a value begins with. -/
def opening : Json → Char
  | .null => 'n'
  | .text _ => '"'
  | .array _ => '['
  | .object _ => '\x7b'

theorem exists_print_eq (j : Json) : ∃ rest, j.print = j.opening :: rest := by
  cases j with
  | null => exact ⟨_, rfl⟩
  | text t => exact ⟨_, by rw [print]; rfl⟩
  | array items => exact ⟨_, by rw [print]; rfl⟩
  | object fields => exact ⟨_, by rw [print]; rfl⟩

theorem opening_eq_of_print_append {j j' : Json} (h : j.print ++ r = j'.print ++ r') :
    j.opening = j'.opening := by
  obtain ⟨rest, hForm⟩ := j.exists_print_eq
  obtain ⟨rest', hForm'⟩ := j'.exists_print_eq
  rw [hForm, hForm'] at h
  exact (List.cons.inj h).1

theorem tellsEnd_printField {field : Text × Json} (h : TellsEnd print field.2) :
    TellsEnd printField field := by
  obtain ⟨name, value⟩ := field
  rintro ⟨name', value'⟩ r r' hSame
  simp only [printField, List.append_assoc, List.singleton_append] at hSame
  obtain ⟨rfl, hBehind⟩ := tellsEnd_stringLiteral name _ _ _ hSame
  obtain ⟨rfl, rfl⟩ := h _ _ _ (List.cons.inj hBehind).2
  exact ⟨rfl, rfl⟩

theorem tellsEnd_print (j : Json) : TellsEnd print j := by
  induction j using Json.induction with
  | null =>
    intro j' r r' h
    have hOpening := opening_eq_of_print_append h
    cases j' with
    | null => exact ⟨rfl, List.append_cancel_left h⟩
    | _ => simp [opening] at hOpening
  | text t =>
    intro j' r r' h
    have hOpening := opening_eq_of_print_append h
    cases j' with
    | text t' =>
      rw [print, print] at h
      obtain ⟨rfl, rfl⟩ := tellsEnd_stringLiteral t _ _ _ h
      exact ⟨rfl, rfl⟩
    | _ => simp [opening] at hOpening
  | array items ih =>
    intro j' r r' h
    have hOpening := opening_eq_of_print_append h
    cases j' with
    | array items' =>
      have hBegin : ∀ item : Json, ∃ c rest, item.print = c :: rest ∧ c ≠ ']' := by
        intro item
        obtain ⟨rest, hForm⟩ := item.exists_print_eq
        exact ⟨_, rest, hForm, by cases item <;> simp [opening]⟩
      rw [print_array_append, print_array_append] at h
      obtain ⟨rfl, rfl⟩ := joined_append_inj (by decide) hBegin ih (List.cons.inj h).2
      exact ⟨rfl, rfl⟩
    | _ => simp [opening] at hOpening
  | object fields ih =>
    intro j' r r' h
    have hOpening := opening_eq_of_print_append h
    cases j' with
    | object fields' =>
      have hBegin : ∀ field : Text × Json, ∃ c rest, printField field = c :: rest ∧ c ≠ '\x7d' :=
        fun field => ⟨'"', _, by rw [printField]; rfl, by decide⟩
      rw [print_object_append, print_object_append] at h
      obtain ⟨rfl, rfl⟩ := joined_append_inj (by decide) hBegin
        (fun field hField => tellsEnd_printField (ih field hField)) (List.cons.inj h).2
      exact ⟨rfl, rfl⟩
    | _ => simp [opening] at hOpening

/-- No two values have the same text. -/
theorem print_injective : Function.Injective print := fun j j' h =>
  (j.tellsEnd_print j' [] [] (by rw [h])).1

/-- A value stands on one line. -/
theorem newline_notMem_print (j : Json) : '\n' ∉ j.print := by
  induction j using Json.induction with
  | null => decide
  | text t =>
    rw [print]
    exact newline_notMem_stringLiteral t
  | array items ih =>
    have hItems : '\n' ∉ joinWith [','] (items.map print) :=
      notMem_joinWith (by decide) (by simpa using ih)
    simpa [print, printItems_eq_map] using hItems
  | object fields ih =>
    have hFields : '\n' ∉ joinWith [','] (fields.map printField) := by
      refine notMem_joinWith (by decide) (List.forall_mem_map.mpr ?_)
      rintro ⟨name, value⟩ hField
      simpa [printField, newline_notMem_stringLiteral] using ih _ hField
    simpa [print, printFields_eq_map] using hFields

end Json

end LogMarkup
