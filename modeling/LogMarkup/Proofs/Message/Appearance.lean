import Mathlib.Data.List.Induction
import Mathlib.Data.List.Nodup
import LogMarkup.Proofs.Message.Grouped

/-!
# Groups by first appearance

The events of a message grouped by their names. The groups stand in the order in which the names
first appear, and hold the values and errors of a name in the order of the message. The sorted map
of groups holds the same groups in another order.

* `groupsByAppearance`: the groups in closed form, and `foldl_addByAppearance`: adding one argument
  after another gives them.
* `perm_groupsOf`: the sorted map holds the same groups.
* `perm_flatMap_groups`: no event is lost or told twice.
-/

namespace LogMarkup

/-! ## Events by name -/

/-- What the event tells, without the name. -/
def Event.value (e : Event) : ArgValue := if e.isError then .error e.text else .value e.text

/-- The values and errors under a name, in the order of the events. -/
def valuesUnder (name : Text) (events : List Event) : List ArgValue :=
  (events.filter (·.name = name)).map Event.value

theorem valuesUnder_map_event (name : Text) (args : List Argument) :
    valuesUnder name (args.map Argument.event) = valuesNamed name args := by
  rw [valuesUnder, valuesNamed, List.filter_map, List.map_map]
  rfl

theorem valuesUnder_cons (name : Text) (e : Event) (events : List Event) :
    valuesUnder name (e :: events) =
      if e.name = name then e.value :: valuesUnder name events else valuesUnder name events := by
  by_cases hName : e.name = name <;> simp [valuesUnder, hName]

theorem valuesUnder_concat (name : Text) (events : List Event) (e : Event) :
    valuesUnder name (events ++ [e]) =
      if name = e.name then valuesUnder name events ++ [e.value] else valuesUnder name events := by
  by_cases hName : name = e.name
  · simp [valuesUnder, hName]
  · simp [valuesUnder, hName, Ne.symm hName]

/-- The values of the names, told one name after another. -/
def groupedBy (names : List Text) (events : List Event) : List (Text × ArgValue) :=
  names.flatMap fun name => (valuesUnder name events).map fun value => (name, value)

theorem groupedBy_cons (name : Text) (names : List Text) (events : List Event) :
    groupedBy (name :: names) events =
      (valuesUnder name events).map (fun value => (name, value)) ++ groupedBy names events :=
  List.flatMap_cons

/-- An event of another name has no part in the values of names. -/
theorem groupedBy_of_notMem {names : List Text} {e : Event} (h : e.name ∉ names)
    (events : List Event) : groupedBy names (e :: events) = groupedBy names events := by
  refine List.flatMap_congr ?_
  intro name hMem
  have hNe : e.name ≠ name := fun hEq => h (hEq ▸ hMem)
  rw [valuesUnder_cons, if_neg hNe]

/-- If each name is there once, each event is told once. -/
theorem perm_groupedBy {names : List Text} (hNodup : names.Nodup) {events : List Event}
    (hNames : ∀ e ∈ events, e.name ∈ names) :
    (groupedBy names events).Perm (events.map fun e => (e.name, e.value)) := by
  induction events with
  | nil => simp [groupedBy, valuesUnder]
  | cons e rest ih =>
    obtain ⟨hFirst, hRest⟩ := List.forall_mem_cons.mp hNames
    obtain ⟨before, after, rfl⟩ := List.append_of_mem hFirst
    have hOthers : e.name ∉ before ++ after := (List.nodup_cons.mp (List.nodup_middle.mp hNodup)).1
    have hFront : ∀ events, (groupedBy (before ++ e.name :: after) events).Perm
        (groupedBy (e.name :: (before ++ after)) events) :=
      fun _ => List.Perm.flatMap_right _ List.perm_middle
    calc
      (groupedBy (before ++ e.name :: after) (e :: rest)).Perm
          (groupedBy (e.name :: (before ++ after)) (e :: rest)) := hFront _
      _ = (e.name, e.value) :: groupedBy (e.name :: (before ++ after)) rest := by
        rw [groupedBy_cons, valuesUnder_cons, if_pos rfl, groupedBy_of_notMem hOthers,
          groupedBy_cons]
        rfl
      (List.Perm _ ((e.name, e.value) :: groupedBy (before ++ e.name :: after) rest)) :=
        (hFront rest).symm.cons _
      (List.Perm _ ((e :: rest).map fun e => (e.name, e.value))) := (ih hRest).cons _

/-! ## Groups by first appearance -/

theorem eraseDups_concat (names : List Text) (name : Text) :
    (names ++ [name]).eraseDups =
      if name ∈ names then names.eraseDups else names.eraseDups ++ [name] := by
  rw [List.eraseDups_append]
  by_cases hMem : name ∈ names <;> simp [List.removeAll, List.eraseDups_cons, hMem]

theorem nodup_eraseDups (names : List Text) : names.eraseDups.Nodup := by
  induction names using List.reverseRecOn with
  | nil => simp
  | append_singleton names name ih =>
    rw [eraseDups_concat]
    split
    · exact ih
    · rename_i hNew
      refine List.nodup_append.mpr ⟨ih, by simp, ?_⟩
      intro k hk l hl hEq
      obtain rfl : l = name := by simpa using hl
      exact hNew (List.mem_eraseDups.mp (hEq ▸ hk))

/-- The groups in the order in which their names first appear. -/
def groupsByAppearance (events : List Event) : List (Text × List ArgValue) :=
  (events.map Event.name).eraseDups.map fun name => (name, valuesUnder name events)

/-- A new name gets a group behind all others. -/
theorem addByAppearance_of_notMem {a : Argument} {groups : List (Text × List ArgValue)}
    (h : a.name ∉ groups.map Prod.fst) :
    addByAppearance a groups = groups ++ [(a.name, [.ofArgument a])] := by
  induction groups with
  | nil => rfl
  | cons group rest ih =>
    rw [List.map_cons, List.mem_cons, not_or] at h
    rw [addByAppearance, if_neg (Ne.symm h.1), ih h.2, List.cons_append]

/-- A value of a known name joins its group, and no other group changes. -/
theorem addByAppearance_of_mem {a : Argument} {names : List Text} (hNodup : names.Nodup)
    (values : Text → List ArgValue) (h : a.name ∈ names) :
    addByAppearance a (names.map fun name => (name, values name)) =
      names.map fun name =>
        (name, if name = a.name then values name ++ [.ofArgument a] else values name) := by
  induction names with
  | nil => cases h
  | cons name rest ih =>
    obtain ⟨hNew, hRest⟩ := List.nodup_cons.mp hNodup
    rw [List.map_cons, addByAppearance, List.map_cons]
    by_cases hName : name = a.name
    · rw [if_pos hName, if_pos hName]
      congr 1
      refine List.map_congr_left ?_
      intro other hOther
      have hNe : other ≠ a.name := fun hEq => hNew (hName ▸ hEq ▸ hOther)
      rw [if_neg hNe]
    · have hMem : a.name ∈ rest := (List.mem_cons.mp h).resolve_left (Ne.symm hName)
      rw [if_neg hName, if_neg hName, ih hRest hMem]

theorem addByAppearance_groups (a : Argument) (events : List Event) :
    addByAppearance a (groupsByAppearance events) = groupsByAppearance (events ++ [a.event]) := by
  have hNames : ((events ++ [a.event]).map Event.name).eraseDups =
      if a.name ∈ events.map Event.name then (events.map Event.name).eraseDups
      else (events.map Event.name).eraseDups ++ [a.name] := by
    rw [List.map_append]
    exact eraseDups_concat _ _
  have hValues : ∀ name, valuesUnder name (events ++ [a.event]) =
      if name = a.name then valuesUnder name events ++ [.ofArgument a]
      else valuesUnder name events := fun name => valuesUnder_concat name events a.event
  unfold groupsByAppearance
  simp only [hNames, hValues]
  by_cases hKnown : a.name ∈ events.map Event.name
  · rw [if_pos hKnown]
    exact addByAppearance_of_mem (nodup_eraseDups _) _ (List.mem_eraseDups.mpr hKnown)
  · have hNone : valuesUnder a.name events = [] := by simpa [valuesUnder] using hKnown
    have hFresh : a.name ∉ (events.map Event.name).eraseDups := mt List.mem_eraseDups.mp hKnown
    rw [if_neg hKnown, List.map_append, List.map_singleton, if_pos rfl, hNone, List.nil_append,
      addByAppearance_of_notMem (by simpa using hKnown)]
    congr 1
    refine List.map_congr_left ?_
    intro name hName
    have hNe : name ≠ a.name := fun hEq => hFresh (hEq ▸ hName)
    rw [if_neg hNe]

theorem foldl_addByAppearance (args : List Argument) :
    args.foldl (fun groups a => addByAppearance a groups) [] =
      groupsByAppearance (args.map Argument.event) := by
  induction args using List.reverseRecOn with
  | nil => rfl
  | append_singleton args a ih =>
    rw [List.foldl_concat, ih, addByAppearance_groups, List.map_append]
    rfl

theorem valuesUnder_ne_nil_iff {name : Text} {events : List Event} :
    valuesUnder name events ≠ [] ↔ name ∈ events.map Event.name := by
  simp [valuesUnder]

theorem mem_groupsByAppearance_iff {name : Text} {values : List ArgValue} {events : List Event} :
    (name, values) ∈ groupsByAppearance events ↔
      values = valuesUnder name events ∧ values ≠ [] := by
  rw [groupsByAppearance, List.mem_map]
  constructor
  · rintro ⟨k, hk, hEntry⟩
    obtain ⟨rfl, rfl⟩ := Prod.mk.inj hEntry
    exact ⟨rfl, valuesUnder_ne_nil_iff.mpr (List.mem_eraseDups.mp hk)⟩
  · rintro ⟨rfl, hNe⟩
    exact ⟨name, List.mem_eraseDups.mpr (valuesUnder_ne_nil_iff.mp hNe), rfl⟩

theorem nodup_groupsByAppearance (events : List Event) : (groupsByAppearance events).Nodup := by
  refine List.Nodup.map ?_ (nodup_eraseDups _)
  intro name other hEntry
  exact (Prod.mk.inj hEntry).1

/-! ## Groups by name -/

/-- The order of the names is all that tells the two maps of groups apart. -/
theorem perm_groupsOf (args : List Argument) :
    (groupsOf args).entries.Perm (groupsByAppearance (args.map Argument.event)) := by
  refine (List.perm_ext_iff_of_nodup (groupsOf args).nodup_entries
    (nodup_groupsByAppearance _)).mpr ?_
  rintro ⟨name, values⟩
  rw [TextMap.mem_entries_iff, lookup_groupsOf, mem_groupsByAppearance_iff, valuesUnder_map_event]
  by_cases hNone : valuesNamed name args = []
  · rw [if_pos hNone, hNone]
    constructor
    · intro h
      cases h
    · rintro ⟨hEq, hNe⟩
      exact absurd hEq hNe
  · rw [if_neg hNone, Option.some.injEq]
    constructor
    · rintro rfl
      exact ⟨rfl, hNone⟩
    · rintro ⟨rfl, -⟩
      rfl

/-- The groups tell each event once. -/
theorem perm_flatMap_groups (events : List Event) :
    ((groupsByAppearance events).flatMap fun (name, values) => values.map fun v => (name, v)).Perm
      (events.map fun e => (e.name, e.value)) := by
  rw [groupsByAppearance, List.flatMap_map]
  refine perm_groupedBy (nodup_eraseDups _) ?_
  intro e he
  exact List.mem_eraseDups.mpr (List.mem_map_of_mem he)

theorem readByAppearance_eq (message : Text) (template : Option Text) :
    readByAppearance message template =
      { result := match (readItems message).2 with
          | none => .ok (groupsByAppearance (eventsOf (readItems message).1))
          | some defect => .error (.defect defect)
        template := template.map (· ++ templateOf (readItems message).1) } := by
  rw [eventsOf_eq_map, ← foldl_addByAppearance]
  exact collect_taking message template addByAppearance []

end LogMarkup
