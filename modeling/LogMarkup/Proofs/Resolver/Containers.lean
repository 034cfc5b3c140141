import LogMarkup.TextMap
import LogMarkup.Proofs.Resolver.Choice
import LogMarkup.Proofs.Resolver.Redaction
import LogMarkup.Proofs.Template.Reindexed

/-!
# Containers of named values

Values are kept under names in lists of entries and in maps. A list is searched for the first entry
of a name; a map holds the value that was stored last. What a container answers depends only on what
it finds under the name, so the index of an argument has an influence where nothing is found, and
only on what is reported then.

* `Container`, `Container.resolver`: the containers and how they resolve arguments.
* `ListKind.holding`, `MapKind.filled`: entries kept in a list, or stored in order in a map.
* `Container.lookup_holding`, `Container.lookup_filled`: the first entry of a name or the last.
* `Container.Reasked`: the calls for a placeholder before and after its index is changed.
* `containers_agree`: when containers agree, and how much the indices in a template matter.
-/

namespace LogMarkup

variable {σ : Type}

/-! ## Containers -/

/-- Values under names. A key counts as its text, whether it owns the text or borrows it. -/
inductive Container where
  | slice (entries : List (Text × Value))
  | array {n : Nat} (entries : Vector (Text × Value) n)
  | vec (entries : Array (Text × Value))
  /-- A hash map, with any hash function. -/
  | hashed {hash : Hashable Text} (m : Std.HashMap Text Value)
  /-- A map in the order of its keys. -/
  | sorted (m : TextMap Value)
  /-- A map in the order in which its keys came. -/
  | ordered (d : Dictionary)

/-- The value under a name. -/
def Container.lookup : Container → Text → Option Value
  | .slice entries, name => findEntry entries name
  | .array entries, name => findEntry entries.toList name
  | .vec entries, name => findEntry entries.toList name
  | .hashed m, name => m[name]?
  | .sorted m, name => m.lookup name
  | .ordered d, name => d.lookup name

def Container.resolver : Container → Resolver σ
  | .slice entries => .named entries
  | .array entries => .named entries.toList
  | .vec entries => .named entries.toList
  | .hashed m => .answering fun index name => .ofFound index name m[name]?
  | .sorted m => .answering fun index name => .ofFound index name (m.lookup name)
  | .ordered d => .dictionary d

inductive ListKind where
  | slice
  | array
  | vec

/-- A container that keeps the entries as they are. -/
def ListKind.holding : ListKind → List (Text × Value) → Container
  | .slice, entries => .slice entries
  | .array, entries => .array entries.toArray.toVector
  | .vec, entries => .vec entries.toArray

inductive MapKind where
  | hashed (hash : Hashable Text)
  | sorted
  | ordered

/-- A container in which the entries were stored in order. -/
def MapKind.filled : MapKind → List (Text × Value) → Container
  | .hashed hash, entries =>
    @Container.hashed hash (entries.foldl (fun m (name, v) => m.insert name v) ∅)
  | .sorted, entries =>
    .sorted (entries.foldl (fun m (name, v) => m.insert name v) TextMap.empty)
  | .ordered, entries => .ordered (Dictionary.ofEntries entries)

/-! ## Entries -/

theorem findEntry_append_eq (front back : List (Text × Value)) (name : Text) :
    findEntry (front ++ back) name = (findEntry front name).or (findEntry back name) := by
  simp [findEntry, List.find?_append, Option.map_or]

/-- Where names are distinct the order of entries does not count. -/
theorem findEntry_reverse {entries : List (Text × Value)} (h : (entries.map Prod.fst).Nodup)
    (name : Text) : findEntry entries.reverse name = findEntry entries name := by
  induction entries with
  | nil => rfl
  | cons entry rest ih =>
    obtain ⟨n, v⟩ := entry
    obtain ⟨hNew, hRest⟩ := List.nodup_cons.mp h
    rw [List.reverse_cons, findEntry_append_eq, ih hRest, Dictionary.findEntry_cons,
      Dictionary.findEntry_cons]
    by_cases hName : n = name
    · have hNone : findEntry rest name = none := findEntry_eq_none_iff.mpr (hName ▸ hNew)
      rw [hNone, Option.none_or, if_pos hName, if_pos hName]
    · rw [if_neg hName, if_neg hName]
      exact Option.or_none

theorem findEntry_reverse_append {before after : List (Text × Value)} {name : Text} {v : Value}
    (h : name ∉ after.map Prod.fst) :
    findEntry (before ++ (name, v) :: after).reverse name = some v := by
  have hReverse : (before ++ (name, v) :: after).reverse =
      after.reverse ++ (name, v) :: before.reverse := by simp
  rw [hReverse]
  exact findEntry_append (by simpa using h)

namespace Container

theorem lookup_holding (kind : ListKind) (entries : List (Text × Value)) (name : Text) :
    (kind.holding entries).lookup name = findEntry entries name := by
  cases kind <;> rfl

theorem lookup_filled (kind : MapKind) (entries : List (Text × Value)) (name : Text) :
    (kind.filled entries).lookup name = findEntry entries.reverse name := by
  cases kind with
  | hashed hash =>
    have hInsert : ∀ (m : Std.HashMap Text Value) n name v,
        (m.insert n v)[name]? = if n = name then some v else m[name]? := by
      intro m n name v
      simp [Std.HashMap.getElem?_insert]
    exact (lookup_foldl hInsert entries ∅ name).trans (by simp)
  | sorted =>
    have hInsert : ∀ (m : TextMap Value) n name v,
        (m.insert n v).lookup name = if n = name then some v else m.lookup name := by
      intro m n name v
      rw [TextMap.insert, TextMap.lookup_alter]
      simp only [eq_comm]
    exact (lookup_foldl hInsert entries TextMap.empty name).trans Option.or_none
  | ordered => exact Dictionary.lookup_ofEntries entries name

/-! ## Answers -/

variable (c : Container) (index : Nat) {name : Text} {v : Value} (s : σ)

theorem resolver_apply :
    c.resolver index name s = (.ofFound index name (c.lookup name), s) := by
  cases c <;> rfl

theorem resolver_congr {first second : Container}
    (h : ∀ name, first.lookup name = second.lookup name) :
    (first.resolver : Resolver σ) = second.resolver := by
  funext index name s
  rw [resolver_apply, resolver_apply, h]

variable {c}

/-- The index is ignored where there is a value. -/
theorem resolver_of_some (h : c.lookup name = some v) :
    c.resolver index name s = (.ofValue v, s) := by
  rw [resolver_apply, h]
  rfl

theorem resolver_of_none (h : c.lookup name = none) :
    c.resolver index name s = (.fail (.missing index name), s) := by
  rw [resolver_apply, h]
  rfl

theorem resolveInto_of_some (h : c.lookup name = some v) (b : Buffer) :
    c.resolver.resolveInto b index name s =
      ⟨v.writing.result.mapError fun _ => .format, b.writeAll v.writing.chunks, s⟩ := by
  rw [Resolver.resolveInto_eq, resolver_of_some index s h]
  rfl

/-- Nothing is written for a name that is absent. -/
theorem resolveInto_of_none (h : c.lookup name = none) (b : Buffer) :
    c.resolver.resolveInto b index name s = ⟨.error (.missing index name), b, s⟩ := by
  rw [Resolver.resolveInto_eq, resolver_of_none index s h]
  rfl

/-! ## Templates -/

variable {choose : Placeholder → Option Text}

/-- The calls for a placeholder and for the same placeholder with the chosen digits, with what a
container answers. For a name that it has the answers are the same, and for one that it has not
each tells its own index. -/
structure Reasked (c : Container) (choose : Placeholder → Option Text)
    (call other : Placeholder × Answer) : Prop where
  name_eq : other.1.name = call.1.name
  digits_eq : other.1.digits = choose call.1
  of_present : ∀ v, c.lookup call.1.name = some v → call.2 = .ofValue v ∧ other.2 = .ofValue v
  of_absent : c.lookup call.1.name = none →
    call.2 = .fail (.missing call.1.index call.1.name) ∧
      other.2 = .fail (.missing other.1.index other.1.name)

theorem reasked (c : Container) {p q : Placeholder} (hName : q.name = p.name)
    (hDigits : q.digits = choose p) (s : σ) :
    c.Reasked choose (p, (c.resolver p.index p.name s).1)
      (q, (c.resolver q.index q.name s).1) where
  name_eq := hName
  digits_eq := hDigits
  of_present v h := by
    have hOther : c.lookup q.name = some v := hName ▸ h
    exact ⟨by rw [resolver_of_some _ s h], by rw [resolver_of_some _ s hOther]⟩
  of_absent h := by
    have hOther : c.lookup q.name = none := hName ▸ h
    exact ⟨by rw [resolver_of_none _ s h], by rw [resolver_of_none _ s hOther]⟩

/-- No state is kept, so the calls do not depend on each other. -/
theorem forall₂_reasked (c : Container) {placeholders others : List Placeholder}
    (h : List.Forall₂ (fun p q => q.name = p.name ∧ q.digits = choose p) placeholders others)
    (s : σ) :
    List.Forall₂ (c.Reasked choose) (c.resolver.ask placeholders s).1
      (c.resolver.ask others s).1 := by
  induction h with
  | nil => exact .nil
  | @cons p q _ _ hPair _ ih =>
    have hState : ∀ p : Placeholder, (c.resolver p.index p.name s).2 = s := fun p => by
      rw [resolver_apply]
    rw [Resolver.ask_cons, Resolver.ask_cons, hState p, hState q]
    exact .cons (c.reasked hPair.1 hPair.2 s) ih

namespace Reasked

variable {call other : Placeholder × Answer}

/-- The token for a name that is there does not depend on the index, and neither does success. -/
theorem same (h : c.Reasked choose call other) (hPresent : c.lookup call.1.name = some v) :
    other.2.token other.1.name = call.2.token call.1.name ∧
      call.2.token call.1.name = v.token call.1.name ∧ other.2.result = call.2.result := by
  obtain ⟨hCall, hOther⟩ := h.of_present v hPresent
  rw [hCall, hOther, h.name_eq]
  exact ⟨rfl, Answer.token_ofValue _ v, rfl⟩

theorem result_eq_ok_iff (h : c.Reasked choose call other) :
    other.2.result = .ok () ↔ call.2.result = .ok () := by
  cases hPresent : c.lookup call.1.name with
  | some v => rw [(h.same hPresent).2.2]
  | none =>
    obtain ⟨hCall, hOther⟩ := h.of_absent hPresent
    rw [hCall, hOther]
    exact iff_of_false nofun nofun

end Reasked

theorem forall_ok_iff_of_reasked {calls others : List (Placeholder × Answer)}
    (h : List.Forall₂ (c.Reasked choose) calls others) :
    (∀ other ∈ others, other.2.result = .ok ()) ↔ ∀ call ∈ calls, call.2.result = .ok () := by
  induction h with
  | nil => exact Iff.rfl
  | cons hCall _ ih => rw [List.forall_mem_cons, List.forall_mem_cons, hCall.result_eq_ok_iff, ih]

end Container

theorem fill_of_reindexes {choose : Placeholder → Option Text} {parts others : List Part}
    (h : List.Forall₂ (Part.Reindexes choose) parts others) (tokens : List Text) :
    fill others tokens = fill parts tokens := by
  induction h generalizing tokens with
  | nil => rfl
  | cons hPart _ ih =>
    cases hPart with
    | literal t => exact congrArg (t ++ ·) (ih tokens)
    | placeholder hName hDigits =>
      cases tokens with
      | nil => rfl
      | cons token tokens => exact congrArg (token ++ ·) (ih tokens)

/-- A list of entries resolves every argument as each map does that was filled with the entries in
reverse: the first entry of a name counts in lists, and the last one in maps, so they agree on
entries with distinct names. What is written for a name that is there does not depend on the index.
For a name that is not there nothing is written, and the index and the name are reported. So if the
explicit indices in a template are chosen anew, replaced, added or removed, the placeholders with
names that are there keep their tokens and their results, whatever automatic indices change. -/
theorem containers_agree (entries : List (Text × Value)) :
    (∀ (list : ListKind) (map : MapKind),
      ((list.holding entries).resolver : Resolver σ) = (map.filled entries.reverse).resolver) ∧
    ((entries.map Prod.fst).Nodup → ∀ (list : ListKind) (map : MapKind),
      ((list.holding entries).resolver : Resolver σ) = (map.filled entries).resolver) ∧
    (∀ before name v after, entries = before ++ (name, v) :: after →
      (name ∉ before.map Prod.fst → ∀ (list : ListKind) index (s : σ),
        (list.holding entries).resolver index name s = (.ofValue v, s)) ∧
      (name ∉ after.map Prod.fst → ∀ (map : MapKind) index (s : σ),
        (map.filled entries).resolver index name s = (.ofValue v, s))) ∧
    ∀ c : Container,
      (∀ index name (b : Buffer) (s : σ),
        (∀ v, c.lookup name = some v → c.resolver.resolveInto b index name s =
          ⟨v.writing.result.mapError fun _ => .format, b.writeAll v.writing.chunks, s⟩) ∧
        (c.lookup name = none →
          c.resolver.resolveInto b index name s = ⟨.error (.missing index name), b, s⟩)) ∧
      ∀ (t : Template) (choose : Placeholder → Option Text),
        (∀ p ∈ t.placeholders, ∀ digits ∈ choose p, IsIndex digits) →
          ∃ u, Template.ofText (t.reindexed choose) = .ok u ∧
            ∀ (b : Buffer) (s : σ),
              let x := expandInto b t.source c.resolver s
              let y := expandInto b (t.reindexed choose) c.resolver s
              let calls := (c.resolver.ask t.placeholders s).1
              let others := (c.resolver.ask u.placeholders s).1
              let tokens := List.map fun (p, answer) => Answer.token p.name answer
              (calls.map Prod.fst = t.placeholders ∧ others.map Prod.fst = u.placeholders) ∧
              x.buffer.text = b.text ++ fill t.parts (tokens calls) ∧
              y.buffer.text = b.text ++ fill t.parts (tokens others) ∧
              (y.result = .ok () ↔ x.result = .ok ()) ∧
              List.Forall₂ (fun (p, answer) (q, other) =>
                (q.name = p.name ∧ q.digits = choose p) ∧
                (∀ v, c.lookup p.name = some v → other.token q.name = answer.token p.name ∧
                  answer.token p.name = v.token p.name ∧ other.result = answer.result) ∧
                (c.lookup p.name = none → answer = .fail (.missing p.index p.name) ∧
                  other = .fail (.missing q.index q.name))) calls others := by
  refine ⟨?_, ?_, ?_, fun c => ⟨?_, ?_⟩⟩
  · intro list map
    refine Container.resolver_congr fun name => ?_
    rw [Container.lookup_holding, Container.lookup_filled, List.reverse_reverse]
  · intro hDistinct list map
    refine Container.resolver_congr fun name => ?_
    rw [Container.lookup_holding, Container.lookup_filled, findEntry_reverse hDistinct]
  · rintro before name v after rfl
    refine ⟨fun hFirst list index s => ?_, fun hLast map index s => ?_⟩
    · refine Container.resolver_of_some index s ?_
      rw [Container.lookup_holding, findEntry_append hFirst]
    · refine Container.resolver_of_some index s ?_
      rw [Container.lookup_filled, findEntry_reverse_append hLast]
  · intro index name b s
    exact ⟨fun v h => Container.resolveInto_of_some index s h b,
      fun h => Container.resolveInto_of_none index s h b⟩
  · intro t choose hChosen
    obtain ⟨u, hText, hSource, hReindexes⟩ := t.exists_reindexed hChosen
    refine ⟨u, hText, ?_⟩
    intro b s x y calls others tokens
    have hCalls : List.Forall₂ (c.Reasked choose) calls others :=
      c.forall₂_reasked (placeholdersOf_of_reindexes hReindexes) s
    have hy : y = expandInto b u.source c.resolver s := by rw [hSource]
    refine ⟨⟨Resolver.map_fst_ask _ _ s, Resolver.map_fst_ask _ _ s⟩,
      t.text_expandInto_source b c.resolver s, ?_, ?_, hCalls.imp fun call other h => ?_⟩
    · rw [hy, u.text_expandInto_source b c.resolver s, fill_of_reindexes hReindexes]
      rfl
    · rw [hy, result_expandInto_eq_ok_iff u.scan_source b c.resolver s,
        result_expandInto_eq_ok_iff t.scan_source b c.resolver s]
      exact Container.forall_ok_iff_of_reasked hCalls
    · exact ⟨⟨h.name_eq, h.digits_eq⟩, fun v hPresent => h.same hPresent, h.of_absent⟩

/-- With an index written out in front of it, `b` is the first one that is counted. -/
example :
    let entries := [(['a'], Value.text ['x']), (['a'], Value.text ['y'])]
    let expanded := fun source : String => (expandInto .empty source.toList
      ((MapKind.ordered.filled entries).resolver : Resolver Unit) ()).buffer.text
    expanded "`a` `b`" = "`a:y` `b!(missing argument 1 'b')`".toList ∧
      expanded "`a:7` `b`" = "`a:y` `b!(missing argument 0 'b')`".toList := by
  decide +kernel

end LogMarkup
