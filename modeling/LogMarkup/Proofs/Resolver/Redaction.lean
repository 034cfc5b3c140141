import LogMarkup.Resolver.Named
import LogMarkup.Proofs.Expansion.Filled

/-!
# Redaction

A list of values in front of a resolver redacts the arguments with its names: they are written
with the values of the list, and the resolver behind is not even asked for them. So a message
tells nothing of what that resolver has under these names.

* `Answer.Alike`: answers that leave the same token and the same failure.
* `Resolver.AgreeOutside`: resolvers that cannot be told apart without certain names.
* `Resolver.orElse_named_of_find`, `Resolver.orElse_named_of_notMem`: the list answers for its
  names, and the resolver behind for all others.
* `Resolver.AgreeOutside.orElse_named`: behind the list, such resolvers agree everywhere.
* `expandInto_of_redacted`: what is written, what is asked, and what cannot be seen.
-/

namespace LogMarkup

variable {σ : Type}

/-! ## Answers that look alike -/

/-- The answers end in the same way, and values have the same text. What was written in front of
an error, and in how many pieces a value was written, makes no difference. -/
structure Answer.Alike (first second : Answer) : Prop where
  result_eq : first.result = second.result
  text_eq : first.result = .ok () → first.text = second.text

namespace Answer.Alike

variable {first second : Answer}

theorem refl (answer : Answer) : answer.Alike answer := ⟨rfl, fun _ => rfl⟩

theorem token_eq (h : first.Alike second) (name : Text) :
    first.token name = second.token name := by
  unfold Answer.token
  rw [← h.result_eq]
  cases hResult : first.result with
  | ok => rw [h.text_eq hResult]
  | error error => rfl

theorem failure?_eq (h : first.Alike second) (p : Placeholder) :
    p.failure? first = p.failure? second := by
  rw [Placeholder.failure?, Placeholder.failure?, h.result_eq]

/-- Attempts that were taken back make no difference either. -/
theorem after (h : first.Alike second) (attempts : List (List Chunk)) :
    (first.after attempts).Alike (second.after attempts) := ⟨h.result_eq, h.text_eq⟩

end Answer.Alike

/-! ## Resolvers that agree -/

/-- Asked for other names than these, the resolvers give answers that look alike, and are left in
the same state. -/
def Resolver.AgreeOutside (names : List Text) (first second : Resolver σ) : Prop :=
  ∀ index name s, name ∉ names →
    (first index name s).1.Alike (second index name s).1 ∧
      (first index name s).2 = (second index name s).2

namespace Resolver.AgreeOutside

variable {first second : Resolver σ}

theorem state_ask (h : AgreeOutside [] first second) (placeholders : List Placeholder) (s : σ) :
    (first.ask placeholders s).2 = (second.ask placeholders s).2 := by
  induction placeholders generalizing s with
  | nil => rfl
  | cons p rest ih =>
    obtain ⟨-, hState⟩ := h p.index p.name s List.not_mem_nil
    rw [ask_cons, ask_cons, ih, hState]

/-- What is told of the answers is the same. -/
theorem map_ask (h : AgreeOutside [] first second) {α : Type} (tell : Placeholder → Answer → α)
    (hTell : ∀ p {a b : Answer}, a.Alike b → tell p a = tell p b)
    (placeholders : List Placeholder) (s : σ) :
    ((first.ask placeholders s).1.map fun call => tell call.1 call.2) =
      (second.ask placeholders s).1.map fun call => tell call.1 call.2 := by
  induction placeholders generalizing s with
  | nil => rfl
  | cons p rest ih =>
    obtain ⟨hAnswer, hState⟩ := h p.index p.name s List.not_mem_nil
    rw [ask_cons, ask_cons, List.map_cons, List.map_cons, ih, hState, hTell p hAnswer]

theorem rendered_eq (h : AgreeOutside [] first second) (parts : List Part) (s : σ) :
    first.rendered parts s = second.rendered parts s := by
  rw [rendered_eq_fill, rendered_eq_fill]
  exact congrArg (fill parts) (h.map_ask (fun p answer => answer.token p.name)
    (fun p _ _ hAlike => hAlike.token_eq p.name) (placeholdersOf parts) s)

theorem failures_eq (h : AgreeOutside [] first second) (parts : List Part) (s : σ) :
    first.failures parts s = second.failures parts s := by
  have hTold := h.map_ask Placeholder.failure? (fun p _ _ hAlike => hAlike.failure?_eq p)
    (placeholdersOf parts) s
  have hBoth := congrArg (List.filterMap id) hTold
  rwa [List.filterMap_map, List.filterMap_map] at hBoth

/-- Resolvers that agree on all names give the same message, the same result and the same
state. -/
theorem expandInto_eq (h : AgreeOutside [] first second) (b : Buffer) (source : Text) (s : σ) :
    (expandInto b source first s).buffer.text = (expandInto b source second s).buffer.text ∧
      (expandInto b source first s).result = (expandInto b source second s).result ∧
      (expandInto b source first s).state = (expandInto b source second s).state := by
  refine ⟨?_, ?_, ?_⟩
  · rw [text_expandInto_scan, text_expandInto_scan, h.rendered_eq]
  · cases hError : (scan source).2 with
    | none =>
      have hScan : scan source = ((scan source).1, none) := Prod.ext rfl hError
      rw [result_expandInto hScan, result_expandInto hScan, h.rendered_eq, h.failures_eq]
    | some error => rw [expandInto_of_error hError, expandInto_of_error hError]
  · rw [state_expandInto_scan, state_expandInto_scan, h.state_ask]

end Resolver.AgreeOutside

/-! ## A list in front of a resolver -/

/-- What stands in the message for a placeholder with a given value. -/
def Value.token (name : Text) (v : Value) : Text :=
  match v.writing.result with
  | .ok _ => delimiter :: name ++ nameSeparator :: escape v.writing.text ++ [delimiter]
  | .error _ =>
    delimiter :: name ++ errorMarker :: '(' :: escape ResolveError.format.message ++
      [')', delimiter]

theorem Answer.token_ofValue (name : Text) (v : Value) :
    (Answer.ofValue v).token name = v.token name := by
  have hText : (Answer.ofValue v).text = v.writing.text := rfl
  have hEnd : (Answer.ofValue v).result = v.writing.result.mapError fun _ => .format := rfl
  cases hResult : v.writing.result <;>
    simp [Answer.token, Value.token, hText, hEnd, hResult, Except.mapError]

theorem findEntry_eq_none_iff {entries : List (Text × Value)} {name : Text} :
    findEntry entries name = none ↔ name ∉ entries.map Prod.fst := by
  simp only [findEntry, Option.map_eq_none_iff, List.find?_eq_none, decide_eq_true_eq,
    List.mem_map, not_exists, not_and]

theorem findEntry_append {before after : List (Text × Value)} {name : Text} {v : Value}
    (h : name ∉ before.map Prod.fst) :
    findEntry (before ++ (name, v) :: after) name = some v := by
  have hBefore := Option.map_eq_none_iff.mp (findEntry_eq_none_iff.mpr h)
  rw [findEntry, List.find?_append, hBefore]
  simp

namespace Resolver

variable {entries : List (Text × Value)} {name : Text}

/-- The list answers for its names. -/
theorem orElse_named_of_find {v : Value} (h : findEntry entries name = some v) (r : Resolver σ)
    (index : Nat) (s : σ) : (named entries).orElse r index name s = (.ofValue v, s) := by
  cases hResult : v.writing.result <;>
    simp [orElse, named, answering, h, Answer.ofFound, Answer.ofValue, Answer.direct, Writing.mapError,
      Except.mapError, hResult]

/-- The resolver behind the list answers for all other names. -/
theorem orElse_named_of_notMem (h : name ∉ entries.map Prod.fst) (r : Resolver σ) (index : Nat)
    (s : σ) :
    (named entries).orElse r index name s =
      ((r index name s).1.after [[]], (r index name s).2) := by
  simp [orElse, named, answering, findEntry_eq_none_iff.mpr h, Answer.ofFound, Answer.fail,
    Answer.direct, Writing.fail]

/-- What cannot be told apart without the names of the list cannot be told apart behind it. -/
theorem AgreeOutside.orElse_named {first second : Resolver σ}
    (h : AgreeOutside (entries.map Prod.fst) first second) :
    AgreeOutside [] ((named entries).orElse first) ((named entries).orElse second) := by
  intro index name s _
  cases hFind : findEntry entries name with
  | some v =>
    rw [orElse_named_of_find hFind, orElse_named_of_find hFind]
    exact ⟨.refl _, rfl⟩
  | none =>
    have hOther := findEntry_eq_none_iff.mp hFind
    obtain ⟨hAnswer, hState⟩ := h index name s hOther
    rw [orElse_named_of_notMem hOther, orElse_named_of_notMem hOther]
    exact ⟨hAnswer.after _, hState⟩

theorem orElse_named_congr {first second : Resolver σ}
    (h : ∀ index name s, name ∉ entries.map Prod.fst → first index name s = second index name s) :
    (named entries).orElse first = (named entries).orElse second := by
  funext index name s
  cases hFind : findEntry entries name with
  | some v => rw [orElse_named_of_find hFind, orElse_named_of_find hFind]
  | none =>
    have hOther := findEntry_eq_none_iff.mp hFind
    rw [orElse_named_of_notMem hOther, orElse_named_of_notMem hOther, h index name s hOther]

/-! ## Calls -/

/-- Each answer is one that the resolver gives in some state. -/
theorem exists_state_of_mem_ask {r : Resolver σ} {placeholders : List Placeholder} {s : σ}
    {p : Placeholder} {answer : Answer} (h : (p, answer) ∈ (r.ask placeholders s).1) :
    ∃ s', answer = (r p.index p.name s').1 := by
  induction placeholders generalizing s with
  | nil => cases h
  | cons q rest ih =>
    rw [ask_cons] at h
    rcases List.mem_cons.mp h with hFirst | hLater
    · obtain ⟨rfl, rfl⟩ := Prod.mk.inj hFirst
      exact ⟨s, rfl⟩
    · exact ih hLater

/-- The resolver behind the list is asked for the names that are not in the list. -/
theorem ask_orElse_named_logged (entries : List (Text × Value)) (r : Resolver σ)
    (placeholders : List Placeholder) (s : σ) (asked : List Request) :
    (((named entries).orElse r.logged).ask placeholders (s, asked)).2 =
      ((((named entries).orElse r).ask placeholders s).2,
        asked ++ (placeholders.filter (·.name ∉ entries.map Prod.fst)).map
          Placeholder.request) := by
  induction placeholders generalizing s asked with
  | nil => simp
  | cons p rest ih =>
    rw [ask_cons, ask_cons]
    cases hFind : findEntry entries p.name with
    | some v =>
      have hListed : p.name ∈ entries.map Prod.fst := by
        by_contra hOther
        rw [findEntry_eq_none_iff.mpr hOther] at hFind
        cases hFind
      simp only [orElse_named_of_find hFind, ih]
      rw [List.filter_cons_of_neg (by simpa using hListed)]
    | none =>
      have hOther := findEntry_eq_none_iff.mp hFind
      simp only [orElse_named_of_notMem hOther, Resolver.logged, ih]
      rw [List.filter_cons_of_pos (by simpa using hOther), List.map_cons, List.append_assoc]
      rfl

end Resolver

/-! ## Redacted messages -/

/-- A list of values in front of a resolver decides on its names. Resolvers that differ on these
names only give the same message and the same failures behind it, and the same buffer if they
write in the same pieces. The placeholders with these names get the value of their first entry.
The resolver is asked for the other ones as it is without the list. -/
theorem expandInto_of_redacted (entries : List (Text × Value)) (t : Template) (b : Buffer) :
    (∀ (first second : Resolver σ) (s : σ),
      let x := expandInto b t.source ((Resolver.named entries).orElse first) s
      let y := expandInto b t.source ((Resolver.named entries).orElse second) s
      (first.AgreeOutside (entries.map Prod.fst) second →
        x.buffer.text = y.buffer.text ∧ x.result = y.result ∧ x.state = y.state) ∧
      ((∀ index name s, name ∉ entries.map Prod.fst →
        first index name s = second index name s) → x = y)) ∧
    ∀ (r : Resolver σ) (s : σ),
      let calls := (((Resolver.named entries).orElse r).ask t.placeholders s).1
      (expandInto b t.source ((Resolver.named entries).orElse r) s).buffer.text =
        b.text ++ fill t.parts (calls.map fun (p, answer) => answer.token p.name) ∧
      calls.map Prod.fst = t.placeholders ∧
      (∀ p answer, (p, answer) ∈ calls → ∀ before v after,
        entries = before ++ (p.name, v) :: after → p.name ∉ before.map Prod.fst →
          answer.token p.name = v.token p.name) ∧
      (expandInto b t.source ((Resolver.named entries).orElse r.logged) (s, [])).state.2 =
        (t.placeholders.filter (·.name ∉ entries.map Prod.fst)).map Placeholder.request := by
  refine ⟨?_, ?_⟩
  · intro first second s x y
    refine ⟨fun hAgree => hAgree.orElse_named.expandInto_eq b t.source s, fun hSame => ?_⟩
    exact congrArg (fun r => expandInto b t.source r s) (Resolver.orElse_named_congr hSame)
  · intro r s calls
    refine ⟨t.text_expandInto_source b _ s, Resolver.map_fst_ask _ _ _, ?_, ?_⟩
    · rintro p answer hCall before v after rfl hFirst
      obtain ⟨s', rfl⟩ := Resolver.exists_state_of_mem_ask hCall
      rw [Resolver.orElse_named_of_find (findEntry_append hFirst), Answer.token_ofValue]
    · rw [t.state_expandInto_source, Resolver.ask_orElse_named_logged]
      rfl

/-- The first entry of a name counts, with any index, and the password behind it is not seen. -/
example :
    let entries : List (Text × Value) :=
      [("password".toList, .text "***".toList), ("password".toList, .text "?".toList)]
    let r : Resolver Unit := .named
      [("user".toList, .text "Jo".toList), ("password".toList, .text "secret".toList)]
    (expandInto .empty "`user` `password:7`".toList ((Resolver.named entries).orElse r)
      ()).buffer.text = "`user:Jo` `password:***`".toList := by
  decide +kernel

end LogMarkup
