import LogMarkup.Proofs.Expansion

/-!
# Scanning before or while expanding

A text can be expanded while it is scanned, or scanned to a template that is expanded afterwards.
As long as the text has no error nobody sees a difference: not the buffer, not the caller, and not
the resolver, which is asked the same in the same order. An error is seen late when expanding
while scanning. What is in front of it is a template, and that has been expanded by then.

* `Resolver.logged`: a resolver that takes down what it is asked, and `requests`.
* `expandInto_logged`, `Template.expandInto_logged`: what it takes down.
* `Template.front`: the template in front of the first error.
* `expandInto_eq_prescanned`: the two ways agree up to the first error.
-/

namespace LogMarkup

variable {σ : Type}

/-! ## What a resolver is asked -/

/-- An argument that a resolver is asked for. -/
structure Request where
  index : Nat
  name : Text
  deriving DecidableEq, Repr

def Placeholder.request (p : Placeholder) : Request := ⟨p.index, p.name⟩

/-- The resolver, which also takes down what it is asked. -/
def Resolver.logged (r : Resolver σ) : Resolver (σ × List Request) := fun index name (s, asked) =>
  let (answer, s) := r index name s
  (answer, s, asked ++ [⟨index, name⟩])

/-- What the resolver is asked when a text is expanded, in order. -/
def requests (b : Buffer) (source : Text) (r : Resolver σ) (s : σ) : List Request :=
  (expandInto b source r.logged (s, [])).state.2

def Template.requests (t : Template) (b : Buffer) (r : Resolver σ) (s : σ) : List Request :=
  (t.expandInto b r.logged (s, [])).state.2

namespace Progress

/-- The progress with a log of what was asked. -/
def withLog (x : Progress σ) (asked : List Request) : Progress (σ × List Request) :=
  ⟨x.buffer, (x.state, asked), x.failures⟩

theorem expandPart_logged (x : Progress σ) (asked : List Request) (r : Resolver σ) (part : Part) :
    (x.withLog asked).expandPart r.logged part =
      (x.expandPart r part).withLog
        (asked ++ (placeholdersOf [part]).map Placeholder.request) := by
  cases part with
  | literal t => simp [expandPart, withLog]
  | placeholder p =>
    simp [expandPart, expandPlaceholder, withLog, Resolver.logged, Placeholder.request]

/-- Logging changes nothing else, and the log is that of the placeholders. -/
theorem expandParts_logged (x : Progress σ) (asked : List Request) (r : Resolver σ)
    (parts : List Part) :
    (x.withLog asked).expandParts r.logged parts =
      (x.expandParts r parts).withLog
        (asked ++ (placeholdersOf parts).map Placeholder.request) := by
  induction parts generalizing x asked with
  | nil => simp [expandParts]
  | cons part rest ih =>
    -- The log grows by the requests of one part at a time.
    have hPlaceholders : placeholdersOf (part :: rest) =
        placeholdersOf [part] ++ placeholdersOf rest := by
      cases part <;> simp
    rw [expandParts_cons, expandPart_logged, ih, expandParts_cons, hPlaceholders,
      List.map_append, List.append_assoc]

end Progress

/-- An expansion with a logging resolver is the same expansion, with a log. -/
theorem expandInto_logged (b : Buffer) (source : Text) (r : Resolver σ) (s : σ) :
    expandInto b source r.logged (s, []) =
      ⟨(expandInto b source r s).result, (expandInto b source r s).buffer,
        (expandInto b source r s).state,
        (placeholdersOf (scan source).1).map Placeholder.request⟩ := by
  have hStart : Progress.start b (s, []) = (Progress.start b s).withLog [] := rfl
  cases hError : (scan source).2 with
  | none =>
    have hScan : scan source = ((scan source).1, none) := Prod.ext rfl hError
    rw [expandInto_of_scan hScan, expandInto_of_scan hScan, hStart, Progress.expandParts_logged]
    rfl
  | some error =>
    rw [expandInto_of_error hError, expandInto_of_error hError, hStart,
      Progress.expandParts_logged]
    rfl

/-! ## Templates -/

theorem Template.expandInto_eq (t : Template) (b : Buffer) (r : Resolver σ) (s : σ) :
    t.expandInto b r s = LogMarkup.expandInto b t.source r s := by
  rw [expandInto_of_scan t.scan_source]
  rfl

theorem Template.requests_eq (t : Template) (b : Buffer) (r : Resolver σ) (s : σ) :
    t.requests b r s = t.placeholders.map Placeholder.request := by
  rw [Template.requests, Template.expandInto_eq, expandInto_logged, t.scan_source]
  rfl

/-- The template in front of the first error of a text. -/
def Template.front (source : Text) : Template where
  source := sourceOf (scan source).1
  parts := (scan source).1
  scan_source := scan_eq_ok_iff.mpr ⟨tiled_scan source, rfl⟩

theorem Template.exists_source_front {source : Text} {error : SyntaxError}
    (h : (scan source).2 = some error) :
    ∃ rest, source = (Template.front source).source ++ delimiter :: rest := by
  obtain ⟨-, rest, hSource, -⟩ := flaw_of_scan h
  exact ⟨rest, hSource⟩

theorem Template.expandInto_front {source : Text} {error : SyntaxError}
    (h : (scan source).2 = some error) (b : Buffer) (r : Resolver σ) (s : σ) :
    LogMarkup.expandInto b source r s =
      ⟨.error (.malformed error), ((Template.front source).expandInto b r s).buffer,
        ((Template.front source).expandInto b r s).state⟩ := by
  rw [expandInto_of_error h]
  rfl

/-- Expanding a text while scanning it does what its template does, for each template with that
source, and asks the same. If the text has an error, that is the result, and what was written and
asked is that of the template in front of the error. -/
theorem expandInto_eq_prescanned (b : Buffer) (source : Text) (r : Resolver σ) (s : σ) :
    (∀ t : Template, (Template.ofText source = .ok t ↔ t.source = source) ∧
      (t.source = source →
        expandInto b source r s = t.expandInto b r s ∧
          requests b source r s = t.requests b r s ∧
          t.requests b r s = t.placeholders.map Placeholder.request)) ∧
    ∀ error, Template.ofText source = .error error →
      (∃ rest, source = (Template.front source).source ++ delimiter :: rest) ∧
        (expandInto b source r s).result = .error (.malformed error) ∧
        (expandInto b source r s).buffer = ((Template.front source).expandInto b r s).buffer ∧
        (expandInto b source r s).buffer.text =
          b.text ++ r.rendered (Template.front source).parts s ∧
        (expandInto b source r s).state = ((Template.front source).expandInto b r s).state ∧
        requests b source r s = (Template.front source).placeholders.map Placeholder.request := by
  refine ⟨?_, ?_⟩
  · intro t
    refine ⟨Template.ofText_eq_ok_iff, ?_⟩
    rintro rfl
    refine ⟨(t.expandInto_eq b r s).symm, ?_, t.requests_eq b r s⟩
    rw [requests, Template.requests, t.expandInto_eq]
  · intro error hError
    have hScan := Template.ofText_eq_error_iff.mp hError
    have hFront := Template.expandInto_front hScan b r s
    refine ⟨Template.exists_source_front hScan, ?_, ?_, text_expandInto_scan b source r s, ?_, ?_⟩
    · rw [hFront]
    · rw [hFront]
    · rw [hFront]
    · rw [requests, expandInto_logged]
      rfl

/-- A value that is missing in front of an error is missing in the message, but the error is the
result. -/
example :
    let x := expandInto .empty "`a` `b".toList Resolver.noArguments ()
    x.buffer.text = "`a!(missing argument 0 'a')` ".toList ∧
      x.result = .error (.malformed ⟨"`a` `b".toList, 5, .unterminatedArgument⟩) := by
  decide +kernel

end LogMarkup
