import Mathlib.Data.Nat.Init
import LogMarkup.Proofs.Escape

/-!
# Runs of delimiters

Escaping and unescaping copy all characters but the delimiter. What they do to delimiters depends
on how many of them stand in a row, so both are told by what becomes of the length of a run. Pairs
are formed from the left of a run, and an odd one is left over at its right end.

* `Runs`: a text as the lengths of its runs and the characters between them. A text has one such
  form (`text_runsOf`, `runsOf_text`), and `mem_lengths_runsOf_iff` finds its runs in the text.
* `escape_text`, `unescape_text`: the length of each run is doubled, or halved and rounded up.
* `escape_unescape_eq_iff`: unescaping is undone by escaping where no run is odd.
* `unescape_escape_append`: unescaping piece by piece needs an escaped text in front.
* `escape_and_unescape_by_runs`: all of these together, and when a text is left as it is.
-/

namespace LogMarkup

/-! ## Texts as runs -/

/-- A text by its runs of delimiters. Two runs are apart by one other character, so none of them
can be longer than it is. Where no delimiter stands the run is empty. -/
structure Runs where
  /-- The length of the run in front. -/
  first : Nat
  /-- The other characters, each with the length of the run behind it. -/
  rest : List ({ c : Char // c ≠ delimiter } × Nat)
  deriving DecidableEq

namespace Runs

def text (r : Runs) : Text :=
  List.replicate r.first delimiter ++
    r.rest.flatMap fun (c, n) => c.val :: List.replicate n delimiter

def lengths (r : Runs) : List Nat := r.first :: r.rest.map Prod.snd

/-- Changes the length of each run and keeps all other characters. -/
def map (f : Nat → Nat) (r : Runs) : Runs := ⟨f r.first, r.rest.map fun (c, n) => (c, f n)⟩

/-- One more delimiter in front. -/
def grow (r : Runs) : Runs := { r with first := r.first + 1 }

/-- Another character in front. -/
def push (c : { c : Char // c ≠ delimiter }) (r : Runs) : Runs := ⟨0, (c, r.first) :: r.rest⟩

theorem text_nil (first : Nat) : text ⟨first, []⟩ = List.replicate first delimiter := by
  simp [text]

theorem text_cons (first n : Nat) (c : { c : Char // c ≠ delimiter })
    (rest : List ({ c : Char // c ≠ delimiter } × Nat)) :
    text ⟨first, (c, n) :: rest⟩ =
      List.replicate first delimiter ++ c.val :: text ⟨n, rest⟩ := by
  simp [text]

theorem map_cons (f : Nat → Nat) (first n : Nat) (c : { c : Char // c ≠ delimiter })
    (rest : List ({ c : Char // c ≠ delimiter } × Nat)) :
    map f ⟨first, (c, n) :: rest⟩ = ⟨f first, (c, f n) :: (map f ⟨n, rest⟩).rest⟩ := rfl

@[simp] theorem text_grow (r : Runs) : r.grow.text = delimiter :: r.text := by
  simp [text, grow, List.replicate_succ]

@[simp] theorem text_push (c : { c : Char // c ≠ delimiter }) (r : Runs) :
    (r.push c).text = c.val :: r.text := text_cons 0 r.first c r.rest

theorem map_map (f g : Nat → Nat) (r : Runs) : (r.map f).map g = r.map (g ∘ f) := by
  simp [map]

theorem map_eq_self_iff {f : Nat → Nat} {r : Runs} :
    r.map f = r ↔ ∀ n ∈ r.lengths, f n = n := by
  obtain ⟨first, rest⟩ := r
  have hRest : (rest.map fun (c, n) => (c, f n)) = rest ↔ ∀ n ∈ rest.map Prod.snd, f n = n := by
    induction rest with
    | nil => simp
    | cons entry rest ih => simp only [List.map_cons, List.cons.injEq, List.forall_mem_cons, ih,
        Prod.ext_iff, true_and]
  rw [map, Runs.mk.injEq, hRest, lengths, List.forall_mem_cons]

end Runs

def runsOf : Text → Runs
  | [] => ⟨0, []⟩
  | c :: t => if h : c = delimiter then (runsOf t).grow else (runsOf t).push ⟨c, h⟩

theorem runsOf_delimiter (t : Text) : runsOf (delimiter :: t) = (runsOf t).grow := by
  simp [runsOf]

theorem runsOf_cons_of_ne {c : Char} (hc : c ≠ delimiter) (t : Text) :
    runsOf (c :: t) = (runsOf t).push ⟨c, hc⟩ := by
  simp [runsOf, hc]

theorem runsOf_replicate_append (n : Nat) (t : Text) :
    runsOf (List.replicate n delimiter ++ t) =
      ⟨n + (runsOf t).first, (runsOf t).rest⟩ := by
  induction n with
  | zero => simp
  | succ n ih =>
    rw [List.replicate_succ, List.cons_append, runsOf_delimiter, ih, Runs.grow]
    simp only [Runs.mk.injEq, and_true]
    omega

theorem text_runsOf (t : Text) : (runsOf t).text = t := by
  induction t with
  | nil => rfl
  | cons c t ih =>
    by_cases hc : c = delimiter
    · rw [hc, runsOf_delimiter, Runs.text_grow, ih]
    · rw [runsOf_cons_of_ne hc, Runs.text_push, ih]

theorem runsOf_text (r : Runs) : runsOf r.text = r := by
  obtain ⟨first, rest⟩ := r
  induction rest generalizing first with
  | nil =>
    have hRuns := runsOf_replicate_append first []
    rw [List.append_nil] at hRuns
    rw [Runs.text_nil]
    exact hRuns
  | cons entry rest ih =>
    obtain ⟨c, n⟩ := entry
    rw [Runs.text_cons, runsOf_replicate_append, runsOf_cons_of_ne c.property, ih]
    rfl

/-! ## Runs in the text -/

/-- Somewhere in the text `n` delimiters stand in a row, with none in front and none behind. -/
def HasRun (n : Nat) (t : Text) : Prop :=
  ∃ before after, t = before ++ List.replicate n delimiter ++ after ∧
    before.getLast? ≠ some delimiter ∧ after.head? ≠ some delimiter

theorem first_runsOf_of_head? {t : Text} (h : t.head? ≠ some delimiter) :
    (runsOf t).first = 0 := by
  cases t with
  | nil => rfl
  | cons c t =>
    have hc : c ≠ delimiter := by simpa using h
    rw [runsOf_cons_of_ne hc]
    rfl

/-- Behind another character than the delimiter no run is changed by what is in front. -/
theorem lengths_subset_of_ne {before : Text} {c : Char} (hc : c ≠ delimiter) (t : Text) :
    ∀ n ∈ (runsOf t).lengths, n ∈ (runsOf (before ++ c :: t)).rest.map Prod.snd := by
  intro n hn
  induction before with
  | nil =>
    rw [List.nil_append, runsOf_cons_of_ne hc]
    exact hn
  | cons d before ih =>
    rw [List.cons_append]
    by_cases hd : d = delimiter
    · rw [hd, runsOf_delimiter]
      exact ih
    · rw [runsOf_cons_of_ne hd]
      exact List.mem_cons_of_mem _ ih

theorem hasRun_of_mem_lengths {r : Runs} {n : Nat} (h : n ∈ r.lengths) : HasRun n r.text := by
  obtain ⟨first, rest⟩ := r
  induction rest generalizing first with
  | nil =>
    obtain rfl : n = first := by simpa [Runs.lengths] using h
    exact ⟨[], [], by simp [Runs.text_nil], by simp, by simp⟩
  | cons entry rest ih =>
    obtain ⟨c, m⟩ := entry
    rw [Runs.text_cons]
    rcases List.mem_cons.mp h with rfl | hRest
    · exact ⟨[], c.val :: Runs.text ⟨m, rest⟩, by simp, by simp, by simpa using c.property⟩
    · obtain ⟨before, after, hText, hBefore, hAfter⟩ := ih m hRest
      refine ⟨List.replicate first delimiter ++ c.val :: before, after, by simp [hText], ?_,
        hAfter⟩
      rw [List.getLast?_append, List.getLast?_cons, Option.some_or]
      cases hLast : before.getLast? with
      | none => simpa using c.property
      | some last => simpa [hLast] using hBefore

theorem mem_lengths_runsOf_iff {n : Nat} {t : Text} : n ∈ (runsOf t).lengths ↔ HasRun n t := by
  constructor
  · intro h
    have hRun := hasRun_of_mem_lengths h
    rwa [text_runsOf] at hRun
  · rintro ⟨before, after, rfl, hBefore, hAfter⟩
    have hFirst : n ∈ (runsOf (List.replicate n delimiter ++ after)).lengths := by
      rw [runsOf_replicate_append, first_runsOf_of_head? hAfter]
      exact List.mem_cons_self
    rw [List.append_assoc]
    rcases List.eq_nil_or_concat before with rfl | ⟨front, c, rfl⟩
    · exact hFirst
    · have hc : c ≠ delimiter := by simpa using hBefore
      rw [List.concat_eq_append, List.append_assoc, List.singleton_append]
      exact List.mem_cons_of_mem _ (lengths_subset_of_ne hc _ n hFirst)

/-! ## Doubling and collapsing -/

theorem escape_replicate (n : Nat) :
    escape (List.replicate n delimiter) = List.replicate (2 * n) delimiter := by
  induction n with
  | zero => rfl
  | succ n ih =>
    rw [List.replicate_succ, escape_cons, if_pos rfl, ih, Nat.mul_succ, List.replicate_succ,
      List.replicate_succ]
    rfl

/-- Every run gets twice as long. -/
theorem escape_text (r : Runs) : escape r.text = (r.map (2 * ·)).text := by
  obtain ⟨first, rest⟩ := r
  induction rest generalizing first with
  | nil =>
    rw [Runs.text_nil, escape_replicate]
    exact (Runs.text_nil (2 * first)).symm
  | cons entry rest ih =>
    obtain ⟨c, n⟩ := entry
    rw [Runs.text_cons, escape_append, escape_replicate, escape_cons, if_neg c.property, ih,
      Runs.map_cons, Runs.text_cons]
    rfl

theorem unescape_replicate_append (n : Nat) {t : Text} (h : t.head? ≠ some delimiter) :
    unescape (List.replicate n delimiter ++ t) =
      List.replicate ((n + 1) / 2) delimiter ++ unescape t := by
  induction n using Nat.twoStepInduction with
  | zero => simp
  | one =>
    cases t with
    | nil => rfl
    | cons c t =>
      have hc : c ≠ delimiter := by simpa using h
      simp [unescape, hc]
  | more n ih _ =>
    have hHalf : (n + 2 + 1) / 2 = (n + 1) / 2 + 1 := by omega
    rw [hHalf, List.replicate_succ, List.replicate_succ, List.replicate_succ]
    simp [unescape, ih]

/-- Every run gets half as long. An odd delimiter of a run stays. -/
theorem unescape_text (r : Runs) :
    unescape r.text = (r.map fun n => (n + 1) / 2).text := by
  obtain ⟨first, rest⟩ := r
  induction rest generalizing first with
  | nil =>
    have hRun := unescape_replicate_append first (t := []) (by simp)
    have hEmpty : unescape [] = [] := rfl
    rw [hEmpty, List.append_nil, List.append_nil] at hRun
    rw [Runs.text_nil, hRun]
    exact (Runs.text_nil ((first + 1) / 2)).symm
  | cons entry rest ih =>
    obtain ⟨c, n⟩ := entry
    have hHead : (c.val :: Runs.text ⟨n, rest⟩).head? ≠ some delimiter := by
      simpa using c.property
    rw [Runs.text_cons, unescape_replicate_append first hHead, unescape_cons_of_ne c.property, ih,
      Runs.map_cons, Runs.text_cons]
    rfl

/-- An odd run gets longer when its pairs are collapsed and all is doubled. -/
theorem escape_unescape_eq_iff {t : Text} :
    escape (unescape t) = t ↔ ∀ n, HasRun n t → 2 ∣ n := by
  have hRuns : escape (unescape t) = ((runsOf t).map fun n => 2 * ((n + 1) / 2)).text := by
    have hHalved := unescape_text (runsOf t)
    rw [text_runsOf] at hHalved
    rw [hHalved, escape_text, Runs.map_map]
    rfl
  have hSame : escape (unescape t) = t ↔
      ((runsOf t).map fun n => 2 * ((n + 1) / 2)) = runsOf t := by
    rw [hRuns]
    constructor
    · intro h
      rw [← runsOf_text (Runs.map _ _), h]
    · intro h
      rw [h, text_runsOf]
  rw [hSame, Runs.map_eq_self_iff]
  constructor
  · intro h n hRun
    have hEven := h n (mem_lengths_runsOf_iff.mpr hRun)
    omega
  · intro h n hMem
    have hEven := h n (mem_lengths_runsOf_iff.mp hMem)
    omega

/-- No pair lies across the end of an escaped text. -/
theorem unescape_escape_append (v t : Text) : unescape (escape v ++ t) = v ++ unescape t := by
  induction v with
  | nil => rfl
  | cons c v ih =>
    by_cases hc : c = delimiter
    · simp [escape, unescape, hc, ih]
    · simp [escape, hc, unescape_cons_of_ne hc, ih]

/-! ## Texts that are left as they are -/

theorem escape?_eq_none_iff {t : Text} : escape? t = none ↔ delimiter ∉ t := by
  simp [escape?]

theorem hasDoubled_eq_true_iff {t : Text} :
    hasDoubled t = true ↔ [delimiter, delimiter] <:+: t := by
  induction t with
  | nil => simp [hasDoubled]
  | cons c t ih =>
    cases t with
    | nil => simp [hasDoubled, List.infix_cons_iff]
    | cons d rest =>
      rw [List.infix_cons_iff, ← ih, List.cons_prefix_cons, List.cons_prefix_cons, hasDoubled,
        Bool.or_eq_true, Bool.and_eq_true, decide_eq_true_eq, decide_eq_true_eq,
        and_iff_left (List.nil_prefix), eq_comm (a := delimiter), eq_comm (a := delimiter)]

theorem unescape?_eq_none_iff {t : Text} :
    unescape? t = none ↔ ¬ [delimiter, delimiter] <:+: t := by
  rw [← hasDoubled_eq_true_iff]
  simp [unescape?]

/-- Escaping doubles the length of each run of delimiters and unescaping halves it, rounding up;
all other characters stay. A text comes back from being escaped, and from being unescaped iff its
runs have even lengths. Texts can be escaped piece by piece, and unescaped behind an escaped text.
They are left as they are iff there is no delimiter, or no two of them in a row. -/
theorem escape_and_unescape_by_runs (s : Text) :
    ((runsOf s).text = s ∧ (∀ r : Runs, r.text = s → r = runsOf s) ∧
      ∀ n, n ∈ (runsOf s).lengths ↔ HasRun n s) ∧
    escape s = ((runsOf s).map fun n => 2 * n).text ∧
    unescape s = ((runsOf s).map fun n => (n + 1) / 2).text ∧
    unescape (escape s) = s ∧
    (escape (unescape s) = s ↔ ∀ n, HasRun n s → 2 ∣ n) ∧
    (∀ t, escape (s ++ t) = escape s ++ escape t) ∧
    ((∃ v, s = escape v) → ∀ t, unescape (s ++ t) = unescape s ++ unescape t) ∧
    ((escape? s).getD s = escape s ∧ (escape? s = none ↔ delimiter ∉ s)) ∧
    (unescape? s).getD s = unescape s ∧
      (unescape? s = none ↔ ¬ [delimiter, delimiter] <:+: s) := by
  refine ⟨⟨text_runsOf s, ?_, fun n => mem_lengths_runsOf_iff⟩, ?_, ?_, unescape_escape s,
    escape_unescape_eq_iff, escape_append s, ?_, ⟨escape?_getD s, escape?_eq_none_iff⟩,
    unescape?_getD s, unescape?_eq_none_iff⟩
  · rintro r rfl
    exact (runsOf_text r).symm
  · rw [← escape_text, text_runsOf]
  · rw [← unescape_text, text_runsOf]
  · rintro ⟨v, rfl⟩ t
    rw [unescape_escape_append, unescape_escape]

/-- Three delimiters are one pair and one more, which unescaping leaves. -/
example : unescape "a```b``".toList = "a``b`".toList ∧
    (runsOf "a```b``".toList).lengths = [0, 3, 2] := by
  decide +kernel

end LogMarkup
