import LogMarkup.Template.Part

/-!
# Scanning templates

A scanner gives the parts of a template from left to right. A placeholder opens at the first
delimiter that is not one of a doubled pair, and closes at the next delimiter of any kind;
everything between placeholders is literal text. After an error there is nothing more to scan.

* `Scanner.length_of_next?`: each step leaves less to scan, so scanning ends.
* `scan`: the parts up to the first error, and the error.
-/

namespace LogMarkup

structure Scanner where
  source : Text
  /-- What is left to scan. -/
  rest : Text
  /-- The byte offset of the rest in the source. -/
  position : Nat
  /-- The index of the next placeholder without an explicit one. -/
  nextIndex : Nat
  deriving DecidableEq, Repr

namespace Scanner

def start (source : Text) : Scanner := ⟨source, source, 0, 0⟩

/-- The scanner at the end of its source. -/
def exhausted (s : Scanner) : Scanner :=
  { s with rest := [], position := byteLength s.source }

/-- The scanner after a literal text. -/
def afterLiteral (s : Scanner) (literal rest : Text) : Scanner :=
  { s with rest, position := s.position + byteLength literal }

/-- The scanner after a placeholder. An explicit index leaves the automatic one alone. -/
def afterPlaceholder (s : Scanner) (p : Placeholder) (rest : Text) : Scanner :=
  { s with
    rest
    position := s.position + byteLength p.source
    nextIndex := if p.digits.isNone then s.nextIndex + 1 else s.nextIndex }

/-- The next part, or the error in front of it, and the scanner after it. -/
def next? (s : Scanner) : Option (Except SyntaxError Part × Scanner) :=
  if s.rest = [] then none
  else match cutSingle delimiter s.rest with
    | none => some (.ok (.literal s.rest), s.afterLiteral s.rest [])
    | some ([], rest) => match Placeholder.read s.position s.nextIndex rest with
      | .ok (p, after) => some (.ok (.placeholder p), s.afterPlaceholder p after)
      | .error (position, kind) => some (.error ⟨s.source, position, kind⟩, s.exhausted)
    | some (literal, rest) =>
      some (.ok (.literal literal), s.afterLiteral literal (delimiter :: rest))

theorem length_of_next? {s s' : Scanner} {r : Except SyntaxError Part}
    (h : s.next? = some (r, s')) : s'.rest.length < s.rest.length := by
  unfold next? at h
  split at h
  · cases h
  · rename_i hne
    have hpos : 0 < s.rest.length := List.length_pos_iff.mpr hne
    split at h
    · cases h
      exact hpos
    · rename_i rest hcut
      have hlen := length_of_cutSingle hcut
      split at h
      · rename_i p after hread
        cases h
        have := congrArg List.length (Placeholder.source_of_read hread)
        simp only [List.length_cons, List.length_append, Placeholder.source] at this
        change after.length < s.rest.length
        omega
      · cases h
        exact hpos
    · rename_i literal rest hne' hcut
      cases h
      have hlen := congrArg List.length (cutSingle_eq_some hcut)
      have : 0 < literal.length := List.length_pos_iff.mpr hne'
      simp only [List.length_append, List.length_cons] at hlen
      change (delimiter :: rest).length < s.rest.length
      simp only [List.length_cons]
      omega

/-- The parts up to the first error, and the error. -/
def run (s : Scanner) : List Part × Option SyntaxError :=
  match _h : s.next? with
  | none => ([], none)
  | some (.error error, _) => ([], some error)
  | some (.ok part, s') =>
    let (parts, error) := s'.run
    (part :: parts, error)
termination_by s.rest.length
decreasing_by exact length_of_next? _h

end Scanner

def scan (source : Text) : List Part × Option SyntaxError := (Scanner.start source).run

end LogMarkup
