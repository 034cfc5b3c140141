import LogMarkup.Template.Scanner
import LogMarkup.Text.Quoted

/-!
# Templates

A template is a source text together with the parts that scanning it gave. Only a text without
errors is a template, so a template can be expanded again and again without being scanned.
-/

namespace LogMarkup

structure Template where
  source : Text
  parts : List Part
  scan_source : scan source = (parts, none)

namespace Template

def ofText (source : Text) : Except SyntaxError Template :=
  match h : scan source with
  | (parts, none) => .ok ⟨source, parts, h⟩
  | (_, some error) => .error error

/-- Templates with the same source have the same parts. -/
theorem ext_source {s t : Template} (h : s.source = t.source) : s = t := by
  obtain ⟨source, parts, hs⟩ := s
  obtain ⟨source', parts', ht⟩ := t
  cases h
  cases hs.symm.trans ht
  rfl

instance : DecidableEq Template := fun s t =>
  if h : s.source = t.source then .isTrue (ext_source h)
  else .isFalse fun heq => h (congrArg source heq)

/-- The names of the placeholders, in order. -/
def names (t : Template) : List Text :=
  t.parts.filterMap fun
    | .literal _ => none
    | .placeholder p => some p.name

/-- Whether a template keeps its source or only looks at the source of another. -/
inductive Ownership where
  | borrowed
  | owned
  deriving DecidableEq, Repr

/-- The source as it is shown to a programmer. -/
def diagnostic (ownership : Ownership) (t : Template) : Text :=
  let label := match ownership with
    | .borrowed => "Template"
    | .owned => "TemplateBuf"
  label.toList ++ ['('] ++ quoted t.source ++ [')']

end Template

/-- The names of the placeholders of a source text. -/
def parameters (source : Text) : Except SyntaxError (List Text) :=
  (Template.ofText source).map Template.names

end LogMarkup
