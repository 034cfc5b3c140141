import LogMarkup.Expansion

/-!
# Messages of expansion errors

A syntax error is reported as a message itself, expanded from a template with the offending
template, the position and the description as arguments, so that it can be read back like any
other message.
-/

namespace LogMarkup

/-- The template of reports about syntax errors. -/
def SyntaxError.reportTemplate : Text := "syntax error in `tmpl`:`pos`:`desc`".toList

/-- The report, expanded from its template. -/
def SyntaxError.report (e : SyntaxError) : Except ExpandError Text :=
  let arguments : List Value :=
    [.text e.template, .nat (UInt64.ofNat e.position), .text e.kind.description]
  (expand reportTemplate (Resolver.positional arguments) ()).1

/-- The text of the report. Its template has no error and all its arguments, so there always is
one. -/
def SyntaxError.message (e : SyntaxError) : Text :=
  match e.report with
  | .ok text => text
  | .error _ => []

def FailedArgument.message (f : FailedArgument) : Text :=
  f.name ++ ": ".toList ++ f.error.message

def UnresolvedArguments.description (u : UnresolvedArguments) : Text :=
  "unresolved arguments: ".toList ++ joinWith "; ".toList (u.failures.map FailedArgument.message)

def ExpandError.message : ExpandError → Text
  | .malformed error => error.message
  | .unresolved arguments => arguments.description

end LogMarkup
