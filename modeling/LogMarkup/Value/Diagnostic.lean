import LogMarkup.Value
import LogMarkup.Text.Quoted

/-!
# Diagnostic form of values

The kind of a value with its content in parentheses, as it is shown to a programmer: texts are
quoted, and whole floating point numbers keep a zero after the point. What a custom value would
write is not looked into, what a shown value shows stands as it is. A shown value that gives up
has no diagnostic form.
-/

namespace LogMarkup

/-- A kind and its content. -/
def labelled (label : String) (content : Text) : Text :=
  label.toList ++ ['('] ++ content ++ [')']

/-- The diagnostic form, if the value does not give up. -/
def Value.diagnostic : Value → Option Text
  | .text t => labelled "Str" (quoted t)
  | .int i => labelled "Int" (signedDecimal i.toInt)
  | .nat n => labelled "Uint" (decimal n.toNat)
  | .bool true => labelled "Bool" "true".toList
  | .bool false => labelled "Bool" "false".toList
  | .float32 x => labelled "F32" (diagnosticNotation.parts (.ofFloat32 x)).flatten
  | .float x => labelled "F64" (diagnosticNotation.parts (.ofFloat x)).flatten
  | .char c => labelled "Char" (quotedCharacter c)
  | .custom _ => labelled "Custom" "..".toList
  | .shown fragments =>
    let shown := Fragment.writingAll fragments
    match shown.result with
    | .ok _ => labelled "Display" shown.text
    | .error _ => none

end LogMarkup
