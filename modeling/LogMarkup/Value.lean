import LogMarkup.Chunk
import LogMarkup.Decimal.Notation

/-!
# Values of arguments

A value is a text, a number, a truth value or a character, or it writes itself: a custom value is
a sequence of pieces that may contain other values, and may fail at any of them. `Value.writing`
gives the chunks that a value writes, before escaping.

* `ToValue`: the types that have values. Numbers of every width keep their number.
-/

namespace LogMarkup

/-- A value that writes itself gave up. -/
inductive FormatFailure where
  | failed
  deriving DecidableEq, Repr

/-- A step of a value that shows itself as text. -/
inductive Fragment where
  | text (t : Text)
  | char (c : Char)
  | fail

mutual

inductive Value where
  | text (t : Text)
  | int (i : Int64)
  | nat (n : UInt64)
  | bool (b : Bool)
  | float32 (x : Float32)
  | float (x : Float)
  | char (c : Char)
  /-- A value that writes itself in pieces. -/
  | custom (pieces : List Piece)
  /-- A value that shows itself as text. -/
  | shown (fragments : List Fragment)

/-- A step of a value that writes itself. -/
inductive Piece where
  | text (t : Text)
  | char (c : Char)
  | value (v : Value)
  | fail

end

/-! ## Writing values -/

/-- The minus sign of a number is a chunk of its own. -/
def integerChunks (i : Int) : List Chunk :=
  if i < 0 then [.char '-', .text (decimal i.natAbs)] else [.text (decimal i.natAbs)]

def Fragment.writing : Fragment → Writing FormatFailure
  | .text t => .done [.text t]
  | .char c => .done [.char c]
  | .fail => .fail .failed

def Fragment.writingAll : List Fragment → Writing FormatFailure
  | [] => .done []
  | f :: rest => f.writing.andThen (writingAll rest)

mutual

def Value.writing : Value → Writing FormatFailure
  | .text t => .done [.text t]
  | .int i => .done (integerChunks i.toInt)
  | .nat n => .done (integerChunks n.toNat)
  | .bool true => .done [.text "true".toList]
  | .bool false => .done [.text "false".toList]
  | .float32 x => .done ((messageNotation.parts (.ofFloat32 x)).map .text)
  | .float x => .done ((messageNotation.parts (.ofFloat x)).map .text)
  | .char c => .done [.char c]
  | .custom pieces => Piece.writingAll pieces
  | .shown fragments => Fragment.writingAll fragments

def Piece.writing : Piece → Writing FormatFailure
  | .text t => .done [.text t]
  | .char c => .done [.char c]
  | .value v => v.writing
  | .fail => .fail .failed

def Piece.writingAll : List Piece → Writing FormatFailure
  | [] => .done []
  | p :: rest => p.writing.andThen (Piece.writingAll rest)

end

/-! ## Types with values -/

class ToValue (α : Type) where
  toValue : α → Value

export ToValue (toValue)

instance : ToValue Value := ⟨id⟩
instance : ToValue Text := ⟨.text⟩
instance : ToValue String := ⟨fun s => .text s.toList⟩
instance : ToValue Bool := ⟨.bool⟩
instance : ToValue Char := ⟨.char⟩
instance : ToValue Float32 := ⟨.float32⟩
instance : ToValue Float := ⟨.float⟩
instance : ToValue Int8 := ⟨fun i => .int i.toInt64⟩
instance : ToValue Int16 := ⟨fun i => .int i.toInt64⟩
instance : ToValue Int32 := ⟨fun i => .int i.toInt64⟩
instance : ToValue Int64 := ⟨.int⟩
instance : ToValue ISize := ⟨fun i => .int i.toInt64⟩
instance : ToValue UInt8 := ⟨fun n => .nat n.toUInt64⟩
instance : ToValue UInt16 := ⟨fun n => .nat n.toUInt64⟩
instance : ToValue UInt32 := ⟨fun n => .nat n.toUInt64⟩
instance : ToValue UInt64 := ⟨.nat⟩
instance : ToValue USize := ⟨fun n => .nat n.toUInt64⟩

end LogMarkup
