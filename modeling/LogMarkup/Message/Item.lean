import LogMarkup.Escape
import LogMarkup.Message.Defect

/-!
# Items of messages

A message is a sequence of items: plain characters, doubled delimiters, and arguments. An
argument has a name and either a value or an error, whose delimiters are doubled.

* `Item.source_of_read`: reading an item uses up exactly its text.
* `readItems`: the items up to the first defect.
-/

namespace LogMarkup

/-- An argument as it stands in a message. -/
structure Argument where
  name : Text
  /-- The value or error in its written form, with doubled delimiters. -/
  written : Text
  isError : Bool
  deriving DecidableEq, Repr

namespace Argument

/-- The value or error itself. -/
def text (a : Argument) : Text := unescape a.written

/-- Does the written form differ from the text? -/
def isRewritten (a : Argument) : Bool := (unescape? a.written).isSome

/-- The text of the argument in the message. -/
def source (a : Argument) : Text :=
  delimiter :: a.name ++
    (if a.isError then errorMarker :: '(' :: a.written ++ [')'] else nameSeparator :: a.written) ++
    [delimiter]

/-- The placeholder that the argument was expanded from. -/
def placeholder (a : Argument) : Text := delimiter :: a.name ++ [delimiter]

end Argument

inductive Item where
  /-- A character other than the delimiter. -/
  | plain (c : Char)
  /-- A doubled delimiter. -/
  | doubled
  | argument (a : Argument)
  deriving DecidableEq, Repr

namespace Item

/-- The text of the item in the message. -/
def source : Item → Text
  | .plain c => [c]
  | .doubled => [delimiter, delimiter]
  | .argument a => a.source

/-- The text of the item in the template of the message. -/
def template : Item → Text
  | .plain c => [c]
  | .doubled => [delimiter, delimiter]
  | .argument a => a.placeholder

end Item

/-! ## Reading arguments -/

/-- Does the character end the name of an argument? -/
def endsName (c : Char) : Bool := c = nameSeparator || c = errorMarker || c = delimiter

/-- Reads the error of an argument from behind the error marker. The argument opens at `start`,
the error marker is at `marker`. -/
def Argument.readError (start marker : Nat) (name : Text) :
    Text → Except Defect (Argument × Text)
  | [] => .error ⟨marker, .missingErrorMarker name⟩
  | c :: body =>
    if c = '(' then
      match cutSingle delimiter body with
      | none => .error ⟨start, .unterminatedArgument name⟩
      | some (inner, after) => match inner.getLast? with
        | none => .error ⟨marker + 1, .invalidErrorEnd name '('⟩
        | some last =>
          if last = ')' then .ok (⟨name, inner.dropLast, true⟩, after)
          else .error ⟨marker + 2 + byteLength inner.dropLast, .invalidErrorEnd name last⟩
    else .error ⟨marker + 1, .invalidErrorStart name c⟩

/-- Reads the value of an argument from behind the name separator. -/
def Argument.readValue (start : Nat) (name rest : Text) : Except Defect (Argument × Text) :=
  match cutSingle delimiter rest with
  | none => .error ⟨start, .unterminatedArgument name⟩
  | some (written, after) => .ok (⟨name, written, false⟩, after)

/-- Reads an argument from behind its name. -/
def Argument.readNamed (start : Nat) (name : Text) : Text → Except Defect (Argument × Text)
  | [] => .error ⟨start, .unterminatedName name⟩
  | c :: rest =>
    if c = delimiter then .error ⟨start, .unterminatedName name⟩
    else if name = [] then .error ⟨start + 1, .emptyName⟩
    else if c = errorMarker then
      Argument.readError start (start + 1 + byteLength name) name rest
    else Argument.readValue start name rest

/-- Reads an argument whose opening delimiter at `start` is followed by `rest`, and gives the
text after it. -/
def Argument.read (start : Nat) (rest : Text) : Except Defect (Argument × Text) :=
  Argument.readNamed start (rest.takeWhile (!endsName ·)) (rest.dropWhile (!endsName ·))

/-- Reads the item that starts with `c` at the byte offset `start`, and gives the text after
it. -/
def Item.read (start : Nat) (c : Char) (rest : Text) : Except Defect (Item × Text) :=
  if c = delimiter then
    match rest with
    | [] => .error ⟨start, .emptyArgument⟩
    | d :: after =>
      if d = delimiter then .ok (.doubled, after)
      else (Argument.read start rest).map fun (a, after) => (.argument a, after)
  else .ok (.plain c, rest)

theorem Argument.source_of_readError {start marker : Nat} {name rest after : Text} {a : Argument}
    (h : Argument.readError start marker name rest = .ok (a, after)) :
    delimiter :: name ++ errorMarker :: rest = a.source ++ after := by
  unfold Argument.readError at h
  split at h
  · cases h
  · rename_i c body
    split at h
    · rename_i hc
      split at h
      · cases h
      · rename_i inner after' hcut
        split at h
        · cases h
        · rename_i last hlast
          split at h
          · rename_i hparen
            cases h
            have hinner : inner.dropLast ++ [')'] = inner := by
              rw [← hparen]
              obtain ⟨before, rfl⟩ := List.getLast?_eq_some_iff.mp hlast
              simp
            rw [cutSingle_eq_some hcut, hc]
            simp only [Argument.source, if_true, hinner, List.cons_append, List.append_assoc,
              List.nil_append]
          · cases h
    · cases h

theorem Argument.source_of_readValue {start : Nat} {name rest after : Text} {a : Argument}
    (h : Argument.readValue start name rest = .ok (a, after)) :
    delimiter :: name ++ nameSeparator :: rest = a.source ++ after := by
  unfold Argument.readValue at h
  split at h
  · cases h
  · rename_i written after' hcut
    cases h
    rw [cutSingle_eq_some hcut]
    simp [Argument.source]

theorem Argument.source_of_readNamed {start : Nat} {name rest after : Text} {a : Argument}
    (hname : ∀ c ∈ rest.head?, endsName c = true)
    (h : Argument.readNamed start name rest = .ok (a, after)) :
    delimiter :: name ++ rest = a.source ++ after := by
  unfold Argument.readNamed at h
  split at h
  · cases h
  · rename_i c tail
    split at h
    · cases h
    · rename_i hdelim
      split at h
      · cases h
      · split at h
        · rename_i hmark
          rw [← source_of_readError h, hmark]
        · rename_i hmark
          have hsep : c = nameSeparator := by
            simpa [endsName, hdelim, hmark] using hname c (by simp)
          rw [← source_of_readValue h, hsep]

theorem Argument.source_of_read {start : Nat} {rest after : Text} {a : Argument}
    (h : Argument.read start rest = .ok (a, after)) :
    delimiter :: rest = a.source ++ after := by
  have hname : ∀ c ∈ (rest.dropWhile (!endsName ·)).head?, endsName c = true := by
    intro c hc
    have := List.head?_dropWhile_not (!endsName ·) rest
    rw [Option.mem_def.mp hc] at this
    simpa using this
  rw [← source_of_readNamed hname h, List.cons_append, List.takeWhile_append_dropWhile]

theorem Item.source_of_read {start : Nat} {c : Char} {rest after : Text} {item : Item}
    (h : Item.read start c rest = .ok (item, after)) : c :: rest = item.source ++ after := by
  unfold Item.read at h
  split at h
  · rename_i hc
    split at h
    · cases h
    · rename_i d after'
      split at h
      · rename_i hd
        cases h
        simp [Item.source, hc, hd]
      · cases hread : Argument.read start (d :: after') with
        | error defect =>
          rw [hread] at h
          cases h
        | ok result =>
          rw [hread] at h
          cases h
          rw [hc]
          exact Argument.source_of_read hread
  · cases h
    rfl

theorem Item.source_ne_nil (item : Item) : item.source ≠ [] := by
  cases item <;> simp [Item.source, Argument.source]

theorem Item.length_of_read {start : Nat} {c : Char} {rest after : Text} {item : Item}
    (h : Item.read start c rest = .ok (item, after)) : after.length < (c :: rest).length := by
  have hlen := congrArg List.length (source_of_read h)
  have hpos := List.length_pos_iff.mpr item.source_ne_nil
  rw [List.length_append] at hlen
  omega

/-! ## Reading messages -/

/-- The items of a text that starts at the byte offset `start`, up to the first defect, and the
defect. -/
def readItemsFrom (start : Nat) : Text → List Item × Option Defect
  | [] => ([], none)
  | c :: rest =>
    match _h : Item.read start c rest with
    | .error defect => ([], some defect)
    | .ok (item, after) =>
      let (items, defect) := readItemsFrom (start + byteLength item.source) after
      (item :: items, defect)
termination_by t => t.length
decreasing_by exact Item.length_of_read _h

def readItems (message : Text) : List Item × Option Defect := readItemsFrom 0 message

end LogMarkup
