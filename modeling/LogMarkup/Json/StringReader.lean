import LogMarkup.Json.Fault

/-!
# Reading JSON strings

A string ends at the first quote that is not escaped, and a control character has to be escaped in
it. A character is escaped by a letter or by
four hexadecimal digits; a character beyond the first 65536 by two such escapes, of a leading and
a trailing surrogate.

* `length_lt_of_readString`: what is left is shorter than what was given.
-/

namespace LogMarkup.Json

/-! ## Escapes -/

/-- The value of a hexadecimal digit. -/
def hexDigit? (c : Char) : Option Nat :=
  if '0' ≤ c ∧ c ≤ '9' then some (c.toNat - '0'.toNat)
  else if 'a' ≤ c ∧ c ≤ 'f' then some (c.toNat - 'a'.toNat + 10)
  else if 'A' ≤ c ∧ c ≤ 'F' then some (c.toNat - 'A'.toNat + 10)
  else none

/-- The number of four hexadecimal digits, and the rest. -/
def readHex : Text → Except Stop (Nat × Text)
  | a :: b :: c :: d :: rest =>
    match hexDigit? a, hexDigit? b, hexDigit? c, hexDigit? d with
    | some a, some b, some c, some d => .ok (((a * 16 + b) * 16 + c) * 16 + d, rest)
    | _, _, _, _ => .error ⟨.malformed, rest⟩
  | _ => .error ⟨.malformed, []⟩

/-- The character of an escape letter. -/
def escaped? (c : Char) : Option Char :=
  if c = '"' ∨ c = '\\' ∨ c = '/' then some c
  else if c = 'b' then some '\x08'
  else if c = 'f' then some '\x0c'
  else if c = 'n' then some '\n'
  else if c = 'r' then some '\r'
  else if c = 't' then some '\t'
  else none

def isLeadingSurrogate (code : Nat) : Bool := 0xD800 ≤ code && code < 0xDC00

def isTrailingSurrogate (code : Nat) : Bool := 0xDC00 ≤ code && code < 0xE000

/-- The character of a leading and a trailing surrogate. -/
def surrogatePair (leading trailing : Nat) : Char :=
  Char.ofNat (0x10000 + (leading - 0xD800) * 0x400 + (trailing - 0xDC00))

/-- The character of a leading surrogate and the escape that follows it, and the rest. -/
def readTrailing (leading : Nat) (t : Text) : Except Stop (Char × Text) :=
  match t with
  | [] => .error ⟨.malformed, []⟩
  | '\\' :: escape =>
    match escape with
    | [] => .error ⟨.malformed, []⟩
    | 'u' :: digits => do
      let (code, rest) ← readHex digits
      if isTrailingSurrogate code then .ok (surrogatePair leading code, rest)
      else .error ⟨.unpairedSurrogate, rest⟩
    | _ => .error ⟨.missingSurrogate, escape⟩
  | _ => .error ⟨.missingSurrogate, t⟩

/-- The character of an escape after its backslash, and the rest. -/
def readEscape (t : Text) : Except Stop (Char × Text) :=
  match t with
  | [] => .error ⟨.malformed, []⟩
  | 'u' :: digits => do
    let (code, rest) ← readHex digits
    if isTrailingSurrogate code then .error ⟨.unpairedSurrogate, rest⟩
    else if isLeadingSurrogate code then readTrailing code rest
    else .ok (Char.ofNat code, rest)
  | c :: rest =>
    match escaped? c with
    | none => .error ⟨.malformed, rest⟩
    | some character => .ok (character, rest)

theorem length_lt_of_readHex {t rest : Text} {n : Nat} (h : readHex t = .ok (n, rest)) :
    rest.length < t.length := by
  unfold readHex at h
  split at h
  · split at h <;> cases h
    simp only [List.length_cons]
    omega
  · cases h

theorem length_lt_of_readTrailing {leading : Nat} {t rest : Text} {c : Char}
    (h : readTrailing leading t = .ok (c, rest)) : rest.length < t.length := by
  unfold readTrailing at h
  split at h
  · cases h
  · split at h
    · cases h
    · rename_i digits
      cases hhex : readHex digits with
      | error => simp [hhex, bind, Except.bind] at h
      | ok read =>
        simp only [hhex, bind, Except.bind] at h
        have := length_lt_of_readHex hhex
        split at h
        · simp only [Except.ok.injEq, Prod.mk.injEq] at h
          simp only [← h.2, List.length_cons]
          omega
        · cases h
    · cases h
  · cases h

theorem length_lt_of_readEscape {t rest : Text} {c : Char}
    (h : readEscape t = .ok (c, rest)) : rest.length < t.length := by
  unfold readEscape at h
  split at h
  · cases h
  · rename_i digits
    cases hhex : readHex digits with
    | error => simp [hhex, bind, Except.bind] at h
    | ok read =>
      simp only [hhex, bind, Except.bind] at h
      have := length_lt_of_readHex hhex
      simp only [List.length_cons]
      split at h
      · cases h
      · split at h
        · have := length_lt_of_readTrailing h
          omega
        · cases h
          omega
  · split at h <;> cases h
    simp

/-! ## Strings -/

/-- The text of a string, and whether it is written without escapes. -/
structure StringContent where
  text : Text
  verbatim : Bool
  deriving DecidableEq, Repr

/-- Puts a character in front of a string that was read. -/
def StringContent.cons (c : Char) (escaped : Bool) (s : StringContent) : StringContent :=
  ⟨c :: s.text, s.verbatim && !escaped⟩

/-- A string after its opening quote, and the rest after the closing quote. -/
def readString (t : Text) : Except Stop (StringContent × Text) :=
  match t with
  | [] => .error ⟨.malformed, []⟩
  | '"' :: rest => .ok (⟨[], true⟩, rest)
  | '\\' :: escape =>
    match _ : readEscape escape with
    | .error stop => .error stop
    | .ok (c, rest) => (readString rest).map fun (s, rest) => (s.cons c true, rest)
  | c :: rest =>
    if c.toNat < 0x20 then .error ⟨.controlCharacter, rest⟩
    else (readString rest).map fun (s, rest) => (s.cons c false, rest)
termination_by t.length
decreasing_by
  · have := length_lt_of_readEscape ‹_›
    simp only [List.length_cons]
    omega
  · simp

theorem length_lt_of_readString {t rest : Text} {s : StringContent}
    (h : readString t = .ok (s, rest)) : rest.length < t.length := by
  fun_induction readString t generalizing s with
  | case1 => cases h
  | case2 => cases h; simp
  | case3 => cases h
  | case4 escape c left hc ih =>
    cases hs : readString left with
    | error => simp [hs, Except.map] at h
    | ok read =>
      simp only [hs, Except.map, Except.ok.injEq, Prod.mk.injEq] at h
      have hleft := ih (s := read.1) (by rw [hs, ← h.2])
      have := length_lt_of_readEscape hc
      simp only [List.length_cons]
      omega
  | case5 => cases h
  | case6 c left _ _ _ ih =>
    cases hs : readString left with
    | error => simp [hs, Except.map] at h
    | ok read =>
      simp only [hs, Except.map, Except.ok.injEq, Prod.mk.injEq] at h
      have hleft := ih (s := read.1) (by rw [hs, ← h.2])
      simp only [List.length_cons]
      omega

end LogMarkup.Json
