import LogMarkup.Proofs.Escape
import LogMarkup.Proofs.Text.ByteOrder
import LogMarkup.Proofs.Text.Slice

/-!
# Searching bytes and slicing text

Delimiters and separators are searched for in the bytes of a text, and what stands between them is
cut out of the text. A character of one byte is found where it stands and nowhere else: no byte of
a longer character is the byte of a shorter one. So a search ends between two characters.

Programs that search and slice are written with an optional result. They have none if they ask for
bytes that are not there, or for a slice that starts or ends inside a character, or if they go on
and on without getting any further.

* `rounds`, `rounds_eq`: loops, and what follows for a loop from one round of it.
* `Reaches`, `reaches_of_rounds`: the states that a loop comes to, the last of which gives its
  result.
* `length_utf8`, `utf8_append`: bytes are counted by `byteLength`.
* `findIdx?_utf8_append`: a search for characters of one byte.
* `bytesFrom?`, `bytesBetween?`: parts of the bytes, and `bytesBetween?_of_slice?`: the bytes of a
  slice are those between its offsets.
* `singleFrom_eq`: the first unpaired delimiter.
-/

namespace LogMarkup

/-! ## Loops -/

/-- What a round of a loop leads to. -/
inductive Round (α β : Type) where
  | goesOn (a : α)
  | ended (b : β)

/-- Repeats rounds until one ends. `none` if a round has no result, or if it goes on and leaves no
less to be done. -/
def rounds {α β : Type} (left : α → Nat) (round : α → Option (Round α β)) (a : α) :
    Option β := do
  match ← round a with
  | .ended b => return b
  | .goesOn next => if _h : left next < left a then rounds left round next else none
termination_by left a
decreasing_by exact _h

/-- If each round keeps to the result that its start leads to, the loop has this result. -/
theorem rounds_eq {α β : Type} {left : α → Nat} {round : α → Option (Round α β)}
    {Leads : α → β → Prop}
    (hRound : ∀ a b, Leads a b → round a = some (.ended b) ∨
      ∃ next, round a = some (.goesOn next) ∧ left next < left a ∧ Leads next b)
    {a : α} {b : β} (h : Leads a b) : rounds left round a = some b := by
  induction hLeft : left a using Nat.strongRecOn generalizing a with
  | ind bound ih =>
    rw [rounds]
    rcases hRound a b h with hEnded | ⟨next, hNext, hLess, hLeads⟩
    · rw [hEnded]
      rfl
    · rw [hNext, Option.bind_eq_bind, Option.bind_some]
      dsimp only
      rw [dif_pos hLess]
      exact ih (left next) (hLeft ▸ hLess) hLeads rfl

/-- The states that a loop comes to. -/
inductive Reaches {α β : Type} (round : α → Option (Round α β)) (a : α) : α → Prop where
  | here : Reaches round a a
  | goesOn {b c : α} (hReach : Reaches round a b) (hRound : round b = some (.goesOn c)) :
      Reaches round a c

theorem Reaches.head {α β : Type} {round : α → Option (Round α β)} {a b c : α}
    (hRound : round a = some (.goesOn b)) (h : Reaches round b c) : Reaches round a c := by
  induction h with
  | here => exact .goesOn .here hRound
  | goesOn _ hLater ih => exact .goesOn ih hLater

/-- The result of a loop is that of a round which the loop comes to. -/
theorem reaches_of_rounds {α β : Type} {left : α → Nat} {round : α → Option (Round α β)} {a : α}
    {b : β} (h : rounds left round a = some b) :
    ∃ c, Reaches round a c ∧ round c = some (.ended b) := by
  induction hLeft : left a using Nat.strongRecOn generalizing a with
  | ind bound ih =>
    rw [rounds] at h
    cases hRound : round a with
    | none =>
      rw [hRound] at h
      cases h
    | some step =>
      rw [hRound, Option.bind_eq_bind, Option.bind_some] at h
      cases step with
      | ended b' =>
        cases h
        exact ⟨a, .here, hRound⟩
      | goesOn next =>
        obtain ⟨hLess, hRest⟩ := Option.dite_none_right_eq_some.mp h
        obtain ⟨c, hReach, hEnded⟩ := ih (left next) (hLeft ▸ hLess) hRest rfl
        exact ⟨c, hReach.head hRound, hEnded⟩

/-! ## Bytes of texts -/

@[simp] theorem utf8_nil : utf8 [] = [] := rfl

@[simp] theorem utf8_append (s t : Text) : utf8 (s ++ t) = utf8 s ++ utf8 t := List.flatMap_append

@[simp] theorem length_utf8 (t : Text) : (utf8 t).length = byteLength t := by
  induction t with
  | nil => rfl
  | cons c t ih =>
    rw [utf8_cons, List.length_append, ih, String.length_utf8EncodeChar, byteLength_cons]

/-- The byte of a character that has only one. -/
def byteOf (c : Char) : UInt8 := c.val.toUInt8

theorem utf8EncodeChar_eq_byteOf {c : Char} (hc : c.utf8Size = 1) :
    String.utf8EncodeChar c = [byteOf c] := String.utf8EncodeChar_eq_singleton hc

theorem toNat_byteOf {c : Char} (hc : c.utf8Size = 1) :
    (byteOf c).toNat = c.val.toNat ∧ c.val.toNat ≤ 127 := by
  have hCode : c.val.toNat ≤ 127 := UInt32.le_iff_toNat_le.mp (Char.utf8Size_eq_one_iff.mp hc)
  refine ⟨?_, hCode⟩
  rw [byteOf, UInt32.toNat_toUInt8]
  omega

/-- The bytes of a longer character are all larger than those of characters of one byte. -/
theorem le_toNat_of_mem {c : Char} (hc : c.utf8Size ≠ 1) :
    ∀ b ∈ String.utf8EncodeChar c, 128 ≤ b.toNat := by
  have hCode : ¬ c.val.toNat ≤ 127 := by
    rw [Ne, Char.utf8Size_eq_one_iff, UInt32.le_iff_toNat_le] at hc
    exact hc
  intro b hb
  unfold String.utf8EncodeChar at hb
  dsimp only at hb
  rw [if_neg hCode] at hb
  split_ifs at hb <;> simp only [List.mem_cons, List.not_mem_nil, or_false] at hb
  · rcases hb with rfl | rfl <;> rw [UInt8.toNat_ofNat'] <;> omega
  · rcases hb with rfl | rfl | rfl <;> rw [UInt8.toNat_ofNat'] <;> omega
  · rcases hb with rfl | rfl | rfl | rfl <;> rw [UInt8.toNat_ofNat'] <;> omega

/-! ## Places -/

theorem byteLength_append_cons (before after : Text) {c : Char} (hc : c.utf8Size = 1) :
    byteLength (before ++ c :: after) = byteLength before + 1 + byteLength after := by
  rw [byteLength_append, byteLength_cons, hc, ← Nat.add_assoc]

/-- The place behind a name and the character that ends it. -/
theorem byteLength_behind_name {opening : Nat} {before : Text} (name : Text) {c : Char}
    (hc : c.utf8Size = 1) (hOpening : opening = byteLength before) :
    opening + 1 + byteLength name + 1 = byteLength (before ++ delimiter :: (name ++ [c])) := by
  rw [byteLength_append_cons _ _ rfl, byteLength_append_cons _ _ hc, byteLength_nil, hOpening]
  omega

/-- The place behind two delimiters. -/
theorem byteLength_behind_pair {finger : Nat} {before : Text} (front : Text)
    (hFinger : finger = byteLength before) :
    finger + byteLength front + 2 = byteLength (before ++ (front ++ [delimiter, delimiter])) := by
  rw [byteLength_append, byteLength_append_cons _ _ rfl, hFinger, ← Nat.add_assoc,
    ← Nat.add_assoc]
  rfl

/-! ## Searching -/

/-- The byte of a character of one byte is in no other character. -/
theorem byteOf_mem_iff {c d : Char} (hd : d.utf8Size = 1) :
    byteOf d ∈ String.utf8EncodeChar c ↔ c = d := by
  constructor
  · intro hMem
    obtain ⟨hByte, hCode⟩ := toNat_byteOf hd
    by_cases hc : c.utf8Size = 1
    · rw [utf8EncodeChar_eq_byteOf hc, List.mem_singleton] at hMem
      have hSame := congrArg UInt8.toNat hMem
      rw [hByte, (toNat_byteOf hc).1] at hSame
      exact Char.ext (UInt32.toNat_inj.mp hSame.symm)
    · have hLarge := le_toNat_of_mem hc _ hMem
      omega
  · rintro rfl
    rw [utf8EncodeChar_eq_byteOf hd]
    exact List.mem_singleton_self _

theorem byteOf_inj {c d : Char} (hc : c.utf8Size = 1) (hd : d.utf8Size = 1) :
    byteOf c = byteOf d ↔ c = d := by
  rw [← byteOf_mem_iff hd, utf8EncodeChar_eq_byteOf hc, List.mem_singleton, eq_comm]

/-- The first byte of a character tells whether it is a given one of one byte. -/
theorem exists_cons_of_utf8EncodeChar {d : Char} (hd : d.utf8Size = 1) (c : Char) :
    ∃ b bytes, String.utf8EncodeChar c = b :: bytes ∧ (b = byteOf d ↔ c = d) := by
  obtain ⟨b, bytes, hBytes⟩ := List.exists_cons_of_ne_nil (String.utf8EncodeChar_ne_nil (c := c))
  refine ⟨b, bytes, hBytes, ?_, ?_⟩
  · rintro rfl
    rw [← byteOf_mem_iff hd, hBytes]
    exact List.mem_cons_self
  · rintro rfl
    rw [utf8EncodeChar_eq_byteOf hd] at hBytes
    exact (List.cons.inj hBytes).1.symm

/-- The predicate on bytes holds of some characters of one byte, and of nothing else. -/
structure Finds (p : UInt8 → Bool) (q : Char → Bool) : Prop where
  found : ∀ c, q c = true → c.utf8Size = 1 ∧ p (byteOf c) = true
  passed : ∀ c, q c = false → ∀ b ∈ String.utf8EncodeChar c, p b = false

theorem finds_byteOf {d : Char} (hd : d.utf8Size = 1) : Finds (· = byteOf d) (· = d) where
  found := by
    intro c hc
    obtain rfl : c = d := of_decide_eq_true hc
    exact ⟨hd, decide_eq_true rfl⟩
  passed := by
    intro c hc b hb
    refine decide_eq_false ?_
    rintro rfl
    exact of_decide_eq_false hc ((byteOf_mem_iff hd).mp hb)

theorem Finds.or {p p' : UInt8 → Bool} {q q' : Char → Bool} (h : Finds p q) (h' : Finds p' q') :
    Finds (fun b => p b || p' b) (fun c => q c || q' c) where
  found := by
    intro c hc
    rcases Bool.or_eq_true_iff.mp hc with hq | hq
    · exact ⟨(h.found c hq).1, Bool.or_eq_true_iff.mpr (.inl (h.found c hq).2)⟩
    · exact ⟨(h'.found c hq).1, Bool.or_eq_true_iff.mpr (.inr (h'.found c hq).2)⟩
  passed := by
    intro c hc b hb
    obtain ⟨hq, hq'⟩ := Bool.or_eq_false_iff.mp hc
    exact Bool.or_eq_false_iff.mpr ⟨h.passed c hq b hb, h'.passed c hq' b hb⟩

theorem findIdx?_utf8_eq_none {p : UInt8 → Bool} {q : Char → Bool} (h : Finds p q) {t : Text}
    (ht : ∀ c ∈ t, q c = false) : (utf8 t).findIdx? p = none := by
  rw [List.findIdx?_eq_none_iff]
  intro b hb
  obtain ⟨c, hc, hByte⟩ := List.mem_flatMap.mp hb
  exact h.passed c (ht c hc) b hByte

theorem findIdx?_utf8_append {p : UInt8 → Bool} {q : Char → Bool} (h : Finds p q)
    {before : Text} (hBefore : ∀ c ∈ before, q c = false) {c : Char} (hc : q c = true)
    (after : Text) :
    (utf8 (before ++ c :: after)).findIdx? p = some (byteLength before) := by
  obtain ⟨hSize, hFound⟩ := h.found c hc
  rw [utf8_append, List.findIdx?_append, findIdx?_utf8_eq_none h hBefore, utf8_cons,
    utf8EncodeChar_eq_byteOf hSize, List.singleton_append, List.findIdx?_cons, if_pos hFound]
  simp

/-- The place of the first byte of a character. -/
def findByte (d : Char) (bytes : List UInt8) : Option Nat := bytes.findIdx? (· = byteOf d)

theorem findByte_utf8 {d : Char} (hd : d.utf8Size = 1) (t : Text) :
    findByte d (utf8 t) = (cutAt d t).map fun (before, _) => byteLength before := by
  have hOther : ∀ {s : Text}, d ∉ s → ∀ c ∈ s, decide (c = d) = false := by
    intro s hMem c hc
    refine decide_eq_false ?_
    rintro rfl
    exact hMem hc
  cases hCut : cutAt d t with
  | none => exact findIdx?_utf8_eq_none (finds_byteOf hd) (hOther (cutAt_eq_none_iff.mp hCut))
  | some cut =>
    obtain ⟨before, after⟩ := cut
    obtain ⟨rfl, hBefore⟩ := cutAt_eq_some hCut
    exact findIdx?_utf8_append (finds_byteOf hd) (hOther hBefore) (decide_eq_true rfl) after

/-- The byte behind a first part of the text. -/
theorem getElem?_utf8 (before after : Text) :
    (utf8 (before ++ after))[byteLength before]? = (utf8 after).head? := by
  rw [utf8_append, List.getElem?_append_right (Nat.le_of_eq (length_utf8 before)), length_utf8,
    Nat.sub_self, List.head?_eq_getElem?]

theorem getElem?_utf8_cons (before after : Text) {c : Char} (hc : c.utf8Size = 1) :
    (utf8 (before ++ c :: after))[byteLength before]? = some (byteOf c) := by
  rw [getElem?_utf8, utf8_cons, utf8EncodeChar_eq_byteOf hc]
  rfl

theorem head?_utf8_eq_iff {t : Text} {d : Char} (hd : d.utf8Size = 1) :
    (utf8 t).head? = some (byteOf d) ↔ t.head? = some d := by
  cases t with
  | nil => simp
  | cons c rest =>
    obtain ⟨b, bytes, hBytes, hIff⟩ := exists_cons_of_utf8EncodeChar hd c
    rw [utf8_cons, hBytes]
    exact Option.some_inj.trans (hIff.trans Option.some_inj.symm)

/-! ## Parts of the bytes -/

/-- The bytes from an offset on. `none` past the end. -/
def bytesFrom? (bytes : List UInt8) (start : Nat) : Option (List UInt8) :=
  if start ≤ bytes.length then some (bytes.drop start) else none

/-- The bytes from an offset up to another. `none` if they are not in order or past the end. -/
def bytesBetween? (bytes : List UInt8) (start stop : Nat) : Option (List UInt8) :=
  if start ≤ stop ∧ stop ≤ bytes.length then some ((bytes.take stop).drop start) else none

theorem bytesFrom?_utf8 {t : Text} {start : Nat} (before after : Text) (ht : t = before ++ after)
    (hStart : start = byteLength before) : bytesFrom? (utf8 t) start = some (utf8 after) := by
  subst ht hStart
  rw [bytesFrom?, if_pos (by simp), utf8_append, List.drop_left' (length_utf8 before)]

theorem bytesBetween?_utf8 {t : Text} {start stop : Nat} (before middle after : Text)
    (ht : t = before ++ (middle ++ after)) (hStart : start = byteLength before)
    (hStop : stop = start + byteLength middle) :
    bytesBetween? (utf8 t) start stop = some (utf8 middle) := by
  subst ht hStart hStop
  have hTake : (utf8 (before ++ (middle ++ after))).take (byteLength before + byteLength middle) =
      utf8 before ++ utf8 middle := by
    rw [utf8_append, utf8_append, ← List.append_assoc]
    exact List.take_left' (by simp)
  rw [bytesBetween?, if_pos (by simp), hTake, List.drop_left' (length_utf8 before)]

theorem slice?_eq_some {t : Text} {start stop : Nat} (before middle after : Text)
    (ht : t = before ++ (middle ++ after)) (hStart : start = byteLength before)
    (hStop : stop = start + byteLength middle) : slice? t start stop = some middle := by
  refine slice?_eq_some_iff.mpr ⟨before, after, ?_, hStart.symm, hStop.symm⟩
  rw [ht, List.append_assoc]

/-- A slice is between two characters, and its bytes are those of a text. -/
theorem bytesBetween?_of_slice? {t u : Text} {start stop : Nat} (h : slice? t start stop = some u) :
    IsBoundary t start ∧ IsBoundary t stop ∧ stop ≤ byteLength t ∧
      bytesBetween? (utf8 t) start stop = some (utf8 u) := by
  obtain ⟨before, after, rfl, rfl, rfl⟩ := slice?_eq_some_iff.mp h
  have hStop : byteLength (before ++ u) = byteLength before + byteLength u :=
    byteLength_append before u
  refine ⟨isBoundary_iff.mpr ⟨before, u ++ after, List.append_assoc .., rfl⟩,
    isBoundary_iff.mpr ⟨before ++ u, after, rfl, hStop⟩, ?_, ?_⟩
  · rw [byteLength_append, hStop]
    exact Nat.le_add_right _ _
  · exact bytesBetween?_utf8 before u after (List.append_assoc ..) rfl rfl

/-! ## Delimiters -/

/-- The place of the first delimiter at or after `finger`, and whether another follows it. -/
def delimiterFrom (bytes : List UInt8) (finger : Nat) : Option (Option (Nat × Bool)) :=
  if finger < bytes.length then do
    let rest ← bytesFrom? bytes finger
    return (findByte delimiter rest).map fun x =>
      (finger + x, bytes[finger + x + 1]? = some (byteOf delimiter))
  else return none

theorem delimiterFrom_eq {t : Text} {finger : Nat} (before rest : Text) (ht : t = before ++ rest)
    (hFinger : finger = byteLength before) :
    delimiterFrom (utf8 t) finger = some ((cutAt delimiter rest).map fun (front, after) =>
      (finger + byteLength front, decide (after.head? = some delimiter))) := by
  unfold delimiterFrom
  by_cases hEnd : finger < (utf8 t).length
  · rw [if_pos hEnd, bytesFrom?_utf8 before rest ht hFinger, Option.bind_eq_bind,
      Option.bind_some, findByte_utf8 rfl]
    cases hCut : cutAt delimiter rest with
    | none => rfl
    | some cut =>
      obtain ⟨front, after⟩ := cut
      obtain ⟨rfl, -⟩ := cutAt_eq_some hCut
      have hByte : (utf8 t)[finger + byteLength front + 1]? = some (byteOf delimiter) ↔
          after.head? = some delimiter := by
        have hBehind := getElem?_utf8 (before ++ (front ++ [delimiter])) after
        have hSize : delimiter.utf8Size = 1 := rfl
        simp only [byteLength_append, byteLength_cons, byteLength_nil, hSize, List.append_assoc,
          List.singleton_append, ← Nat.add_assoc, Nat.add_zero] at hBehind
        rw [ht, hFinger, hBehind, head?_utf8_eq_iff rfl]
      simp only [Option.map_some, hByte]
      rfl
  · have hNil : rest = [] := by
      rw [length_utf8, ht, byteLength_append] at hEnd
      exact byteLength_eq_zero_iff.mp (by omega)
    rw [if_neg hEnd, hNil]
    rfl

theorem delimiterFrom_of_notMem {t : Text} {finger : Nat} (before : Text) {rest : Text}
    (h : delimiter ∉ rest) (ht : t = before ++ rest) (hFinger : finger = byteLength before) :
    delimiterFrom (utf8 t) finger = some none := by
  rw [delimiterFrom_eq before rest ht hFinger, cutAt_eq_none_iff.mpr h]
  rfl

theorem delimiterFrom_append {t : Text} {finger : Nat} (before : Text) {front : Text}
    (h : delimiter ∉ front) (after : Text) (ht : t = before ++ (front ++ delimiter :: after))
    (hFinger : finger = byteLength before) :
    delimiterFrom (utf8 t) finger =
      some (some (finger + byteLength front, decide (after.head? = some delimiter))) := by
  rw [delimiterFrom_eq before _ ht hFinger, cutAt_append h]
  rfl

/-- Where the first delimiter stands, and whether it is the first of two in a row. -/
theorem delimiter_cases (t : Text) :
    delimiter ∉ t ∨
    (∃ front more, delimiter ∉ front ∧ t = front ++ delimiter :: delimiter :: more) ∨
    ∃ front after, delimiter ∉ front ∧ after.head? ≠ some delimiter ∧
      t = front ++ delimiter :: after := by
  cases hCut : cutAt delimiter t with
  | none => exact .inl (cutAt_eq_none_iff.mp hCut)
  | some cut =>
    obtain ⟨front, after⟩ := cut
    obtain ⟨rfl, hFront⟩ := cutAt_eq_some hCut
    by_cases hDoubled : after.head? = some delimiter
    · obtain ⟨more, rfl⟩ := List.head?_eq_some_iff.mp hDoubled
      exact .inr (.inl ⟨front, more, hFront, rfl⟩)
    · exact .inr (.inr ⟨front, after, hFront, hDoubled, rfl⟩)

/-- The place that a search from `finger` on leads to, where `cut` gives the texts around it. -/
def LeadsToCut (cut : Text → Option (Text × Text)) (t : Text) (finger : Nat)
    (place? : Option Nat) : Prop :=
  ∃ before rest, t = before ++ rest ∧ finger = byteLength before ∧
    place? = (cut rest).map fun found => finger + byteLength found.1

/-- A search goes on behind what it passes. -/
theorem LeadsToCut.behind {cut : Text → Option (Text × Text)} {t before passed rest : Text}
    {finger : Nat} (ht : t = before ++ (passed ++ rest)) (hFinger : finger = byteLength before)
    (hPassed : passed ≠ [])
    (hCut : cut (passed ++ rest) = (cut rest).map fun found => (passed ++ found.1, found.2)) :
    byteLength t - (finger + byteLength passed) < byteLength t - finger ∧
      LeadsToCut cut t (finger + byteLength passed)
        ((cut (passed ++ rest)).map fun found => finger + byteLength found.1) := by
  have hNonempty := mt byteLength_eq_zero_iff.mp hPassed
  refine ⟨?_, before ++ passed, rest, by rw [ht, List.append_assoc], ?_, ?_⟩
  · rw [ht, byteLength_append, byteLength_append, ← hFinger]
    omega
  · rw [byteLength_append, hFinger]
  · rw [hCut, Option.map_map]
    refine congrArg (Option.map · _) (funext fun found => ?_)
    rw [Function.comp_apply, byteLength_append, Nat.add_assoc]

/-- Passes two delimiters in a row. -/
def singleRound (bytes : List UInt8) (finger : Nat) : Option (Round Nat (Option Nat)) := do
  match ← delimiterFrom bytes finger with
  | none => return .ended none
  | some (place, true) => return .goesOn (place + 2)
  | some (place, false) => return .ended (some place)

/-- The place of the first delimiter at or after `finger` that is not one of a doubled pair. -/
def singleFrom (bytes : List UInt8) (finger : Nat) : Option (Option Nat) :=
  rounds (bytes.length - ·) (singleRound bytes) finger

theorem cutSingle_append_of_notMem {before : Text} (h : delimiter ∉ before) (t : Text) :
    cutSingle delimiter (before ++ t) =
      (cutSingle delimiter t).map fun (front, after) => (before ++ front, after) := by
  induction before with
  | nil => simp
  | cons c before ih =>
    rw [List.mem_cons, not_or] at h
    rw [List.cons_append, cutSingle_cons_of_ne (Ne.symm h.1), ih h.2, Option.map_map]
    rfl

theorem singleRound_leads {t : Text} {finger : Nat} {place? : Option Nat}
    (h : LeadsToCut (cutSingle delimiter) t finger place?) :
    singleRound (utf8 t) finger = some (.ended place?) ∨
      ∃ next, singleRound (utf8 t) finger = some (.goesOn next) ∧
        (utf8 t).length - next < (utf8 t).length - finger ∧
        LeadsToCut (cutSingle delimiter) t next place? := by
  obtain ⟨before, rest, ht, hFinger, rfl⟩ := h
  unfold singleRound
  rcases delimiter_cases rest with hNone | ⟨front, more, hFront, rfl⟩ |
    ⟨front, after, hFront, hAfter, rfl⟩
  · left
    have hCut := cutSingle_append_of_notMem hNone []
    rw [List.append_nil] at hCut
    rw [delimiterFrom_of_notMem before hNone ht hFinger, hCut]
    rfl
  · right
    have hPair : front ++ delimiter :: delimiter :: more =
        (front ++ [delimiter, delimiter]) ++ more := by simp
    have hCut : cutSingle delimiter ((front ++ [delimiter, delimiter]) ++ more) =
        (cutSingle delimiter more).map fun found =>
          (front ++ [delimiter, delimiter] ++ found.1, found.2) := by
      rw [← hPair, cutSingle_append_of_notMem hFront, cutSingle_pair, Option.map_map]
      simp [Function.comp_def]
    have hPlace : finger + byteLength (front ++ [delimiter, delimiter]) =
        finger + byteLength front + 2 := by
      rw [byteLength_append, ← Nat.add_assoc]
      rfl
    have hDelimiter := delimiterFrom_append before hFront _ ht hFinger
    rw [hPair] at ht ⊢
    obtain ⟨hLess, hLeads⟩ := LeadsToCut.behind ht hFinger (by simp) hCut
    rw [hPlace] at hLess hLeads
    rw [length_utf8]
    refine ⟨finger + byteLength front + 2, ?_, hLess, hLeads⟩
    rw [hDelimiter]
    rfl
  · left
    rw [delimiterFrom_append before hFront _ ht hFinger, decide_eq_false hAfter,
      cutSingle_append_of_notMem hFront, cutSingle_delimiter hAfter]
    simp

theorem singleFrom_eq {t : Text} {finger : Nat} (before rest : Text) (ht : t = before ++ rest)
    (hFinger : finger = byteLength before) :
    singleFrom (utf8 t) finger =
      some ((cutSingle delimiter rest).map fun cut => finger + byteLength cut.1) :=
  rounds_eq (fun _ _ => singleRound_leads) ⟨before, rest, ht, hFinger, rfl⟩

end LogMarkup
