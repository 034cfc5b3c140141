import LogMarkup.Proofs.Escape
import LogMarkup.Proofs.Offsets.Bytes
import LogMarkup.Proofs.Resolver.Choice

/-!
# Escaping by slices

Escaping and unescaping search the bytes of a text for delimiters and copy what is between them in
slices. Each slice ends behind a delimiter or at the end of the text, and starts behind another or
at the front, so all of them are there. The buffer that is written to is cut back to places where
it ended before.

* `cutDoubled`, `doubledFrom_eq`: the text around the first two delimiters in a row, and their place.
* `Copying`, `unescapeSliced_eq`: unescaping.
* `Buffer.pushEscapedSliced_eq`, `Buffer.truncate?_size`: escaping into a buffer, and cutting it
  back.
* `Buffer.answerSliced_eq`: what a resolver writes.
-/

namespace LogMarkup

/-! ## The first two delimiters in a row -/

/-- The text in front of the first two delimiters in a row, and behind them. -/
def cutDoubled : Text → Option (Text × Text)
  | [] => none
  | [_] => none
  | c :: d :: rest =>
    if c = delimiter ∧ d = delimiter then some ([], rest)
    else (cutDoubled (d :: rest)).map fun (before, after) => (c :: before, after)

theorem cutDoubled_eq_some {t before after : Text} (h : cutDoubled t = some (before, after)) :
    t = before ++ delimiter :: delimiter :: after := by
  fun_induction cutDoubled t generalizing before with
  | case1 => cases h
  | case2 => cases h
  | case3 c d rest hcd =>
    cases h
    rw [hcd.1, hcd.2]
    rfl
  | case4 c d rest hcd ih =>
    obtain ⟨⟨b, a⟩, hCut, hEq⟩ := Option.map_eq_some_iff.mp h
    cases hEq
    rw [ih hCut]
    rfl

/-- Unescaping goes on behind the first two delimiters in a row. -/
theorem unescape_eq_cutDoubled (t : Text) :
    unescape t = (cutDoubled t).elim t fun (before, after) =>
      before ++ delimiter :: unescape after := by
  fun_induction cutDoubled t with
  | case1 => rfl
  | case2 => rfl
  | case3 c d rest hcd =>
    rw [unescape, if_pos hcd, hcd.1]
    rfl
  | case4 c d rest hcd ih =>
    rw [unescape, if_neg hcd, ih]
    cases cutDoubled (d :: rest) <;> rfl

theorem isSome_cutDoubled (t : Text) : (cutDoubled t).isSome = hasDoubled t := by
  fun_induction cutDoubled t with
  | case1 => rfl
  | case2 => rfl
  | case3 c d rest hcd => simp [hasDoubled, hcd]
  | case4 c d rest hcd ih => simp [hasDoubled, hcd, ih]

theorem cutDoubled_cons {c : Char} {t : Text} (h : c = delimiter → t.head? ≠ some delimiter) :
    cutDoubled (c :: t) = (cutDoubled t).map fun (front, after) => (c :: front, after) := by
  cases t with
  | nil => rfl
  | cons d rest =>
    have hOther : ¬ (c = delimiter ∧ d = delimiter) := fun hBoth =>
      h hBoth.1 (congrArg some hBoth.2)
    rw [cutDoubled, if_neg hOther]

theorem cutDoubled_append_of_notMem {before : Text} (h : delimiter ∉ before) (t : Text) :
    cutDoubled (before ++ t) =
      (cutDoubled t).map fun (front, after) => (before ++ front, after) := by
  induction before with
  | nil => simp
  | cons c before ih =>
    rw [List.mem_cons, not_or] at h
    rw [List.cons_append, cutDoubled_cons (fun hc => absurd hc.symm h.1), ih h.2, Option.map_map]
    rfl

/-- Passes a single delimiter. -/
def doubledRound (bytes : List UInt8) (finger : Nat) : Option (Round Nat (Option Nat)) := do
  match ← delimiterFrom bytes finger with
  | none => return .ended none
  | some (place, true) => return .ended (some place)
  | some (place, false) => return .goesOn (place + 1)

/-- The place of the first two delimiters in a row at or after `finger`. -/
def doubledFrom (bytes : List UInt8) (finger : Nat) : Option (Option Nat) :=
  rounds (bytes.length - ·) (doubledRound bytes) finger

theorem doubledRound_leads {t : Text} {finger : Nat} {place? : Option Nat}
    (h : LeadsToCut cutDoubled t finger place?) :
    doubledRound (utf8 t) finger = some (.ended place?) ∨
      ∃ next, doubledRound (utf8 t) finger = some (.goesOn next) ∧
        (utf8 t).length - next < (utf8 t).length - finger ∧
        LeadsToCut cutDoubled t next place? := by
  obtain ⟨before, rest, ht, hFinger, rfl⟩ := h
  unfold doubledRound
  rcases delimiter_cases rest with hNone | ⟨front, more, hFront, rfl⟩ |
    ⟨front, after, hFront, hAfter, rfl⟩
  · left
    have hCut := cutDoubled_append_of_notMem hNone []
    rw [List.append_nil] at hCut
    rw [delimiterFrom_of_notMem before hNone ht hFinger, hCut]
    rfl
  · left
    rw [delimiterFrom_append before hFront _ ht hFinger, cutDoubled_append_of_notMem hFront]
    simp [cutDoubled]
  · right
    have hSingle : front ++ delimiter :: after = (front ++ [delimiter]) ++ after := by simp
    have hCut : cutDoubled ((front ++ [delimiter]) ++ after) =
        (cutDoubled after).map fun found => (front ++ [delimiter] ++ found.1, found.2) := by
      rw [← hSingle, cutDoubled_append_of_notMem hFront, cutDoubled_cons fun _ => hAfter,
        Option.map_map]
      simp [Function.comp_def]
    have hPlace : finger + byteLength (front ++ [delimiter]) = finger + byteLength front + 1 := by
      rw [byteLength_append, ← Nat.add_assoc]
      rfl
    have hDelimiter := delimiterFrom_append before hFront _ ht hFinger
    rw [hSingle] at ht ⊢
    obtain ⟨hLess, hLeads⟩ := LeadsToCut.behind ht hFinger (by simp) hCut
    rw [hPlace] at hLess hLeads
    rw [length_utf8]
    refine ⟨finger + byteLength front + 1, ?_, hLess, hLeads⟩
    rw [hDelimiter, decide_eq_false hAfter]
    rfl

theorem doubledFrom_eq {t : Text} {finger : Nat} (before rest : Text)
    (ht : t = before ++ rest) (hFinger : finger = byteLength before) :
    doubledFrom (utf8 t) finger =
      some ((cutDoubled rest).map fun cut => finger + byteLength cut.1) :=
  rounds_eq (fun _ _ => doubledRound_leads) ⟨before, rest, ht, hFinger, rfl⟩

/-! ## Unescaping -/

/-- A copy under way, without the second delimiter of each two in a row. -/
structure Copying where
  out : Text
  /-- The byte offset up to which the text was copied. -/
  finger : Nat
  /-- The place of the next two delimiters in a row. -/
  place? : Option Nat

/-- Copies up to the first of two delimiters in a row, and passes both. -/
def collapseRound (t : Text) (x : Copying) : Option (Round Copying Text) := do
  match x.place? with
  | none => return .ended (x.out ++ (← slice? t x.finger (byteLength t)))
  | some place =>
    let kept ← slice? t x.finger (place + 1)
    return .goesOn ⟨x.out ++ kept, place + 2, ← doubledFrom (utf8 t) (place + 2)⟩

/-- The unescaped text, if it is another one. -/
def unescapeSliced (t : Text) : Option (Option Text) := do
  match ← doubledFrom (utf8 t) 0 with
  | none => return none
  | some place =>
    return some (← rounds (byteLength t - ·.finger) (collapseRound t) ⟨[], 0, some place⟩)

/-- The text that a copy under way leads to. -/
def Copying.LeadsTo (t : Text) (x : Copying) (out : Text) : Prop :=
  ∃ before rest, t = before ++ rest ∧ x.finger = byteLength before ∧
    x.place? = ((cutDoubled rest).map fun cut => x.finger + byteLength cut.1) ∧
    out = x.out ++ unescape rest

theorem collapseRound_leads {t out : Text} {x : Copying} (h : x.LeadsTo t out) :
    collapseRound t x = some (.ended out) ∨
      ∃ next, collapseRound t x = some (.goesOn next) ∧
        byteLength t - next.finger < byteLength t - x.finger ∧ next.LeadsTo t out := by
  obtain ⟨before, rest, ht, hFinger, hPlace?, rfl⟩ := h
  unfold collapseRound
  rw [hPlace?, unescape_eq_cutDoubled]
  cases hCut : cutDoubled rest with
  | none =>
    left
    have hSlice : slice? t x.finger (byteLength t) = some rest :=
      slice?_eq_some before rest [] (by rw [ht, List.append_nil]) hFinger
        (by rw [ht, byteLength_append, hFinger])
    simp only [Option.map_none, hSlice]
    rfl
  | some cut =>
    right
    obtain ⟨front, after⟩ := cut
    have hRest := cutDoubled_eq_some hCut
    have hSlice : slice? t x.finger (x.finger + byteLength front + 1) =
        some (front ++ [delimiter]) := by
      refine slice?_eq_some before (front ++ [delimiter]) (delimiter :: after)
        (by simp [ht, hRest]) hFinger ?_
      rw [byteLength_append, Nat.add_assoc]
      rfl
    -- The place behind both delimiters.
    have hText : t = (before ++ (front ++ [delimiter, delimiter])) ++ after := by
      simp [ht, hRest]
    have hPlace := byteLength_behind_pair front hFinger
    have hNext := doubledFrom_eq _ after hText hPlace
    refine ⟨⟨x.out ++ (front ++ [delimiter]), x.finger + byteLength front + 2,
      (cutDoubled after).map fun cut => x.finger + byteLength front + 2 + byteLength cut.1⟩, ?_, ?_,
      _, after, hText, hPlace, rfl, ?_⟩
    · simp only [Option.map_some, hSlice, hNext]
      rfl
    · rw [hText, byteLength_append, ← hPlace]
      dsimp only
      omega
    · simp

theorem unescapeSliced_eq (t : Text) : unescapeSliced t = some (unescape? t) := by
  have hPlace : doubledFrom (utf8 t) 0 =
      some ((cutDoubled t).map fun cut => 0 + byteLength cut.1) :=
    doubledFrom_eq [] t rfl rfl
  unfold unescapeSliced unescape?
  rw [hPlace, Option.bind_eq_bind, Option.bind_some, ← isSome_cutDoubled]
  cases hCut : cutDoubled t with
  | none => rfl
  | some cut =>
    have hStart : Copying.LeadsTo t ⟨[], 0, some (0 + byteLength cut.1)⟩ (unescape t) :=
      ⟨[], t, rfl, rfl, by rw [hCut]; rfl, rfl⟩
    have hCopy : rounds (byteLength t - ·.finger) (collapseRound t)
        ⟨[], 0, some (0 + byteLength cut.1)⟩ = some (unescape t) :=
      rounds_eq (fun _ _ => collapseRound_leads) hStart
    simp only [Option.map_some, hCopy]
    rfl

/-! ## Writing -/

namespace Buffer

/-- Appends a text up to its first delimiter, and doubles it. -/
def escapeRound (b : Buffer) (t : Text) : Option (Round (Buffer × Text) Buffer) := do
  match findByte delimiter (utf8 t) with
  | none => return .ended (b.push t)
  | some place =>
    let head ← slice? t 0 (place + 1)
    let tail ← slice? t (place + 1) (byteLength t)
    return .goesOn ((b.push head).push [delimiter], tail)

/-- Appends a text with its delimiters doubled. -/
def pushEscapedSliced (b : Buffer) (t : Text) : Option Buffer :=
  rounds (fun x => byteLength x.2) (fun x => x.1.escapeRound x.2) (b, t)

theorem escapeRound_leads {x : Buffer × Text} {result : Buffer}
    (h : result = x.1.pushEscaped x.2) :
    x.1.escapeRound x.2 = some (.ended result) ∨
      ∃ next, x.1.escapeRound x.2 = some (.goesOn next) ∧
        byteLength next.2 < byteLength x.2 ∧ result = next.1.pushEscaped next.2 := by
  obtain ⟨b, t⟩ := x
  subst h
  unfold escapeRound
  rw [findByte_utf8 rfl]
  dsimp only
  fun_cases pushEscaped b t with
  | case1 hCut =>
    left
    rw [hCut]
    rfl
  | case2 before after hCut =>
    right
    obtain ⟨rfl, -⟩ := cutAt_eq_some hCut
    have hLength : byteLength (before ++ delimiter :: after) =
        byteLength before + 1 + byteLength after := byteLength_append_cons before after rfl
    have hHead : slice? (before ++ delimiter :: after) 0 (byteLength before + 1) =
        some (before ++ [delimiter]) := by
      refine slice?_eq_some [] (before ++ [delimiter]) after (by simp) rfl ?_
      rw [byteLength_append, Nat.zero_add]
      rfl
    have hTail : slice? (before ++ delimiter :: after) (byteLength before + 1)
        (byteLength (before ++ delimiter :: after)) = some after := by
      refine slice?_eq_some (before ++ [delimiter]) after [] (by simp) ?_ hLength
      rw [byteLength_append]
      rfl
    refine ⟨((b.push (before ++ [delimiter])).push [delimiter], after), ?_, ?_, rfl⟩
    · rw [hCut]
      simp only [Option.map_some, hHead, hTail]
      rfl
    · rw [hLength]
      dsimp only
      omega

theorem pushEscapedSliced_eq (b : Buffer) (t : Text) :
    b.pushEscapedSliced t = some (b.pushEscaped t) := by
  have hStart : b.pushEscaped t = (b, t).1.pushEscaped (b, t).2 := rfl
  exact rounds_eq (fun _ _ => escapeRound_leads) hStart

/-- Appends a chunk with its delimiters doubled. -/
def writeSliced (b : Buffer) : Chunk → Option Buffer
  | .text t => b.pushEscapedSliced t
  | .char c => some (if c = delimiter then (b.push [c]).push [delimiter] else b.push [c])

theorem writeSliced_eq (b : Buffer) (c : Chunk) : b.writeSliced c = some (b.write c) := by
  cases c with
  | text t => exact b.pushEscapedSliced_eq t
  | char c => rfl

/-- Cuts the text back to a number of bytes, if it has more. -/
def truncate? (b : Buffer) (size : Nat) : Option Buffer :=
  if b.size < size then some b
  else if IsBoundary b.text size then some (b.truncate size) else none

/-- A buffer can be cut back to any place where it ended before. -/
theorem truncate?_size {b mark : Buffer} {t : Text} (h : b.text = mark.text ++ t) :
    b.truncate? mark.size = some (b.rewindTo mark) := by
  have hSize : ¬ b.size < mark.size := by
    rw [b.size_eq, mark.size_eq, h, byteLength_append]
    omega
  have hBoundary : IsBoundary b.text mark.size := by
    rw [mark.size_eq, h]
    exact isBoundary_iff.mpr ⟨mark.text, t, rfl, rfl⟩
  rw [truncate?, if_neg hSize, if_pos hBoundary, truncate_size h]

/-- Writes chunks and takes them back. -/
def attemptSliced (b : Buffer) (chunks : List Chunk) : Option Buffer := do
  (← chunks.foldlM writeSliced b).truncate? b.size

/-- Writes what a resolver answers, behind its attempts. -/
def answerSliced (b : Buffer) (answer : Answer) : Option Buffer := do
  answer.writing.chunks.foldlM writeSliced (← answer.attempts.foldlM attemptSliced b)

theorem foldlM_eq_some {α : Type} {f : Buffer → α → Option Buffer} {g : Buffer → α → Buffer}
    (h : ∀ b a, f b a = some (g b a)) (b : Buffer) (l : List α) :
    l.foldlM f b = some (l.foldl g b) := by
  obtain rfl : f = fun b a => some (g b a) := funext fun b => funext (h b)
  exact List.foldlM_pure

theorem attemptSliced_eq (b : Buffer) (chunks : List Chunk) :
    b.attemptSliced chunks = some (b.attempt chunks) := by
  rw [attemptSliced, foldlM_eq_some writeSliced_eq, Option.bind_eq_bind, Option.bind_some]
  exact truncate?_size (b.text_writeAll chunks)

theorem answerSliced_eq (b : Buffer) (answer : Answer) :
    b.answerSliced answer = some (answer.writeInto b) := by
  rw [answerSliced, foldlM_eq_some attemptSliced_eq, Option.bind_eq_bind, Option.bind_some,
    foldlM_eq_some writeSliced_eq]
  rfl

end Buffer

end LogMarkup
