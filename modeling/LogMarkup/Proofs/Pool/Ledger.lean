import LogMarkup.Proofs.Pool.Kept

/-!
# Following buffers through a pool

Two buffers with the same text and room cannot be told apart. A ledger is a session in which
every buffer has a number: it gets one when it is set up, and keeps it while it is changed, kept
and handed out again. The ledger also has the numbers of the buffers that are gone. Without the
numbers, what happens to a ledger is what happens to the session.

* `Ledger.use`, `Ledger.session_use`: uses of a ledger are those of its session.
* `Ledger.Accounts`: no number stands in two places, kept by every use (`Ledger.Accounts.use`).
* `Ledger.notMem_numbers_after`: a buffer that is gone does not come back.
* `Session.pool_after_uses`: all that holds of a pool after any number of uses.
-/

namespace LogMarkup

open Session (Use)

/-- A buffer with the number that it got when it was set up. -/
structure NumberedBuffer where
  number : Nat
  buffer : Buffer

structure Ledger where
  limits : PoolLimits
  /-- The buffers not in use, the one given back last first. -/
  idle : List NumberedBuffer
  /-- The buffers in use, each label once. -/
  held : List (Text × NumberedBuffer)
  /-- The numbers of buffers that are neither kept nor in use any more. -/
  gone : List Nat
  /-- The number of the buffer that is set up next. -/
  next : Nat

namespace Ledger

def new (limits : PoolLimits) : Ledger := ⟨limits, [], [], [], 0⟩

def pool (l : Ledger) : Pool := ⟨l.limits, l.idle.map (·.buffer)⟩

/-- The session without the numbers. -/
def session (l : Ledger) : Session := ⟨l.pool, l.held.map fun entry => (entry.1, entry.2.buffer)⟩

/-- The numbers of the buffers that are kept or in use. -/
def numbers (l : Ledger) : List Nat := l.idle.map (·.number) ++ l.held.map (·.2.number)

/-! ## Uses -/

def buffer? (l : Ledger) (label : Text) : Option NumberedBuffer :=
  (l.held.find? (·.1 = label)).map (·.2)

def others (l : Ledger) (label : Text) : List (Text × NumberedBuffer) :=
  l.held.filter (·.1 ≠ label)

def hold (l : Ledger) (label : Text) (b : NumberedBuffer) : Ledger :=
  { l with held := (label, b) :: l.others label }

/-- Gives a number to a buffer that was set up. -/
def register (l : Ledger) (b : Buffer) : NumberedBuffer × Ledger :=
  (⟨l.next, b⟩, { l with next := l.next + 1 })

/-- Lets a buffer go. -/
def lose (l : Ledger) (b : NumberedBuffer) : Ledger := { l with gone := b.number :: l.gone }

def takeOut (l : Ledger) : NumberedBuffer × Ledger :=
  match l.idle with
  | [] => l.register (.withCapacity Pool.initialCapacity)
  | b :: rest => (b, { l with idle := rest })

def release (l : Ledger) (b : NumberedBuffer) : Ledger :=
  if l.pool.Keeps b.buffer then { l with idle := { b with buffer := b.buffer.cleared } :: l.idle }
  else l.lose b

def giveBack (l : Ledger) (label : Text) : Ledger :=
  match l.buffer? label with
  | none => l
  | some b => { l with held := l.others label }.release b

/-- Puts another buffer in place of one that is held. -/
def substitute (l : Ledger) (label : Text) (old : NumberedBuffer) (b : Buffer) : Ledger :=
  let (new, l) := (l.lose old).register b
  l.hold label new

/-- A use. A change that leaves a buffer no room lets it go: what its holder has then is none that
was set up before. -/
def use (l : Ledger) : Use → Ledger
  | .acquire label =>
    let (b, l) := l.takeOut
    (l.giveBack label).hold label b
  | .change label f =>
    match l.buffer? label with
    | none => l
    | some b =>
      if (f b.buffer).capacity = 0 then l.substitute label b (f b.buffer)
      else l.hold label { b with buffer := f b.buffer }
  | .replace label new =>
    match l.buffer? label with
    | none => l
    | some b => l.substitute label b new
  | .drop label => l.giveBack label
  | .take label =>
    match l.buffer? label with
    | none => l
    | some b => { l with held := l.others label }.lose b
  | .write template r state _ =>
    let (b, l) := l.takeOut
    l.release { b with buffer := (expandInto b.buffer template r state).buffer }

def after (l : Ledger) (uses : List Use) : Ledger := uses.foldl use l

/-! ## Forgetting the numbers -/

theorem buffer?_session (l : Ledger) (label : Text) :
    l.session.buffer? label = (l.buffer? label).map (·.buffer) := by
  simp only [session, Session.buffer?, buffer?, List.find?_map, Option.map_map]
  rfl

theorem others_session (l : Ledger) (label : Text) :
    l.session.others label = (l.others label).map fun entry => (entry.1, entry.2.buffer) := by
  simp only [session, Session.others, others, List.filter_map]
  rfl

theorem session_hold (l : Ledger) (label : Text) (b : NumberedBuffer) :
    (l.hold label b).session = l.session.hold label b.buffer := by
  simp only [Session.hold, others_session]
  rfl

theorem session_takeOut (l : Ledger) :
    l.takeOut.1.buffer = l.pool.acquire.1 ∧
      l.takeOut.2.session = { l.session with pool := l.pool.acquire.2 } := by
  obtain ⟨limits, idle, held, gone, next⟩ := l
  cases idle <;> exact ⟨rfl, rfl⟩

theorem session_release (l : Ledger) (b : NumberedBuffer) :
    (l.release b).session = { l.session with pool := l.pool.release b.buffer } := by
  unfold release
  split
  · rename_i hKeeps
    rw [Pool.release_of_keeps hKeeps]
    rfl
  · rename_i hKeeps
    rw [Pool.release_of_not_keeps hKeeps]
    rfl

theorem session_giveBack (l : Ledger) (label : Text) :
    (l.giveBack label).session = l.session.giveBack label := by
  unfold giveBack Session.giveBack
  rw [buffer?_session]
  cases l.buffer? label with
  | none => rfl
  | some b =>
    rw [Option.map_some]
    dsimp only
    rw [session_release, others_session]
    rfl

theorem session_substitute (l : Ledger) (label : Text) (old : NumberedBuffer) (b : Buffer) :
    (l.substitute label old b).session = l.session.hold label b := session_hold _ label _

/-- Numbers change nothing. -/
theorem session_use (l : Ledger) (u : Use) : (l.use u).session = l.session.use u := by
  cases u with
  | acquire label =>
    obtain ⟨hBuffer, hSession⟩ := l.session_takeOut
    simp only [use, Session.use, Session.fst_acquire, session_hold, session_giveBack, hBuffer,
      hSession]
    rfl
  | change label f =>
    simp only [use, Session.use, Session.change, buffer?_session]
    cases l.buffer? label with
    | none => rfl
    | some b =>
      dsimp only [Option.map_some]
      split
      · exact l.session_substitute label b _
      · exact l.session_hold label _
  | replace label new =>
    simp only [use, Session.use, Session.change, buffer?_session]
    cases l.buffer? label with
    | none => rfl
    | some b => exact l.session_substitute label b new
  | drop label => exact l.session_giveBack label
  | take label =>
    have hBuffer := l.buffer?_session label
    simp only [use, Session.use, others_session]
    cases hFound : l.buffer? label with
    | none =>
      rw [hFound] at hBuffer
      rw [← others_session, Session.others_of_buffer?_eq_none hBuffer]
    | some b => rfl
  | write template r state sink =>
    obtain ⟨hBuffer, hSession⟩ := l.session_takeOut
    have hPool : l.takeOut.2.pool = l.pool.acquire.2 := congrArg Session.pool hSession
    simp only [use, Session.use, session_release, Pool.pool_write, hBuffer, hSession, hPool]
    rfl

theorem session_after (l : Ledger) (uses : List Use) :
    (l.after uses).session = l.session.after uses := by
  induction uses generalizing l with
  | nil => rfl
  | cons u rest ih => exact (ih (l.use u)).trans (by rw [session_use, Session.after_cons])

/-! ## Accounting for the numbers -/

/-- How often a number stands in the ledger. -/
def occurrences (l : Ledger) (n : Nat) : Nat :=
  (l.idle.map (·.number)).count n + (l.held.map (·.2.number)).count n + l.gone.count n

/-- Of the numbers given out so far, those of the loose buffers and those in the ledger, each
stands in one place at most; no other number stands anywhere. -/
def Accounts (l : Ledger) (loose : List Nat) : Prop :=
  ∀ n, l.occurrences n + loose.count n ≤ (List.range l.next).count n

theorem accounts_new (limits : PoolLimits) : (new limits).Accounts [] := fun _ => Nat.zero_le _

theorem count_others_le (l : Ledger) (label : Text) (n : Nat) :
    ((l.others label).map (·.2.number)).count n ≤ (l.held.map (·.2.number)).count n :=
  (List.filter_sublist.map _).count_le n

theorem count_others_of_buffer? {l : Ledger} {label : Text} {b : NumberedBuffer}
    (h : l.buffer? label = some b) (n : Nat) :
    ((l.others label).map (·.2.number)).count n + [b.number].count n ≤
      (l.held.map (·.2.number)).count n := by
  obtain ⟨entry, hFind, rfl⟩ := Option.map_eq_some_iff.mp h
  -- The entry of the label is split off, and the others are among the rest.
  obtain ⟨hLabel, before, after, hHeld, -⟩ := List.find?_eq_some_iff_append.mp hFind
  have hOthers : (l.others label).Sublist (before ++ after) := by
    rw [others, hHeld, List.filter_append, List.filter_cons_of_neg (by simpa using hLabel),
      ← List.filter_append]
    exact List.filter_sublist
  have hCount := (hOthers.map (·.2.number)).count_le n
  rw [hHeld]
  simp only [List.map_append, List.map_cons, List.count_append, List.count_cons,
    List.count_nil] at hCount ⊢
  omega

namespace Accounts

variable {l : Ledger} {loose : List Nat}

theorem register (h : l.Accounts loose) (b : Buffer) :
    (l.register b).2.Accounts ((l.register b).1.number :: loose) := by
  intro n
  have hNumber := h n
  simp only [Ledger.register, occurrences, List.range_succ, List.count_append, List.count_cons,
    List.count_nil] at hNumber ⊢
  omega

theorem lose {b : NumberedBuffer} (h : l.Accounts (b.number :: loose)) :
    (l.lose b).Accounts loose := by
  intro n
  have hNumber := h n
  simp only [Ledger.lose, occurrences, List.count_cons] at hNumber ⊢
  omega

theorem takeOut (h : l.Accounts loose) : l.takeOut.2.Accounts (l.takeOut.1.number :: loose) := by
  unfold Ledger.takeOut
  split
  · exact h.register _
  · rename_i b rest hIdle
    intro n
    have hNumber := h n
    simp only [occurrences, hIdle, List.map_cons, List.count_cons] at hNumber ⊢
    omega

theorem release {b : NumberedBuffer} (h : l.Accounts (b.number :: loose)) :
    (l.release b).Accounts loose := by
  unfold Ledger.release
  split
  · intro n
    have hNumber := h n
    simp only [occurrences, List.map_cons, List.count_cons] at hNumber ⊢
    omega
  · exact h.lose

theorem without (h : l.Accounts loose) (label : Text) :
    { l with held := l.others label }.Accounts loose := by
  intro n
  have hNumber := h n
  have hOthers := l.count_others_le label n
  simp only [occurrences] at hNumber ⊢
  omega

/-- A buffer that is taken from its label is loose. -/
theorem loosen {label : Text} {b : NumberedBuffer} (h : l.Accounts loose)
    (hFound : l.buffer? label = some b) :
    { l with held := l.others label }.Accounts (b.number :: loose) := by
  intro n
  have hNumber := h n
  have hOthers := count_others_of_buffer? hFound n
  simp only [occurrences, List.count_cons, List.count_nil] at hNumber hOthers ⊢
  omega

theorem hold {label : Text} {b : NumberedBuffer}
    (h : { l with held := l.others label }.Accounts (b.number :: loose)) :
    (l.hold label b).Accounts loose := by
  intro n
  have hNumber := h n
  simp only [Ledger.hold, occurrences, List.map_cons, List.count_cons] at hNumber ⊢
  omega

theorem giveBack (h : l.Accounts loose) (label : Text) : (l.giveBack label).Accounts loose := by
  unfold Ledger.giveBack
  split
  · exact h
  · rename_i b hFound
    exact (h.loosen hFound).release

theorem substitute {label : Text} {old : NumberedBuffer} (h : l.Accounts loose)
    (hFound : l.buffer? label = some old) (b : Buffer) :
    (l.substitute label old b).Accounts loose :=
  hold ((h.loosen hFound).lose.register b)

theorem use (h : l.Accounts []) (u : Use) : (l.use u).Accounts [] := by
  cases u with
  | acquire label => exact hold ((h.takeOut.giveBack label).without label)
  | change label f =>
    simp only [Ledger.use]
    split
    · exact h
    · rename_i b hFound
      split
      · exact h.substitute hFound _
      · have hLoose := h.loosen hFound
        exact hold hLoose
  | replace label new =>
    simp only [Ledger.use]
    split
    · exact h
    · rename_i b hFound
      exact h.substitute hFound new
  | drop label => exact h.giveBack label
  | take label =>
    simp only [Ledger.use]
    split
    · exact h
    · rename_i b hFound
      exact (h.loosen hFound).lose
  | write template r state sink =>
    have hTaken := h.takeOut
    exact release hTaken

theorem after (h : l.Accounts []) (uses : List Use) : (l.after uses).Accounts [] := by
  induction uses generalizing l with
  | nil => exact h
  | cons u rest ih => exact ih (h.use u)

theorem count_le_one (h : l.Accounts []) (n : Nat) :
    l.numbers.count n + l.gone.count n ≤ 1 := by
  have hOnce : (List.range l.next).count n ≤ 1 := List.nodup_iff_count.mp List.nodup_range n
  have hNumber := h n
  simp only [occurrences, numbers, List.count_append] at hNumber ⊢
  omega

theorem nodup_numbers (h : l.Accounts []) : l.numbers.Nodup :=
  List.nodup_iff_count.mpr fun n => Nat.le_of_add_right_le (h.count_le_one n)

theorem notMem_numbers {n : Nat} (h : l.Accounts []) (hGone : n ∈ l.gone) : n ∉ l.numbers := by
  intro hMem
  have hOnce := h.count_le_one n
  have hLost := List.count_pos_iff.mpr hGone
  have hThere := List.count_pos_iff.mpr hMem
  omega

end Accounts

/-! ## Buffers that are gone -/

theorem gone_takeOut (l : Ledger) : l.takeOut.2.gone = l.gone := by
  unfold takeOut
  split <;> rfl

theorem gone_release (l : Ledger) (b : NumberedBuffer) : l.gone ⊆ (l.release b).gone := by
  unfold release
  split
  · exact List.Subset.refl _
  · exact List.subset_cons_self _ _

theorem gone_giveBack (l : Ledger) (label : Text) : l.gone ⊆ (l.giveBack label).gone := by
  unfold giveBack
  split
  · exact List.Subset.refl _
  · exact gone_release { l with held := l.others label } _

theorem gone_use (l : Ledger) (u : Use) : l.gone ⊆ (l.use u).gone := by
  cases u with
  | acquire label =>
    rw [← l.gone_takeOut]
    exact l.takeOut.2.gone_giveBack label
  | change label f =>
    simp only [use]
    split
    · exact List.Subset.refl _
    · split
      · exact List.subset_cons_self _ _
      · exact List.Subset.refl _
  | replace label new =>
    simp only [use]
    split
    · exact List.Subset.refl _
    · exact List.subset_cons_self _ _
  | drop label => exact l.gone_giveBack label
  | take label =>
    simp only [use]
    split
    · exact List.Subset.refl _
    · exact List.subset_cons_self _ _
  | write template r state sink =>
    rw [← l.gone_takeOut]
    exact l.takeOut.2.gone_release _

theorem gone_after (l : Ledger) (uses : List Use) : l.gone ⊆ (l.after uses).gone := by
  induction uses generalizing l with
  | nil => exact List.Subset.refl _
  | cons u rest ih => exact List.Subset.trans (l.gone_use u) (ih (l.use u))

/-- Whatever is done later, a buffer that is gone is neither kept nor in use. -/
theorem notMem_numbers_after {l : Ledger} {n : Nat} (h : l.Accounts []) (hGone : n ∈ l.gone)
    (uses : List Use) : n ∉ (l.after uses).numbers :=
  (h.after uses).notMem_numbers (l.gone_after uses hGone)

theorem mem_gone_take {l : Ledger} {label : Text} {b : NumberedBuffer}
    (h : l.buffer? label = some b) : b.number ∈ (l.use (.take label)).gone := by
  simp only [use, h]
  exact List.mem_cons_self

theorem mem_gone_replace {l : Ledger} {label : Text} {b : NumberedBuffer}
    (h : l.buffer? label = some b) (new : Buffer) :
    b.number ∈ (l.use (.replace label new)).gone := by
  simp only [use, h]
  exact List.mem_cons_self

end Ledger

namespace Session

theorem buffer?_hold (s : Session) (label : Text) (b : Buffer) :
    (s.hold label b).buffer? label = some b := by
  simp [hold, buffer?]

/-- A buffer without room is not kept. -/
theorem pool_drop_replace (s : Session) (label : Text) {new : Buffer} (h : new.capacity = 0) :
    ((s.use (.replace label new)).use (.drop label)).pool = s.pool := by
  have hLost : ¬ s.pool.Keeps new := fun hKeeps => Nat.ne_of_gt hKeeps.1 h
  simp only [use, change]
  cases hFound : s.buffer? label with
  | none => simp only [giveBack, hFound]
  | some b =>
    simp only [giveBack, buffer?_hold]
    exact Pool.release_of_not_keeps hLost

/-- Whatever is done with a new pool and its buffers, the buffers that it keeps and hands out are
empty, those that it keeps have room within the limit, there are no more of them than the limit
says, and no more buffers in all than were in use at one time. A buffer that its holder keeps for
good, or puts one without room in place of, is never kept or handed out again. -/
theorem pool_after_uses (limits : PoolLimits) (uses : List Use) :
    let s := (new limits).after uses
    let l := (Ledger.new limits).after uses
    (∀ b ∈ s.pool.idle, b.text = []) ∧
      s.pool.acquire.1.text = [] ∧ (∀ label, (s.acquire label).2 = .text []) ∧
      (∀ b ∈ s.pool.idle, 1 ≤ b.capacity ∧ b.capacity ≤ limits.maxCapacity) ∧
      s.pool.idle.length ≤ limits.maxBuffers ∧
      s.pool.idle.length + s.held.length ≤ (new limits).mostInUse uses ∧
      l.session = s ∧ l.numbers.Nodup ∧
      ∀ label b, l.buffer? label = some b →
        (∀ more, b.number ∉ ((l.use (.take label)).after more).numbers) ∧
        ∀ other : Buffer, other.capacity = 0 →
          ((s.use (.replace label other)).use (.drop label)).pool = s.pool ∧
          ∀ more, b.number ∉ ((l.use (.replace label other)).after more).numbers := by
  intro s l
  have hSound : s.Sound limits := sound_after limits uses
  have hAccounts : l.Accounts [] := (Ledger.accounts_new limits).after uses
  have hReady : ∀ b ∈ s.pool.idle, b.Ready limits.maxCapacity :=
    hSound.limits_eq ▸ hSound.pool.ready
  refine ⟨fun b hb => (hReady b hb).text_eq, hSound.pool.acquire.1,
    fun label => (hSound.acquire label).2, fun b hb => ⟨(hReady b hb).one_le, (hReady b hb).le_max⟩,
    hSound.limits_eq ▸ hSound.pool.few, ?_, (Ledger.new limits).session_after uses,
    hAccounts.nodup_numbers, ?_⟩
  · have hKept := (new limits).kept_after_le uses
    have hNone : (new limits).kept = 0 := rfl
    rw [hNone, Nat.zero_max] at hKept
    exact hKept
  · intro label b hFound
    refine ⟨?_, ?_⟩
    · intro more
      exact Ledger.notMem_numbers_after (hAccounts.use _) (Ledger.mem_gone_take hFound) more
    · intro other hRoom
      refine ⟨s.pool_drop_replace label hRoom, ?_⟩
      intro more
      have hGone := Ledger.mem_gone_replace hFound other
      exact Ledger.notMem_numbers_after (hAccounts.use _) hGone more

example :
    let uses : List Use := [.acquire ['a'], .acquire ['b'], .drop ['a'], .drop ['b']]
    ((new ⟨1, 512⟩).after uses).pool.idle.length = 1 := by
  decide +kernel

end Session

end LogMarkup
