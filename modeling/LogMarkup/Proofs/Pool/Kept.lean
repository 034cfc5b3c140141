import LogMarkup.Pool.Session

/-!
# What a pool keeps

Buffers are taken out of a pool, changed in any way, and given back or not, in any order. Whatever
is done, the buffers that the pool keeps are empty, have room and are not too large, and there are
not too many of them. A buffer is set up only when none is kept, so the buffers kept and in use
are never more than were in use at one time.

* `Session.Use`, `Session.use`: all that can be done with a pool and its buffers;
  `Session.use_step`, `Session.exists_uses_of_mem_run`: each step of a session is a use.
* `Pool.Sound`, `Session.Sound`: what holds of the buffers, kept by every use (`Session.Sound.use`)
  and so after any number of them (`Session.sound_after`).
* `Session.kept_use_le`, `Session.kept_after_le`: how many buffers there are.
-/

namespace LogMarkup

variable {σ : Type}

/-! ## Giving back -/

/-- A buffer that can be handed out again. -/
structure Buffer.Ready (maxCapacity : Nat) (b : Buffer) : Prop where
  text_eq : b.text = []
  one_le : 1 ≤ b.capacity
  le_max : b.capacity ≤ maxCapacity

namespace Pool

/-- Is the buffer kept when it is given back? -/
def Keeps (pool : Pool) (b : Buffer) : Prop :=
  0 < b.capacity ∧ b.capacity ≤ pool.limits.maxCapacity ∧
    pool.idle.length < pool.limits.maxBuffers

instance (pool : Pool) (b : Buffer) : Decidable (pool.Keeps b) :=
  inferInstanceAs (Decidable (_ ∧ _ ∧ _))

theorem release_of_keeps {pool : Pool} {b : Buffer} (h : pool.Keeps b) :
    pool.release b = { pool with idle := b.cleared :: pool.idle } := by
  obtain ⟨hRoom, hSmall, hFew⟩ := h
  rw [release, if_pos hRoom, keep, if_neg (Nat.not_lt.mpr hSmall), if_pos hFew]

theorem release_of_not_keeps {pool : Pool} {b : Buffer} (h : ¬ pool.Keeps b) :
    pool.release b = pool := by
  unfold release keep
  split
  · rename_i hRoom
    split
    · rfl
    · rename_i hSmall
      split
      · rename_i hFew
        exact absurd ⟨hRoom, Nat.not_lt.mp hSmall, hFew⟩ h
      · rfl
  · rfl

@[simp] theorem limits_release (pool : Pool) (b : Buffer) :
    (pool.release b).limits = pool.limits := by
  by_cases h : pool.Keeps b
  · rw [release_of_keeps h]
  · rw [release_of_not_keeps h]

theorem length_release_le (pool : Pool) (b : Buffer) :
    (pool.release b).idle.length ≤ pool.idle.length + 1 := by
  by_cases h : pool.Keeps b
  · rw [release_of_keeps h]
    exact Nat.le_refl _
  · rw [release_of_not_keeps h]
    exact Nat.le_succ _

@[simp] theorem limits_acquire (pool : Pool) : pool.acquire.2.limits = pool.limits := by
  unfold acquire
  split <;> rfl

/-- A buffer is set up only when there is none to hand out. -/
theorem length_acquire (pool : Pool) : pool.acquire.2.idle.length = pool.idle.length - 1 := by
  unfold acquire
  split
  · rename_i hIdle
    rw [hIdle, List.length_nil]
  · rename_i hIdle
    rw [hIdle, List.length_cons, Nat.add_sub_cancel]

/-- Writing leaves the pool as taking a buffer and giving it back does, however it ends. -/
theorem pool_write (pool : Pool) (sink : Sink) (template : Text) (r : Resolver σ) (state : σ) :
    (pool.write sink template r state).pool =
      pool.acquire.2.release (expandInto pool.acquire.1 template r state).buffer := by
  unfold write
  dsimp only
  split
  · rfl
  · split <;> rfl

/-! ## Sound pools -/

structure Sound (pool : Pool) : Prop where
  ready : ∀ b ∈ pool.idle, b.Ready pool.limits.maxCapacity
  few : pool.idle.length ≤ pool.limits.maxBuffers

theorem sound_new (limits : PoolLimits) : (new limits).Sound :=
  ⟨fun _ hMem => absurd hMem List.not_mem_nil, Nat.zero_le _⟩

namespace Sound

variable {pool : Pool}

theorem acquire (h : pool.Sound) :
    pool.acquire.1.text = [] ∧ 1 ≤ pool.acquire.1.capacity ∧ pool.acquire.2.Sound := by
  unfold Pool.acquire
  split
  · exact ⟨rfl, (by decide : 1 ≤ initialCapacity), h⟩
  · rename_i b rest hIdle
    obtain ⟨hFirst, hRest⟩ := List.forall_mem_cons.mp (hIdle ▸ h.ready)
    have hFew : rest.length + 1 ≤ pool.limits.maxBuffers := by
      rw [← List.length_cons, ← hIdle]
      exact h.few
    exact ⟨hFirst.text_eq, hFirst.one_le, hRest, Nat.le_of_succ_le hFew⟩

theorem release (h : pool.Sound) (b : Buffer) : (pool.release b).Sound := by
  by_cases hKeeps : pool.Keeps b
  · obtain ⟨hRoom, hSmall, hFew⟩ := hKeeps
    rw [release_of_keeps ⟨hRoom, hSmall, hFew⟩]
    refine ⟨List.forall_mem_cons.mpr ⟨⟨b.text_cleared, hRoom, hSmall⟩, h.ready⟩, ?_⟩
    exact hFew
  · rw [release_of_not_keeps hKeeps]
    exact h

theorem write (h : pool.Sound) (sink : Sink) (template : Text) (r : Resolver σ) (state : σ) :
    (pool.write sink template r state).pool.Sound := by
  rw [pool_write]
  exact h.acquire.2.2.release _

end Sound

end Pool

/-! ## Uses -/

namespace Session

/-- What can be done with a pool and the buffers in use. The holder of a buffer may make anything
of it, or put another one in its place. -/
inductive Use : Type 1 where
  | acquire (label : Text)
  | change (label : Text) (f : Buffer → Buffer)
  | replace (label : Text) (b : Buffer)
  | drop (label : Text)
  | take (label : Text)
  | write {σ : Type} (template : Text) (r : Resolver σ) (state : σ) (sink : Pool.Sink)

def use (s : Session) : Use → Session
  | .acquire label => (s.acquire label).1
  | .change label f => (s.change label f fun _ => .nothing).1
  | .replace label b => (s.change label (fun _ => b) fun _ => .nothing).1
  | .drop label => s.giveBack label
  | .take label => { s with held := s.others label }
  | .write template r state sink => { s with pool := (s.pool.write sink template r state).pool }

/-- The session after any number of uses. -/
def after (s : Session) (uses : List Use) : Session := uses.foldl use s

@[simp] theorem after_nil (s : Session) : s.after [] = s := rfl

@[simp] theorem after_cons (s : Session) (u : Use) (rest : List Use) :
    s.after (u :: rest) = (s.use u).after rest := rfl

/-- The use that a step makes. -/
def Step.toUse : Step σ → Use
  | .acquire label => .acquire label
  | .push label t times => .change label (Nat.repeat (·.push t) times)
  | .append label template r state => .change label fun b => (expandInto b template r state).buffer
  | .reserve label more => .change label (·.reserve more)
  | .replace label t => .replace label (.ofText t)
  | .drop label => .drop label
  | .take label => .take label
  | .write template r state pipe => .write template r state pipe.sink

theorem others_of_buffer?_eq_none {s : Session} {label : Text} (h : s.buffer? label = none) :
    s.others label = s.held := by
  refine List.filter_eq_self.mpr fun entry hMem => ?_
  have hNone := List.find?_eq_none.mp (Option.map_eq_none_iff.mp h) entry hMem
  simpa using hNone

theorem length_others_lt {s : Session} {label : Text} {b : Buffer}
    (h : s.buffer? label = some b) : (s.others label).length < s.held.length := by
  obtain ⟨entry, hFind, -⟩ := Option.map_eq_some_iff.mp h
  refine List.length_filter_lt_length_iff_exists.mpr ⟨entry, List.mem_of_find?_eq_some hFind, ?_⟩
  simpa using List.find?_some hFind

theorem fst_acquire (s : Session) (label : Text) :
    (s.acquire label).1 =
      (({ s with pool := s.pool.acquire.2 } : Session).giveBack label).hold label
        s.pool.acquire.1 := rfl

theorem fst_change (s : Session) (label : Text) (f : Buffer → Buffer)
    (shown shown' : Buffer → Shown) :
    (s.change label f shown).1 = (s.change label f shown').1 := by
  unfold change
  split <;> rfl

theorem use_step (s : Session) (st : Step σ) : (s.step st).1 = s.use st.toUse := by
  cases st with
  | acquire label => rfl
  | push label t times => exact s.fst_change label _ _ _
  | append label template r state =>
    simp only [step, Step.toUse, use, change]
    split <;> rfl
  | reserve label more => exact s.fst_change label _ _ _
  | replace label t => exact s.fst_change label _ _ _
  | drop label => rfl
  | take label =>
    simp only [step, Step.toUse, use]
    split
    · rename_i hNone
      rw [others_of_buffer?_eq_none hNone]
    · rfl
  | write template r state pipe => rfl

theorem run_cons (s : Session) (st : Step σ) (rest : List (Step σ)) :
    s.run (st :: rest) = s.step st :: (s.step st).1.run rest := rfl

/-- The sessions of a run are those after uses. -/
theorem exists_uses_of_mem_run {s : Session} {steps : List (Step σ)} {x : Session × Shown}
    (h : x ∈ s.run steps) : ∃ uses, x.1 = s.after uses := by
  induction steps generalizing s with
  | nil => exact absurd h List.not_mem_nil
  | cons st rest ih =>
    rw [run_cons, use_step] at h
    rcases List.mem_cons.mp h with rfl | hRest
    · exact ⟨[st.toUse], s.use_step st⟩
    · obtain ⟨uses, hUses⟩ := ih hRest
      exact ⟨st.toUse :: uses, hUses⟩

/-! ## Sound sessions -/

structure Sound (limits : PoolLimits) (s : Session) : Prop where
  limits_eq : s.pool.limits = limits
  pool : s.pool.Sound
  /-- No label hides another buffer. -/
  labels : (s.held.map (·.1)).Nodup

theorem sound_new (limits : PoolLimits) : (new limits).Sound limits :=
  ⟨rfl, Pool.sound_new limits, List.nodup_nil⟩

theorem nodup_others {s : Session} (h : (s.held.map (·.1)).Nodup) (label : Text) :
    ((s.others label).map (·.1)).Nodup :=
  h.sublist (List.filter_sublist.map _)

theorem label_notMem_others (s : Session) (label : Text) : label ∉ (s.others label).map (·.1) := by
  intro hMem
  obtain ⟨entry, hEntry, hLabel⟩ := List.mem_map.mp hMem
  have hOther := (List.mem_filter.mp hEntry).2
  simp [hLabel] at hOther

namespace Sound

variable {limits : PoolLimits} {s : Session}

theorem hold (h : s.Sound limits) (label : Text) (b : Buffer) : (s.hold label b).Sound limits :=
  ⟨h.limits_eq, h.pool,
    List.nodup_cons.mpr ⟨s.label_notMem_others label, nodup_others h.labels label⟩⟩

theorem giveBack (h : s.Sound limits) (label : Text) : (s.giveBack label).Sound limits := by
  unfold Session.giveBack
  split
  · exact h
  · rename_i b hFound
    refine ⟨?_, h.pool.release b, nodup_others h.labels label⟩
    rw [Pool.limits_release, h.limits_eq]

theorem change (h : s.Sound limits) (label : Text) (f : Buffer → Buffer)
    (shown : Buffer → Shown) : (s.change label f shown).1.Sound limits := by
  unfold Session.change
  split
  · exact h
  · exact h.hold label _

theorem acquire (h : s.Sound limits) (label : Text) :
    (s.acquire label).1.Sound limits ∧ (s.acquire label).2 = .text [] := by
  obtain ⟨hText, -, hPool⟩ := h.pool.acquire
  have hTaken : Sound limits { s with pool := s.pool.acquire.2 } :=
    ⟨by rw [Pool.limits_acquire, h.limits_eq], hPool, h.labels⟩
  exact ⟨(hTaken.giveBack label).hold label _, congrArg Shown.text hText⟩

theorem use (h : s.Sound limits) (u : Use) : (s.use u).Sound limits := by
  cases u with
  | acquire label => exact (h.acquire label).1
  | change label f => exact h.change label f _
  | replace label b => exact h.change label _ _
  | drop label => exact h.giveBack label
  | take label => exact ⟨h.limits_eq, h.pool, nodup_others h.labels label⟩
  | write template r state sink =>
    refine ⟨?_, h.pool.write sink template r state, h.labels⟩
    rw [← h.limits_eq, Session.use, Pool.pool_write, Pool.limits_release, Pool.limits_acquire]

theorem after (h : s.Sound limits) (uses : List Use) : (s.after uses).Sound limits := by
  induction uses generalizing s with
  | nil => exact h
  | cons u rest ih => exact ih (h.use u)

end Sound

theorem sound_after (limits : PoolLimits) (uses : List Use) :
    ((new limits).after uses).Sound limits := (sound_new limits).after uses

/-! ## Counting buffers -/

/-- The number of buffers kept and in use. -/
def kept (s : Session) : Nat := s.pool.idle.length + s.held.length

/-- The most buffers in use at one time during a use. A buffer under a label is replaced after
the new one is there, and writing holds a buffer as long as it takes. -/
def inUse (s : Session) : Use → Nat
  | .acquire _ | .write .. => s.held.length + 1
  | _ => s.held.length

/-- The most buffers in use at one time while a session is put to uses. -/
def mostInUse (s : Session) : List Use → Nat
  | [] => s.held.length
  | u :: rest => max (s.inUse u) ((s.use u).mostInUse rest)

theorem kept_giveBack_le (s : Session) (label : Text) : (s.giveBack label).kept ≤ s.kept := by
  unfold giveBack
  split
  · exact Nat.le_refl _
  · rename_i b hFound
    have hPool := s.pool.length_release_le b
    have hHeld := length_others_lt hFound
    simp only [kept]
    omega

theorem kept_hold_le (s : Session) (label : Text) (b : Buffer) :
    (s.hold label b).kept ≤ s.kept + 1 := by
  have hHeld : (s.others label).length ≤ s.held.length := List.length_filter_le _ _
  simp only [kept, hold, List.length_cons]
  omega

theorem kept_change_le (s : Session) (label : Text) (f : Buffer → Buffer)
    (shown : Buffer → Shown) : (s.change label f shown).1.kept ≤ s.kept := by
  unfold change
  split
  · exact Nat.le_refl _
  · rename_i b hFound
    have hHeld := length_others_lt hFound
    simp only [kept, hold, List.length_cons]
    omega

/-- A use adds a buffer only if all that there are are in use. -/
theorem kept_use_le (s : Session) (u : Use) : (s.use u).kept ≤ max s.kept (s.inUse u) := by
  have hTaken := s.pool.length_acquire
  cases u with
  | acquire label =>
    have hBack := kept_giveBack_le { s with pool := s.pool.acquire.2 } label
    have hHold :=
      kept_hold_le (({ s with pool := s.pool.acquire.2 } : Session).giveBack label) label
        s.pool.acquire.1
    rw [use, fst_acquire]
    simp only [kept, inUse] at hBack hHold ⊢
    omega
  | change label f => exact Nat.le_trans (s.kept_change_le label f _) (Nat.le_max_left _ _)
  | replace label b => exact Nat.le_trans (s.kept_change_le label _ _) (Nat.le_max_left _ _)
  | drop label => exact Nat.le_trans (s.kept_giveBack_le label) (Nat.le_max_left _ _)
  | take label =>
    have hHeld : (s.others label).length ≤ s.held.length := List.length_filter_le _ _
    simp only [kept, use]
    omega
  | write template r state sink =>
    have hBack := s.pool.acquire.2.length_release_le
      (expandInto s.pool.acquire.1 template r state).buffer
    simp only [kept, use, inUse, Pool.pool_write]
    omega

theorem kept_after_le (s : Session) (uses : List Use) :
    (s.after uses).kept ≤ max s.kept (s.mostInUse uses) := by
  induction uses generalizing s with
  | nil => exact Nat.le_max_left _ _
  | cons u rest ih =>
    have hUse := s.kept_use_le u
    have hRest := ih (s.use u)
    simp only [after_cons, mostInUse]
    omega

end Session

end LogMarkup
