import LogMarkup.Proofs.Expansion.Room
import LogMarkup.Proofs.Pool.Kept

/-!
# Writing through a pool

What is written through a pool depends on the message and on how much the sink takes, not on what
the pool was used for before. A template with an error writes nothing; any other message is handed
to the sink as a whole, and a sink that does not take all of it hides that arguments are
unresolved. The buffer is given back in each case.

* `Pool.Sink.Takes`, `Pool.Sink.report`: what a sink takes of a message, and what is reported.
* `Pool.report_write_of_empty`, `Pool.write_of_error`: what is written and reported if the buffer
  is empty at first.
* `Pool.length_idle_write`: what is left in the pool.
* `Pool.write_after_uses`: all of it, for a pool with a history.
-/

namespace LogMarkup

variable {σ : Type}

namespace Pool

/-! ## Sinks -/

/-- Does the sink take that many bytes? -/
def Sink.Takes (sink : Sink) (bytes : Nat) : Prop := ∀ limit ∈ sink.limit, bytes ≤ limit

theorem Sink.accept_of_takes {sink : Sink} {content : String}
    (h : sink.Takes content.utf8ByteSize) : sink.accept content = (content.toUTF8, true) := by
  unfold Sink.accept
  dsimp only
  split
  · rfl
  · rename_i limit hLimit
    exact if_pos (h limit hLimit)

theorem Sink.accept_of_not_takes {sink : Sink} {content : String}
    (h : ¬ sink.Takes content.utf8ByteSize) :
    ∃ limit, sink.limit = some limit ∧ limit < content.utf8ByteSize ∧
      sink.accept content = (content.toUTF8.extract 0 limit, false) := by
  simp only [Sink.Takes, not_forall] at h
  obtain ⟨limit, hLimit, hLarge⟩ := h
  refine ⟨limit, hLimit, Nat.not_le.mp hLarge, ?_⟩
  unfold Sink.accept
  rw [Option.mem_def.mp hLimit]
  exact if_neg hLarge

/-- The bytes that a sink took are those at the front. -/
theorem Sink.exists_accept_append (sink : Sink) (content : String) :
    ∃ rest, content.toUTF8 = (sink.accept content).1 ++ rest := by
  by_cases h : sink.Takes content.utf8ByteSize
  · rw [accept_of_takes h]
    exact ⟨.empty, ByteArray.append_empty.symm⟩
  · obtain ⟨limit, -, hSmall, hAccept⟩ := accept_of_not_takes h
    rw [hAccept]
    refine ⟨content.toUTF8.extract limit content.toUTF8.size, ?_⟩
    have hAll : content.toUTF8.extract 0 content.utf8ByteSize = content.toUTF8 :=
      ByteArray.extract_zero_size
    exact hAll.symm.trans (ByteArray.extract_eq_extract_append_extract limit (Nat.zero_le _)
      (Nat.le_of_lt hSmall))

/-- What is reported about an expansion that is handed to a sink, and the bytes that it takes. -/
def Sink.report (sink : Sink) (result : Except ExpandError Unit) (content : String) :
    Except WriteError Nat × ByteArray :=
  match result with
  | .error (.malformed error) => (.error (.expand (.malformed error)), .empty)
  | .error (.unresolved arguments) =>
    match sink.accept content with
    | (accepted, false) => (.error (.sink sink.failure), accepted)
    | (accepted, true) => (.error (.expand (.unresolved arguments)), accepted)
  | .ok _ =>
    match sink.accept content with
    | (accepted, false) => (.error (.sink sink.failure), accepted)
    | (accepted, true) => (.ok content.utf8ByteSize, accepted)

theorem Sink.report_of_takes {sink : Sink} {result : Except ExpandError Unit} {content : String}
    (hWhole : ∀ error, result ≠ .error (.malformed error))
    (h : sink.Takes content.utf8ByteSize) :
    sink.report result content =
      ((result.mapError .expand).map fun _ => content.utf8ByteSize, content.toUTF8) := by
  cases result with
  | ok =>
    simp only [report, accept_of_takes h]
    rfl
  | error error =>
    cases error with
    | malformed error => exact absurd rfl (hWhole error)
    | unresolved arguments =>
      simp only [report, accept_of_takes h]
      rfl

theorem Sink.report_of_not_takes {sink : Sink} {result : Except ExpandError Unit}
    {content : String} (hWhole : ∀ error, result ≠ .error (.malformed error))
    (h : ¬ sink.Takes content.utf8ByteSize) :
    sink.report result content = (.error (.sink sink.failure), (sink.accept content).1) := by
  obtain ⟨limit, -, -, hAccept⟩ := accept_of_not_takes h
  cases result with
  | ok => simp only [report, hAccept]
  | error error =>
    cases error with
    | malformed error => exact absurd rfl (hWhole error)
    | unresolved arguments => simp only [report, hAccept]

/-! ## Outcomes -/

theorem report_write (pool : Pool) (sink : Sink) (source : Text) (r : Resolver σ) (state : σ) :
    ((pool.write sink source r state).result, (pool.write sink source r state).accepted) =
      sink.report (expandInto pool.acquire.1 source r state).result
        (expandInto pool.acquire.1 source r state).buffer.content := by
  unfold write Sink.report
  dsimp only
  split
  · rename_i error hResult
    rw [hResult]
  · rename_i hOther
    cases hResult : (expandInto pool.acquire.1 source r state).result with
    | ok => cases sink.accept (expandInto pool.acquire.1 source r state).buffer.content with
      | mk accepted whole => cases whole <;> rfl
    | error error =>
      cases error with
      | malformed error => exact absurd hResult (hOther error)
      | unresolved arguments =>
        cases sink.accept (expandInto pool.acquire.1 source r state).buffer.content with
        | mk accepted whole => cases whole <;> rfl

theorem state_write (pool : Pool) (sink : Sink) (source : Text) (r : Resolver σ) (state : σ) :
    (pool.write sink source r state).state = (expandInto pool.acquire.1 source r state).state := by
  unfold write
  dsimp only
  split
  · rfl
  · split <;> rfl

/-- A pool that hands out an empty buffer writes what an expansion without a pool gives. -/
theorem report_write_of_empty {pool : Pool} (h : pool.acquire.1.text = []) (sink : Sink)
    (source : Text) (r : Resolver σ) (state : σ) :
    ((pool.write sink source r state).result, (pool.write sink source r state).accepted) =
      sink.report (expandInto .empty source r state).result
        (String.ofList (r.rendered (scan source).1 state)) := by
  rw [report_write, result_expandInto_eq, Buffer.content_eq, text_expandInto_scan, h,
    List.nil_append]

theorem write_of_error {source : Text} {error : SyntaxError}
    (hError : Template.ofText source = .error error) {pool : Pool}
    (h : pool.acquire.1.text = []) (sink : Sink) (r : Resolver σ) (state : σ) :
    (pool.write sink source r state).result = .error (.expand (.malformed error)) ∧
      (pool.write sink source r state).accepted = .empty := by
  have hReport := report_write_of_empty h sink source r state
  rw [expandInto_of_error (Template.ofText_eq_error_iff.mp hError)] at hReport
  exact Prod.mk.inj hReport

/-- The result of a whole expansion. -/
theorem result_of_template {t : Template} (r : Resolver σ) (state : σ) :
    (expandInto .empty t.source r state).result =
      if r.failures t.parts state = [] then .ok ()
      else .error (.unresolved ⟨r.rendered t.parts state, r.failures t.parts state⟩) :=
  result_expandInto t.scan_source .empty r state

theorem length_idle_write {pool : Pool} (h : pool.Sound) (sink : Sink) (source : Text)
    (r : Resolver σ) (state : σ) :
    (pool.write sink source r state).pool.idle.length =
      if (expandInto pool.acquire.1 source r state).buffer.capacity ≤ pool.limits.maxCapacity ∧
          0 < pool.limits.maxBuffers then max pool.idle.length 1
      else pool.idle.length - 1 := by
  obtain ⟨-, hRoom, -⟩ := h.acquire
  have hGrown := capacity_le_expandInto pool.acquire.1 source r state
  have hTaken := pool.length_acquire
  have hFew := h.few
  rw [pool_write]
  by_cases hKeeps : pool.acquire.2.Keeps (expandInto pool.acquire.1 source r state).buffer
  · rw [release_of_keeps hKeeps]
    obtain ⟨-, hSmall, hPlace⟩ := hKeeps
    rw [limits_acquire] at hSmall hPlace
    rw [if_pos ⟨hSmall, Nat.zero_lt_of_lt hPlace⟩, List.length_cons]
    omega
  · rw [release_of_not_keeps hKeeps, hTaken, if_neg]
    rintro ⟨hSmall, hPlace⟩
    refine hKeeps ⟨Nat.lt_of_lt_of_le hRoom hGrown, ?_⟩
    rw [limits_acquire]
    omega

/-- A pool with a history writes what a new pool writes, and reports the same. A template with an
error is reported and writes nothing. Of any other message the bytes at the front are written; the
sink's failure is reported iff it does not take all of them, and only otherwise what is unresolved,
or the number of bytes. In each case the buffer is given back. -/
theorem write_after_uses (limits fresh : PoolLimits) (uses : List Session.Use) (sink : Sink)
    (source : Text) (r : Resolver σ) (state : σ) :
    let pool := ((Session.new limits).after uses).pool
    let written := pool.write sink source r state
    let first := (new fresh).write sink source r state
    (written.result = first.result ∧ written.accepted = first.accepted ∧
        written.state = first.state) ∧
      (∀ error, Template.ofText source = .error error →
        written.result = .error (.expand (.malformed error)) ∧ written.accepted = .empty) ∧
      (∀ t, Template.ofText source = .ok t →
        let message := r.rendered t.parts state
        let failures := r.failures t.parts state
        let bytes := (String.ofList message).toUTF8
        (∃ rest, bytes = written.accepted ++ rest) ∧
          (written.result = .error (.sink sink.failure) ↔ ¬ sink.Takes (byteLength message)) ∧
          (sink.Takes (byteLength message) → written.accepted = bytes ∧
            written.result =
              if failures = [] then .ok (byteLength message)
              else .error (.expand (.unresolved ⟨message, failures⟩)))) ∧
      written.pool.idle.length =
        if (expandInto pool.acquire.1 source r state).buffer.capacity ≤ limits.maxCapacity ∧
            0 < limits.maxBuffers then max pool.idle.length 1
        else pool.idle.length - 1 := by
  intro pool written first
  have hSound : Session.Sound limits ((Session.new limits).after uses) :=
    Session.sound_after limits uses
  have hEmpty : pool.acquire.1.text = [] := hSound.pool.acquire.1
  have hReport := report_write_of_empty hEmpty sink source r state
  refine ⟨?_, fun error hError => write_of_error hError hEmpty sink r state, ?_, ?_⟩
  · have hFirst := report_write_of_empty (sound_new fresh).acquire.1 sink source r state
    obtain ⟨hResult, hAccepted⟩ := Prod.mk.inj (hReport.trans hFirst.symm)
    refine ⟨hResult, hAccepted, ?_⟩
    rw [state_write, state_write, state_expandInto_scan, state_expandInto_scan]
  · intro t hTemplate message failures bytes
    obtain rfl := Template.ofText_eq_ok_iff.mp hTemplate
    have hWhole :
        ∀ error, (expandInto .empty t.source r state).result ≠ .error (.malformed error) := by
      intro error hResult
      rw [result_of_template] at hResult
      split at hResult <;> cases hResult
    rw [t.scan_source] at hReport
    have hSize : (String.ofList message).utf8ByteSize = byteLength message :=
      utf8ByteSize_ofList message
    by_cases hTakes : sink.Takes (byteLength message)
    · rw [Sink.report_of_takes hWhole (hSize ▸ hTakes), result_of_template, hSize] at hReport
      obtain ⟨hResult, hAccepted⟩ := Prod.mk.inj hReport
      have hOutcome : written.result = if failures = [] then .ok (byteLength message)
          else .error (.expand (.unresolved ⟨message, failures⟩)) := by
        rw [hResult]
        by_cases hNone : failures = []
        · rw [if_pos hNone, if_pos hNone]
          rfl
        · rw [if_neg hNone, if_neg hNone]
          rfl
      refine ⟨⟨.empty, ?_⟩, ?_, fun _ => ⟨hAccepted, hOutcome⟩⟩
      · rw [ByteArray.append_empty]
        exact hAccepted.symm
      · refine iff_of_false ?_ (not_not_intro hTakes)
        rw [hOutcome]
        split <;> exact nofun
    · rw [Sink.report_of_not_takes hWhole (hSize ▸ hTakes)] at hReport
      obtain ⟨hResult, hAccepted⟩ := Prod.mk.inj hReport
      obtain ⟨rest, hRest⟩ := sink.exists_accept_append (String.ofList message)
      exact ⟨⟨rest, hAccepted ▸ hRest⟩, iff_of_true hResult hTakes, fun h => absurd h hTakes⟩
  · have hIdle := length_idle_write hSound.pool sink source r state
    rw [hSound.limits_eq] at hIdle
    exact hIdle

end Pool

end LogMarkup
