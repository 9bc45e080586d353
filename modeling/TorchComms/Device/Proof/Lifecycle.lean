import TorchComms.Device.Proof.Bounds

/-!
# The objects `DefaultXpuApi` creates for itself

`streamWaitEvent`, `memcpyAsync` and `eventRecord` each build one command list, submit it to the
caller's queue and destroy it before they return, whether or not the submission worked. So in every
run the log shows command lists created and destroyed in adjacent pairs of one handle, and the
list of an execution the device has not finished is already destroyed: nothing waits for the
execution before `zeCommandListDestroy`.

`eventCreate` and `eventCreateWithFlags` create an event pool for each event and keep no handle
to it. No method destroys a pool: `eventDestroy` destroys only the event, and a failed
`zeEventCreate` leaves its pool behind.
-/

namespace TorchComms

/-- A command list's creation (`true`) or destruction (`false`), as the log records it. -/
def XpuEvent.commandListEvent : XpuEvent → Option (Bool × ZeCommandList)
  | .commandListCreate list => some (true, list)
  | .commandListDestroy list => some (false, list)
  | _ => none

/-- The creations and destructions of command lists in a log, in order. -/
def commandListEvents (log : List XpuEvent) : List (Bool × ZeCommandList) :=
  log.filterMap XpuEvent.commandListEvent

@[simp] theorem commandListEvents_append (log log' : List XpuEvent) :
    commandListEvents (log ++ log') = commandListEvents log ++ commandListEvents log' :=
  List.filterMap_append _ _ _

@[simp] theorem commandListEvents_cons (e : XpuEvent) (log : List XpuEvent) :
    commandListEvents (e :: log) = e.commandListEvent.toList ++ commandListEvents log := by
  cases h : e.commandListEvent <;> simp [commandListEvents, List.filterMap_cons, h]

@[simp] theorem commandListEvents_nil : commandListEvents [] = [] := rfl

/-- What every reachable state keeps about the command lists and event pools. -/
structure Lifecycle (s : XpuState) : Prop where
  /-- Command lists are created and destroyed in adjacent pairs of one handle. -/
  paired : ∃ lists : List ZeCommandList,
    commandListEvents s.log = lists.flatMap fun list => [(true, list), (false, list)]
  /-- The command list of every unfinished execution has been destroyed. -/
  pending_destroyed : ∀ queue list, (queue, list) ∈ s.pending →
    .commandListDestroy list ∈ s.log
  /-- No event pool is destroyed. -/
  no_pool_destroyed : ∀ pool, .eventPoolDestroy pool ∉ s.log

namespace Lifecycle

variable {s : XpuState}

theorem initial : Lifecycle .initial :=
  ⟨⟨[], rfl⟩, nofun, nofun⟩

/-- Appending events that neither touch a command list nor destroy a pool, while executions only
finish. -/
theorem extend (h : Lifecycle s) {s' : XpuState} (new : List XpuEvent)
    (hlog : s'.log = s.log ++ new) (hlist : commandListEvents new = [])
    (hpool : ∀ pool, .eventPoolDestroy pool ∉ new)
    (hpending : s'.pending ⊆ s.pending) : Lifecycle s' where
  paired := by simpa [hlog, hlist] using h.paired
  pending_destroyed queue list hp := by
    rw [hlog]
    exact List.mem_append_left _ (h.pending_destroyed queue list (hpending hp))
  no_pool_destroyed pool := by simpa [hlog, hpool pool] using h.no_pool_destroyed pool

theorem record (h : Lifecycle s) {e : XpuEvent} (hlist : e.commandListEvent = none)
    (hpool : ∀ pool, e ≠ .eventPoolDestroy pool) : Lifecycle (s.record e) :=
  h.extend [e] rfl (by simp [hlist]) (by simpa using fun pool => (hpool pool).symm) fun _ => id

theorem readDevice (h : Lifecycle s) (index : Nat) : Lifecycle (s.readDevice index).2 :=
  h.record rfl nofun

theorem initLevelZero (h : Lifecycle s) (env : LevelZeroEnv) : Lifecycle (s.initLevelZero env).2 :=
  ⟨h.paired, h.pending_destroyed, h.no_pool_destroyed⟩

theorem finishQueue (h : Lifecycle s) (queue : ZeQueue) : Lifecycle (s.finishQueue queue) :=
  h.extend _ rfl (by simp [commandListEvents, XpuEvent.commandListEvent])
    (by simp) (List.filter_sublist _).subset

theorem finish (h : Lifecycle s) (queue : ZeQueue) (list : ZeCommandList) :
    Lifecycle (s.finish queue list) :=
  h.extend [.finished queue list] rfl rfl (by simp) (List.erase_subset _ _)

/-- A command list created, possibly started, and destroyed. -/
theorem pair (h : Lifecycle s) {s' : XpuState} (list : ZeCommandList) (mid : List XpuEvent)
    (hlog : s'.log = s.log ++ .commandListCreate list :: mid ++ [.commandListDestroy list])
    (hmid : commandListEvents mid = []) (hpool : ∀ pool, .eventPoolDestroy pool ∉ mid)
    (hpending : ∀ e ∈ s'.pending, e ∈ s.pending ∨ e.2 = list) : Lifecycle s' where
  paired := by
    obtain ⟨lists, hlists⟩ := h.paired
    exact ⟨lists ++ [list], by simp [hlog, hlists, hmid, XpuEvent.commandListEvent]⟩
  pending_destroyed queue list' hp := by
    rw [hlog]
    rcases hpending _ hp with hp | rfl
    · exact List.mem_append_left _ (List.mem_append_left _ (h.pending_destroyed queue list' hp))
    · simp
  no_pool_destroyed pool := by simp [hlog, h.no_pool_destroyed pool, hpool pool]

end Lifecycle

namespace DefaultXpuApi

/-- A submission destroys the list it created, started or not. -/
theorem submit_lifecycle (stream : ZeQueue) (ans : SubmitAnswers) {s : XpuState}
    (h : Lifecycle s) : Lifecycle (submit stream ans s).2 := by
  have h₀ := h.readDevice 0
  unfold submit
  split
  next list _ =>
    split_ifs
    · exact h₀.pair list [] (by simp) rfl nofun fun e he => .inl he
    · exact h₀.pair list [] (by simp) rfl nofun fun e he => .inl he
    · refine h₀.pair list [.execute stream list] (by simp) rfl (by simp) fun e he => ?_
      rcases List.mem_append.1 he with he | he
      · exact .inl he
      · exact .inr (by simp [List.mem_singleton.1 he])
    · exact h₀.pair list [] (by simp) rfl nofun fun e he => .inl he
  · exact h₀

theorem createPooledEvent_lifecycle (timestamps : Bool) (ans : EventAnswers) {s : XpuState}
    (h : Lifecycle s) : Lifecycle (createPooledEvent timestamps ans s).2 := by
  have h₀ := h.readDevice 0
  unfold createPooledEvent
  dsimp only
  split
  · split
    · exact Lifecycle.record (Lifecycle.record h₀ (by rfl) (by simp)) (by rfl) (by simp)
    · exact h₀.record rfl nofun
  · exact h₀

theorem initThen_lifecycle {α : Type} (env : LevelZeroEnv) (fail : ZeResult → α)
    {body : XpuState → α × XpuState} (hbody : ∀ s, Lifecycle s → Lifecycle (body s).2)
    {s : XpuState} (h : Lifecycle s) : Lifecycle (initThen env fail body s).2 := by
  by_cases hinit : (initLevelZero env s.globals).1 = .success
  · rw [initThen_of_success hinit]
    exact hbody _ (h.initLevelZero env)
  · rw [initThen_of_failure hinit]
    exact h.initLevelZero env

end DefaultXpuApi

open DefaultXpuApi in
theorem XpuOp.run_lifecycle (op : XpuOp) {s : XpuState} (h : Lifecycle s) :
    Lifecycle (op.run s) := by
  cases op with
  | setDevice env =>
    exact initThen_lifecycle env _ (fun _ h => by split_ifs <;> exact h) h
  | getDeviceProperties env =>
    refine initThen_lifecycle env _ (fun _ h => ?_) h
    dsimp only
    split_ifs
    · exact h
    · split
      · exact (h.readDevice _).readDevice _
      · exact h.readDevice _
  | memGetInfo env =>
    refine initThen_lifecycle env _ (fun _ h => ?_) h
    dsimp only
    split_ifs
    · exact h
    · split <;> exact h.readDevice _
    · exact h
  | getDeviceCount env =>
    exact initThen_lifecycle env _ (fun _ h => by split_ifs <;> exact h) h
  | streamCreateWithPriority env =>
    refine initThen_lifecycle env _ (fun _ h => ?_) h
    dsimp only
    split_ifs
    · exact h
    · exact h
    · split
      · exact (h.readDevice _).record rfl nofun
      · exact h.readDevice _
  | malloc env =>
    refine initThen_lifecycle env _ (fun _ h => ?_) h
    dsimp only
    split_ifs
    · exact h
    · exact h
    · split
      · exact (h.readDevice _).record rfl nofun
      · exact h.readDevice _
  | eventCreate env =>
    refine initThen_lifecycle env _ (fun _ h => ?_) h
    dsimp only
    split_ifs
    · exact h
    · exact createPooledEvent_lifecycle _ _ h
  | eventCreateWithFlags env =>
    refine initThen_lifecycle env _ (fun _ h => ?_) h
    dsimp only
    split_ifs
    · exact h
    · exact createPooledEvent_lifecycle _ _ h
    · refine initThen_lifecycle env _ (fun _ h => ?_) h
      dsimp only
      split_ifs
      exact createPooledEvent_lifecycle _ _ h
  | streamWaitEvent | eventRecord | memcpyAsync =>
    simp only [XpuOp.run, DefaultXpuApi.streamWaitEvent, DefaultXpuApi.eventRecord,
      DefaultXpuApi.memcpyAsync]
    split_ifs
    all_goals first | exact h | exact submit_lifecycle _ _ h
  | streamDestroy | free | eventDestroy =>
    simp only [XpuOp.run, DefaultXpuApi.streamDestroy, DefaultXpuApi.free,
      DefaultXpuApi.eventDestroy]
    split_ifs
    all_goals first | exact h | exact h.record rfl nofun
  | getCurrentXPUStream => exact h
  | eventQuery =>
    simp only [XpuOp.run, DefaultXpuApi.eventQuery]
    split_ifs <;> exact h
  | streamSynchronize =>
    simp only [XpuOp.run, DefaultXpuApi.streamSynchronize]
    split_ifs
    all_goals first | exact h | exact h.finishQueue _

theorem XpuReachable.lifecycle {s : XpuState} (h : XpuReachable s) : Lifecycle s := by
  induction h with
  | initial => exact .initial
  | step _ hstep ih =>
    cases hstep with
    | call op => exact op.run_lifecycle ih
    | finish => exact ih.finish _ _

/-- **Internal objects.** In every reachable state, command lists have been created and destroyed
in adjacent pairs of one handle, the list of every execution the device has not finished is
already destroyed, and no event pool has been destroyed. -/
theorem commandLists_paired_pools_kept {s : XpuState} (h : XpuReachable s) :
    (∃ lists : List ZeCommandList,
      commandListEvents s.log = lists.flatMap fun list => [(true, list), (false, list)]) ∧
    (∀ queue list, (queue, list) ∈ s.pending → .commandListDestroy list ∈ s.log) ∧
    ∀ pool, .eventPoolDestroy pool ∉ s.log :=
  ⟨h.lifecycle.paired, h.lifecycle.pending_destroyed, h.lifecycle.no_pool_destroyed⟩

/-- On a machine with one discrete device: two allocations, which initialize Level Zero, a
queue, and a copy between the two buffers on it. -/
theorem commandLists_paired_pools_kept_copy :
    let env : LevelZeroEnv := ⟨(.success, 1), (.success, [5]), fun _ => (.success, 1),
      fun _ => (.success, [7]), fun _ => (.success, false), (.success, 9)⟩
    let s := (XpuOp.memcpyAsync 43 42 4 3 ⟨(.success, 11), .success, .success, .success⟩).run
      ((XpuOp.streamCreateWithPriority env false 0 (.success, 3)).run
        ((XpuOp.malloc env false 4 (.success, 43)).run
          ((XpuOp.malloc env false 4 (.success, 42)).run .initial)))
    XpuReachable s ∧
      ((∃ lists : List ZeCommandList,
        commandListEvents s.log = lists.flatMap fun list => [(true, list), (false, list)]) ∧
      (∀ queue list, (queue, list) ∈ s.pending → .commandListDestroy list ∈ s.log) ∧
      ∀ pool, .eventPoolDestroy pool ∉ s.log) := by
  refine ⟨?h, commandLists_paired_pools_kept ?h⟩
  exact .step (.step (.step (.step .initial (.call _ _)) (.call _ _)) (.call _ _)) (.call _ _)

/-- On a machine with one discrete device, a copy after two allocations and a queue leaves its
execution unfinished and its list destroyed; an event created and then destroyed leaves its
pool. -/
theorem lifecycle_counterexample :
    (¬ ∀ s : XpuState, XpuReachable s →
      ∀ queue list, (queue, list) ∈ s.pending → .commandListDestroy list ∉ s.log) ∧
    ¬ ∀ s : XpuState, XpuReachable s →
      ∀ pool event, .eventCreate pool event ∈ s.log → .eventDestroy event ∈ s.log →
        .eventPoolDestroy pool ∈ s.log := by
  let env : LevelZeroEnv := ⟨(.success, 1), (.success, [5]), fun _ => (.success, 1),
    fun _ => (.success, [7]), fun _ => (.success, false), (.success, 9)⟩
  constructor
  · intro h
    have hr : XpuReachable ((XpuOp.memcpyAsync 43 42 4 3
        ⟨(.success, 11), .success, .success, .success⟩).run
        ((XpuOp.streamCreateWithPriority env false 0 (.success, 3)).run
          ((XpuOp.malloc env false 4 (.success, 43)).run
            ((XpuOp.malloc env false 4 (.success, 42)).run .initial)))) :=
      .step (.step (.step (.step .initial (.call _ _)) (.call _ _)) (.call _ _)) (.call _ _)
    exact h _ hr 3 11 (by decide) (by decide)
  · intro h
    have hr : XpuReachable ((XpuOp.eventDestroy 5 .success).run
        ((XpuOp.eventCreate env false ⟨(.success, 4), (.success, 5)⟩).run .initial)) :=
      .step (.step .initial (.call _ _)) (.call _ _)
    exact absurd (h _ hr 4 5 (by decide) (by decide)) (by decide)

end TorchComms
