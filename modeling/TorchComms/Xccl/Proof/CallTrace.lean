import TorchComms.Xccl.Proof.Ownership

/-!
# What a call that returns has done

`createXcclComm` runs in four segments, and between two of them any other rank may move. Still,
one rank's log keeps the program order of each call: a call that returns a communicator did, in
this order, at most one `StoreManager::getStore`, one key draw, on rank 0 the `store_->set` of
its identifier under that key, the return of that identifier from `exchangeUniqueId`,
`commInitRankConfig` with `comm_size_`, that identifier and `rank_`, then, when it owned its
store, the store reset and one barrier `allReduce` on the communicator it returns
(`ReturnedCall`). So the communicator a call returns was initialised with the identifier the
same call exchanged, under the key it drew.

The invariant says what the current call has done so far, by phase (`PhaseTrace`), and that
every call that returned matches `ReturnedCall`. Each segment extends the current call's events
by what its branch does.
-/

namespace TorchComms

variable {idBytes : Nat}

/-- On rank 0, the identifier set under the key; on another rank, nothing. -/
def publishedOn (rank : Nat) (key : String) (uniqueId : OnecclUniqueId idBytes) :
    List (Event idBytes) :=
  if rank = 0 then [.published key uniqueId] else []

/-- What a call does before it draws its key: nothing, or take a store from `StoreManager`. -/
def StorePrefix (pre : List (Event idBytes)) : Prop :=
  pre = [] ∨ ∃ s, pre = [.storeManagerGetStore (some s)]

/-- The events of a call up to the return of `uniqueId` from `exchangeUniqueId`. -/
def Exchanged (rank : Nat) (events : List (Event idBytes)) (uniqueId : OnecclUniqueId idBytes) :
    Prop :=
  ∃ pre key, StorePrefix pre ∧
    events = pre ++ .drewKey key :: publishedOn rank key uniqueId ++ [.exchanged uniqueId]

/-- The events of a call that returned `comm`: the exchange, `commInitRankConfig` with the
exchanged identifier, then, when the bootstrap owned its store, the reset and the barrier on
`comm`, and the return. -/
def ReturnedCall (rank commSize : Nat) (comm : OnecclComm) (events : List (Event idBytes)) :
    Prop :=
  ∃ ex uniqueId config post, Exchanged rank ex uniqueId ∧
    (post = [] ∨ ∃ res, post = [.reset, .allReduce comm res]) ∧
    events = ex ++ .commInitRankConfig commSize uniqueId rank config :: post ++ [.returned comm]

/-- The events of the current call, by the phase it stands in. -/
def PhaseTrace (rank commSize : Nat) : Phase idBytes → List (Event idBytes) → Prop
  | .idle, _ => True
  | .getting _ key, events =>
    rank ≠ 0 ∧ ∃ pre, StorePrefix pre ∧ events = pre ++ [.drewKey key]
  | .exchanged _ uniqueId, events => Exchanged rank events uniqueId
  | .synchronizing comm, events => ∃ ex uniqueId config res, Exchanged rank ex uniqueId ∧
    events = ex ++ [.commInitRankConfig commSize uniqueId rank config, .reset,
      .allReduce comm res]

theorem StorePrefix.not_returned {pre : List (Event idBytes)} (h : StorePrefix pre)
    (comm : OnecclComm) : .returned comm ∉ pre := by
  rcases h with rfl | ⟨s, rfl⟩ <;> simp

theorem Exchanged.not_returned {rank : Nat} {events : List (Event idBytes)}
    {uniqueId : OnecclUniqueId idBytes} (h : Exchanged rank events uniqueId) (comm : OnecclComm) :
    .returned comm ∉ events := by
  obtain ⟨pre, key, hpre, rfl⟩ := h
  unfold publishedOn
  split_ifs <;> simp [hpre.not_returned comm]

/-- A running call has not returned. -/
theorem PhaseTrace.not_returned {rank commSize : Nat} {phase : Phase idBytes}
    {events : List (Event idBytes)} (h : PhaseTrace rank commSize phase events)
    (hbusy : phase ≠ .idle) (comm : OnecclComm) : .returned comm ∉ events := by
  cases phase with
  | idle => exact absurd rfl hbusy
  | getting _ key =>
    obtain ⟨-, pre, hpre, rfl⟩ := h
    simp [hpre.not_returned comm]
  | exchanged _ uniqueId => exact Exchanged.not_returned h comm
  | synchronizing c =>
    obtain ⟨ex, uniqueId, config, res, hex, rfl⟩ := h
    simp [hex.not_returned comm]

namespace Rank

variable {initializer : OnecclConfig} {b : TorchCommXCCLBootstrap} {r r' : Rank idBytes}

/-- The events of every call of a run of the bootstrap `b`. -/
structure CallTrace (b : TorchCommXCCLBootstrap) (r : Rank idBytes) : Prop where
  call_le : ∀ e ∈ r.log, e.call ≤ r.calls
  rank : r.bootstrap.rank = b.rank
  size : r.bootstrap.commSize = b.commSize
  /-- Every call that returned did what `createXcclComm` does, in its order. -/
  returned : ∀ j comm, .returned comm ∈ callEvents r.log j →
    ReturnedCall b.rank b.commSize comm (callEvents r.log j)
  /-- The current call has done what its phase says. -/
  current : PhaseTrace b.rank b.commSize r.phase (callEvents r.log r.calls)

theorem CallTrace.init (b : TorchCommXCCLBootstrap) (counter : BitVec 32) :
    CallTrace b (init b counter : Rank idBytes) where
  call_le := by simp [Rank.init]
  rank := rfl
  size := rfl
  returned := by simp [Rank.init]
  current := trivial

/-- A segment of the running call that appends `new`. -/
theorem CallTrace.extend (h : CallTrace b r) (hbusy : r.phase ≠ .idle)
    (hcalls : r'.calls = r.calls) (hrank : r'.bootstrap.rank = r.bootstrap.rank)
    (hsize : r'.bootstrap.commSize = r.bootstrap.commSize) (new : List (Event idBytes))
    (hlog : r'.log = r.log ++ new.map fun e => ⟨r.calls, e⟩)
    (hret : ∀ comm, .returned comm ∈ new →
      ReturnedCall b.rank b.commSize comm (callEvents r.log r.calls ++ new))
    (hphase : PhaseTrace b.rank b.commSize r'.phase (callEvents r.log r.calls ++ new)) :
    CallTrace b r' where
  call_le := hcalls ▸ hlog ▸ call_le_append_map h.call_le new
  rank := hrank.trans h.rank
  size := hsize.trans h.size
  returned j comm hmem := by
    rw [hlog, callEvents_append_map] at hmem ⊢
    by_cases hj : r.calls = j
    · subst hj
      rw [if_pos rfl] at hmem ⊢
      rcases List.mem_append.1 hmem with hmem | hmem
      · exact absurd hmem (h.current.not_returned hbusy comm)
      · exact hret comm hmem
    · rw [if_neg hj, List.append_nil] at hmem ⊢
      exact h.returned j comm hmem
  current := by
    rw [hcalls, hlog, callEvents_append_map, if_pos rfl]
    exact hphase

/-- The first segment of a new call, which appends `new` under the next call number. -/
theorem CallTrace.newCall (h : CallTrace b r) (hcalls : r'.calls = r.calls + 1)
    (hrank : r'.bootstrap.rank = r.bootstrap.rank)
    (hsize : r'.bootstrap.commSize = r.bootstrap.commSize) (new : List (Event idBytes))
    (hlog : r'.log = r.log ++ new.map fun e => ⟨r.calls + 1, e⟩)
    (hret : ∀ comm, .returned comm ∉ new) (hphase : PhaseTrace b.rank b.commSize r'.phase new) :
    CallTrace b r' where
  call_le := hcalls ▸ hlog ▸
    call_le_append_map (fun e he => Nat.le_succ_of_le (h.call_le e he)) new
  rank := hrank.trans h.rank
  size := hsize.trans h.size
  returned j comm hmem := by
    rw [hlog, callEvents_append_map] at hmem ⊢
    by_cases hj : r.calls + 1 = j
    · rw [if_pos hj] at hmem
      rcases List.mem_append.1 hmem with hmem | hmem
      · rw [← hj, callEvents_eq_nil h.call_le (Nat.lt_succ_self _)] at hmem
        simp at hmem
      · exact absurd hmem (hret comm)
    · rw [if_neg hj, List.append_nil] at hmem ⊢
      exact h.returned j comm hmem
  current := by
    rw [hcalls, hlog, callEvents_append_map, if_pos rfl,
      callEvents_eq_nil h.call_le (Nat.lt_succ_self _), List.nil_append]
    exact hphase

/-- `exchangeUniqueIdStore` draws a key and, by rank, stops, waits on the key, or sets and returns
the identifier; after any store prefix its events match the phase it leaves. -/
theorem exchangeUniqueIdStore_trace (r : Rank idBytes) (kv : KVStore) (call : CommCall)
    (ans : ExchangeAnswers idBytes) :
    let r' := (r.exchangeUniqueIdStore kv call ans).1
    r'.calls = r.calls ∧ r'.bootstrap = r.bootstrap ∧
      ∃ new : List (Event idBytes), r'.log = r.log ++ new.map (fun e => ⟨r.calls, e⟩) ∧
        (∀ comm, .returned comm ∉ new) ∧ ∀ pre, StorePrefix pre →
          PhaseTrace r.bootstrap.rank r.bootstrap.commSize r'.phase (pre ++ new) := by
  rcases exchangeUniqueIdStore_cases r kv call ans with
    ⟨e, heq, -⟩ | ⟨hrank, heq⟩ | ⟨id, hrank, heq⟩ <;> rw [heq]
  · exact ⟨rfl, rfl, [.drewKey (getXCCLStoreKey r.counter).1, .threw e], by simp, by simp,
      fun _ _ => trivial⟩
  · exact ⟨rfl, rfl, [.drewKey _], by simp, by simp, fun pre hpre => ⟨hrank, pre, hpre, rfl⟩⟩
  · refine ⟨rfl, rfl, [.drewKey (getXCCLStoreKey r.counter).1,
      .published (getXCCLStoreKey r.counter).1 id, .exchanged id], by simp, by simp,
      fun pre hpre => ⟨pre, (getXCCLStoreKey r.counter).1, hpre, ?_⟩⟩
    simp [publishedOn, hrank]

/-- Every segment keeps the invariant. -/
theorem CallTrace.step (h : CallTrace b r) (hstep : Step initializer r r') : CallTrace b r' := by
  cases hstep with
  | call kv call ans _ =>
    let r₁ : Rank idBytes := { r with calls := r.calls + 1 }
    rcases exchangeUniqueId_cases r₁ kv call ans with
      ⟨-, heq⟩ | ⟨-, e, heq, -⟩ | ⟨-, e, heq, -⟩ | ⟨-, s, heq⟩ <;> rw [createXcclComm, heq]
    · obtain ⟨hcalls, hb, new, hlog, hret, hphase⟩ := exchangeUniqueIdStore_trace r₁ kv call ans
      exact h.newCall hcalls (by rw [hb]) (by rw [hb]) new hlog hret
        (by simpa [hb, r₁, h.rank, h.size] using hphase [] (.inl rfl))
    · exact h.newCall rfl rfl rfl [.threw e] (by simp) (by simp) trivial
    · exact h.newCall rfl rfl rfl [.storeManagerGetStore none, .threw e] (by simp) (by simp)
        trivial
    · obtain ⟨hcalls, hb, new, hlog, hret, hphase⟩ :=
        exchangeUniqueIdStore_trace (r₁.acquireStore s) kv call ans
      refine h.newCall hcalls (by simp [hb]) (by simp [hb]) (.storeManagerGetStore (some s) :: new)
        (by simp [hlog, r₁]) (fun comm => by simpa using hret comm) ?_
      simpa [hb, r₁, h.rank, h.size] using hphase [.storeManagerGetStore (some s)] (.inr ⟨s, rfl⟩)
  | @fetch call key got hphase =>
    have hcur := h.current
    rw [hphase] at hcur
    obtain ⟨hrank, pre, hpre, hevents⟩ := hcur
    have hbusy : r.phase ≠ .idle := by simp [hphase]
    rcases fetchUniqueId_cases r call got with
      ⟨what, -, heq⟩ | ⟨_, -, -, heq⟩ | ⟨id, -, heq⟩ <;> rw [heq]
    · exact h.extend hbusy rfl rfl rfl [.threw (.store what)] (by simp) (by simp) trivial
    · exact h.extend hbusy rfl rfl rfl [.threw .invalidUniqueIdSize] (by simp) (by simp) trivial
    · refine h.extend hbusy rfl rfl rfl [.exchanged id] (by simp) (by simp)
        ⟨pre, key, hpre, ?_⟩
      simp [hevents, publishedOn, hrank]
  | @init call uniqueId ans hphase =>
    have hcur := h.current
    rw [hphase] at hcur
    have hbusy : r.phase ≠ .idle := by simp [hphase]
    let init (config : OnecclConfig) : Event idBytes :=
      .commInitRankConfig r.bootstrap.commSize uniqueId r.bootstrap.rank config
    rcases initComm_cases initializer r call uniqueId ans with
      ⟨e, heq, -⟩ | ⟨config, ⟨e, heq, -⟩ | ⟨comm, heq⟩⟩ <;> rw [heq]
    · exact h.extend hbusy rfl rfl rfl [.threw e] (by simp) (by simp) trivial
    · exact h.extend hbusy rfl rfl rfl [init config, .threw e] (by simp) (by simp) trivial
    · rcases cleanupTCPStore_cases (r.record (init config)) comm ans.allReduce with
        ⟨-, heq'⟩ | ⟨-, heq'⟩ <;> rw [heq']
      · -- The bootstrap owns its store: the reset and the barrier, then the wait.
        refine h.extend hbusy rfl rfl rfl [init config, .reset, .allReduce comm ans.allReduce]
          (by simp) (by simp) ⟨_, uniqueId, config, ans.allReduce, hcur, ?_⟩
        simp [init, h.rank, h.size]
      · -- A borrowed store: the call returns at once.
        refine h.extend hbusy rfl rfl rfl [init config, .returned comm] (by simp)
          (fun c hc => ?_) trivial
        obtain rfl : c = comm := by simpa [init] using hc
        exact ⟨_, uniqueId, config, [], hcur, .inl rfl, by simp [init, h.rank, h.size]⟩
  | @sync comm status hphase =>
    have hcur := h.current
    rw [hphase] at hcur
    obtain ⟨ex, uniqueId, config, res, hex, hevents⟩ := hcur
    have hbusy : r.phase ≠ .idle := by simp [hphase]
    rcases finishCleanup_cases r comm status with ⟨-, heq⟩ | ⟨e, heq, -⟩ <;> rw [heq]
    · refine h.extend hbusy rfl rfl rfl [.returned comm] (by simp) (fun c hc => ?_) trivial
      obtain rfl : c = comm := by simpa using hc
      exact ⟨ex, uniqueId, config, _, hex, .inr ⟨res, rfl⟩, by simp [hevents]⟩
    · exact h.extend hbusy rfl rfl rfl [.threw e] (by simp) (by simp) trivial

theorem CallTrace.reachable {start r : Rank idBytes} (h : CallTrace b start)
    (hr : Reachable initializer start r) : CallTrace b r := by
  induction hr with
  | refl => exact h
  | step _ hstep ih => exact ih.step hstep

/-- **What a call that returns has done.** Along every run of a bootstrap, whatever each
collaborator answers, every call that returned a communicator `comm` did, in this order: at most
one `StoreManager::getStore`; one key draw; on rank 0, the `store_->set` of its identifier under
that key; the return of that identifier from `exchangeUniqueId`; `commInitRankConfig` with
`comm_size_`, that identifier and `rank_`; when it owned its store, the reset and one barrier on
`comm`; and the return. -/
theorem returnedCall_events {b : TorchCommXCCLBootstrap} {counter : BitVec 32} {r : Rank idBytes}
    (hr : Reachable initializer (init b counter) r) {j : Nat} {comm : OnecclComm}
    (hret : .returned comm ∈ callEvents r.log j) :
    ReturnedCall b.rank b.commSize comm (callEvents r.log j) :=
  ((CallTrace.init b counter).reachable hr).returned j comm hret

/-- Rank 0 of a one-rank job with the store `3`: its first call sets and exchanges the
identifier `[7]`, initialises the communicator `5` with it and returns at once. -/
theorem returnedCall_events_borrowed :
    let b : TorchCommXCCLBootstrap := ⟨0, 1, some 3, false, kUniqueidXchgMethodAuto, 0, 0⟩
    let r₁ := ((init b 0 : Rank 1).createXcclComm (fun _ => none) ⟨"world", []⟩
      ⟨false, .error "", .ok ⟨[7], rfl⟩, .ok ()⟩).1
    let r₂ := r₁.initComm default ⟨"world", []⟩ ⟨[7], rfl⟩ ⟨(.success, some 5), "", .success⟩
    Reachable default (init b 0) r₂ ∧ .returned 5 ∈ callEvents r₂.log 1 ∧
      ReturnedCall b.rank b.commSize 5 (callEvents r₂.log 1) := by
  refine ⟨?hr, ?hret, returnedCall_events ?hr ?hret⟩
  · exact .step (.step .refl (.call _ _ _ rfl)) (.init _ rfl)
  · decide

end Rank

end TorchComms
