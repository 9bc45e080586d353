import TorchComms.Xccl.Bootstrap

/-!
# Who owns `store_`

A bootstrap either borrows the store it was constructed with, and then never replaces it, never
consults `StoreManager` and never runs the barrier; or it was constructed without one, and then
every store it holds came from `StoreManager`, at most one per call, and a call that returns a
communicator has dropped it after exactly one barrier on that communicator. Both are invariants of
every run of one rank, whatever each collaborator answers at each step.

The second invariant is the harder one. A call that fails after `StoreManager::getStore` keeps the
store for the next call, which then takes the `store_ != nullptr` branch; a call's barrier is
issued only from the `exchanged` phase, whose call has issued none yet. Most segments only append
events that touch none of this (`Event.isNeutral`) and move between the waiting phases, and
`OwnedStore.extend` covers all of them at once.
-/

namespace TorchComms

/-- Neither `StoreManager`, nor the barrier, nor a return. -/
def Event.isNeutral {idBytes : Nat} : Event idBytes → Bool
  | .drewKey _ | .published _ _ | .exchanged _ | .commInitRankConfig _ _ _ _ | .threw _ => true
  | _ => false

theorem callEvents_append_map {idBytes : Nat} (log : List (Record idBytes)) (k j : Nat)
    (new : List (Event idBytes)) :
    callEvents (log ++ new.map fun e => ⟨k, e⟩) j =
      callEvents log j ++ if k = j then new else [] := by
  by_cases h : k = j <;> simp [callEvents, h, List.filter_map, Function.comp_def]

theorem callEvents_eq_nil {idBytes : Nat} {log : List (Record idBytes)} {n j : Nat}
    (hlog : ∀ e ∈ log, e.call ≤ n) (hj : n < j) : callEvents log j = [] := by
  simp only [callEvents, List.map_eq_nil_iff, List.filter_eq_nil_iff, decide_eq_true_eq]
  intro e he
  have := hlog e he
  omega

/-- A phase of a running call that has not issued its barrier. -/
def Phase.beforeBarrier {idBytes : Nat} : Phase idBytes → Bool
  | .getting _ _ | .exchanged _ _ => true
  | _ => false

theorem Event.isStoreManager_of_isNeutral {idBytes : Nat} {e : Event idBytes}
    (h : e.isNeutral = true) : e.isStoreManager = false := by
  cases e <;> simp_all [Event.isNeutral, Event.isStoreManager]

theorem Event.isAllReduce_of_isNeutral {idBytes : Nat} {e : Event idBytes}
    (h : e.isNeutral = true) : e.isAllReduce = false := by
  cases e <;> simp_all [Event.isNeutral, Event.isAllReduce]

theorem Event.ne_reset_of_isNeutral {idBytes : Nat} {e : Event idBytes}
    (h : e.isNeutral = true) : e ≠ .reset := by
  rintro rfl
  simp [Event.isNeutral] at h

theorem Event.ne_returned_of_isNeutral {idBytes : Nat} {e : Event idBytes}
    (h : e.isNeutral = true) (c : OnecclComm) : e ≠ .returned c := by
  rintro rfl
  simp [Event.isNeutral] at h

/-- Appending events no filter `p` keeps leaves every call's `p`-events as they were. -/
theorem callEvents_filter_append_map {idBytes : Nat} (log : List (Record idBytes)) (k j : Nat)
    (new : List (Event idBytes)) (p : Event idBytes → Bool) (hp : ∀ e ∈ new, p e = false) :
    (callEvents (log ++ new.map fun e => ⟨k, e⟩) j).filter p = (callEvents log j).filter p := by
  rw [callEvents_append_map, List.filter_append, List.append_right_eq_self,
    List.filter_eq_nil_iff]
  split_ifs <;> simp_all

theorem call_le_append_map {idBytes : Nat} {log : List (Record idBytes)} {n : Nat}
    (h : ∀ e ∈ log, e.call ≤ n) (new : List (Event idBytes)) :
    ∀ e ∈ log ++ new.map (fun e => ⟨n, e⟩), e.call ≤ n := by
  intro e he
  rcases List.mem_append.1 he with he | he
  · exact h e he
  · obtain ⟨x, -, rfl⟩ := List.mem_map.1 he
    exact le_rfl

theorem mem_callEvents_append_map {idBytes : Nat} (log : List (Record idBytes)) (k j : Nat)
    (new : List (Event idBytes)) (x : Event idBytes) (hx : x ∉ new) :
    x ∈ callEvents (log ++ new.map fun e => ⟨k, e⟩) j ↔ x ∈ callEvents log j := by
  rw [callEvents_append_map, List.mem_append]
  split_ifs <;> simp [hx]

/-- Every barrier of the log comes right after the reset of its call. -/
def BarrierAfterReset {idBytes : Nat} (log : List (Record idBytes)) : Prop :=
  ∀ j c res, (⟨j, .allReduce c res⟩ : Record idBytes) ∈ log →
    [(⟨j, .reset⟩ : Record idBytes), ⟨j, .allReduce c res⟩] <:+: log

theorem BarrierAfterReset.append {idBytes : Nat} {log : List (Record idBytes)}
    (h : BarrierAfterReset log) (k : Nat) {new : List (Event idBytes)}
    (hnew : ∀ e ∈ new, e.isAllReduce = false) :
    BarrierAfterReset (log ++ new.map fun e => ⟨k, e⟩) := by
  intro j c res hm
  rcases List.mem_append.1 hm with hm | hm
  · exact (h j c res hm).trans (List.prefix_append _ _).isInfix
  · obtain ⟨e, he, heq⟩ := List.mem_map.1 hm
    obtain ⟨-, rfl⟩ := Record.mk.inj heq
    exact absurd (hnew _ he) (by simp [Event.isAllReduce])

theorem BarrierAfterReset.append_barrier {idBytes : Nat} {log : List (Record idBytes)}
    (h : BarrierAfterReset log) (k : Nat) (comm : OnecclComm) (result : OnecclResult) :
    BarrierAfterReset (log ++ [Event.reset, .allReduce comm result].map fun e => ⟨k, e⟩) := by
  intro j c res hm
  rcases List.mem_append.1 hm with hm | hm
  · exact (h j c res hm).trans (List.prefix_append _ _).isInfix
  · simp only [List.map_cons, List.map_nil, List.mem_cons, Record.mk.injEq, reduceCtorEq,
      and_false, Event.allReduce.injEq, List.not_mem_nil, or_false, false_or] at hm
    obtain ⟨rfl, rfl, rfl⟩ := hm
    exact (List.suffix_append _ _).isInfix

namespace Rank

variable {idBytes : Nat} {initializer : OnecclConfig}

/-! ### A borrowed store -/

/-- The invariant of a bootstrap constructed with the store `S`. -/
structure BorrowedStore (S : StoreRef) (r : Rank idBytes) : Prop where
  store_eq : r.bootstrap.store = some S
  not_created : r.bootstrap.createdInternalStore = false
  untouched : ∀ e ∈ r.log, e.event.touchesStore = false

/-- A segment that keeps the bootstrap and logs nothing that touches the store keeps a borrowed
store borrowed. -/
theorem BorrowedStore.extend {S : StoreRef} {r r' : Rank idBytes} (h : BorrowedStore S r)
    (hb : r'.bootstrap = r.bootstrap) (new : List (Event idBytes))
    (hlog : r'.log = r.log ++ new.map fun e => ⟨r.calls, e⟩)
    (hnew : ∀ e ∈ new, e.touchesStore = false) : BorrowedStore S r' where
  store_eq := hb ▸ h.store_eq
  not_created := hb ▸ h.not_created
  untouched := by
    intro e he
    rcases List.mem_append.1 (hlog ▸ he) with he | he
    · exact h.untouched e he
    · obtain ⟨x, hx, rfl⟩ := List.mem_map.1 he
      exact hnew x hx

theorem BorrowedStore.exchangeUniqueIdStore {S : StoreRef} {r : Rank idBytes}
    (h : BorrowedStore S r) (kv : KVStore) (call : CommCall) (ans : ExchangeAnswers idBytes) :
    BorrowedStore S (r.exchangeUniqueIdStore kv call ans).1 := by
  let key := (getXCCLStoreKey r.counter).1
  rcases exchangeUniqueIdStore_cases r kv call ans with
    ⟨e, heq, -⟩ | ⟨-, heq⟩ | ⟨id, -, heq⟩ <;> rw [heq]
  · exact h.extend rfl [.drewKey key, .threw e] (by simp) (by simp [Event.touchesStore])
  · exact h.extend rfl [.drewKey key] (by simp) (by simp [Event.touchesStore])
  · exact h.extend rfl [.drewKey key, .published key id, .exchanged id] (by simp)
      (by simp [Event.touchesStore])

theorem BorrowedStore.step {S : StoreRef} {r r' : Rank idBytes} (h : BorrowedStore S r)
    (hstep : Step initializer r r') : BorrowedStore S r' := by
  cases hstep with
  | call kv call ans _ =>
    have h₁ : BorrowedStore S { r with calls := r.calls + 1 } :=
      ⟨h.store_eq, h.not_created, h.untouched⟩
    rcases exchangeUniqueId_cases { r with calls := r.calls + 1 } kv call ans with
      ⟨-, heq⟩ | ⟨hnone, -⟩ | ⟨hnone, -⟩ | ⟨hnone, -⟩
    · rw [createXcclComm, heq]
      exact h₁.exchangeUniqueIdStore kv call ans
    all_goals simp [h.store_eq] at hnone
  | fetch got _ =>
    rcases fetchUniqueId_cases r _ got with
      ⟨what, -, heq⟩ | ⟨_, -, -, heq⟩ | ⟨id, -, heq⟩ <;> rw [heq]
    · exact h.extend rfl [.threw (.store what)] (by simp) (by simp [Event.touchesStore])
    · exact h.extend rfl [.threw .invalidUniqueIdSize] (by simp) (by simp [Event.touchesStore])
    · exact h.extend rfl [.exchanged id] (by simp) (by simp [Event.touchesStore])
  | @init call uniqueId ans _ =>
    let init (config : OnecclConfig) : Event idBytes :=
      .commInitRankConfig r.bootstrap.commSize uniqueId r.bootstrap.rank config
    rcases initComm_cases initializer r call uniqueId ans with
      ⟨e, heq, -⟩ | ⟨config, ⟨e, heq, -⟩ | ⟨comm, heq⟩⟩ <;> rw [heq]
    · exact h.extend rfl [.threw e] (by simp) (by simp [Event.touchesStore])
    · exact h.extend rfl [init config, .threw e] (by simp) (by simp [Event.touchesStore])
    · rcases cleanupTCPStore_cases (r.record (init config)) comm ans.allReduce with
        ⟨hc, -⟩ | ⟨-, heq'⟩
      · simp [h.not_created] at hc
      · rw [heq']
        exact h.extend rfl [init config, .returned comm] (by simp) (by simp [Event.touchesStore])
  | @sync comm status _ =>
    rcases finishCleanup_cases r comm status with ⟨-, heq⟩ | ⟨e, heq, -⟩ <;> rw [heq]
    · exact h.extend rfl [.returned comm] (by simp) (by simp [Event.touchesStore])
    · exact h.extend rfl [.threw e] (by simp) (by simp [Event.touchesStore])

theorem BorrowedStore.reachable {S : StoreRef} {start r : Rank idBytes} (h : BorrowedStore S start)
    (hr : Reachable initializer start r) : BorrowedStore S r := by
  induction hr with
  | refl => exact h
  | step _ hstep ih => exact ih.step hstep

/-! ### A store from `StoreManager` -/

/-- The invariant of a bootstrap constructed without a store. Call `r.calls` is the current one;
it is still running unless the rank is idle. -/
structure OwnedStore (r : Rank idBytes) : Prop where
  acquired : ∀ s, r.bootstrap.store = some s →
    ∃ j, (⟨j, .storeManagerGetStore (some s)⟩ : Record idBytes) ∈ r.log
  created_of_store : r.bootstrap.store.isSome → r.bootstrap.createdInternalStore = true
  created_of_busy : r.phase ≠ .idle → r.bootstrap.createdInternalStore = true
  call_le : ∀ e ∈ r.log, e.call ≤ r.calls
  consults : ∀ j, ((callEvents r.log j).filter Event.isStoreManager).length ≤ 1
  barrier : ∀ j c, .returned c ∈ callEvents r.log j →
    ∃ res, (callEvents r.log j).filter Event.isAllReduce = [.allReduce c res]
  running : r.phase ≠ .idle → ∀ c, .returned c ∉ callEvents r.log r.calls
  waiting : r.phase.beforeBarrier → (callEvents r.log r.calls).filter Event.isAllReduce = []
  synchronizing : ∀ c, r.phase = .synchronizing c → r.bootstrap.store = none ∧
    ∃ res, (callEvents r.log r.calls).filter Event.isAllReduce = [.allReduce c res]
  left_null : ∀ j c, r.log.getLast? = some ⟨j, .returned c⟩ → r.bootstrap.store = none
  reset_of_barrier : ∀ j, (callEvents r.log j).filter Event.isAllReduce ≠ [] →
    .reset ∈ callEvents r.log j
  dropped : (callEvents r.log r.calls).filter Event.isAllReduce ≠ [] → r.bootstrap.store = none
  reset_before : BarrierAfterReset r.log

theorem OwnedStore.init (b : TorchCommXCCLBootstrap) (counter : BitVec 32) (hb : b.store = none) :
    OwnedStore (init b counter : Rank idBytes) where
  acquired := by simp [Rank.init, hb]
  created_of_store := by simp [Rank.init, hb]
  created_of_busy := by simp [Rank.init]
  call_le := by simp [Rank.init]
  consults := by simp [Rank.init]
  barrier := by simp [Rank.init]
  running := by simp [Rank.init]
  waiting := by simp [Rank.init, Phase.beforeBarrier]
  synchronizing := by simp [Rank.init]
  left_null := by simp [Rank.init]
  reset_of_barrier := by simp [Rank.init]
  dropped := by simp [Rank.init]
  reset_before := by simp [Rank.init, BarrierAfterReset]

/-- A segment that keeps the bootstrap and appends only neutral events, ending idle or in a phase
before the barrier, keeps the invariant. -/
theorem OwnedStore.extend {r r' : Rank idBytes} (h : OwnedStore r) (hb : r'.bootstrap = r.bootstrap)
    (hc : r'.calls = r.calls) (new : List (Event idBytes))
    (hlog : r'.log = r.log ++ new.map fun e => ⟨r.calls, e⟩)
    (hnew : ∀ e ∈ new, e.isNeutral = true) (hne : new ≠ [])
    (hphase : r'.phase = .idle ∨
      r'.phase.beforeBarrier ∧ r.bootstrap.createdInternalStore = true ∧
      (callEvents r.log r.calls).filter Event.isAllReduce = [] ∧
      ∀ c, .returned c ∉ callEvents r.log r.calls) :
    OwnedStore r' := by
  have hfilter := fun p hp j => hlog ▸ callEvents_filter_append_map r.log r.calls j new p hp
  have hsm := hfilter Event.isStoreManager fun e he => Event.isStoreManager_of_isNeutral (hnew e he)
  have har := hfilter Event.isAllReduce fun e he => Event.isAllReduce_of_isNeutral (hnew e he)
  have hret : ∀ j c, .returned c ∈ callEvents r'.log j ↔ .returned c ∈ callEvents r.log j :=
    fun j c => hlog ▸ mem_callEvents_append_map r.log r.calls j new (.returned c)
      fun hc => Event.ne_returned_of_isNeutral (hnew _ hc) c rfl
  have hreset : ∀ j, .reset ∈ callEvents r'.log j ↔ .reset ∈ callEvents r.log j :=
    fun j => hlog ▸ mem_callEvents_append_map r.log r.calls j new .reset
      fun hm => Event.ne_reset_of_isNeutral (hnew _ hm) rfl
  have hbusy : r'.phase ≠ .idle →
      r'.phase.beforeBarrier ∧ r.bootstrap.createdInternalStore = true ∧
      (callEvents r.log r.calls).filter Event.isAllReduce = [] ∧
      ∀ c, .returned c ∉ callEvents r.log r.calls := fun hp => hphase.resolve_left hp
  refine ⟨fun s hs => ?_, hb ▸ h.created_of_store, fun hp => hb ▸ (hbusy hp).2.1, ?_,
    fun j => hsm j ▸ h.consults j, fun j c hc => har j ▸ h.barrier j c ((hret j c).1 hc),
    fun hp c hm => (hbusy hp).2.2.2 c ((hret _ c).1 (hc ▸ hm)), fun hp => ?_, fun c hp => ?_,
    fun j c hl => ?_, fun j hj => (hreset j).2 (h.reset_of_barrier j (har j ▸ hj)),
    fun hj => hb ▸ h.dropped (by rwa [hc, har] at hj), ?_⟩
  · obtain ⟨j, hj⟩ := h.acquired s (hb ▸ hs)
    exact ⟨j, hlog ▸ List.mem_append_left _ hj⟩
  · rw [hlog, hc]
    exact call_le_append_map h.call_le new
  · have hidle : r'.phase ≠ .idle := fun hi => by simp [hi, Phase.beforeBarrier] at hp
    rw [hc, har]
    exact (hbusy hidle).2.2.1
  · rw [hp] at hphase
    rcases hphase with hi | ⟨hb', -⟩
    · exact absurd hi nofun
    · simp [Phase.beforeBarrier] at hb'
  · rw [hlog, List.getLast?_append, List.getLast?_map] at hl
    obtain ⟨x, hx⟩ := Option.ne_none_iff_exists'.1 (mt List.getLast?_eq_none_iff.1 hne)
    simp only [hx, Option.map_some', Option.or_some, Option.some.injEq, Record.mk.injEq] at hl
    exact absurd hl.2 (Event.ne_returned_of_isNeutral (hnew x (List.mem_of_getLast?_eq_some hx)) c)
  · rw [hlog]
    exact h.reset_before.append _ fun e he => Event.isAllReduce_of_isNeutral (hnew e he)

theorem OwnedStore.newCall {r : Rank idBytes} (h : OwnedStore r) (hidle : r.phase = .idle) :
    OwnedStore { r with calls := r.calls + 1 } where
  acquired := h.acquired
  created_of_store := h.created_of_store
  created_of_busy := h.created_of_busy
  call_le e he := Nat.le_succ_of_le (h.call_le e he)
  consults := h.consults
  barrier := h.barrier
  running hp := absurd hidle hp
  waiting hp := by simp [hidle, Phase.beforeBarrier] at hp
  synchronizing c hp := by simp [hidle] at hp
  left_null := h.left_null
  reset_of_barrier := h.reset_of_barrier
  dropped hj := by simp [callEvents_eq_nil h.call_le (Nat.lt_succ_self _)] at hj
  reset_before := h.reset_before

/-- The first event of a fresh call consults `StoreManager`. -/
theorem OwnedStore.record_storeManager {r : Rank idBytes} (h : OwnedStore r)
    (hidle : r.phase = .idle) (hfresh : callEvents r.log r.calls = []) (store : Option StoreRef) :
    OwnedStore (r.record (.storeManagerGetStore store)) := by
  have hlog : (r.record (.storeManagerGetStore store)).log =
      r.log ++ [Event.storeManagerGetStore store].map fun e => ⟨r.calls, e⟩ := rfl
  have har := fun j => hlog ▸ callEvents_filter_append_map r.log r.calls j
    [.storeManagerGetStore store] Event.isAllReduce (by simp [Event.isAllReduce])
  have hret := fun j c => hlog ▸ mem_callEvents_append_map r.log r.calls j
    [.storeManagerGetStore store] (.returned c) (by simp)
  have hreset := fun j => hlog ▸ mem_callEvents_append_map r.log r.calls j
    [.storeManagerGetStore store] .reset (by simp)
  refine ⟨fun s hs => ?_, h.created_of_store, fun hp => absurd hidle hp,
    hlog ▸ call_le_append_map h.call_le _, fun j => ?_,
    fun j c hc => har j ▸ h.barrier j c ((hret j c).1 hc), fun hp => absurd hidle hp,
    by simp [hidle, Phase.beforeBarrier], by simp [hidle], by simp,
    fun j hj => (hreset j).2 (h.reset_of_barrier j (har j ▸ hj)),
    fun hj => h.dropped (by rwa [record_calls, har] at hj),
    hlog ▸ h.reset_before.append _ (by simp [Event.isAllReduce])⟩
  · obtain ⟨j, hj⟩ := h.acquired s hs
    exact ⟨j, by simp [hj]⟩
  · by_cases hj : r.calls = j
    · subst hj
      simp [hfresh, Event.isStoreManager]
    · simpa [hj] using h.consults j

theorem OwnedStore.acquireStore {r : Rank idBytes} (h : OwnedStore r) (hidle : r.phase = .idle)
    (hfresh : callEvents r.log r.calls = []) (s : StoreRef) : OwnedStore (r.acquireStore s) :=
  have h' := h.record_storeManager hidle hfresh (some s)
  ⟨fun _ hs => ⟨r.calls, by simp_all⟩, fun _ => rfl, fun _ => rfl, h'.call_le, h'.consults,
    h'.barrier, h'.running, h'.waiting, by simp [hidle], by simp, h'.reset_of_barrier,
    fun hj => by simp [hfresh, Event.isAllReduce] at hj, h'.reset_before⟩

/-- `exchangeUniqueIdStore` on a held store, in a call that has not issued its barrier. -/
theorem OwnedStore.exchangeUniqueIdStore {r : Rank idBytes} (h : OwnedStore r)
    (hs : r.bootstrap.store.isSome)
    (hbar : (callEvents r.log r.calls).filter Event.isAllReduce = [])
    (hret : ∀ c, .returned c ∉ callEvents r.log r.calls) (kv : KVStore) (call : CommCall)
    (ans : ExchangeAnswers idBytes) : OwnedStore (r.exchangeUniqueIdStore kv call ans).1 := by
  have hcur := And.intro (h.created_of_store hs) (And.intro hbar hret)
  let key := (getXCCLStoreKey r.counter).1
  rcases exchangeUniqueIdStore_cases r kv call ans with
    ⟨e, heq, -⟩ | ⟨-, heq⟩ | ⟨id, -, heq⟩ <;> rw [heq]
  · exact h.extend rfl rfl [.drewKey key, .threw e] (by simp) (by simp [Event.isNeutral]) (by simp)
      (.inl rfl)
  · exact h.extend rfl rfl [.drewKey key] (by simp) (by simp [Event.isNeutral]) (by simp)
      (.inr ⟨rfl, hcur⟩)
  · exact h.extend rfl rfl [.drewKey key, .published key id, .exchanged id] (by simp)
      (by simp [Event.isNeutral]) (by simp) (.inr ⟨rfl, hcur⟩)

/-- `cleanupTCPStore` on an owned store: `store_.reset()` and the barrier. -/
theorem OwnedStore.cleanupTCPStore {r : Rank idBytes} (h : OwnedStore r)
    (hphase : r.phase.beforeBarrier) (comm : OnecclComm) (res : OnecclResult) :
    OwnedStore ((((r.setStore none).record .reset).record (.allReduce comm res)).goto
      (.synchronizing comm)) := by
  have hbusy : r.phase ≠ .idle := fun hi => by simp [hi, Phase.beforeBarrier] at hphase
  have hlog : ((((r.setStore none).record .reset).record (.allReduce comm res)).goto
      (.synchronizing comm)).log = r.log ++ [Event.reset, .allReduce comm res].map fun e =>
        ⟨r.calls, e⟩ := by simp
  have hsm := fun j => hlog ▸ callEvents_filter_append_map r.log r.calls j _ Event.isStoreManager
    (by simp [Event.isStoreManager])
  have hret := fun j c => hlog ▸ mem_callEvents_append_map r.log r.calls j _ (.returned c)
    (by simp)
  refine ⟨by simp, by simp, fun _ => h.created_of_busy hbusy,
    hlog ▸ call_le_append_map h.call_le _, fun j => hsm j ▸ h.consults j, fun j c hc => ?_,
    fun _ c hc => h.running hbusy c ((hret _ c).1 hc), by simp [Phase.beforeBarrier],
    fun c hc => ?_, by simp, fun j hj => ?_, fun _ => by simp,
    hlog ▸ h.reset_before.append_barrier _ comm res⟩
  · have hc' := (hret j c).1 hc
    have hj : r.calls ≠ j := fun hj => h.running hbusy c (hj ▸ hc')
    obtain ⟨res', hres'⟩ := h.barrier j c hc'
    exact ⟨res', by rw [hlog, callEvents_append_map, if_neg hj, List.append_nil, hres']⟩
  · obtain rfl : comm = c := by simpa using hc
    refine ⟨by simp, res, ?_⟩
    rw [hlog, callEvents_append_map]
    simp [h.waiting hphase, Event.isAllReduce]
  · rw [hlog, callEvents_append_map] at hj ⊢
    by_cases hj' : r.calls = j
    · simp [hj']
    · simp only [hj', if_false, List.append_nil] at hj ⊢
      exact h.reset_of_barrier j hj

/-- `createXcclComm` returns after a successful `streamSynchronize`. -/
theorem OwnedStore.finishCleanup {r : Rank idBytes} {comm : OnecclComm} (h : OwnedStore r)
    (hphase : r.phase = .synchronizing comm) :
    OwnedStore ((r.record (.returned comm)).goto .idle) := by
  obtain ⟨hnull, res, hres⟩ := h.synchronizing comm hphase
  have hbusy : r.phase ≠ .idle := by simp [hphase]
  have hlog : ((r.record (.returned comm)).goto .idle).log =
      r.log ++ [Event.returned comm].map fun e => ⟨r.calls, e⟩ := rfl
  have hsm := fun j => hlog ▸ callEvents_filter_append_map r.log r.calls j _ Event.isStoreManager
    (by simp [Event.isStoreManager])
  have har := fun j => hlog ▸ callEvents_filter_append_map r.log r.calls j _ Event.isAllReduce
    (by simp [Event.isAllReduce])
  have hreset := fun j => hlog ▸ mem_callEvents_append_map r.log r.calls j _ .reset (by simp)
  refine ⟨by simp [hnull], by simp [hnull], by simp, hlog ▸ call_le_append_map h.call_le _,
    fun j => hsm j ▸ h.consults j, fun j c hc => ?_, by simp, by simp [Phase.beforeBarrier],
    by simp, fun _ _ _ => hnull, fun j hj => (hreset j).2 (h.reset_of_barrier j (har j ▸ hj)),
    fun _ => by simp [hnull], hlog ▸ h.reset_before.append _ (by simp [Event.isAllReduce])⟩
  rw [har j]
  rw [hlog, callEvents_append_map, List.mem_append] at hc
  by_cases hj : r.calls = j
  · subst hj
    rcases hc with hc | hc
    · exact absurd hc (h.running hbusy c)
    · obtain rfl : c = comm := by simpa using hc
      exact ⟨res, hres⟩
  · simp only [hj, if_false, List.not_mem_nil, or_false] at hc
    exact h.barrier j c hc

theorem OwnedStore.step {r r' : Rank idBytes} (h : OwnedStore r) (hstep : Step initializer r r') :
    OwnedStore r' := by
  cases hstep with
  | call kv call ans hidle =>
    have h₁ := h.newCall hidle
    have hfresh : callEvents r.log (r.calls + 1) = [] :=
      callEvents_eq_nil h.call_le (Nat.lt_succ_self _)
    rcases exchangeUniqueId_cases { r with calls := r.calls + 1 } kv call ans with
      ⟨hs, heq⟩ | ⟨-, e, heq, -⟩ | ⟨-, e, heq, -⟩ | ⟨-, s, heq⟩ <;>
      rw [createXcclComm, heq]
    · exact h₁.exchangeUniqueIdStore hs (by simp [hfresh]) (by simp [hfresh]) kv call ans
    · exact h₁.extend rfl rfl [.threw e] (by simp) (by simp [Event.isNeutral]) (by simp)
        (.inl rfl)
    · exact (h₁.record_storeManager hidle hfresh none).extend rfl rfl [.threw e] (by simp)
        (by simp [Event.isNeutral]) (by simp) (.inl rfl)
    · exact (h₁.acquireStore hidle hfresh s).exchangeUniqueIdStore rfl
        (by simp [hfresh, Event.isAllReduce]) (by simp [hfresh]) kv call ans
  | @fetch call key got hphase =>
    have hbusy : r.phase ≠ .idle := by simp [hphase]
    have hcur := And.intro (h.created_of_busy hbusy)
      (And.intro (h.waiting (by simp [hphase, Phase.beforeBarrier])) (h.running hbusy))
    rcases fetchUniqueId_cases r call got with
      ⟨what, -, heq⟩ | ⟨_, -, -, heq⟩ | ⟨id, -, heq⟩ <;> rw [heq]
    · exact h.extend rfl rfl [.threw (.store what)] (by simp) (by simp [Event.isNeutral]) (by simp)
        (.inl rfl)
    · exact h.extend rfl rfl [.threw .invalidUniqueIdSize] (by simp) (by simp [Event.isNeutral])
        (by simp) (.inl rfl)
    · exact h.extend rfl rfl [.exchanged id] (by simp) (by simp [Event.isNeutral]) (by simp)
        (.inr ⟨rfl, hcur⟩)
  | @init call uniqueId ans hphase =>
    let init (config : OnecclConfig) : Event idBytes :=
      .commInitRankConfig r.bootstrap.commSize uniqueId r.bootstrap.rank config
    have hbusy : r.phase ≠ .idle := by simp [hphase]
    have hbefore : r.phase.beforeBarrier := by simp [hphase, Phase.beforeBarrier]
    have hcur :=
      And.intro (h.created_of_busy hbusy) (And.intro (h.waiting hbefore) (h.running hbusy))
    rcases initComm_cases initializer r call uniqueId ans with
      ⟨e, heq, -⟩ | ⟨config, ⟨e, heq, -⟩ | ⟨comm, heq⟩⟩ <;> rw [heq]
    · exact h.extend rfl rfl [.threw e] (by simp) (by simp [Event.isNeutral]) (by simp) (.inl rfl)
    · exact h.extend rfl rfl [init config, .threw e] (by simp) (by simp [Event.isNeutral, init])
        (by simp) (.inl rfl)
    · have h₁ : OwnedStore (r.record (init config)) := h.extend rfl rfl [init config] rfl
        (by simp [Event.isNeutral, init]) (by simp) (.inr ⟨hbefore, hcur⟩)
      rcases cleanupTCPStore_cases (r.record (init config)) comm ans.allReduce with
        ⟨-, heq'⟩ | ⟨hc, -⟩
      · rw [heq']
        exact h₁.cleanupTCPStore hbefore comm ans.allReduce
      · simp [h.created_of_busy hbusy] at hc
  | @sync comm status hphase =>
    rcases finishCleanup_cases r comm status with ⟨-, heq⟩ | ⟨e, heq, -⟩ <;> rw [heq]
    · exact h.finishCleanup hphase
    · exact h.extend rfl rfl [.threw e] (by simp) (by simp [Event.isNeutral]) (by simp) (.inl rfl)

theorem OwnedStore.reachable {start r : Rank idBytes} (h : OwnedStore start)
    (hr : Reachable initializer start r) : OwnedStore r := by
  induction hr with
  | refl => exact h
  | step _ hstep ih => exact ih.step hstep

/-! ### Every run of one rank -/

/-- **Store ownership.** Along every run of a bootstrap as its constructor leaves it
(`created_internal_store_ == false`): (a) a store `S` given to the constructor stays `store_`, and
no call consults `StoreManager`, resets `store_` or issues the barrier; (b) without one, `store_`
is null or a store `StoreManager::getStore` returned, and then owned; each call consults
`StoreManager` at most once; a call that returns a communicator issued exactly one barrier, on that
communicator, and left `store_` null. -/
theorem storeOwnership {b : TorchCommXCCLBootstrap} {counter : BitVec 32}
    (hb : b.createdInternalStore = false) {r : Rank idBytes}
    (hr : Reachable initializer (init b counter) r) :
    (∀ S, b.store = some S → r.bootstrap.store = some S ∧
      r.bootstrap.createdInternalStore = false ∧
      ∀ e ∈ r.log, e.event.touchesStore = false) ∧
    (b.store = none →
      (∀ s, r.bootstrap.store = some s →
        ∃ j, (⟨j, .storeManagerGetStore (some s)⟩ : Record idBytes) ∈ r.log) ∧
      (r.bootstrap.store.isSome → r.bootstrap.createdInternalStore = true) ∧
      (∀ j, ((callEvents r.log j).filter Event.isStoreManager).length ≤ 1) ∧
      (∀ j c, .returned c ∈ callEvents r.log j →
        ∃ res, (callEvents r.log j).filter Event.isAllReduce = [.allReduce c res]) ∧
      ∀ j c, r.log.getLast? = some ⟨j, .returned c⟩ → r.bootstrap.store = none) := by
  refine ⟨fun S hS => ?_, fun hnone => ?_⟩
  · have h := BorrowedStore.reachable ⟨hS, hb, by simp [Rank.init]⟩ hr
    exact ⟨h.store_eq, h.not_created, h.untouched⟩
  · have h := (OwnedStore.init b counter hnone).reachable hr
    exact ⟨h.acquired, h.created_of_store, h.consults, h.barrier, h.left_null⟩

/-- Rank 0 of a one-rank job constructed without a store: its first call takes store `3` from
`StoreManager`, sets and exchanges the identifier `[7]`, initialises communicator `5`, drops the
store, issues the barrier and returns. -/
theorem storeOwnership_returned :
    let b : TorchCommXCCLBootstrap := ⟨0, 1, none, false, kUniqueidXchgMethodAuto, 0, 0⟩
    let r₁ := ((init b 0 : Rank 1).createXcclComm (fun _ => none) ⟨"world", []⟩
      ⟨true, .ok 3, .ok ⟨[7], rfl⟩, .ok ()⟩).1
    let r := (r₁.initComm default ⟨"world", []⟩ ⟨[7], rfl⟩
      ⟨(.success, some 5), "", .success⟩).finishCleanup 5 .success
    (b.createdInternalStore = false ∧ Reachable default (init b 0) r) ∧
      (∀ S, b.store = some S → r.bootstrap.store = some S ∧
        r.bootstrap.createdInternalStore = false ∧
        ∀ e ∈ r.log, e.event.touchesStore = false) ∧
      (b.store = none →
        (∀ s, r.bootstrap.store = some s →
          ∃ j, (⟨j, .storeManagerGetStore (some s)⟩ : Record 1) ∈ r.log) ∧
        (r.bootstrap.store.isSome → r.bootstrap.createdInternalStore = true) ∧
        (∀ j, ((callEvents r.log j).filter Event.isStoreManager).length ≤ 1) ∧
        (∀ j c, .returned c ∈ callEvents r.log j →
          ∃ res, (callEvents r.log j).filter Event.isAllReduce = [.allReduce c res]) ∧
        ∀ j c, r.log.getLast? = some ⟨j, .returned c⟩ → r.bootstrap.store = none) := by
  refine ⟨⟨rfl, ?hr⟩, storeOwnership rfl ?hr⟩
  exact .step (.step (.step .refl (.call (fun _ => none) ⟨"world", []⟩
    ⟨true, .ok 3, .ok ⟨[7], rfl⟩, .ok ()⟩ rfl)) (.init ⟨(.success, some 5), "", .success⟩ rfl))
    (.sync .success rfl)

end Rank

end TorchComms
