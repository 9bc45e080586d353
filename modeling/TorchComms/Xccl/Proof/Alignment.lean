import TorchComms.Xccl.Proof.Agreement

/-!
# The `j`-th calls of the ranks

`exchangedIdentity_agreement` pairs calls by the key they drew. A user of the bootstrap pairs
them by position: the `j`-th `createXcclComm` of every rank should join one communicator. The two
pairings coincide as long as every call draws a key. A draw reads the process-wide `counter_` and
advances it by one, so when every earlier call drew, the `j`-th call draws the key of the counter
value `c₀ + (j - 1)`, the same on every rank that started at `c₀`. A call that fails before
`exchangeUniqueIdStore` (an unknown exchange method, no TCP store, a failing
`StoreManager::getStore`) leaves the counter where it was, and from then on that rank's calls draw
the keys of lower positions.

`Step.draws` says once what a segment does to the call number, the counter and the keys in the
log; the invariant `CallKeys` follows from it.
-/

namespace TorchComms

variable {idBytes : Nat}

/-- A key drawn under call `i` in a log extended by events of another call, or by events that
draw no key, was drawn before. -/
theorem drewKey_of_append {log : List (Record idBytes)} {c i : Nat} {new : List (Event idBytes)}
    {key : String} (h : (⟨i, .drewKey key⟩ : Record idBytes) ∈ log ++ new.map fun e => ⟨c, e⟩)
    (hnew : i ≠ c ∨ new.filterMap Event.drawnKey = []) :
    (⟨i, .drewKey key⟩ : Record idBytes) ∈ log := by
  rcases mem_drewKey_append_map h with h | ⟨rfl, hkey⟩
  · exact h
  · rcases hnew with hne | hnil
    · exact absurd rfl hne
    · simp [hnil] at hkey

namespace Rank

variable {initializer : OnecclConfig} {r r' : Rank idBytes}

/-! ### What a segment does to the keys -/

/-- `exchangeUniqueIdStore` draws one key, the counter's, under the current call. -/
theorem exchangeUniqueIdStore_draws (r : Rank idBytes) (kv : KVStore) (call : CommCall)
    (ans : ExchangeAnswers idBytes) :
    let r' := (r.exchangeUniqueIdStore kv call ans).1
    r'.calls = r.calls ∧ r'.counter = (getXCCLStoreKey r.counter).2 ∧
      ∃ new : List (Event idBytes), r'.log = r.log ++ new.map (fun e => ⟨r.calls, e⟩) ∧
        new.filterMap Event.drawnKey = [(getXCCLStoreKey r.counter).1] := by
  rcases exchangeUniqueIdStore_cases r kv call ans with
    ⟨e, heq, -⟩ | ⟨-, heq⟩ | ⟨id, -, heq⟩ <;> rw [heq]
  · exact ⟨rfl, rfl, [.drewKey _, .threw e], by simp, rfl⟩
  · exact ⟨rfl, rfl, [.drewKey _], by simp, rfl⟩
  · exact ⟨rfl, rfl, [.drewKey _, .published (getXCCLStoreKey r.counter).1 id, .exchanged id],
      by simp, rfl⟩

/-- What one segment does to the call number, the counter and the keys in the log. A segment that
starts a call draws at most one key, the counter's, and advances the counter exactly when it
draws; every other segment draws none. -/
theorem Step.draws (hstep : Step initializer r r') :
    ∃ new : List (Event idBytes), r'.log = r.log ++ new.map (fun e => ⟨r'.calls, e⟩) ∧
      ((r'.calls = r.calls ∨ r'.calls = r.calls + 1) ∧ r'.counter = r.counter ∧
          new.filterMap Event.drawnKey = [] ∨
        r'.calls = r.calls + 1 ∧ r'.counter = (getXCCLStoreKey r.counter).2 ∧
          new.filterMap Event.drawnKey = [(getXCCLStoreKey r.counter).1]) := by
  cases hstep with
  | call kv call ans _ =>
    let r₁ : Rank idBytes := { r with calls := r.calls + 1 }
    rcases exchangeUniqueId_cases r₁ kv call ans with
      ⟨-, heq⟩ | ⟨-, e, heq, -⟩ | ⟨-, e, heq, -⟩ | ⟨-, s, heq⟩ <;> rw [createXcclComm, heq]
    · obtain ⟨hcalls, hcounter, new, hlog, hnew⟩ := exchangeUniqueIdStore_draws r₁ kv call ans
      exact ⟨new, by rw [hlog, hcalls], .inr ⟨hcalls, hcounter, hnew⟩⟩
    · exact ⟨[.threw e], by simp, .inl ⟨.inr rfl, rfl, rfl⟩⟩
    · exact ⟨[.storeManagerGetStore none, .threw e], by simp, .inl ⟨.inr rfl, rfl, rfl⟩⟩
    · obtain ⟨hcalls, hcounter, new, hlog, hnew⟩ :=
        exchangeUniqueIdStore_draws (r₁.acquireStore s) kv call ans
      refine ⟨.storeManagerGetStore (some s) :: new, ?_, .inr ⟨hcalls, hcounter, ?_⟩⟩
      · simp [hlog, hcalls, r₁]
      · simpa [Event.drawnKey] using hnew
  | fetch got _ =>
    rcases fetchUniqueId_cases r _ got with
      ⟨what, -, heq⟩ | ⟨_, -, -, heq⟩ | ⟨id, -, heq⟩ <;> rw [heq]
    · exact ⟨[.threw (.store what)], by simp, .inl ⟨.inl rfl, rfl, rfl⟩⟩
    · exact ⟨[.threw .invalidUniqueIdSize], by simp, .inl ⟨.inl rfl, rfl, rfl⟩⟩
    · exact ⟨[.exchanged id], by simp, .inl ⟨.inl rfl, rfl, rfl⟩⟩
  | @init call uniqueId ans _ =>
    let init (config : OnecclConfig) : Event idBytes :=
      .commInitRankConfig r.bootstrap.commSize uniqueId r.bootstrap.rank config
    rcases initComm_cases initializer r call uniqueId ans with
      ⟨e, heq, -⟩ | ⟨config, ⟨e, heq, -⟩ | ⟨comm, heq⟩⟩ <;> rw [heq]
    · exact ⟨[.threw e], by simp, .inl ⟨.inl rfl, rfl, rfl⟩⟩
    · exact ⟨[init config, .threw e], by simp, .inl ⟨.inl rfl, rfl, rfl⟩⟩
    · rcases cleanupTCPStore_cases (r.record (init config)) comm ans.allReduce with
        ⟨-, heq'⟩ | ⟨-, heq'⟩ <;> rw [heq']
      · exact ⟨[init config, .reset, .allReduce comm ans.allReduce], by simp,
          .inl ⟨.inl rfl, rfl, rfl⟩⟩
      · exact ⟨[init config, .returned comm], by simp, .inl ⟨.inl rfl, rfl, rfl⟩⟩
  | @sync comm status _ =>
    rcases finishCleanup_cases r comm status with ⟨-, heq⟩ | ⟨e, heq, -⟩ <;> rw [heq]
    · exact ⟨[.returned comm], by simp, .inl ⟨.inl rfl, rfl, rfl⟩⟩
    · exact ⟨[.threw e], by simp, .inl ⟨.inl rfl, rfl, rfl⟩⟩

/-! ### The key of each call -/

/-- Which key each call drew, from the counter value `c₀` before the rank's first call. -/
structure CallKeys (c₀ : BitVec 32) (r : Rank idBytes) : Prop where
  /-- Every record belongs to a call already started. -/
  call_le : ∀ e ∈ r.log, e.call ≤ r.calls
  /-- Once every call so far drew a key, the counter has advanced once per call. -/
  counter : (∀ i, 0 < i → i ≤ r.calls → ∃ key, (⟨i, .drewKey key⟩ : Record idBytes) ∈ r.log) →
    r.counter = (storeKeyRun r.calls c₀).2
  /-- A call after calls that all drew a key draws the key of the counter value `c₀ + (j - 1)`. -/
  key : ∀ {j key}, (⟨j, .drewKey key⟩ : Record idBytes) ∈ r.log →
    (∀ i, 0 < i → i < j → ∃ key', (⟨i, .drewKey key'⟩ : Record idBytes) ∈ r.log) →
    key = (getXCCLStoreKey (storeKeyRun (j - 1) c₀).2).1

theorem CallKeys.start (hlog : r.log = []) : CallKeys r.counter r where
  call_le := by simp [hlog]
  counter hall := by
    cases hcalls : r.calls with
    | zero => rfl
    | succ m =>
      obtain ⟨_, hm⟩ := hall 1 Nat.one_pos (by omega)
      simp [hlog] at hm
  key hm := by simp [hlog] at hm

variable {c₀ : BitVec 32}

/-- Every segment keeps the invariant. -/
theorem CallKeys.step (h : CallKeys c₀ r) (hstep : Step initializer r r') : CallKeys c₀ r' := by
  obtain ⟨new, hlog, hcases⟩ := hstep.draws
  have hle : r.calls ≤ r'.calls := by rcases hcases with ⟨hc, -⟩ | ⟨hc, -⟩ <;> omega
  have hcall_le : ∀ e ∈ r'.log, e.call ≤ r'.calls :=
    hlog ▸ call_le_append_map (fun e he => (h.call_le e he).trans hle) new
  -- A key the new log holds for an old call is in the old log.
  have hold : ∀ {i key}, i ≤ r.calls → (⟨i, .drewKey key⟩ : Record idBytes) ∈ r'.log →
      (⟨i, .drewKey key⟩ : Record idBytes) ∈ r.log := fun hi hm => by
    refine drewKey_of_append (hlog ▸ hm) ?_
    rcases hcases with ⟨-, -, hnew⟩ | ⟨hc, -⟩
    · exact .inr hnew
    · exact .inl (by omega)
  have hkey : ∀ {j key}, (⟨j, .drewKey key⟩ : Record idBytes) ∈ r.log →
      (∀ i, 0 < i → i < j → ∃ key', (⟨i, .drewKey key'⟩ : Record idBytes) ∈ r'.log) →
      key = (getXCCLStoreKey (storeKeyRun (j - 1) c₀).2).1 := fun hm hprev =>
    h.key hm fun i h₁ h₂ => (hprev i h₁ h₂).imp fun _ =>
      hold ((Nat.le_of_lt h₂).trans (h.call_le _ hm))
  rcases hcases with ⟨hcalls, hcounter, hnew⟩ | ⟨hcalls, hcounter, hnew⟩
  · -- No key drawn: a new call without a key makes the premise of `counter` false.
    refine ⟨hcall_le, fun hall => ?_, fun hm hprev =>
      hkey (drewKey_of_append (hlog ▸ hm) (.inr hnew)) hprev⟩
    rcases hcalls with hc | hc
    · rw [hcounter, hc]
      exact h.counter fun i h₁ h₂ => (hall i h₁ (hc ▸ h₂)).imp fun _ => hold h₂
    · obtain ⟨key, hm⟩ := hall r'.calls (by omega) le_rfl
      have := h.call_le _ (drewKey_of_append (hlog ▸ hm) (.inr hnew))
      simp only at this
      omega
  · -- The new call drew the key of the counter, which stood at `c₀ + r.calls`.
    have hcounter₀ : (∀ i, 0 < i → i < r'.calls →
        ∃ key, (⟨i, .drewKey key⟩ : Record idBytes) ∈ r'.log) →
        r.counter = (storeKeyRun r.calls c₀).2 := fun hall =>
      h.counter fun i h₁ h₂ => (hall i h₁ (by omega)).imp fun _ => hold h₂
    refine ⟨hcall_le, fun hall => ?_, fun {j key} hm hprev => ?_⟩
    · rw [hcounter, hcalls, storeKeyRun_succ,
        hcounter₀ fun i h₁ h₂ => hall i h₁ (Nat.le_of_lt h₂)]
    · rw [hlog] at hm
      rcases mem_drewKey_append_map hm with hm | ⟨rfl, hmem⟩
      · exact hkey hm hprev
      · rw [hnew, List.mem_singleton] at hmem
        rw [hmem, hcounter₀ hprev, hcalls, Nat.add_sub_cancel]

end Rank

namespace World

variable {n : Nat} {initializer : OnecclConfig}
  {barrierDone : World n idBytes → OnecclComm → Prop}

/-- Every rank keeps its call invariant along every interleaving. -/
theorem Reachable.callKeys {start w : World n idBytes}
    (hw : Reachable initializer barrierDone start w) (hlogs : ∀ k, (start.procs k).log = []) :
    ∀ k, Rank.CallKeys (start.procs k).counter (w.procs k) :=
  hw.procs (fun _ _ _ h hs => h.step hs) fun k => Rank.CallKeys.start (hlogs k)

/-- **Agreement by position.** From ranks that have not started, all with the counter at `c₀`,
and a store without store keys, along every interleaving: the `j`-th call of a rank whose earlier
calls all drew a store key draws the key of the counter value `c₀ + (j - 1)`; and when a single
process has rank 0 and its counter stays within `int`, the `j`-th calls of two ranks that returned
an identifier from `exchangeUniqueId` returned the same identifier, provided every earlier call of
both ranks drew a store key. -/
theorem exchangedIdentity_same_call {start w : World n idBytes} {c₀ : BitVec 32}
    (hprocs : ∀ k, (start.procs k).phase = .idle ∧ (start.procs k).log = [] ∧
      (start.procs k).counter = c₀)
    (hkv : ∀ c, start.kv (getXCCLStoreKey c).1 = none)
    (hw : Reachable initializer barrierDone start w) (i₀ : Fin n)
    (hrank0 : ∀ i, (w.procs i).bootstrap.rank = 0 → i = i₀)
    (hbound : (drawnKeys (w.procs i₀).log).length + c₀.toNat ≤ 2 ^ 31) :
    (∀ k j key,
      (∀ i, 0 < i → i < j → ∃ key', (⟨i, .drewKey key'⟩ : Record idBytes) ∈ (w.procs k).log) →
      (⟨j, .drewKey key⟩ : Record idBytes) ∈ (w.procs k).log →
      key = (getXCCLStoreKey (c₀ + BitVec.ofNat 32 (j - 1))).1) ∧
    ∀ k k' j uniqueId uniqueId',
      (∀ i, 0 < i → i < j →
        (∃ key, (⟨i, .drewKey key⟩ : Record idBytes) ∈ (w.procs k).log) ∧
        ∃ key, (⟨i, .drewKey key⟩ : Record idBytes) ∈ (w.procs k').log) →
      (⟨j, .exchanged uniqueId⟩ : Record idBytes) ∈ (w.procs k).log →
      (⟨j, .exchanged uniqueId'⟩ : Record idBytes) ∈ (w.procs k').log →
      uniqueId = uniqueId' := by
  have hagree := (Agreement.start (fun k => ⟨(hprocs k).1, (hprocs k).2.1⟩) hkv).reachable hw
  have hkeys := hw.keyLog fun k => (hprocs k).2.1
  have hcalls := hw.callKeys fun k => (hprocs k).2.1
  have hkeyOf : ∀ k j key,
      (∀ i, 0 < i → i < j → ∃ key', (⟨i, .drewKey key'⟩ : Record idBytes) ∈ (w.procs k).log) →
      (⟨j, .drewKey key⟩ : Record idBytes) ∈ (w.procs k).log →
      key = (getXCCLStoreKey (c₀ + BitVec.ofNat 32 (j - 1))).1 := fun k _ _ hprev hd => by
    rw [(hcalls k).key hd hprev, (hprocs k).2.2, storeKeyRun_counter]
  refine ⟨hkeyOf, fun k k' j uniqueId uniqueId' hdrew hx hx' => ?_⟩
  -- Both calls drew the key of `c₀ + (j - 1)`, and rank 0 set each identifier under it.
  obtain ⟨key, hd, i, j₀, hi, hpub⟩ := hagree.exchanged k j uniqueId hx
  obtain ⟨key', hd', i', j₀', hi', hpub'⟩ := hagree.exchanged k' j uniqueId' hx'
  have hkey : key = key' := by
    rw [hkeyOf k j key (fun i h₁ h₂ => (hdrew i h₁ h₂).1) hd,
      hkeyOf k' j key' (fun i h₁ h₂ => (hdrew i h₁ h₂).2) hd']
  subst hkey
  rw [hrank0 i hi] at hpub
  rw [hrank0 i' hi'] at hpub'
  exact ((hkeys i₀).published_eq (by rwa [(hprocs i₀).2.2]) hpub hpub').2

theorem exchangedIdentity_same_call_twoRanks :
    let w := twoRanksSynchronizing
    ((∀ k, (twoRanks.procs k).phase = .idle ∧ (twoRanks.procs k).log = [] ∧
        (twoRanks.procs k).counter = 0) ∧
      (∀ c, twoRanks.kv (getXCCLStoreKey c).1 = none) ∧
      Reachable default barrierIssued twoRanks w ∧
      (∀ i, (w.procs i).bootstrap.rank = 0 → i = 0) ∧
      (drawnKeys (w.procs 0).log).length + (0 : BitVec 32).toNat ≤ 2 ^ 31) ∧
    (∀ k j key,
      (∀ i, 0 < i → i < j → ∃ key', (⟨i, .drewKey key'⟩ : Record 1) ∈ (w.procs k).log) →
      (⟨j, .drewKey key⟩ : Record 1) ∈ (w.procs k).log →
      key = (getXCCLStoreKey (0 + BitVec.ofNat 32 (j - 1))).1) ∧
      ∀ k k' j uniqueId uniqueId',
        (∀ i, 0 < i → i < j →
          (∃ key, (⟨i, .drewKey key⟩ : Record 1) ∈ (w.procs k).log) ∧
          ∃ key, (⟨i, .drewKey key⟩ : Record 1) ∈ (w.procs k').log) →
        (⟨j, .exchanged uniqueId⟩ : Record 1) ∈ (w.procs k).log →
        (⟨j, .exchanged uniqueId'⟩ : Record 1) ∈ (w.procs k').log →
        uniqueId = uniqueId' := by
  refine ⟨⟨?hp, ?hkv, ?hw, ?h0, ?hb⟩, exchangedIdentity_same_call ?hp ?hkv ?hw 0 ?h0 ?hb⟩
  · exact fun _ => ⟨rfl, rfl, rfl⟩
  · exact fun _ => rfl
  · exact twoRanksSynchronizing_reachable
  · decide
  · decide

end World

end TorchComms
