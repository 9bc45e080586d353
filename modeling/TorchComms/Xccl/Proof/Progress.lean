import TorchComms.Xccl.Rendezvous

/-!
# Progress of the rendezvous

The safety results say what a run cannot do; this one says that the protocol can finish, and can
be repeated. In a job of any size whose bootstraps were constructed without a store, when every
collaborator succeeds, there is an interleaving in which every rank's calls return their
communicators one round after another, each having dropped the store it took from
`StoreManager`, with `streamSynchronize` reporting success only once every rank has issued its
barrier (`barrierIssued`).

A round is the interleaving the protocol is written for (`Ready.round`): rank 0 draws the key of
the common counter value and sets its identifier; every other rank draws the same key and reads
it back; then every rank initialises its communicator and issues the barrier; then every rank's
barrier stream finishes. Each phase moves the ranks one after another (`World.moveAll`), each
rank's move depending only on its own state and the store. A round starts and ends with the job
`Ready`: idle ranks without a store whose call numbers and counters agree, which is what lets the
next round meet on one key again.
-/

namespace TorchComms

variable {n idBytes : Nat} {initializer : OnecclConfig}

namespace Rank

variable {r : Rank idBytes} {kv : KVStore} {call : CommCall} {S : StoreRef}
  {uniqueId : OnecclUniqueId idBytes}

/-- The first segment on a bootstrap without a store and with method `auto`, when the TCP store is
enabled and `StoreManager::getStore` returns `S`, is `exchangeUniqueIdStore` on `S`. -/
theorem exchangeUniqueId_of_auto (hstore : r.bootstrap.store = none)
    (hmethod : r.bootstrap.uniqueidXchgMethod = kUniqueidXchgMethodAuto)
    (ans : ExchangeAnswers idBytes) (hen : ans.tcpStoreEnabled = true)
    (hget : ans.getStore = .ok S) :
    r.exchangeUniqueId kv call ans = (r.acquireStore S).exchangeUniqueIdStore kv call ans := by
  simp [exchangeUniqueId, exchangeUniqueIdTCPStore, hstore, hmethod, hen, hget]

/-- Rank 0 sets its identifier under the key it drew and moves on. -/
theorem exchangeUniqueIdStore_of_rank_zero (hrank : r.bootstrap.rank = 0)
    (ans : ExchangeAnswers idBytes) (hid : ans.getUniqueId = .ok uniqueId)
    (hset : ans.set = .ok ()) :
    r.exchangeUniqueIdStore kv call ans =
      (((r.drawKey.record (.published (getXCCLStoreKey r.counter).1 uniqueId)).record
          (.exchanged uniqueId)).goto (.exchanged call uniqueId),
        Function.update kv (getXCCLStoreKey r.counter).1 (some uniqueId.internal)) := by
  simp [exchangeUniqueIdStore, hrank, hid, hset]

/-- Another rank starts waiting on the key it drew. -/
theorem exchangeUniqueIdStore_of_rank_ne_zero (hrank : r.bootstrap.rank ≠ 0)
    (ans : ExchangeAnswers idBytes) :
    r.exchangeUniqueIdStore kv call ans =
      (r.drawKey.goto (.getting call (getXCCLStoreKey r.counter).1), kv) := by
  simp [exchangeUniqueIdStore, hrank]

theorem fetchUniqueId_internal (uniqueId : OnecclUniqueId idBytes) :
    r.fetchUniqueId call (.ok uniqueId.internal) =
      (r.record (.exchanged uniqueId)).goto (.exchanged call uniqueId) := by
  simp [fetchUniqueId, uniqueId.length_internal]

/-- With hints that translate to `config`, an owned store and a successful `commInitRankConfig`,
the call drops the store and issues the barrier. -/
theorem initComm_of_success {config : OnecclConfig}
    (hconfig : populateXcclConfigFromHints (initializer.setString .commName call.name) call.hints =
      .ok config)
    (hcreated : r.bootstrap.createdInternalStore = true) (comm : OnecclComm) (errorString : String)
    (allReduce : OnecclResult) :
    r.initComm initializer call uniqueId ⟨(.success, some comm), errorString, allReduce⟩ =
      ((((r.record (.commInitRankConfig r.bootstrap.commSize uniqueId r.bootstrap.rank
          config)).setStore none).record .reset).record
        (.allReduce comm allReduce)).goto (.synchronizing comm) := by
  simp [initComm, hconfig, cleanupTCPStore, hcreated]

end Rank

namespace World

variable {barrierDone : World n idBytes → OnecclComm → Prop}

theorem Reachable.trans {u v w : World n idBytes} (h₁ : Reachable initializer barrierDone u v)
    (h₂ : Reachable initializer barrierDone v w) : Reachable initializer barrierDone u w := by
  induction h₂ with
  | refl => exact h₁
  | step _ hs ih => exact ih.step hs

@[simp] theorem set_self (w : World n idBytes) (k : Fin n) : w.set k (w.procs k) w.kv = w := by
  simp [set]

@[simp] theorem set_set (w : World n idBytes) (k : Fin n) (r r' : Rank idBytes)
    (kv kv' : KVStore) : (w.set k r kv).set k r' kv' = w.set k r' kv' := by
  simp [set]

/-- Every rank of `ks` moved by `g`, the store as it was. -/
def moveAll (w : World n idBytes) (ks : List (Fin n)) (g : Fin n → Rank idBytes → Rank idBytes) :
    World n idBytes :=
  ⟨fun k => if k ∈ ks then g k (w.procs k) else w.procs k, w.kv⟩

@[simp] theorem moveAll_kv (w : World n idBytes) (ks : List (Fin n))
    (g : Fin n → Rank idBytes → Rank idBytes) : (w.moveAll ks g).kv = w.kv := rfl

@[simp] theorem moveAll_finRange_procs (w : World n idBytes)
    (g : Fin n → Rank idBytes → Rank idBytes) (k : Fin n) :
    (w.moveAll (List.finRange n) g).procs k = g k (w.procs k) := by
  simp [moveAll]

theorem moveAll_nil (w : World n idBytes) (g : Fin n → Rank idBytes → Rank idBytes) :
    w.moveAll [] g = w := by
  cases w
  simp [moveAll]

theorem moveAll_cons (w : World n idBytes) (g : Fin n → Rank idBytes → Rank idBytes) {k : Fin n}
    {ks : List (Fin n)} (hk : k ∉ ks) :
    w.moveAll (k :: ks) g = (w.moveAll ks g).set k (g k (w.procs k)) w.kv := by
  simp only [moveAll, set, World.mk.injEq, and_true]
  funext k'
  by_cases h : k' = k
  · subst h
    simp
  · simp [h]

/-- Moving the ranks of `ks` one after another, when each rank can make its move from any world in
which it has not moved, the store is as it was, and every other rank has either moved or not. -/
theorem Reachable.moveAll {w : World n idBytes} {g : Fin n → Rank idBytes → Rank idBytes}
    (hmove : ∀ (v : World n idBytes) k, v.procs k = w.procs k → v.kv = w.kv →
      (∀ k', v.procs k' = w.procs k' ∨ v.procs k' = g k' (w.procs k')) →
      Reachable initializer barrierDone v (v.set k (g k (w.procs k)) v.kv)) :
    ∀ {ks : List (Fin n)}, ks.Nodup → Reachable initializer barrierDone w (w.moveAll ks g)
  | [], _ => moveAll_nil w g ▸ .refl
  | k :: ks, hnd => by
    have hk := (List.nodup_cons.1 hnd).1
    rw [moveAll_cons w g hk]
    refine (Reachable.moveAll hmove (List.nodup_cons.1 hnd).2).trans
      (hmove _ k (by simp [World.moveAll, hk]) rfl fun k' => ?_)
    by_cases h : k' ∈ ks <;> simp [World.moveAll, h]

/-! ### The phases of a successful rendezvous -/

/-- Every rank but rank 0 starts its call, draws `key`, and reads back the identifier the store
holds there. -/
theorem Reachable.fetch_all {barrierDone : World (n + 1) idBytes → OnecclComm → Prop}
    {w : World (n + 1) idBytes} {call : CommCall}
    {ans : ExchangeAnswers idBytes} {key : String} {uniqueId : OnecclUniqueId idBytes}
    (hkv : w.kv key = some uniqueId.internal)
    (hw : ∀ k, k ≠ 0 → (w.procs k).phase = .idle ∧
      ((w.procs k).createXcclComm w.kv call ans).1.phase = .getting call key ∧
      ((w.procs k).createXcclComm w.kv call ans).2 = w.kv) :
    Reachable initializer barrierDone w (w.moveAll (List.finRange (n + 1)) fun k r =>
      if k = 0 then r
      else ((r.createXcclComm w.kv call ans).1).fetchUniqueId call (.ok uniqueId.internal)) := by
  refine Reachable.moveAll (fun v k hvk hvkv _ => ?_) (List.nodup_finRange _)
  by_cases hk : k = 0
  · subst hk
    simp only [if_pos, ← hvk, set_self]
    exact .refl
  · obtain ⟨hidle, hphase, hkv'⟩ := hw k hk
    rw [← hvk] at hidle hphase hkv'
    rw [← hvkv] at hphase hkv'
    let waiting := ((v.procs k).createXcclComm v.kv call ans).1
    have hcall : Reachable initializer barrierDone v (v.set k waiting v.kv) := by
      have h := (Reachable.refl : Reachable initializer barrierDone v v).step
        (.call k call ans hidle)
      rwa [hkv'] at h
    have hfetch := hcall.step (.fetch k (.ok uniqueId.internal) (by simpa using hphase)
      fun vec hvec => by simpa [hvkv, ← Except.ok.inj hvec] using hkv)
    simpa [hk, hvk, hvkv, waiting] using hfetch

/-- Every rank holding `uniqueId` initialises its communicator. -/
theorem Reachable.initComm_all {w : World n idBytes} {call : CommCall}
    {uniqueId : OnecclUniqueId idBytes} (ans : InitAnswers)
    (hw : ∀ k, (w.procs k).phase = .exchanged call uniqueId) :
    Reachable initializer barrierDone w
      (w.moveAll (List.finRange n) fun _ r => r.initComm initializer call uniqueId ans) :=
  Reachable.moveAll (fun v k hvk _ _ => by
    rw [← hvk]
    exact .step .refl (.init k ans (hvk ▸ hw k))) (List.nodup_finRange n)

/-- Once every rank has issued the barrier on `comm`, every barrier stream finishes. -/
theorem Reachable.finishCleanup_all {w : World n idBytes} {comm : OnecclComm}
    (hw : ∀ k, (w.procs k).phase = .synchronizing comm) (hissued : barrierIssued w comm) :
    Reachable initializer barrierIssued w
      (w.moveAll (List.finRange n) fun _ r => r.finishCleanup comm .success) :=
  Reachable.moveAll (fun v k hvk _ hv => by
    rw [← hvk]
    refine .step .refl (.sync k .success (hvk ▸ hw k) fun _ k' => ?_)
    obtain ⟨res, hbar⟩ := hissued k'
    refine ⟨res, ?_⟩
    rcases hv k' with h | h <;> rw [h]
    · exact hbar
    · simp [Rank.finishCleanup, hbar]) (List.nodup_finRange n)

/-! ### One round -/

/-- A job between two rounds: every rank idle, without a store, with method `auto`, knowing the
job's size and its own rank, after `j` calls and with its counter at `c`. -/
structure Ready (w : World n idBytes) (j : Nat) (c : BitVec 32) : Prop where
  idle : ∀ k, (w.procs k).phase = .idle
  store : ∀ k, (w.procs k).bootstrap.store = none
  method : ∀ k, (w.procs k).bootstrap.uniqueidXchgMethod = kUniqueidXchgMethodAuto
  size : ∀ k, (w.procs k).bootstrap.commSize = n
  rank : ∀ k, (w.procs k).bootstrap.rank = k.val
  calls : ∀ k, (w.procs k).calls = j
  counter : ∀ k, (w.procs k).counter = c

/-- Logs only grow along a run. -/
theorem Reachable.log_prefix {start w : World n idBytes}
    (hw : Reachable initializer barrierDone start w) :
    ∀ k, (start.procs k).log <+: (w.procs k).log :=
  hw.procs (P := fun k r => (start.procs k).log <+: r.log) (fun _ _ _ h hs => h.trans hs.keeps.2)
    fun _ => List.prefix_rfl

/-- **One round.** From a job between rounds, for a call whose hints translate to `config`, when
every collaborator succeeds, there is an interleaving after which every rank's next call has
constructed its communicator with `uniqueId` and `config` and returned `comm`, and the job is
between rounds again, one call and one counter value further. -/
theorem Ready.round {w : World n idBytes} {j : Nat} {c : BitVec 32} (h : Ready w j c)
    (initializer : OnecclConfig) (call : CommCall) {config : OnecclConfig}
    (hconfig : populateXcclConfigFromHints (initializer.setString .commName call.name) call.hints =
      .ok config)
    (S : StoreRef) (uniqueId : OnecclUniqueId idBytes) (comm : OnecclComm) :
    ∃ w', Reachable initializer barrierIssued w w' ∧ Ready w' (j + 1) (c + 1) ∧
      ∀ k : Fin n,
        (⟨j + 1, .commInitRankConfig n uniqueId k.val config⟩ : Record idBytes) ∈
          (w'.procs k).log ∧
        (⟨j + 1, .returned comm⟩ : Record idBytes) ∈ (w'.procs k).log := by
  cases n with
  | zero => exact ⟨w, .refl, ⟨nofun, nofun, nofun, nofun, nofun, nofun, nofun⟩, nofun⟩
  | succ n =>
    have hstore := h.store
    have hmethod := h.method
    have hrank := h.rank
    have hcounter := h.counter
    let ans : ExchangeAnswers idBytes := ⟨true, .ok S, .ok uniqueId, .ok ()⟩
    -- Rank 0 sets its identifier under the key of `c`.
    let w₁ := w.set 0 ((w.procs 0).createXcclComm w.kv call ans).1
      ((w.procs 0).createXcclComm w.kv call ans).2
    have hkv₁ : w₁.kv (getXCCLStoreKey c).1 = some uniqueId.internal := by
      simp [w₁, ans, Rank.createXcclComm, Rank.exchangeUniqueId_of_auto, hstore, hmethod,
        Rank.exchangeUniqueIdStore_of_rank_zero, hrank, hcounter]
    -- Every other rank draws the same key and reads the identifier back.
    have hwait : ∀ k : Fin (n + 1), k ≠ 0 → (w₁.procs k).phase = .idle ∧
        ((w₁.procs k).createXcclComm w₁.kv call ans).1.phase =
          .getting call (getXCCLStoreKey c).1 ∧
        ((w₁.procs k).createXcclComm w₁.kv call ans).2 = w₁.kv := by
      intro k hk
      have hk' : k.val ≠ 0 := fun h => hk (Fin.ext h)
      simp [w₁, hk, h.idle, Rank.createXcclComm, Rank.exchangeUniqueId_of_auto, hstore, hmethod,
        Rank.exchangeUniqueIdStore_of_rank_ne_zero, hrank, hk', hcounter]
    have h₂ : Reachable initializer barrierIssued w₁ _ := Reachable.fetch_all hkv₁ hwait
    set w₂ := w₁.moveAll (List.finRange (n + 1)) fun k r => if k = 0 then r
      else ((r.createXcclComm w₁.kv call ans).1).fetchUniqueId call (.ok uniqueId.internal)
    have hB : ∀ k : Fin (n + 1), (w₂.procs k).phase = .exchanged call uniqueId ∧
        (w₂.procs k).bootstrap.createdInternalStore = true ∧ (w₂.procs k).calls = j + 1 ∧
        (w₂.procs k).bootstrap.commSize = n + 1 ∧ (w₂.procs k).bootstrap.rank = k.val ∧
        (w₂.procs k).bootstrap.uniqueidXchgMethod = kUniqueidXchgMethodAuto ∧
        (w₂.procs k).counter = c + 1 := by
      intro k
      by_cases hk : k = 0
      · subst hk
        simp [w₂, w₁, ans, Rank.createXcclComm, Rank.exchangeUniqueId_of_auto, hstore, hmethod,
          Rank.exchangeUniqueIdStore_of_rank_zero, hrank, h.calls, h.size, hcounter,
          getXCCLStoreKey]
      · have hk' : k.val ≠ 0 := fun h => hk (Fin.ext h)
        simp [w₂, w₁, hk, Rank.createXcclComm, Rank.exchangeUniqueId_of_auto, hstore, hmethod,
          Rank.exchangeUniqueIdStore_of_rank_ne_zero, Rank.fetchUniqueId_internal, hrank, hk',
          h.calls, h.size, hcounter, getXCCLStoreKey]
    -- Every rank initialises its communicator and issues the barrier.
    have h₃ : Reachable initializer barrierIssued w₂ _ :=
      Reachable.initComm_all ⟨(.success, some comm), "", .success⟩ fun k => (hB k).1
    set w₃ := w₂.moveAll (List.finRange (n + 1)) fun _ r =>
      r.initComm initializer call uniqueId ⟨(.success, some comm), "", .success⟩
    have hC : ∀ k : Fin (n + 1), (w₃.procs k).phase = .synchronizing comm ∧
        (⟨(w₃.procs k).calls, .allReduce comm .success⟩ : Record idBytes) ∈ (w₃.procs k).log := by
      intro k
      obtain ⟨-, hcreated, hcalls, -⟩ := hB k
      simp [w₃, Rank.initComm_of_success hconfig hcreated, hcalls]
    -- Every barrier stream finishes.
    have h₄ : Reachable initializer barrierIssued w₃ _ :=
      Reachable.finishCleanup_all (fun k => (hC k).1) fun k => ⟨_, (hC k).2⟩
    refine ⟨_, (Reachable.step .refl (.call 0 call ans (h.idle 0))).trans
      (h₂.trans (h₃.trans h₄)), ?_, fun k => ?_⟩
    · refine ⟨fun k => ?_, fun k => ?_, fun k => ?_, fun k => ?_, fun k => ?_, fun k => ?_,
        fun k => ?_⟩ <;>
        obtain ⟨-, hcreated, hcalls, hsize, hrank', hmethod', hcounter'⟩ := hB k <;>
        simp [w₃, Rank.initComm_of_success hconfig hcreated, Rank.finishCleanup, hcalls, hsize,
          hrank', hmethod', hcounter']
    · obtain ⟨-, hcreated, hcalls, hsize, hrank', -⟩ := hB k
      simp [w₃, Rank.initComm_of_success hconfig hcreated, Rank.finishCleanup, hcalls, hsize,
        hrank']

/-! ### Every job -/

/-- The job of `n` ranks as the constructor leaves them without a store: rank `k` on device `k`,
method `auto`, every process counter at `0`, and an empty store. -/
def fresh (n : Nat) : World n idBytes :=
  ⟨fun k => Rank.init ⟨k.val, n, none, false, kUniqueidXchgMethodAuto, k.val, 0⟩ 0, fun _ => none⟩

theorem Ready.fresh : Ready (fresh n : World n idBytes) 0 0 :=
  ⟨fun _ => rfl, fun _ => rfl, fun _ => rfl, fun _ => rfl, fun _ => rfl, fun _ => rfl,
    fun _ => rfl⟩

/-- **Progress.** In a job of any size constructed without a store, for a call whose hints
translate to `config`, when every collaborator succeeds (the TCP store is enabled,
`StoreManager::getStore`, `getUniqueId`, `store_->set`, `store_->get`, `commInitRankConfig` and the
barrier succeed), there is an interleaving, with `streamSynchronize` finishing only once every rank
has issued its barrier, in which every rank's first `createXcclComm` constructs its communicator
with the same identifier and `config`, returns `comm`, and leaves `store_` null. -/
theorem fresh_completes (initializer : OnecclConfig) (call : CommCall) {config : OnecclConfig}
    (hconfig : populateXcclConfigFromHints (initializer.setString .commName call.name) call.hints =
      .ok config)
    (S : StoreRef) (uniqueId : OnecclUniqueId idBytes) (comm : OnecclComm) :
    ∃ w, Reachable initializer barrierIssued (fresh n) w ∧
      ∀ k : Fin n, (w.procs k).phase = .idle ∧ (w.procs k).bootstrap.store = none ∧
        (⟨1, .commInitRankConfig n uniqueId k.val config⟩ : Record idBytes) ∈ (w.procs k).log ∧
        (⟨1, .returned comm⟩ : Record idBytes) ∈ (w.procs k).log := by
  obtain ⟨w, hw, hready, hlog⟩ := Ready.fresh.round initializer call hconfig S uniqueId comm
  exact ⟨w, hw, fun k => ⟨hready.idle k, hready.store k, hlog k⟩⟩

/-- The spec's scenario A: four ranks, no store supplied, the rendezvous variables set, and the
hints `blocking = 1` and `bogus_key = x`. The communicator is constructed with `blocking == 1` and
the unknown hint is ignored. -/
theorem fresh_completes_scenarioA :
    populateXcclConfigFromHints ((default : OnecclConfig).setString .commName "world")
        [("blocking", "1"), ("bogus_key", "x")] =
      .ok (((default : OnecclConfig).setString .commName "world").setInt .blocking 1) ∧
    ∃ w, Reachable default barrierIssued (fresh 4) w ∧
      ∀ k : Fin 4, (w.procs k).phase = .idle ∧ (w.procs k).bootstrap.store = none ∧
        (⟨1, .commInitRankConfig 4 ⟨[7], rfl⟩ k.val
          (((default : OnecclConfig).setString .commName "world").setInt .blocking 1)⟩ :
            Record 1) ∈ (w.procs k).log ∧
        (⟨1, .returned 5⟩ : Record 1) ∈ (w.procs k).log :=
  ⟨rfl, fresh_completes default ⟨"world", [("blocking", "1"), ("bogus_key", "x")]⟩ rfl 3
    ⟨[7], rfl⟩ 5⟩

/-- **Progress, round after round.** In a job of any size constructed without a store, for any
`m` calls whose hints translate to `configs j`, when every collaborator succeeds, there is an
interleaving in which the first `m` calls of every rank each construct their communicator, the
`j`-th with the identifier `ids j` on every rank and with `configs j`, and return `comms j`; the
ranks end idle and without a store. Every round leaves the counters and the call numbers of all
ranks equal, so the next round meets on one key again. -/
theorem fresh_completes_rounds (initializer : OnecclConfig) (m : Nat) (calls : Nat → CommCall)
    {configs : Nat → OnecclConfig}
    (hconfig : ∀ j < m, populateXcclConfigFromHints
      (initializer.setString .commName (calls j).name) (calls j).hints = .ok (configs j))
    (stores : Nat → StoreRef) (ids : Nat → OnecclUniqueId idBytes) (comms : Nat → OnecclComm) :
    ∃ w, Reachable initializer barrierIssued (fresh n) w ∧
      ∀ k : Fin n, (w.procs k).phase = .idle ∧ (w.procs k).bootstrap.store = none ∧
        ∀ j < m,
          (⟨j + 1, .commInitRankConfig n (ids j) k.val (configs j)⟩ : Record idBytes) ∈
            (w.procs k).log ∧
          (⟨j + 1, .returned (comms j)⟩ : Record idBytes) ∈ (w.procs k).log := by
  -- After `m'` rounds the job is between rounds, with the records of every round so far.
  have hrounds : ∀ m' ≤ m, ∃ w c, Reachable initializer barrierIssued (fresh n) w ∧
      Ready w m' c ∧ ∀ k : Fin n, ∀ j < m',
        (⟨j + 1, .commInitRankConfig n (ids j) k.val (configs j)⟩ : Record idBytes) ∈
          (w.procs k).log ∧
        (⟨j + 1, .returned (comms j)⟩ : Record idBytes) ∈ (w.procs k).log := by
    intro m' hm'
    induction m' with
    | zero => exact ⟨fresh n, 0, .refl, Ready.fresh, fun _ _ hj => absurd hj (Nat.not_lt_zero _)⟩
    | succ m' ih =>
      obtain ⟨w, c, hw, hready, hlog⟩ := ih (by omega)
      obtain ⟨w', hw', hready', hnew⟩ := hready.round initializer (calls m')
        (hconfig m' (by omega)) (stores m') (ids m') (comms m')
      refine ⟨w', c + 1, hw.trans hw', hready', fun k j hj => ?_⟩
      rcases Nat.lt_succ_iff_lt_or_eq.1 hj with hj | rfl
      · exact (hlog k j hj).imp (fun h => (hw'.log_prefix k).subset h)
          fun h => (hw'.log_prefix k).subset h
      · exact hnew k
  obtain ⟨w, _, hw, hready, hlog⟩ := hrounds m le_rfl
  exact ⟨w, hw, fun k => ⟨hready.idle k, hready.store k, hlog k⟩⟩

/-- Two rounds of a four-rank job, each calling the communicator "world" without hints. -/
theorem fresh_completes_rounds_twice :
    (∀ j < 2, populateXcclConfigFromHints
        ((default : OnecclConfig).setString .commName (⟨"world", []⟩ : CommCall).name)
        (⟨"world", []⟩ : CommCall).hints =
      .ok ((default : OnecclConfig).setString .commName "world")) ∧
    ∃ w, Reachable default barrierIssued (fresh 4) w ∧
      ∀ k : Fin 4, (w.procs k).phase = .idle ∧ (w.procs k).bootstrap.store = none ∧
        ∀ j < 2,
          (⟨j + 1, .commInitRankConfig 4 ⟨[7], rfl⟩ k.val
            ((default : OnecclConfig).setString .commName "world")⟩ : Record 1) ∈
              (w.procs k).log ∧
          (⟨j + 1, .returned (j + 5)⟩ : Record 1) ∈ (w.procs k).log :=
  ⟨fun _ _ => rfl, fresh_completes_rounds default 2 (fun _ => ⟨"world", []⟩) (fun _ _ => rfl)
    (fun _ => 3) (fun _ => ⟨[7], rfl⟩) (fun j => j + 5)⟩

end World

end TorchComms
