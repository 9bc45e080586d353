import TorchComms.Xccl.Bootstrap

/-!
# The rendezvous

The rank processes of one job, each with its own bootstrap and its own process-wide `counter_`,
and the key-value store their `store_` objects reach. A step moves one rank by one segment, and
any rank may move next, so the runs of `World.Step` are all interleavings of the ranks' runs.

The store is shared state: `store_->set` writes it, and `store_->get(key)` either throws or
returns, once the key exists, the bytes stored under it. Only `exchangeUniqueIdStore` writes keys
of the form `getXCCLStoreKey`. `streamSynchronize` on the barrier stream may report success only
when `barrierDone` holds of the world and the communicator; when a barrier completes is a property
of the backend, so it stays a parameter.
-/

namespace TorchComms

/-- The rank processes of one job and the store they share. -/
structure World (n idBytes : Nat) where
  procs : Fin n → Rank idBytes
  kv : KVStore

namespace Rank

variable {idBytes : Nat} {initializer : OnecclConfig}

/-! ### What a segment keeps -/

/-- A segment keeps `rank_` and only appends to the log. -/
theorem Step.keeps {r r' : Rank idBytes} (h : Step initializer r r') :
    r'.bootstrap.rank = r.bootstrap.rank ∧ r.log <+: r'.log := by
  cases h with
  | call kv call ans _ =>
    rcases exchangeUniqueId_cases { r with calls := r.calls + 1 } kv call ans with
      ⟨-, heq⟩ | ⟨-, e, heq, -⟩ | ⟨-, e, heq, -⟩ | ⟨-, s, heq⟩ <;>
      rw [createXcclComm, heq]
    all_goals first
      | exact ⟨rfl, by simp⟩
      | rcases exchangeUniqueIdStore_cases _ kv call ans with
          ⟨e, heq', -⟩ | ⟨-, heq'⟩ | ⟨id, -, heq'⟩ <;>
          rw [heq'] <;> exact ⟨rfl, by simp⟩
  | fetch got _ =>
    rcases fetchUniqueId_cases r _ got with
      ⟨_, -, heq⟩ | ⟨_, -, -, heq⟩ | ⟨_, -, heq⟩ <;>
      rw [heq] <;> exact ⟨rfl, by simp⟩
  | init ans _ =>
    rcases initComm_cases initializer r _ _ ans with
      ⟨e, heq, -⟩ | ⟨config, ⟨e, heq, -⟩ | ⟨comm, heq⟩⟩ <;> rw [heq]
    · exact ⟨rfl, by simp⟩
    · exact ⟨rfl, by simp⟩
    · rcases cleanupTCPStore_cases _ comm ans.allReduce with ⟨-, heq'⟩ | ⟨-, heq'⟩ <;>
        rw [heq'] <;> exact ⟨rfl, by simp⟩
  | sync status _ =>
    rcases finishCleanup_cases r _ status with ⟨-, heq⟩ | ⟨e, heq, -⟩ <;> rw [heq] <;>
      exact ⟨rfl, by simp⟩

end Rank

namespace World

variable {n idBytes : Nat} {initializer : OnecclConfig}

/-- Rank `i` moves to `r`, and the store becomes `kv`. -/
def set (w : World n idBytes) (i : Fin n) (r : Rank idBytes) (kv : KVStore) : World n idBytes :=
  ⟨Function.update w.procs i r, kv⟩

@[simp] theorem set_procs_self (w : World n idBytes) (i : Fin n) (r : Rank idBytes)
    (kv : KVStore) : (w.set i r kv).procs i = r := by
  simp [set]

@[simp] theorem set_procs_of_ne (w : World n idBytes) {i k : Fin n} (r : Rank idBytes)
    (kv : KVStore) (h : k ≠ i) : (w.set i r kv).procs k = w.procs k := by
  simp [set, h]

@[simp] theorem set_kv (w : World n idBytes) (i : Fin n) (r : Rank idBytes) (kv : KVStore) :
    (w.set i r kv).kv = kv := rfl

/-- Every rank has issued its barrier `allReduce` on `comm` in its current call: the condition
under which a barrier stream can finish. The call number, not the handle alone, says which
rendezvous the barrier belongs to, since a handle may come back in a later call. -/
def barrierIssued (w : World n idBytes) (comm : OnecclComm) : Prop :=
  ∀ k, ∃ res, (⟨(w.procs k).calls, .allReduce comm res⟩ : Record idBytes) ∈ (w.procs k).log

/-- One segment of one rank. `fetch` takes only what the store can answer, and a successful
`sync` only a finished barrier. -/
inductive Step (initializer : OnecclConfig)
    (barrierDone : World n idBytes → OnecclComm → Prop) :
    World n idBytes → World n idBytes → Prop
  | call {w : World n idBytes} (i : Fin n) (call : CommCall) (ans : ExchangeAnswers idBytes) :
      (w.procs i).phase = .idle →
      Step initializer barrierDone w
        (w.set i ((w.procs i).createXcclComm w.kv call ans).1
          ((w.procs i).createXcclComm w.kv call ans).2)
  | fetch {w : World n idBytes} (i : Fin n) {call : CommCall} {key : String}
      (got : Except String (List UInt8)) :
      (w.procs i).phase = .getting call key → (∀ vec, got = .ok vec → w.kv key = some vec) →
      Step initializer barrierDone w (w.set i ((w.procs i).fetchUniqueId call got) w.kv)
  | init {w : World n idBytes} (i : Fin n) {call : CommCall} {uniqueId : OnecclUniqueId idBytes}
      (ans : InitAnswers) :
      (w.procs i).phase = .exchanged call uniqueId →
      Step initializer barrierDone w
        (w.set i ((w.procs i).initComm initializer call uniqueId ans) w.kv)
  | sync {w : World n idBytes} (i : Fin n) {comm : OnecclComm} (status : ZeResult) :
      (w.procs i).phase = .synchronizing comm → (status = .success → barrierDone w comm) →
      Step initializer barrierDone w (w.set i ((w.procs i).finishCleanup comm status) w.kv)

/-- The worlds a job reaches from `start`. -/
inductive Reachable (initializer : OnecclConfig)
    (barrierDone : World n idBytes → OnecclComm → Prop) (start : World n idBytes) :
    World n idBytes → Prop
  | refl : Reachable initializer barrierDone start start
  | step {w w' : World n idBytes} : Reachable initializer barrierDone start w →
      Step initializer barrierDone w w' → Reachable initializer barrierDone start w'

/-- Ranks 0 and 1 of a two-rank job, constructed without a store, before their first call. -/
def twoRanks : World 2 1 :=
  ⟨fun k => Rank.init ⟨k.val, 2, none, false, kUniqueidXchgMethodAuto, k.val, 0⟩ 0,
    fun _ => none⟩

/-- `twoRanks` in the middle of a successful first call "world": rank 0 takes store `3` from
`StoreManager`, draws key `0` and sets the identifier `[7]` there; rank 1 draws the same key and
reads the identifier back; both construct communicator `5`, drop the store and issue the barrier,
and both now wait in `streamSynchronize`. -/
def twoRanksSynchronizing : World 2 1 :=
  let call : CommCall := ⟨"world", []⟩
  let ex : ExchangeAnswers 1 := ⟨true, .ok 3, .ok ⟨[7], rfl⟩, .ok ()⟩
  let init : InitAnswers := ⟨(.success, some 5), "", .success⟩
  let w₁ := twoRanks.set 0 ((twoRanks.procs 0).createXcclComm twoRanks.kv call ex).1
    ((twoRanks.procs 0).createXcclComm twoRanks.kv call ex).2
  let w₂ := w₁.set 1 ((w₁.procs 1).createXcclComm w₁.kv call ex).1
    ((w₁.procs 1).createXcclComm w₁.kv call ex).2
  let w₃ := w₂.set 1 ((w₂.procs 1).fetchUniqueId call (.ok [7])) w₂.kv
  let w₄ := w₃.set 0 ((w₃.procs 0).initComm default call ⟨[7], rfl⟩ init) w₃.kv
  w₄.set 1 ((w₄.procs 1).initComm default call ⟨[7], rfl⟩ init) w₄.kv

variable {barrierDone : World n idBytes → OnecclComm → Prop}

/-- A step of the job is a step of one rank, the others standing still. -/
theorem Step.exists_rank {w w' : World n idBytes} (h : Step initializer barrierDone w w') :
    ∃ i, Rank.Step initializer (w.procs i) (w'.procs i) ∧
      ∀ k, k ≠ i → w'.procs k = w.procs k := by
  cases h with
  | call i call ans hp =>
    exact ⟨i, by simpa using Rank.Step.call w.kv call ans hp, fun k hk => by simp [hk]⟩
  | fetch i got hp _ =>
    exact ⟨i, by simpa using Rank.Step.fetch got hp, fun k hk => by simp [hk]⟩
  | init i ans hp => exact ⟨i, by simpa using Rank.Step.init ans hp, fun k hk => by simp [hk]⟩
  | sync i status hp _ =>
    exact ⟨i, by simpa using Rank.Step.sync status hp, fun k hk => by simp [hk]⟩

/-- What every run of one rank keeps, every rank keeps along every run of the job. -/
theorem Reachable.procs {P : Fin n → Rank idBytes → Prop}
    (hP : ∀ k r r', P k r → Rank.Step initializer r r' → P k r') {start w : World n idBytes}
    (hw : Reachable initializer barrierDone start w) (h0 : ∀ k, P k (start.procs k)) :
    ∀ k, P k (w.procs k) := by
  induction hw with
  | refl => exact h0
  | step _ hstep ih =>
    obtain ⟨i, hi, hother⟩ := hstep.exists_rank
    intro k
    by_cases hk : k = i
    · subst hk
      exact hP _ _ _ (ih k) hi
    · exact hother k hk ▸ ih k

theorem twoRanksSynchronizing_reachable {barrierDone : World 2 1 → OnecclComm → Prop} :
    Reachable default barrierDone twoRanks twoRanksSynchronizing :=
  let ex : ExchangeAnswers 1 := ⟨true, .ok 3, .ok ⟨[7], rfl⟩, .ok ()⟩
  let init : InitAnswers := ⟨(.success, some 5), "", .success⟩
  .step (.step (.step (.step (.step .refl (.call 0 ⟨"world", []⟩ ex rfl))
    (.call 1 ⟨"world", []⟩ ex rfl)) (.fetch 1 (.ok [7]) rfl (by rintro _ ⟨⟩; decide)))
    (.init 0 init rfl)) (.init 1 init rfl)

end World

end TorchComms
