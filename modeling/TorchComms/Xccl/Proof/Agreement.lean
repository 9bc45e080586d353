import TorchComms.Xccl.Proof.Ownership
import TorchComms.Xccl.Proof.Convergence

/-!
# Agreement on the identifier

Two calls, of any ranks, that drew the same key and both returned an identifier returned the same
identifier. `exchangedIdentity_published` traces each of them to a rank-0 process that set the
identifier under that key; what is left is that a rank-0 process sets at most one identifier under
a key. Every call draws the key of the counter's value and advances it, and a call sets an
identifier only under the key it drew, once. So the keys a rank sets under are a sublist of the
keys it drew, and these are the keys of successive counter values (`storeKeyRun`), distinct while
`counter_` stays within `int` (past `INT_MAX`, `counter_++` overflows, which C++ leaves undefined).

The same invariant gives the store's side of it: under these conditions each store key is set
by one `store_->set` call of the whole job (`storeKey_set_once`).

Both theorems assume a single process of rank 0: two of them would each set their own identifier
under the same key, and the job as modelled does not exclude that.
-/

namespace TorchComms

variable {idBytes : Nat}

/-- The key an event draws. -/
def Event.drawnKey : Event idBytes → Option String
  | .drewKey key => some key
  | _ => none

/-- The key an event sets an identifier under. -/
def Event.setKey : Event idBytes → Option String
  | .published key _ => some key
  | _ => none

/-- The keys a log drew, in order. -/
def drawnKeys (log : List (Record idBytes)) : List String :=
  log.filterMap fun e => e.event.drawnKey

/-- The keys a log set identifiers under, in order. -/
def setKeys (log : List (Record idBytes)) : List String :=
  log.filterMap fun e => e.event.setKey

@[simp] theorem drawnKeys_append (log log' : List (Record idBytes)) :
    drawnKeys (log ++ log') = drawnKeys log ++ drawnKeys log' :=
  List.filterMap_append _ _ _

@[simp] theorem drawnKeys_map (new : List (Event idBytes)) (j : Nat) :
    drawnKeys (new.map fun e => (⟨j, e⟩ : Record idBytes)) = new.filterMap Event.drawnKey := by
  simp [drawnKeys, List.filterMap_map, Function.comp_def]

@[simp] theorem setKeys_append (log log' : List (Record idBytes)) :
    setKeys (log ++ log') = setKeys log ++ setKeys log' :=
  List.filterMap_append _ _ _

@[simp] theorem setKeys_map (new : List (Event idBytes)) (j : Nat) :
    setKeys (new.map fun e => (⟨j, e⟩ : Record idBytes)) = new.filterMap Event.setKey := by
  simp [setKeys, List.filterMap_map, Function.comp_def]

/-- Two members of a list that `f` sends to the same value are equal when the values `f` keeps
are distinct. -/
theorem eq_of_mem_of_filterMap_nodup {α β : Type} {f : α → Option β} :
    ∀ {l : List α}, (l.filterMap f).Nodup → ∀ {a b : α} {y : β}, a ∈ l → b ∈ l →
      f a = some y → f b = some y → a = b
  | [], _, _, _, _, ha, _, _, _ => absurd ha (List.not_mem_nil _)
  | x :: l, hnd, a, b, y, ha, hb, hfa, hfb => by
    have hrest : (l.filterMap f).Nodup := ((List.sublist_cons_self x l).filterMap f).nodup hnd
    have hfresh : ∀ c ∈ l, f x = some y → f c = some y → False := fun c hc hx hcy => by
      rw [List.filterMap_cons, hx] at hnd
      exact (List.nodup_cons.1 hnd).1 (List.mem_filterMap.2 ⟨c, hc, hcy⟩)
    rcases List.mem_cons.1 ha with rfl | ha' <;> rcases List.mem_cons.1 hb with rfl | hb'
    · rfl
    · exact (hfresh b hb' hfa hfb).elim
    · exact (hfresh a ha' hfb hfa).elim
    · exact eq_of_mem_of_filterMap_nodup hrest ha' hb' hfa hfb

/-- A record of call `c` among appended events draws a key only if one of those events does. -/
theorem mem_drewKey_append_map {log : List (Record idBytes)} {c j : Nat}
    {new : List (Event idBytes)} {key : String}
    (h : (⟨j, .drewKey key⟩ : Record idBytes) ∈ log ++ new.map fun e => ⟨c, e⟩) :
    (⟨j, .drewKey key⟩ : Record idBytes) ∈ log ∨ j = c ∧ key ∈ new.filterMap Event.drawnKey := by
  rcases List.mem_append.1 h with h | h
  · exact .inl h
  · obtain ⟨x, hx, hxe⟩ := List.mem_map.1 h
    cases hxe
    exact .inr ⟨rfl, List.mem_filterMap.2 ⟨_, hx, rfl⟩⟩

namespace Rank

variable {initializer : OnecclConfig}

/-! ### The keys of one rank -/

/-- The invariant of one rank's keys, from the counter value `c₀` it started with. -/
structure KeyLog (c₀ : BitVec 32) (r : Rank idBytes) : Prop where
  /-- Every record belongs to a call already started. -/
  call_le : ∀ e ∈ r.log, e.call ≤ r.calls
  /-- The keys drawn are those of successive counter values from `c₀`, and the counter stands
  past the last of them. -/
  drawn : ∃ m, drawnKeys r.log = (storeKeyRun m c₀).1 ∧ r.counter = (storeKeyRun m c₀).2
  /-- Identifiers are set only under drawn keys, no more often than each was drawn. -/
  set_sublist : List.Sublist (setKeys r.log) (drawnKeys r.log)
  /-- A call draws at most one key. -/
  one_key : ∀ j key key', (⟨j, .drewKey key⟩ : Record idBytes) ∈ r.log →
    (⟨j, .drewKey key'⟩ : Record idBytes) ∈ r.log → key = key'
  /-- Only rank 0 sets identifiers. -/
  set_rank_zero : setKeys r.log ≠ [] → r.bootstrap.rank = 0

theorem KeyLog.start {r : Rank idBytes} (hlog : r.log = []) : KeyLog r.counter r where
  call_le := by simp [hlog]
  drawn := ⟨0, by simp [hlog, drawnKeys, storeKeyRun], rfl⟩
  set_sublist := by simp [hlog, setKeys]
  one_key := by simp [hlog]
  set_rank_zero := by simp [hlog, setKeys]

section

variable {c₀ : BitVec 32} {r r' : Rank idBytes}

/-- A segment that draws no key and sets nothing keeps the invariant. -/
theorem KeyLog.extend (h : KeyLog c₀ r) (hrank : r'.bootstrap.rank = r.bootstrap.rank)
    (hcalls : r'.calls = r.calls) (hcounter : r'.counter = r.counter) (new : List (Event idBytes))
    (hlog : r'.log = r.log ++ new.map fun e => ⟨r.calls, e⟩)
    (hnew : new.filterMap Event.drawnKey = [] ∧ new.filterMap Event.setKey = []) :
    KeyLog c₀ r' where
  call_le := hcalls ▸ hlog ▸ call_le_append_map h.call_le new
  drawn := by
    obtain ⟨m, hd, hc⟩ := h.drawn
    exact ⟨m, by simp [hlog, hd, hnew.1], hcounter ▸ hc⟩
  set_sublist := by simpa [hlog, hnew.1, hnew.2] using h.set_sublist
  one_key j key key' h₁ h₂ := by
    rw [hlog] at h₁ h₂
    rcases mem_drewKey_append_map h₁ with h₁ | ⟨-, h₁⟩
    · rcases mem_drewKey_append_map h₂ with h₂ | ⟨-, h₂⟩
      · exact h.one_key j key key' h₁ h₂
      · simp [hnew.1] at h₂
    · simp [hnew.1] at h₁
  set_rank_zero hset := by
    rw [hrank]
    exact h.set_rank_zero (by simpa [hlog, hnew.2] using hset)

/-- `getXCCLStoreKey()` at the start of a call, followed by events that draw no key and set an
identifier at most under the key just drawn. -/
theorem KeyLog.draw (h : KeyLog c₀ r)
    (hfresh : ∀ key, (⟨r.calls, .drewKey key⟩ : Record idBytes) ∉ r.log)
    (hrank : r'.bootstrap.rank = r.bootstrap.rank) (hcalls : r'.calls = r.calls) (hcounter : r'.counter = (getXCCLStoreKey r.counter).2)
    (rest : List (Event idBytes))
    (hlog : r'.log = r.log ++ (.drewKey (getXCCLStoreKey r.counter).1 :: rest).map
      fun e => ⟨r.calls, e⟩)
    (hrest : rest.filterMap Event.drawnKey = [] ∧
      List.Sublist (rest.filterMap Event.setKey) [(getXCCLStoreKey r.counter).1] ∧
      (rest.filterMap Event.setKey ≠ [] → r.bootstrap.rank = 0)) :
    KeyLog c₀ r' where
  call_le := hcalls ▸ hlog ▸ call_le_append_map h.call_le _
  drawn := by
    obtain ⟨m, hd, hc⟩ := h.drawn
    refine ⟨m + 1, ?_, by rw [hcounter, storeKeyRun_succ, hc]⟩
    rw [storeKeyRun_succ, ← hd, ← hc, hlog, drawnKeys_append, drawnKeys_map]
    simp [Event.drawnKey, hrest.1]
  set_sublist := by
    rw [hlog, drawnKeys_append, drawnKeys_map, setKeys_append, setKeys_map]
    simpa [Event.drawnKey, Event.setKey, hrest.1] using h.set_sublist.append hrest.2.1
  one_key j key key' h₁ h₂ := by
    have hnew : (Event.drewKey (getXCCLStoreKey r.counter).1 :: rest).filterMap Event.drawnKey =
        [(getXCCLStoreKey r.counter).1] := by simp [Event.drawnKey, hrest.1]
    rw [hlog] at h₁ h₂
    rcases mem_drewKey_append_map h₁ with h₁ | ⟨hj₁, h₁⟩ <;>
      rcases mem_drewKey_append_map h₂ with h₂ | ⟨hj₂, h₂⟩
    · exact h.one_key j key key' h₁ h₂
    · exact (hfresh key (hj₂ ▸ h₁)).elim
    · exact (hfresh key' (hj₁ ▸ h₂)).elim
    · rw [hnew, List.mem_singleton] at h₁ h₂
      rw [h₁, h₂]
  set_rank_zero hset := by
    rw [hrank]
    by_cases hold : setKeys r.log = []
    · rw [hlog, setKeys_append, setKeys_map, hold, List.nil_append, List.filterMap_cons] at hset
      exact hrest.2.2 hset
    · exact h.set_rank_zero hold

theorem KeyLog.exchangeUniqueIdStore (h : KeyLog c₀ r)
    (hfresh : ∀ key, (⟨r.calls, .drewKey key⟩ : Record idBytes) ∉ r.log) (kv : KVStore)
    (call : CommCall) (ans : ExchangeAnswers idBytes) :
    KeyLog c₀ (r.exchangeUniqueIdStore kv call ans).1 := by
  let key := (getXCCLStoreKey r.counter).1
  rcases exchangeUniqueIdStore_cases r kv call ans with
    ⟨e, heq, -⟩ | ⟨-, heq⟩ | ⟨id, hzero, heq⟩ <;> rw [heq]
  · exact h.draw hfresh rfl rfl rfl [.threw e] (by simp) ⟨rfl, List.nil_sublist _, nofun⟩
  · exact h.draw hfresh rfl rfl rfl [] (by simp) ⟨rfl, List.nil_sublist _, nofun⟩
  · exact h.draw hfresh rfl rfl rfl [.published key id, .exchanged id] (by simp)
      ⟨rfl, List.Sublist.refl _, fun _ => hzero⟩

/-- Every segment keeps the invariant: only `exchangeUniqueIdStore` draws a key, once per call,
and only rank 0's sets an identifier, under the key it drew. -/
theorem KeyLog.step (h : KeyLog c₀ r) (hstep : Step initializer r r') : KeyLog c₀ r' := by
  cases hstep with
  | call kv call ans _ =>
    let r₁ : Rank idBytes := { r with calls := r.calls + 1 }
    have h₁ : KeyLog c₀ r₁ := ⟨fun e he => Nat.le_succ_of_le (h.call_le e he), h.drawn,
      h.set_sublist, h.one_key, h.set_rank_zero⟩
    have hfresh : ∀ key, (⟨r₁.calls, .drewKey key⟩ : Record idBytes) ∉ r₁.log :=
      fun key hm => Nat.not_succ_le_self _ (h.call_le _ hm)
    rcases exchangeUniqueId_cases r₁ kv call ans with
      ⟨-, heq⟩ | ⟨-, e, heq, -⟩ | ⟨-, e, heq, -⟩ | ⟨-, s, heq⟩ <;> rw [createXcclComm, heq]
    · exact h₁.exchangeUniqueIdStore hfresh kv call ans
    · exact h₁.extend rfl rfl rfl [.threw e] (by simp) ⟨rfl, rfl⟩
    · exact h₁.extend rfl rfl rfl [.storeManagerGetStore none, .threw e] (by simp) ⟨rfl, rfl⟩
    · have h₂ : KeyLog c₀ (r₁.acquireStore s) :=
        h₁.extend rfl rfl rfl [.storeManagerGetStore (some s)] (by simp) ⟨rfl, rfl⟩
      exact h₂.exchangeUniqueIdStore (fun key hm => hfresh key (by simpa using hm)) kv call ans
  | fetch got _ =>
    rcases fetchUniqueId_cases r _ got with
      ⟨what, -, heq⟩ | ⟨_, -, -, heq⟩ | ⟨id, -, heq⟩ <;> rw [heq]
    · exact h.extend rfl rfl rfl [.threw (.store what)] (by simp) ⟨rfl, rfl⟩
    · exact h.extend rfl rfl rfl [.threw .invalidUniqueIdSize] (by simp) ⟨rfl, rfl⟩
    · exact h.extend rfl rfl rfl [.exchanged id] (by simp) ⟨rfl, rfl⟩
  | @init call uniqueId ans _ =>
    let init (config : OnecclConfig) : Event idBytes :=
      .commInitRankConfig r.bootstrap.commSize uniqueId r.bootstrap.rank config
    rcases initComm_cases initializer r call uniqueId ans with
      ⟨e, heq, -⟩ | ⟨config, ⟨e, heq, -⟩ | ⟨comm, heq⟩⟩ <;> rw [heq]
    · exact h.extend rfl rfl rfl [.threw e] (by simp) ⟨rfl, rfl⟩
    · exact h.extend rfl rfl rfl [init config, .threw e] (by simp) ⟨rfl, rfl⟩
    · rcases cleanupTCPStore_cases (r.record (init config)) comm ans.allReduce with
        ⟨-, heq'⟩ | ⟨-, heq'⟩ <;> rw [heq']
      · exact h.extend rfl rfl rfl [init config, .reset, .allReduce comm ans.allReduce] (by simp)
          ⟨rfl, rfl⟩
      · exact h.extend rfl rfl rfl [init config, .returned comm] (by simp) ⟨rfl, rfl⟩
  | @sync comm status _ =>
    rcases finishCleanup_cases r comm status with ⟨-, heq⟩ | ⟨e, heq, -⟩ <;> rw [heq]
    · exact h.extend rfl rfl rfl [.returned comm] (by simp) ⟨rfl, rfl⟩
    · exact h.extend rfl rfl rfl [.threw e] (by simp) ⟨rfl, rfl⟩

/-- While the counter stays within `int`, a rank sets at most one identifier under a key, in one
call. -/
theorem KeyLog.published_eq (h : KeyLog c₀ r)
    (hbound : (drawnKeys r.log).length + c₀.toNat ≤ 2 ^ 31) {j j' : Nat} {key : String}
    {uniqueId uniqueId' : OnecclUniqueId idBytes}
    (h₁ : (⟨j, .published key uniqueId⟩ : Record idBytes) ∈ r.log)
    (h₂ : (⟨j', .published key uniqueId'⟩ : Record idBytes) ∈ r.log) :
    j = j' ∧ uniqueId = uniqueId' := by
  obtain ⟨m, hd, -⟩ := h.drawn
  rw [hd, storeKeyRun_length] at hbound
  have hdrawn : (drawnKeys r.log).Nodup := hd ▸ storeKeyRun_nodup_of_le (by omega)
  have hrec := eq_of_mem_of_filterMap_nodup (h.set_sublist.nodup hdrawn) h₁ h₂
    (y := key) rfl rfl
  simpa only [Record.mk.injEq, Event.published.injEq, true_and] using hrec

/-- A rank that set an identifier is of rank 0. -/
theorem KeyLog.rank_of_published (h : KeyLog c₀ r) {j : Nat} {key : String}
    {uniqueId : OnecclUniqueId idBytes}
    (hm : (⟨j, .published key uniqueId⟩ : Record idBytes) ∈ r.log) : r.bootstrap.rank = 0 :=
  h.set_rank_zero (List.ne_nil_of_mem (List.mem_filterMap.2 ⟨_, hm, rfl⟩))

end

end Rank

namespace World

variable {n : Nat} {initializer : OnecclConfig}
  {barrierDone : World n idBytes → OnecclComm → Prop}

/-- Every rank keeps its key invariant along every interleaving. -/
theorem Reachable.keyLog {start w : World n idBytes} (hw : Reachable initializer barrierDone start w)
    (hlogs : ∀ k, (start.procs k).log = []) :
    ∀ k, Rank.KeyLog (start.procs k).counter (w.procs k) :=
  hw.procs (fun _ _ _ h hs => h.step hs) fun k => Rank.KeyLog.start (hlogs k)

/-- **Agreement.** From ranks that have not started and a store without store keys, along every
interleaving, when a single process has rank 0 and its counter has not wrapped: two calls, of any
ranks, that drew the same key and returned an identifier from `exchangeUniqueId` returned the same
identifier. -/
theorem exchangedIdentity_agreement {start w : World n idBytes}
    (hprocs : ∀ k, (start.procs k).phase = .idle ∧ (start.procs k).log = [])
    (hkv : ∀ c, start.kv (getXCCLStoreKey c).1 = none)
    (hw : Reachable initializer barrierDone start w) (i₀ : Fin n)
    (hrank0 : ∀ i, (w.procs i).bootstrap.rank = 0 → i = i₀)
    (hbound : (drawnKeys (w.procs i₀).log).length + (start.procs i₀).counter.toNat ≤ 2 ^ 31) :
    ∀ k k' j j' key uniqueId uniqueId',
      (⟨j, .drewKey key⟩ : Record idBytes) ∈ (w.procs k).log →
      (⟨j, .exchanged uniqueId⟩ : Record idBytes) ∈ (w.procs k).log →
      (⟨j', .drewKey key⟩ : Record idBytes) ∈ (w.procs k').log →
      (⟨j', .exchanged uniqueId'⟩ : Record idBytes) ∈ (w.procs k').log →
      uniqueId = uniqueId' := by
  have hagree := (Agreement.start hprocs hkv).reachable hw
  have hkeys := hw.keyLog fun k => (hprocs k).2
  -- Each returned identifier was set by rank 0 under the key its call drew.
  have hset : ∀ k j key uniqueId, (⟨j, .drewKey key⟩ : Record idBytes) ∈ (w.procs k).log →
      (⟨j, .exchanged uniqueId⟩ : Record idBytes) ∈ (w.procs k).log →
      ∃ j₀, (⟨j₀, .published key uniqueId⟩ : Record idBytes) ∈ (w.procs i₀).log := by
    intro k j key uniqueId hdrew hexchanged
    obtain ⟨key', hdrew', i, j₀, hi, hpub⟩ := hagree.exchanged k j uniqueId hexchanged
    obtain rfl := (hkeys k).one_key j key key' hdrew hdrew'
    exact ⟨j₀, hrank0 i hi ▸ hpub⟩
  intro k k' j j' key uniqueId uniqueId' hd hx hd' hx'
  obtain ⟨j₀, hpub⟩ := hset k j key uniqueId hd hx
  obtain ⟨j₀', hpub'⟩ := hset k' j' key uniqueId' hd' hx'
  exact ((hkeys i₀).published_eq hbound hpub hpub').2

theorem exchangedIdentity_agreement_twoRanks :
    let w := twoRanksSynchronizing
    ((∀ k, (twoRanks.procs k).phase = .idle ∧ (twoRanks.procs k).log = []) ∧
      (∀ c, twoRanks.kv (getXCCLStoreKey c).1 = none) ∧
      Reachable default barrierIssued twoRanks w ∧
      (∀ i, (w.procs i).bootstrap.rank = 0 → i = 0) ∧
      (drawnKeys (w.procs 0).log).length + (twoRanks.procs 0).counter.toNat ≤ 2 ^ 31) ∧
      ∀ k k' j j' key uniqueId uniqueId',
        (⟨j, .drewKey key⟩ : Record 1) ∈ (w.procs k).log →
        (⟨j, .exchanged uniqueId⟩ : Record 1) ∈ (w.procs k).log →
        (⟨j', .drewKey key⟩ : Record 1) ∈ (w.procs k').log →
        (⟨j', .exchanged uniqueId'⟩ : Record 1) ∈ (w.procs k').log →
        uniqueId = uniqueId' := by
  refine ⟨⟨?hp, ?hkv, ?hw, ?h0, ?hb⟩, exchangedIdentity_agreement ?hp ?hkv ?hw 0 ?h0 ?hb⟩
  · exact fun _ => ⟨rfl, rfl⟩
  · exact fun _ => rfl
  · exact twoRanksSynchronizing_reachable
  · decide
  · decide

/-- **Each store key is set once.** From ranks with empty logs, along every interleaving, when a
single process has rank 0 and its counter stays within `int`: two `store_->set` calls of the job
under the same key are one call of one rank, setting one identifier. -/
theorem storeKey_set_once {start w : World n idBytes} (hlogs : ∀ k, (start.procs k).log = [])
    (hw : Reachable initializer barrierDone start w) (i₀ : Fin n)
    (hrank0 : ∀ i, (w.procs i).bootstrap.rank = 0 → i = i₀)
    (hbound : (drawnKeys (w.procs i₀).log).length + (start.procs i₀).counter.toNat ≤ 2 ^ 31) :
    ∀ k k' j j' key uniqueId uniqueId',
      (⟨j, .published key uniqueId⟩ : Record idBytes) ∈ (w.procs k).log →
      (⟨j', .published key uniqueId'⟩ : Record idBytes) ∈ (w.procs k').log →
      k = k' ∧ j = j' ∧ uniqueId = uniqueId' := by
  have hkeys := hw.keyLog hlogs
  intro k k' j j' key uniqueId uniqueId' h₁ h₂
  obtain rfl := hrank0 k ((hkeys k).rank_of_published h₁)
  obtain rfl := hrank0 k' ((hkeys k').rank_of_published h₂)
  exact ⟨rfl, (hkeys _).published_eq hbound h₁ h₂⟩

theorem storeKey_set_once_twoRanks :
    let w := twoRanksSynchronizing
    ((∀ k, (twoRanks.procs k).log = []) ∧ Reachable default barrierIssued twoRanks w ∧
      (∀ i, (w.procs i).bootstrap.rank = 0 → i = 0) ∧
      (drawnKeys (w.procs 0).log).length + (twoRanks.procs 0).counter.toNat ≤ 2 ^ 31) ∧
      ∀ k k' j j' key uniqueId uniqueId',
        (⟨j, .published key uniqueId⟩ : Record 1) ∈ (w.procs k).log →
        (⟨j', .published key uniqueId'⟩ : Record 1) ∈ (w.procs k').log →
        k = k' ∧ j = j' ∧ uniqueId = uniqueId' := by
  refine ⟨⟨?hl, ?hw, ?h0, ?hb⟩, storeKey_set_once ?hl ?hw 0 ?h0 ?hb⟩
  · exact fun _ => rfl
  · exact twoRanksSynchronizing_reachable
  · decide
  · decide

end World

end TorchComms
