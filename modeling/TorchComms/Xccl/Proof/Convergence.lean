import TorchComms.Xccl.Rendezvous

/-!
# Identity convergence

Every identifier a rank's `exchangeUniqueId` returns was generated by a rank-0 process and set
under the key that same call drew, so the bytes a rank reads back are the identifier rank 0
serialized, and "Invalid XCCL unique ID size" is never thrown. This holds along every interleaving
and whatever the collaborators answer.

It is a statement about keys, not about call numbers. `counter_` advances in
`exchangeUniqueIdStore`, after the method check and `StoreManager::getStore`; a rank whose call
fails before that point does not advance it, and its next call reads the key the other ranks drew
in their previous one. `exchangedIdentity_of_call_counterexample` is such a run.
-/

namespace TorchComms

namespace World

variable {n idBytes : Nat} {initializer : OnecclConfig}
  {barrierDone : World n idBytes → OnecclComm → Prop}

/-- A rank-0 process generated `uniqueId` and set it under `key`. -/
def PublishedBy (w : World n idBytes) (key : String) (uniqueId : OnecclUniqueId idBytes) : Prop :=
  ∃ i j, (w.procs i).bootstrap.rank = 0 ∧
    (⟨j, .published key uniqueId⟩ : Record idBytes) ∈ (w.procs i).log

theorem PublishedBy.set {w : World n idBytes} {key : String} {uniqueId : OnecclUniqueId idBytes}
    (h : PublishedBy w key uniqueId) {i : Fin n} {r : Rank idBytes} (kv : KVStore)
    (hrank : r.bootstrap.rank = (w.procs i).bootstrap.rank) (hlog : (w.procs i).log <+: r.log) :
    PublishedBy (w.set i r kv) key uniqueId := by
  obtain ⟨k, j, hk, hj⟩ := h
  refine ⟨k, j, ?_⟩
  by_cases hki : k = i
  · subst hki
    simpa [hrank, hk] using hlog.subset hj
  · simpa [hki] using And.intro hk hj

/-- The invariant of the rendezvous: what the store holds under a store key, what a waiting rank
waits for, and where every returned identifier came from. -/
structure Agreement (w : World n idBytes) : Prop where
  kv_published : ∀ c vec, w.kv (getXCCLStoreKey c).1 = some vec →
    ∃ uniqueId : OnecclUniqueId idBytes, vec = uniqueId.internal ∧
      PublishedBy w (getXCCLStoreKey c).1 uniqueId
  getting : ∀ k call key, (w.procs k).phase = .getting call key →
    ∃ c, key = (getXCCLStoreKey c).1 ∧
      (⟨(w.procs k).calls, .drewKey key⟩ : Record idBytes) ∈ (w.procs k).log
  exchanged : ∀ k j uniqueId,
    (⟨j, .exchanged uniqueId⟩ : Record idBytes) ∈ (w.procs k).log →
    ∃ key, (⟨j, .drewKey key⟩ : Record idBytes) ∈ (w.procs k).log ∧
      PublishedBy w key uniqueId
  no_size_error : ∀ k j,
    (⟨j, .threw .invalidUniqueIdSize⟩ : Record idBytes) ∉ (w.procs k).log

theorem Agreement.start {w : World n idBytes}
    (hprocs : ∀ k, (w.procs k).phase = .idle ∧ (w.procs k).log = [])
    (hkv : ∀ c, w.kv (getXCCLStoreKey c).1 = none) : Agreement w where
  kv_published c vec hc := by simp [hkv c] at hc
  getting k call key hp := by simp [(hprocs k).1] at hp
  exchanged k j uniqueId hm := by simp [(hprocs k).2] at hm
  no_size_error k j := by simp [(hprocs k).2]

/-- Rank `i` moves to `r` and the store to `kv`: the invariant holds again when the new store
entries, the rank's new wait and the identifiers it newly returned are accounted for. -/
theorem Agreement.set {w : World n idBytes} (h : Agreement w) {i : Fin n} {r : Rank idBytes}
    {kv : KVStore} (hrank : r.bootstrap.rank = (w.procs i).bootstrap.rank)
    (hlog : (w.procs i).log <+: r.log)
    (hkv : ∀ c vec, kv (getXCCLStoreKey c).1 = some vec →
      w.kv (getXCCLStoreKey c).1 = some vec ∨
      ∃ uniqueId : OnecclUniqueId idBytes, vec = uniqueId.internal ∧
        PublishedBy (w.set i r kv) (getXCCLStoreKey c).1 uniqueId)
    (hgetting : ∀ call key, r.phase = .getting call key →
      ∃ c, key = (getXCCLStoreKey c).1 ∧
        (⟨r.calls, .drewKey key⟩ : Record idBytes) ∈ r.log)
    (hexchanged : ∀ j uniqueId, (⟨j, .exchanged uniqueId⟩ : Record idBytes) ∈ r.log →
      (⟨j, .exchanged uniqueId⟩ : Record idBytes) ∈ (w.procs i).log ∨
        ∃ key, (⟨j, .drewKey key⟩ : Record idBytes) ∈ r.log ∧
          PublishedBy (w.set i r kv) key uniqueId)
    (hsize : ∀ j, (⟨j, .threw .invalidUniqueIdSize⟩ : Record idBytes) ∈ r.log →
      (⟨j, .threw .invalidUniqueIdSize⟩ : Record idBytes) ∈ (w.procs i).log) :
    Agreement (w.set i r kv) := by
  have mono := fun key uniqueId (hp : PublishedBy w key uniqueId) => hp.set kv hrank hlog
  refine ⟨fun c vec hc => ?_, fun k call key hp => ?_, fun k j uniqueId hm => ?_,
    fun k j hm => ?_⟩
  · rcases hkv c vec (by simpa using hc) with hold | hnew
    · obtain ⟨uniqueId, hv, hp⟩ := h.kv_published c vec hold
      exact ⟨uniqueId, hv, mono _ _ hp⟩
    · exact hnew
  · by_cases hk : k = i
    · subst hk
      simpa using hgetting call key (by simpa using hp)
    · simpa [hk] using h.getting k call key (by simpa [hk] using hp)
  · by_cases hk : k = i
    · subst hk
      rcases hexchanged j uniqueId (by simpa using hm) with hold | hnew
      · obtain ⟨key, hd, hp⟩ := h.exchanged k j uniqueId hold
        exact ⟨key, by simpa using hlog.subset hd, mono _ _ hp⟩
      · simpa using hnew
    · obtain ⟨key, hd, hp⟩ := h.exchanged k j uniqueId (by simpa [hk] using hm)
      exact ⟨key, by simpa [hk] using hd, mono _ _ hp⟩
  · by_cases hk : k = i
    · subst hk
      exact h.no_size_error k j (hsize j (by simpa using hm))
    · exact h.no_size_error k j (by simpa [hk] using hm)

/-- A move that neither waits on a key nor returns an identifier nor reports a bad size. -/
theorem Agreement.quiet {w : World n idBytes} (h : Agreement w) {i : Fin n} {r : Rank idBytes}
    (hrank : r.bootstrap.rank = (w.procs i).bootstrap.rank) (hlog : (w.procs i).log <+: r.log)
    (hgetting : ∀ call key, r.phase ≠ .getting call key)
    (hexchanged : ∀ j uniqueId, (⟨j, .exchanged uniqueId⟩ : Record idBytes) ∈ r.log →
      (⟨j, .exchanged uniqueId⟩ : Record idBytes) ∈ (w.procs i).log)
    (hsize : ∀ j, (⟨j, .threw .invalidUniqueIdSize⟩ : Record idBytes) ∈ r.log →
      (⟨j, .threw .invalidUniqueIdSize⟩ : Record idBytes) ∈ (w.procs i).log) :
    Agreement (w.set i r w.kv) :=
  h.set hrank hlog (fun _ _ hc => .inl hc) (fun call key hp => absurd hp (hgetting call key))
    (fun j uniqueId hm => .inl (hexchanged j uniqueId hm)) hsize

/-- `exchangeUniqueIdStore` of rank `i`, from a state `q` of its current call that has returned
no identifier yet. -/
theorem Agreement.exchangeUniqueIdStore {w : World n idBytes} (h : Agreement w) (i : Fin n)
    (q : Rank idBytes) (hrank : q.bootstrap.rank = (w.procs i).bootstrap.rank)
    (hlog : (w.procs i).log <+: q.log)
    (hexchanged : ∀ j uniqueId, (⟨j, .exchanged uniqueId⟩ : Record idBytes) ∈ q.log →
      (⟨j, .exchanged uniqueId⟩ : Record idBytes) ∈ (w.procs i).log)
    (hsize : ∀ j, (⟨j, .threw .invalidUniqueIdSize⟩ : Record idBytes) ∈ q.log →
      (⟨j, .threw .invalidUniqueIdSize⟩ : Record idBytes) ∈ (w.procs i).log)
    (call : CommCall) (ans : ExchangeAnswers idBytes) :
    Agreement (w.set i (q.exchangeUniqueIdStore w.kv call ans).1
      (q.exchangeUniqueIdStore w.kv call ans).2) := by
  have hlog' : ∀ new, (w.procs i).log <+: q.log ++ new := fun new =>
    hlog.trans (List.prefix_append _ _)
  rcases Rank.exchangeUniqueIdStore_cases q w.kv call ans with
    ⟨e, heq, he⟩ | ⟨-, heq⟩ | ⟨uniqueId, hzero, heq⟩ <;> rw [heq] <;> dsimp only <;>
    set key := (getXCCLStoreKey q.counter).1
  · exact h.quiet hrank (by simpa using hlog' _) (by simp)
      (fun j uniqueId hm => hexchanged j uniqueId (by simpa using hm))
      (fun j hm => hsize j (by simpa [Ne.symm he] using hm))
  · refine h.set hrank (by simpa using hlog' _) (fun _ _ hc => .inl hc) ?_
      (fun j uniqueId hm => .inl (hexchanged j uniqueId (by simpa using hm)))
      (fun j hm => hsize j (by simpa using hm))
    intro call key' hp
    obtain rfl : key' = key := by simp at hp; exact hp.2.symm
    exact ⟨q.counter, rfl, by simp⟩
  · have hpub : PublishedBy (w.set i (((q.drawKey.record (.published key uniqueId)).record
        (.exchanged uniqueId)).goto (.exchanged call uniqueId))
        (Function.update w.kv key (some uniqueId.internal))) key uniqueId :=
      ⟨i, q.calls, by simpa using hzero, by simp⟩
    refine h.set hrank (by simpa using hlog' _) (fun c vec hc => ?_) (by simp)
      (fun j uniqueId' hm => ?_) (fun j hm => hsize j (by simpa using hm))
    · rw [Function.update_apply] at hc
      split_ifs at hc with hc'
      · exact .inr ⟨uniqueId, (Option.some.inj hc).symm, hc' ▸ hpub⟩
      · exact .inl hc
    · simp only [Rank.goto_log, Rank.record_log, Rank.drawKey_log, Rank.drawKey_calls,
        Rank.record_calls, List.append_assoc, List.singleton_append, List.mem_append,
        List.mem_cons, Record.mk.injEq, reduceCtorEq, and_false, Event.exchanged.injEq,
        false_or, List.mem_singleton, List.not_mem_nil, or_false] at hm
      rcases hm with hm | ⟨rfl, rfl⟩
      · exact .inl (hexchanged j uniqueId' hm)
      · exact .inr ⟨key, by simp, hpub⟩

/-- Every step of the job keeps the invariant. -/
theorem Agreement.step {w w' : World n idBytes} (h : Agreement w)
    (hstep : Step initializer barrierDone w w') : Agreement w' := by
  cases hstep with
  | call i call ans hidle =>
    have hk := (Rank.Step.call w.kv call ans hidle : Rank.Step initializer _ _).keeps
    let r₁ : Rank idBytes := { w.procs i with calls := (w.procs i).calls + 1 }
    rcases Rank.exchangeUniqueId_cases r₁ w.kv call ans with
      ⟨-, heq⟩ | ⟨-, e, heq, he⟩ | ⟨-, e, heq, he⟩ | ⟨-, s, heq⟩ <;>
      rw [Rank.createXcclComm, heq] at hk ⊢
    · exact h.exchangeUniqueIdStore i r₁ rfl (List.prefix_refl _) (fun _ _ => id) (fun _ => id)
        call ans
    · exact h.quiet hk.1 hk.2 (by simp) (by simp) (by simp [Ne.symm he])
    · exact h.quiet hk.1 hk.2 (by simp) (by simp) (by simp [Ne.symm he])
    · exact h.exchangeUniqueIdStore i (r₁.acquireStore s) rfl (by simp) (by simp) (by simp)
        call ans
  | @fetch i call key got hphase hgot =>
    have hk := (Rank.Step.fetch got hphase : Rank.Step initializer _ _).keeps
    obtain ⟨c, rfl, hdrew⟩ := h.getting i call key hphase
    rcases Rank.fetchUniqueId_cases (w.procs i) call got with
      ⟨what, -, heq⟩ | ⟨vec, rfl, hlen, -⟩ | ⟨uniqueId, rfl, heq⟩
    · rw [heq] at hk ⊢
      exact h.quiet hk.1 hk.2 (by simp) (by simp) (by simp)
    · obtain ⟨uniqueId, rfl, -⟩ := h.kv_published c vec (hgot vec rfl)
      exact absurd uniqueId.length_internal hlen
    · rw [heq] at hk ⊢
      obtain ⟨uniqueId', hbytes, hpub⟩ := h.kv_published c _ (hgot _ rfl)
      obtain rfl : uniqueId' = uniqueId := OnecclUniqueId.ext_internal hbytes.symm
      refine h.set hk.1 hk.2 (fun _ _ hc => .inl hc) (by simp) (fun j uniqueId' hm => ?_)
        (by simp)
      simp only [Rank.goto_log, Rank.record_log, List.mem_append, List.mem_singleton,
        Record.mk.injEq, Event.exchanged.injEq] at hm
      rcases hm with hm | ⟨rfl, rfl⟩
      · exact .inl hm
      · exact .inr ⟨_, by simp [hdrew], hpub.set _ hk.1 hk.2⟩
  | @init i call uniqueId ans hphase =>
    have hk := (Rank.Step.init ans hphase : Rank.Step initializer _ _).keeps
    rcases Rank.initComm_cases initializer (w.procs i) call uniqueId ans with
      ⟨e, heq, he⟩ | ⟨config, ⟨e, heq, he⟩ | ⟨comm, heq⟩⟩ <;> rw [heq] at hk ⊢
    · exact h.quiet hk.1 hk.2 (by simp) (by simp) (by simp [Ne.symm he])
    · exact h.quiet hk.1 hk.2 (by simp) (by simp) (by simp [Ne.symm he])
    · rcases Rank.cleanupTCPStore_cases (w.procs i |>.record _) comm ans.allReduce with
        ⟨-, heq'⟩ | ⟨-, heq'⟩ <;> rw [heq'] at hk ⊢ <;>
        exact h.quiet hk.1 hk.2 (by simp) (by simp) (by simp)
  | @sync i comm status hphase _ =>
    have hk := (Rank.Step.sync status hphase : Rank.Step initializer _ _).keeps
    rcases Rank.finishCleanup_cases (w.procs i) comm status with ⟨-, heq⟩ | ⟨e, heq, he⟩ <;>
      rw [heq] at hk ⊢
    · exact h.quiet hk.1 hk.2 (by simp) (by simp) (by simp)
    · exact h.quiet hk.1 hk.2 (by simp) (by simp) (by simp [Ne.symm he])

theorem Agreement.reachable {start w : World n idBytes} (h : Agreement start)
    (hw : Reachable initializer barrierDone start w) : Agreement w := by
  induction hw with
  | refl => exact h
  | step _ hstep ih => exact ih.step hstep

/-! ### Every run of the job -/

/-- **Identity convergence.** From ranks that have not started and a store without store keys,
along every interleaving: every identifier a call of any rank returns from `exchangeUniqueId` was
generated by a rank-0 process and set under the key that same call drew, and no rank ever throws
"Invalid XCCL unique ID size". -/
theorem exchangedIdentity_published {start w : World n idBytes}
    (hprocs : ∀ k, (start.procs k).phase = .idle ∧ (start.procs k).log = [])
    (hkv : ∀ c, start.kv (getXCCLStoreKey c).1 = none)
    (hw : Reachable initializer barrierDone start w) :
    (∀ k j uniqueId, (⟨j, .exchanged uniqueId⟩ : Record idBytes) ∈ (w.procs k).log →
      ∃ key, (⟨j, .drewKey key⟩ : Record idBytes) ∈ (w.procs k).log ∧
        ∃ i j₀, (w.procs i).bootstrap.rank = 0 ∧
          (⟨j₀, .published key uniqueId⟩ : Record idBytes) ∈ (w.procs i).log) ∧
    ∀ k j, (⟨j, .threw .invalidUniqueIdSize⟩ : Record idBytes) ∉ (w.procs k).log :=
  have h := (Agreement.start hprocs hkv).reachable hw
  ⟨h.exchanged, h.no_size_error⟩

theorem exchangedIdentity_published_twoRanks :
    let w := twoRanksSynchronizing
    ((∀ k, (twoRanks.procs k).phase = .idle ∧ (twoRanks.procs k).log = []) ∧
      (∀ c, twoRanks.kv (getXCCLStoreKey c).1 = none) ∧
      Reachable default barrierIssued twoRanks w) ∧
      (∀ k j uniqueId, (⟨j, .exchanged uniqueId⟩ : Record 1) ∈ (w.procs k).log →
        ∃ key, (⟨j, .drewKey key⟩ : Record 1) ∈ (w.procs k).log ∧
          ∃ i j₀, (w.procs i).bootstrap.rank = 0 ∧
            (⟨j₀, .published key uniqueId⟩ : Record 1) ∈ (w.procs i).log) ∧
      ∀ k j, (⟨j, .threw .invalidUniqueIdSize⟩ : Record 1) ∉ (w.procs k).log := by
  refine ⟨⟨?hp, ?hkv, ?hw⟩, exchangedIdentity_published ?hp ?hkv ?hw⟩
  · exact fun _ => ⟨rfl, rfl⟩
  · exact fun _ => rfl
  · exact twoRanksSynchronizing_reachable

/-- Rank 0's first call fails in `StoreManager::getStore`, before it draws a key; rank 1's first
call draws key `0` and waits on it; rank 0's second call draws key `0` too and publishes there.
Rank 1's first call then returns the identifier of rank 0's second call. -/
theorem exchangedIdentity_of_call_counterexample :
    ¬ ∀ w : World 2 1, Reachable default barrierIssued twoRanks w →
      ∀ j uniqueId, (⟨j, .exchanged uniqueId⟩ : Record 1) ∈ (w.procs 1).log →
        ∃ key, (⟨j, .published key uniqueId⟩ : Record 1) ∈ (w.procs 0).log := by
  intro h
  let call : CommCall := ⟨"world", []⟩
  let uniqueId : OnecclUniqueId 1 := ⟨[7], rfl⟩
  have hr := Reachable.step (Reachable.step (Reachable.step (Reachable.step
    (Reachable.refl : Reachable default barrierIssued twoRanks twoRanks)
    (Step.call 0 call ⟨true, .error "refused", .error "", .ok ()⟩ rfl))
    (Step.call 1 call ⟨true, .ok 0, .error "", .ok ()⟩ rfl))
    (Step.call 0 call ⟨true, .ok 0, .ok uniqueId, .ok ()⟩ rfl))
    (Step.fetch 1 (.ok [7]) rfl (by rintro _ ⟨⟩; decide))
  obtain ⟨key, hkey⟩ := h _ hr 1 uniqueId (by decide)
  have hpub := List.mem_map_of_mem (fun e : Record 1 => (e.call, match e.event with
    | .published _ uniqueId => some uniqueId
    | _ => none)) hkey
  dsimp only at hpub
  exact absurd hpub (by decide)

end World

end TorchComms
