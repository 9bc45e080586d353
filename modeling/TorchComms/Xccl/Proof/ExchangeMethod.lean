import TorchComms.Xccl.Constructor
import TorchComms.Xccl.Proof.Ownership

/-!
# The unique-ID exchange method

The constructor reads `TORCHCOMM_XCCL_BOOTSTRAP_UNIQUEID_EXCHANGE_METHOD` once, falls back to
`kUniqueidXchgMethodDefault`, lower-cases the value and keeps it in `uniqueid_xchg_method_`.
Nothing checks it there. `exchangeUniqueId` compares it with "auto" and "tcpstore" on each call,
and only when the constructor was given no store. So an unknown method never stops the
constructor. With a store it is never looked at. Without one, every `createXcclComm` throws
"Invalid unique ID exchange method" before it draws a key or asks `StoreManager` for a store,
and nothing else ever happens.

`Step.keepsMethod` says what every other segment does with the method: it keeps it and logs no
rejection. `Step.of_rejectsMethod` says what a call does when the check fires. The theorem over
runs joins the two with what the constructor stores.
-/

namespace TorchComms

variable {idBytes : Nat} {initializer : OnecclConfig}

/-- The guard of the method check in `exchangeUniqueId`: no store, and a method other than
"auto" and "tcpstore". -/
def TorchCommXCCLBootstrap.rejectsMethod (b : TorchCommXCCLBootstrap) : Prop :=
  b.store = none ∧ b.uniqueidXchgMethod ≠ kUniqueidXchgMethodAuto ∧
    b.uniqueidXchgMethod ≠ kUniqueidXchgMethodTCPStore

/-- What the constructor stores: the store it was given, no ownership, and the lower-cased
method. -/
theorem TorchCommXCCLBootstrap.create_bootstrap {store : Option StoreRef} {device : Int}
    {ans : ConstructorAnswers} {s s' : XpuState} {b : TorchCommXCCLBootstrap}
    (h : TorchCommXCCLBootstrap.create store device ans s = (.ok b, s')) :
    b.store = store ∧ b.createdInternalStore = false ∧
      b.uniqueidXchgMethod = (ans.uniqueidXchgEnv.getD kUniqueidXchgMethodDefault).map
        Char.toLower := by
  unfold TorchCommXCCLBootstrap.create at h
  split at h
  · simp at h
  · split at h
    · obtain ⟨⟨⟩⟩ := (Prod.mk.inj h).1
      exact ⟨rfl, rfl, rfl⟩
    · simp at h

namespace Rank

/-- A segment keeps the method and logs no rejection. -/
def KeepsMethod (r r' : Rank idBytes) : Prop :=
  r'.bootstrap.uniqueidXchgMethod = r.bootstrap.uniqueidXchgMethod ∧
    ∀ {j m}, (⟨j, .threw (.invalidExchangeMethod m)⟩ : Record idBytes) ∈ r'.log →
      ⟨j, .threw (.invalidExchangeMethod m)⟩ ∈ r.log

theorem KeepsMethod.trans {r₁ r₂ r₃ : Rank idBytes} (h₁ : KeepsMethod r₁ r₂)
    (h₂ : KeepsMethod r₂ r₃) : KeepsMethod r₁ r₃ :=
  ⟨h₂.1.trans h₁.1, fun h => h₁.2 (h₂.2 h)⟩

theorem exchangeUniqueIdStore_keepsMethod (r : Rank idBytes) (kv : KVStore) (call : CommCall)
    (ans : ExchangeAnswers idBytes) : KeepsMethod r (r.exchangeUniqueIdStore kv call ans).1 := by
  dsimp only [exchangeUniqueIdStore]
  split_ifs
  · rcases ans.getUniqueId with _ | _
    · simp [KeepsMethod]
    · rcases ans.set with _ | _ <;> simp [KeepsMethod]
  · simp [KeepsMethod]

/-- Every segment but a call that fails the method check keeps the method and logs no
rejection. -/
theorem Step.keepsMethod {r r' : Rank idBytes} (hstep : Step initializer r r')
    (h : ¬ (r.phase = .idle ∧ r.bootstrap.rejectsMethod)) : KeepsMethod r r' := by
  cases hstep with
  | call kv call ans hidle =>
    have hcalls : KeepsMethod r { r with calls := r.calls + 1 } := ⟨rfl, id⟩
    dsimp only [createXcclComm, exchangeUniqueId]
    rcases hstore : r.bootstrap.store with _ | S
    · have hmethod := fun hm => h ⟨hidle, hstore, hm⟩
      simp only [hstore]
      split_ifs with hm
      · exact (hmethod hm).elim
      · simp [KeepsMethod]
      · unfold exchangeUniqueIdTCPStore
        split
        · simp [KeepsMethod]
        · exact hcalls.trans <| (by simp [KeepsMethod] : KeepsMethod _ (acquireStore _ _)).trans
            (exchangeUniqueIdStore_keepsMethod _ kv call ans)
    · simp only [hstore]
      exact hcalls.trans (exchangeUniqueIdStore_keepsMethod _ kv call ans)
  | fetch got _ =>
    rcases fetchUniqueId_cases r _ got with
      ⟨_, -, heq⟩ | ⟨_, -, -, heq⟩ | ⟨_, -, heq⟩ <;> rw [heq] <;> simp [KeepsMethod]
  | init ans _ =>
    dsimp only [initComm, cleanupTCPStore]
    split
    · simp [KeepsMethod]
    · split
      · split_ifs <;> simp [KeepsMethod]
      · simp [KeepsMethod]
  | sync status _ =>
    unfold finishCleanup
    split_ifs <;> simp [KeepsMethod]

/-- A call that fails the method check throws at once, with the method in the message. -/
theorem Step.of_rejectsMethod {r r' : Rank idBytes} (hstep : Step initializer r r')
    (hidle : r.phase = .idle) (h : r.bootstrap.rejectsMethod) :
    r' = { r with calls := r.calls + 1 }.throw
      (.invalidExchangeMethod r.bootstrap.uniqueidXchgMethod) := by
  cases hstep with
  | call kv call ans _ => simp [createXcclComm, exchangeUniqueId, h.1, h.2]
  | fetch _ hphase | init _ hphase | sync _ hphase => rw [hidle] at hphase; cases hphase

/-- From a bootstrap that fails the method check, every call is rejected and nothing else
changes. -/
theorem Reachable.of_rejectsMethod {b : TorchCommXCCLBootstrap} (hb : b.rejectsMethod)
    {counter : BitVec 32} {r : Rank idBytes} (hr : Reachable initializer (init b counter) r) :
    r.bootstrap = b ∧ r.counter = counter ∧ r.phase = .idle ∧
      ∀ e ∈ r.log, e.event = .threw (.invalidExchangeMethod b.uniqueidXchgMethod) := by
  induction hr with
  | refl => simp [init]
  | step _ hstep ih =>
    obtain ⟨hbr, hcounter, hidle, hlog⟩ := ih
    rw [hstep.of_rejectsMethod hidle (hbr ▸ hb), hbr]
    refine ⟨rfl, hcounter, rfl, fun e he => ?_⟩
    rcases List.mem_append.1 he with he | he
    · exact hlog e he
    · rw [List.mem_singleton.1 he]

end Rank

open Rank in
/-- **The exchange method is checked on use.** After a constructor that succeeds, along every run
of `createXcclComm` calls with any answers: when the constructor was given a store, or the
lower-cased method is "auto" or "tcpstore", no call is ever rejected for its method; when it was
given no store and the method is another one, the bootstrap and the key counter never change and
every call is rejected for that method. -/
theorem exchangeMethod_checked_on_use {store : Option StoreRef} {device : Int}
    {ans : ConstructorAnswers} {s s' : XpuState} {b : TorchCommXCCLBootstrap}
    (h : TorchCommXCCLBootstrap.create store device ans s = (.ok b, s')) (counter : BitVec 32)
    {r : Rank idBytes} (hr : Reachable initializer (init b counter) r) :
    let method := (ans.uniqueidXchgEnv.getD kUniqueidXchgMethodDefault).map Char.toLower
    ((store.isSome ∨ method = kUniqueidXchgMethodAuto ∨ method = kUniqueidXchgMethodTCPStore) →
        ∀ e ∈ r.log, ∀ m, e.event ≠ .threw (.invalidExchangeMethod m)) ∧
      (store = none → method ≠ kUniqueidXchgMethodAuto → method ≠ kUniqueidXchgMethodTCPStore →
        r.bootstrap = b ∧ r.counter = counter ∧
          ∀ e ∈ r.log, e.event = .threw (.invalidExchangeMethod method)) := by
  obtain ⟨hstore, hcreated, hmethod⟩ := TorchCommXCCLBootstrap.create_bootstrap h
  refine ⟨fun hok => ?_, fun hnone hauto htcp => ?_⟩
  · have hkeeps : KeepsMethod (init b counter) r := by
      induction hr with
      | refl => exact ⟨rfl, id⟩
      | step hr₁ hstep ih =>
        refine ih.trans (hstep.keepsMethod fun ⟨_, hnone, hauto, htcp⟩ => ?_)
        rcases hok with hsome | hok
        · obtain ⟨S, hS⟩ := Option.isSome_iff_exists.1 hsome
          have := (BorrowedStore.reachable ⟨hstore ▸ hS, hcreated, by simp [init]⟩ hr₁).store_eq
          simp [hnone] at this
        · simp only [ih.1, init, hmethod] at hauto htcp
          exact hok.elim hauto htcp
    rintro ⟨j, _⟩ he m rfl
    simpa [init] using hkeeps.2 he
  · obtain ⟨hb, hcounter, -, hlog⟩ := hr.of_rejectsMethod ⟨hstore ▸ hnone, hmethod ▸ hauto,
      hmethod ▸ htcp⟩
    exact ⟨hb, hcounter, hmethod ▸ hlog⟩

/-- No store and the method "TCP", which lower-cases to neither known method: the first call is
rejected. -/
theorem exchangeMethod_checked_on_use_misspelled :
    let env : LevelZeroEnv := ⟨(.success, 1), (.success, [5]), fun _ => (.success, 2),
      fun _ => (.success, [7, 8]), fun _ => (.success, false), (.success, 9)⟩
    let ans : ConstructorAnswers := ⟨(0, 1), some "TCP", env, env, env, (.success, 42)⟩
    let b : TorchCommXCCLBootstrap := ⟨0, 1, none, false, "TCP".map Char.toLower, 0, 42⟩
    let r := ((Rank.init b 0 : Rank 1).createXcclComm (fun _ => none) ⟨"world", []⟩
      ⟨true, .error "", .error "", .ok ()⟩).1
    let method := (ans.uniqueidXchgEnv.getD kUniqueidXchgMethodDefault).map Char.toLower
    (TorchCommXCCLBootstrap.create none 0 ans .initial =
        (.ok b, (TorchCommXCCLBootstrap.create none 0 ans .initial).2) ∧
      Rank.Reachable default (Rank.init b 0) r) ∧
    (((none : Option StoreRef).isSome ∨ method = kUniqueidXchgMethodAuto ∨
          method = kUniqueidXchgMethodTCPStore) →
        ∀ e ∈ r.log, ∀ m, e.event ≠ .threw (.invalidExchangeMethod m)) ∧
      ((none : Option StoreRef) = none → method ≠ kUniqueidXchgMethodAuto →
        method ≠ kUniqueidXchgMethodTCPStore →
        r.bootstrap = b ∧ r.counter = 0 ∧
          ∀ e ∈ r.log, e.event = .threw (.invalidExchangeMethod method)) := by
  refine ⟨⟨?h, ?hr⟩, exchangeMethod_checked_on_use ?h 0 ?hr⟩
  · rfl
  · exact .step .refl (.call _ _ _ rfl)

end TorchComms
