import TorchComms.Xccl.Constructor
import TorchComms.Device.Proof.Bounds

/-!
# What the constructor and the destructor do

**The device.** With no device index the constructor takes `rank_ % device_count`, where
`device_count` is what `getDeviceCount` wrote, and then calls `setDevice` on it. `getDeviceCount`
succeeds only once `initLevelZero` has installed a non-empty device array, whose length it reports;
`setDevice` finds the same cached globals and checks the index against the same length. So the
divisor is positive and the chosen index is accepted, as long as it survives the trip through
`c10::Device`, whose index is an `int8_t`: with at most 128 devices it does, while with 129 devices
rank 128 becomes device `-128`, which `setDevice` refuses. Past `INT_MAX` devices the cast
`(int)g_device_count` turns negative as well. Once selected, the device stays valid for the rest of
the process: after a successful `initLevelZero` no method and no device completion changes the
cached globals, so `setDevice` keeps accepting it.

**The barrier buffer.** Of the device calls the constructor makes, only `malloc` allocates, and
the destructor frees what it allocated, once, ending in `std::terminate` when `free` fails.
-/

namespace TorchComms

theorem XpuState.initLevelZero_of_initialized {s : XpuState} (env : LevelZeroEnv)
    (h : s.globals.initialized = true) : s.initLevelZero env = (.success, s) := by
  rw [XpuState.initLevelZero, TorchComms.initLevelZero_of_initialized env h]

namespace DefaultXpuApi

/-- `setDevice` on an initialised process with an index inside the array changes nothing. -/
theorem setDevice_of_initialized (env : LevelZeroEnv) (s : XpuState)
    (h : s.globals.initialized = true) {device : Int} (h0 : 0 ≤ device)
    (hlt : device < toCInt s.globals.deviceCount) : setDevice env device s = (.success, s) := by
  rw [setDevice, initThen_of_success (by rw [initLevelZero_of_initialized env h]),
    XpuState.initLevelZero_of_initialized env h]
  simp only [if_neg (show ¬(device < 0 ∨ device ≥ toCInt s.globals.deviceCount) by omega)]

/-- A head whose body keeps the log keeps the log. -/
theorem initThen_log {α : Type} {env : LevelZeroEnv} {fail : ZeResult → α}
    {body : XpuState → α × XpuState} (hbody : ∀ s, (body s).2.log = s.log) (s : XpuState) :
    (initThen env fail body s).2.log = s.log := by
  by_cases h : (initLevelZero env s.globals).1 = .success
  · rw [initThen_of_success h, hbody]
    rfl
  · rw [initThen_of_failure h]
    rfl

theorem getDeviceCount_log (env : LevelZeroEnv) (countNull : Bool) (s : XpuState) :
    (getDeviceCount env countNull s).2.log = s.log :=
  initThen_log (fun _ => by split_ifs <;> rfl) s

theorem setDevice_log (env : LevelZeroEnv) (device : Int) (s : XpuState) :
    (setDevice env device s).2.log = s.log :=
  initThen_log (fun _ => by split_ifs <;> rfl) s

/-- A successful `malloc` reads `g_devices[0]` and allocates what `zeMemAllocDevice` answered. -/
theorem malloc_of_success {env : LevelZeroEnv} {size : Nat} {alloc : ZeResult × DevicePtr}
    {s : XpuState} {ptr : Option DevicePtr}
    (h : (malloc env false size alloc s).1 = (.success, ptr)) :
    ptr = some alloc.2 ∧ ∃ c, (malloc env false size alloc s).2.log =
      s.log ++ [.devicesRead 0 c, .memAllocDevice alloc.2 size] := by
  by_cases hinit : (initLevelZero env s.globals).1 = .success
  · rw [malloc, initThen_of_success hinit] at h ⊢
    by_cases hsize : size = 0
    · simp [hsize] at h
    · obtain ⟨result, p⟩ := alloc
      simp only [Bool.false_eq_true, if_false, hsize] at h ⊢
      split at h
      · next ptr' hp =>
        obtain ⟨rfl, rfl⟩ := Prod.mk.inj hp
        obtain ⟨-, rfl⟩ := Prod.mk.inj h
        exact ⟨rfl, (s.initLevelZero env).2.globals.deviceCount, by simp⟩
      · simp_all
  · rw [malloc, initThen_of_failure hinit] at h
    exact absurd (Prod.mk.inj h).1 hinit

end DefaultXpuApi

/-- A successful `setDevice` leaves an initialised process and an index inside the array. -/
theorem DefaultXpuApi.setDevice_of_success {env : LevelZeroEnv} {device : Int} {s : XpuState}
    (h : (DefaultXpuApi.setDevice env device s).1 = .success) :
    (DefaultXpuApi.setDevice env device s).2.globals.initialized = true ∧ 0 ≤ device ∧
      device < toCInt (DefaultXpuApi.setDevice env device s).2.globals.deviceCount := by
  by_cases hinit : (initLevelZero env s.globals).1 = .success
  · rw [DefaultXpuApi.setDevice, DefaultXpuApi.initThen_of_success hinit] at h ⊢
    have hinitialized := initialized_of_initLevelZero env s.globals hinit
    split_ifs at h ⊢ with hbound
    refine ⟨hinitialized, ?_, ?_⟩ <;> dsimp only at hbound ⊢ <;> omega
  · rw [DefaultXpuApi.setDevice, DefaultXpuApi.initThen_of_failure hinit] at h
    exact absurd h hinit

/-- The device block succeeds only on an initialised process, with an index inside the array. -/
theorem TorchCommXCCLBootstrap.selectDevice_of_ok {countEnv setEnv : LevelZeroEnv} {rank : Nat}
    {device d : Int} {s s' : XpuState}
    (h : TorchCommXCCLBootstrap.selectDevice countEnv setEnv rank device s = (.ok d, s')) :
    s'.globals.initialized = true ∧ 0 ≤ d ∧ d < toCInt s'.globals.deviceCount := by
  unfold TorchCommXCCLBootstrap.selectDevice at h
  rcases hdefault : defaultDevice countEnv rank device s with ⟨_ | d₁, s₁⟩ <;> rw [hdefault] at h
  · cases h
  · rcases hset : DefaultXpuApi.setDevice setEnv d₁ s₁ with ⟨result, s₂⟩
    have hok := @DefaultXpuApi.setDevice_of_success setEnv d₁ s₁
    dsimp only at h
    rw [hset] at h hok
    cases result <;> simp at h
    obtain ⟨rfl, rfl⟩ := h
    exact hok rfl

/-- Once `initLevelZero` has succeeded, no step changes the device globals. -/
theorem XpuStep.globals_of_initialized {s s' : XpuState} (hstep : XpuStep s s')
    (h : s.globals.initialized = true) : s'.globals = s.globals := by
  cases hstep with
  | call op => exact op.run_globals_of_initialized h
  | finish => rfl

theorem globals_of_run {s s' : XpuState} (hrun : Relation.ReflTransGen XpuStep s s')
    (h : s.globals.initialized = true) : s'.globals = s.globals := by
  induction hrun with
  | refl => rfl
  | tail _ hstep ih => exact (hstep.globals_of_initialized (ih ▸ h)).trans ih

/-- **The selected device stays valid.** Once the constructor's device block has selected `d`,
every later run of the process (any `DefaultXpuApi` calls, with any Level Zero answers, and any
device completions) leaves the device globals as they were, and `setDevice(d)` keeps succeeding
without changing anything. -/
theorem selectDevice_stays_valid {countEnv setEnv : LevelZeroEnv} {rank : Nat} {device d : Int}
    {s s' s'' : XpuState}
    (h : TorchCommXCCLBootstrap.selectDevice countEnv setEnv rank device s = (.ok d, s'))
    (hrun : Relation.ReflTransGen XpuStep s' s'') (env : LevelZeroEnv) :
    s''.globals = s'.globals ∧ DefaultXpuApi.setDevice env d s'' = (.success, s'') := by
  obtain ⟨hinit, h0, hlt⟩ := TorchCommXCCLBootstrap.selectDevice_of_ok h
  have hglobals := globals_of_run hrun hinit
  exact ⟨hglobals, DefaultXpuApi.setDevice_of_initialized env s'' (hglobals ▸ hinit) h0
    (hglobals ▸ hlt)⟩

/-- Rank 3 on a machine with two discrete devices selects device 1, which stays valid across an
allocation. -/
theorem selectDevice_stays_valid_two :
    let env : LevelZeroEnv := ⟨(.success, 1), (.success, [5]), fun _ => (.success, 2),
      fun _ => (.success, [7, 8]), fun _ => (.success, false), (.success, 9)⟩
    let s' := (DefaultXpuApi.getDeviceCount env false .initial).2
    let s'' := (XpuOp.malloc env false 4 (.success, 42)).run s'
    (TorchCommXCCLBootstrap.selectDevice env env 3 (-1) .initial = (.ok 1, s') ∧
      Relation.ReflTransGen XpuStep s' s'') ∧
      s''.globals = s'.globals ∧ DefaultXpuApi.setDevice env 1 s'' = (.success, s'') := by
  refine ⟨⟨?h, ?hrun⟩, selectDevice_stays_valid ?h ?hrun _⟩
  · rfl
  · exact .single (.call _ _)

/-! ### The barrier buffer -/

/-- Device memory allocated or freed. -/
def XpuEvent.isMemory : XpuEvent → Bool
  | .memAllocDevice _ _ | .memFree _ => true
  | _ => false

namespace TorchCommXCCLBootstrap

theorem selectDevice_log (countEnv setEnv : LevelZeroEnv) (rank : Nat) (device : Int)
    (s : XpuState) : (selectDevice countEnv setEnv rank device s).2.log = s.log := by
  have hdefault : (defaultDevice countEnv rank device s).2.log = s.log := by
    unfold defaultDevice
    split_ifs
    · rfl
    · split <;> next heq => simp [← DefaultXpuApi.getDeviceCount_log countEnv false s, heq]
  unfold selectDevice
  split
  · next heq =>
    rw [heq] at hdefault
    exact hdefault
  · next d s₁ heq =>
    rw [heq] at hdefault
    have hset := DefaultXpuApi.setDevice_log setEnv d s₁
    split <;> next heq' =>
      rw [heq'] at hset
      exact hset.trans hdefault

/-- The destructor frees a buffer it holds, whatever `zeMemFree` answers. -/
theorem destroy_log {b : TorchCommXCCLBootstrap} (hptr : b.barrierBuffer ≠ 0) (status : ZeResult)
    (s : XpuState) : (destroy b status s).2.log = s.log ++ [.memFree b.barrierBuffer] := by
  simp only [destroy, ne_eq, hptr, not_false_eq_true, if_true, DefaultXpuApi.free, if_false]
  split <;> next heq => simp [← (Prod.mk.inj heq).2]

/-- A successful constructor holds the buffer its `malloc` allocated, and allocated nothing else. -/
theorem create_log {store : Option StoreRef} {device : Int} {ans : ConstructorAnswers}
    {s s' : XpuState} {b : TorchCommXCCLBootstrap} (h : create store device ans s = (.ok b, s')) :
    b.barrierBuffer = ans.alloc.2 ∧
      ∃ c, s'.log = s.log ++ [.devicesRead 0 c, .memAllocDevice ans.alloc.2 4] := by
  unfold create at h
  split at h
  · simp at h
  · next device' s₁ hsel =>
    split at h
    · next ptr s₂ hm =>
      obtain ⟨rfl, c, hlog⟩ := DefaultXpuApi.malloc_of_success (congrArg Prod.fst hm)
      obtain ⟨hb, rfl⟩ := Prod.mk.inj h
      refine ⟨by rw [← Except.ok.inj hb]; rfl, c, ?_⟩
      rw [← congrArg (·.2.log) hm, hlog, ← congrArg (·.2.log) hsel, selectDevice_log]
    · simp at h

/-- **Barrier buffer.** A constructor that succeeds, followed by the destructor: the only device
memory the two allocate or free is one buffer of `sizeof(float)` bytes, allocated by the
constructor and held in `barrier_buffer_`, and freed once by the destructor, which leaves
`barrier_buffer_` null when `free` succeeds and otherwise throws "Failed to free barrier buffer"
out of a `noexcept` destructor, into `std::terminate`. -/
theorem barrierBuffer_lifecycle {store : Option StoreRef} {device : Int}
    {ans : ConstructorAnswers} {s s' : XpuState} {b : TorchCommXCCLBootstrap}
    (h : create store device ans s = (.ok b, s')) (hptr : b.barrierBuffer ≠ 0)
    (status : ZeResult) :
    (destroy b status s').2.log.filter XpuEvent.isMemory =
        s.log.filter XpuEvent.isMemory ++
          [.memAllocDevice b.barrierBuffer 4, .memFree b.barrierBuffer] ∧
      (destroy b status s').1 = if status = .success then .done { b with barrierBuffer := 0 }
        else .terminate (.xpuCheck "Failed to free barrier buffer" status) := by
  obtain ⟨hb, c, hlog⟩ := create_log h
  refine ⟨by simp [destroy_log hptr, hlog, hb, XpuEvent.isMemory], ?_⟩
  simp only [destroy, ne_eq, hptr, not_false_eq_true, if_true, DefaultXpuApi.free, if_false]
  split_ifs with hst
  · rw [hst]
  · split
    · next heq => exact absurd (Prod.mk.inj heq).1 hst
    · next heq => rw [(Prod.mk.inj heq).1]

end TorchCommXCCLBootstrap

end TorchComms
