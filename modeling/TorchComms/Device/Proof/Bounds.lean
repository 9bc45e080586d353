import TorchComms.Device.Proof.Discovery
import TorchComms.Device.XpuApi

/-!
# Where `DefaultXpuApi` reads `g_devices`

A method that needs a device calls `initLevelZero` first. That call installs the array together
with its length, and sets `initialized` only once the array is non-empty (`GlobalsOk`, which every
reachable state keeps). The method then reads `g_devices[0]`, or `g_devices[device]` after checking
`device` against `g_device_count`, so its reads stay inside the array.

`streamWaitEvent`, `memcpyAsync` and `eventRecord` read `g_devices[0]` without calling
`initLevelZero`. From the initial state they read an empty array. In a run that calls them only once
`initLevelZero` has succeeded, every read is inside the array.

What `getDeviceProperties` reports of the device it read is here too: `major` and `minor` are the
two halves of `deviceId`, so no information is lost.
-/

namespace TorchComms

theorem toCInt_le_toNat (x : UInt32) : toCInt x ≤ x.toNat := by
  unfold toCInt BitVec.toInt
  have : x.toBitVec.toNat = x.toNat := rfl
  split <;> omega

namespace DefaultXpuApi

theorem initThen_globals {α : Type} (env : LevelZeroEnv) (fail : ZeResult → α)
    {body : XpuState → α × XpuState}
    (hbody : ∀ s, s.globals.initialized = true → (body s).2.globals = s.globals)
    (s : XpuState) :
    (initThen env fail body s).2.globals = (initLevelZero env s.globals).2 := by
  by_cases h : (initLevelZero env s.globals).1 = .success
  · rw [initThen_of_success h]
    exact hbody _ (initialized_of_initLevelZero env s.globals h)
  · rw [initThen_of_failure h]
    rfl

@[simp] theorem submit_globals (stream : ZeQueue) (ans : SubmitAnswers) (s : XpuState) :
    (submit stream ans s).2.globals = s.globals := by
  unfold submit
  split
  · split_ifs <;> rfl
  · rfl

@[simp] theorem createPooledEvent_globals (timestamps : Bool) (ans : EventAnswers) (s : XpuState) :
    (createPooledEvent timestamps ans s).2.globals = s.globals := by
  unfold createPooledEvent
  split
  · split <;> rfl
  · rfl

theorem eventCreate_globals_of_initialized (env : LevelZeroEnv) (eventNull : Bool)
    (ans : EventAnswers) {s : XpuState} (h : s.globals.initialized = true) :
    (eventCreate env eventNull ans s).2.globals = s.globals := by
  rw [eventCreate, initThen_globals _ _ (fun _ _ => by split_ifs <;> simp),
    initLevelZero_of_initialized env h]

end DefaultXpuApi

open DefaultXpuApi in
/-- A call leaves the globals as they were, or as one run of `initLevelZero` leaves them. -/
theorem XpuOp.run_globals (op : XpuOp) (s : XpuState) :
    (op.run s).globals = s.globals ∨
      ∃ env, (op.run s).globals = (initLevelZero env s.globals).2 := by
  cases op with
  | setDevice env =>
    exact .inr ⟨env, initThen_globals _ _ (fun _ _ => by split_ifs <;> rfl) s⟩
  | getDeviceProperties env =>
    refine .inr ⟨env, initThen_globals _ _ (fun _ _ => ?_) s⟩
    dsimp only
    split_ifs
    · rfl
    · split <;> rfl
  | memGetInfo env =>
    refine .inr ⟨env, initThen_globals _ _ (fun _ _ => ?_) s⟩
    dsimp only
    split_ifs
    · rfl
    · split <;> rfl
    · rfl
  | getDeviceCount env =>
    exact .inr ⟨env, initThen_globals _ _ (fun _ _ => by split_ifs <;> rfl) s⟩
  | streamCreateWithPriority env =>
    refine .inr ⟨env, initThen_globals _ _ (fun _ _ => ?_) s⟩
    dsimp only
    split_ifs
    · rfl
    · rfl
    · split <;> rfl
  | malloc env =>
    refine .inr ⟨env, initThen_globals _ _ (fun _ _ => ?_) s⟩
    dsimp only
    split_ifs
    · rfl
    · rfl
    · split <;> rfl
  | eventCreate env =>
    exact .inr ⟨env, initThen_globals _ _ (fun _ _ => by split_ifs <;> simp) s⟩
  | eventCreateWithFlags env =>
    refine .inr ⟨env, initThen_globals _ _ (fun _ h => ?_) s⟩
    dsimp only
    split_ifs
    · rfl
    · simp
    · exact eventCreate_globals_of_initialized env _ _ h
  | streamDestroy | free | eventDestroy | eventQuery | streamSynchronize =>
    left
    simp only [XpuOp.run, DefaultXpuApi.streamDestroy, DefaultXpuApi.free,
      DefaultXpuApi.eventDestroy, DefaultXpuApi.eventQuery, DefaultXpuApi.streamSynchronize]
    split_ifs <;> rfl
  | streamWaitEvent | eventRecord =>
    left
    simp only [XpuOp.run, DefaultXpuApi.streamWaitEvent, DefaultXpuApi.eventRecord]
    split_ifs <;> simp
  | memcpyAsync =>
    left
    simp only [XpuOp.run, DefaultXpuApi.memcpyAsync]
    split_ifs <;> simp
  | getCurrentXPUStream => exact .inl rfl

theorem XpuOp.run_globals_of_initialized (op : XpuOp) {s : XpuState}
    (h : s.globals.initialized = true) : (op.run s).globals = s.globals := by
  rcases op.run_globals s with hg | ⟨env, hg⟩
  · exact hg
  · rw [hg, initLevelZero_of_initialized env h]

theorem XpuStep.globalsOk {s s' : XpuState} (hstep : XpuStep s s') (hs : GlobalsOk s.globals) :
    GlobalsOk s'.globals := by
  cases hstep with
  | call op =>
    rcases op.run_globals s with hg | ⟨env, hg⟩ <;> rw [hg]
    · exact hs
    · exact initLevelZero_globalsOk env hs
  | finish => exact hs

/-- In every reachable state `g_device_count` is the length of `g_devices`, and at least `1` once
`initLevelZero` has succeeded. -/
theorem XpuReachable.globalsOk {s : XpuState} (h : XpuReachable s) : GlobalsOk s.globals := by
  induction h with
  | initial => exact GlobalsOk.initial
  | step _ hstep ih => exact hstep.globalsOk ih

/-- **Device globals.** In every reachable state `g_device_count` is the length of `g_devices`,
and at least `1` once `initLevelZero` has succeeded. -/
theorem deviceCount_eq_length {s : XpuState} (h : XpuReachable s) :
    s.globals.devices.length = s.globals.deviceCount.toNat ∧
      (s.globals.initialized = true → 0 < s.globals.deviceCount.toNat) :=
  ⟨h.globalsOk.length_devices, h.globalsOk.count_pos⟩

/-- `getDeviceCount` on a machine with one driver and three discrete devices. -/
theorem deviceCount_eq_length_three :
    let env : LevelZeroEnv := ⟨(.success, 1), (.success, [5]), fun _ => (.success, 3),
      fun _ => (.success, [6, 7, 8]), fun _ => (.success, false), (.success, 9)⟩
    let s := (XpuOp.getDeviceCount env false).run .initial
    XpuReachable s ∧ s.globals.devices.length = s.globals.deviceCount.toNat ∧
      (s.globals.initialized = true → 0 < s.globals.deviceCount.toNat) :=
  have h : XpuReachable _ := .step .initial (.call _ _)
  ⟨h, deviceCount_eq_length h⟩

/-! ### What `getDeviceProperties` reports -/

/-- `deviceId >> 16` and `deviceId & 0xFFFF` split a 32-bit id into its high and low halves. -/
theorem shiftRight_and_split (d : UInt32) :
    (d >>> 16).toNat = d.toNat / 2 ^ 16 ∧ (d &&& 0xFFFF).toNat = d.toNat % 2 ^ 16 := by
  refine ⟨?_, by rw [UInt32.and_toNat]; exact Nat.and_pow_two_sub_one_eq_mod _ 16⟩
  show (d.toBitVec >>> (UInt32.mod 16 32).toBitVec).toNat = _
  simp [BitVec.toNat_ushiftRight, Nat.shiftRight_eq_div_pow]
  rfl

open DefaultXpuApi in
/-- **Device properties.** A successful `getDeviceProperties(prop, device)` checked
`0 <= device < g_device_count`, and reports `deviceId` split without loss into `major` (its high
16 bits) and `minor` (its low 16 bits), the driver's name cut to the 255 characters that fit
`name[256]` with its terminator, and the memory size `zeDeviceGetMemoryProperties` left. -/
theorem getDeviceProperties_of_success {env : LevelZeroEnv} {propNull : Bool} {device : Int}
    {props : ZeResult × ZeDeviceProperties} {totalSize : UInt64} {s : XpuState}
    {prop : XpuDeviceProp}
    (h : (getDeviceProperties env propNull device props totalSize s).1 = (.success, some prop)) :
    0 ≤ device ∧ device.toNat < (initLevelZero env s.globals).2.deviceCount.toNat ∧
      prop.major * 2 ^ 16 + prop.minor = props.2.deviceId.toNat ∧
      0 ≤ prop.major ∧ prop.major < 2 ^ 16 ∧ 0 ≤ prop.minor ∧ prop.minor < 2 ^ 16 ∧
      prop.name = props.2.name.take 255 ∧ prop.totalGlobalMem = totalSize := by
  by_cases hinit : (initLevelZero env s.globals).1 = .success
  · rw [getDeviceProperties, initThen_of_success hinit] at h
    dsimp only at h
    split_ifs at h with hdev
    · simp at h
    · obtain ⟨result, p⟩ := props
      split at h
      · next p' hp =>
        obtain ⟨-, rfl⟩ := Prod.mk.inj hp
        obtain rfl := Option.some.inj (Prod.mk.inj h).2
        have hbound : toCInt (s.initLevelZero env).2.globals.deviceCount ≤
            (initLevelZero env s.globals).2.deviceCount.toNat := toCInt_le_toNat _
        have hid : p.deviceId.toNat < 2 ^ 32 := UInt32.toNat_lt_size p.deviceId
        obtain ⟨hhigh, hlow⟩ := shiftRight_and_split p.deviceId
        simp only [hhigh, hlow, and_true]
        omega
      · simp_all
  · rw [getDeviceProperties, initThen_of_failure hinit] at h
    exact absurd (Prod.mk.inj h).1 hinit

/-! ### Reads of `g_devices` -/

/-- Every read of `g_devices` that `log'` records beyond those of `log` is inside the array. -/
def ReadsWithin (log log' : List XpuEvent) : Prop :=
  ∀ i c, XpuEvent.devicesRead i c ∈ log' → XpuEvent.devicesRead i c ∈ log ∨ i < c.toNat

theorem ReadsWithin.append (log : List XpuEvent) {new : List XpuEvent}
    (hnew : ∀ i c, XpuEvent.devicesRead i c ∈ new → i < c.toNat) :
    ReadsWithin log (log ++ new) :=
  fun i c h => (List.mem_append.1 h).imp_right (hnew i c)

theorem ReadsWithin.refl (log : List XpuEvent) : ReadsWithin log log :=
  fun _ _ => .inl

namespace DefaultXpuApi

theorem submit_readsWithin (stream : ZeQueue) (ans : SubmitAnswers) {s : XpuState}
    (h : 0 < s.globals.deviceCount.toNat) : ReadsWithin s.log (submit stream ans s).2.log := by
  unfold submit
  split
  · split_ifs <;> simpa using ReadsWithin.append s.log (by simpa using h)
  · simpa using ReadsWithin.append s.log (by simpa using h)

theorem createPooledEvent_readsWithin (timestamps : Bool) (ans : EventAnswers) {s : XpuState}
    (h : 0 < s.globals.deviceCount.toNat) :
    ReadsWithin s.log (createPooledEvent timestamps ans s).2.log := by
  unfold createPooledEvent
  split
  · split <;> simpa using ReadsWithin.append s.log (by simpa using h)
  · simpa using ReadsWithin.append s.log (by simpa using h)

/-- A method that calls `initLevelZero` first reads inside the array when its body does so
from any state with an installed, non-empty array. -/
theorem initThen_readsWithin {α : Type} (env : LevelZeroEnv) (fail : ZeResult → α)
    {body : XpuState → α × XpuState}
    (hbody : ∀ s, GlobalsOk s.globals → 0 < s.globals.deviceCount.toNat →
      ReadsWithin s.log (body s).2.log)
    {s : XpuState} (hs : GlobalsOk s.globals) :
    ReadsWithin s.log (initThen env fail body s).2.log := by
  by_cases h : (initLevelZero env s.globals).1 = .success
  · rw [initThen_of_success h]
    have hok := initLevelZero_globalsOk env hs
    exact hbody _ hok (hok.count_pos (initialized_of_initLevelZero env s.globals h))
  · rw [initThen_of_failure h]
    exact .refl _

end DefaultXpuApi

/-- `streamWaitEvent`, `memcpyAsync` and `eventRecord`: the methods that read `g_devices[0]`
without calling `initLevelZero`. -/
def XpuOp.readsUnchecked : XpuOp → Bool
  | .streamWaitEvent .. | .memcpyAsync .. | .eventRecord .. => true
  | _ => false

open DefaultXpuApi in
/-- A call reads inside the array, unless it is one of the three methods that do not initialise
and Level Zero is not initialised yet. -/
theorem XpuOp.run_readsWithin (op : XpuOp) {s : XpuState} (hs : GlobalsOk s.globals)
    (hop : op.readsUnchecked = true → s.globals.initialized = true) :
    ReadsWithin s.log (op.run s).log := by
  cases op with
  | setDevice env =>
    exact initThen_readsWithin env _ (fun _ _ _ => by split_ifs <;> exact .refl _) hs
  | getDeviceProperties env propNull device props =>
    refine initThen_readsWithin env _ (fun s _ hpos => ?_) hs
    dsimp only
    split_ifs with hdev
    · exact .refl _
    · have hlt : device.toNat < s.globals.deviceCount.toNat := by
        have := toCInt_le_toNat s.globals.deviceCount
        omega
      split <;> simpa using ReadsWithin.append s.log (by simpa using hlt)
  | memGetInfo env =>
    refine initThen_readsWithin env _ (fun s _ hpos => ?_) hs
    dsimp only
    split_ifs
    · exact .refl _
    · split <;> simpa using ReadsWithin.append s.log (by simpa using hpos)
    · exact .refl _
  | getDeviceCount env =>
    exact initThen_readsWithin env _ (fun _ _ _ => by split_ifs <;> exact .refl _) hs
  | streamCreateWithPriority env =>
    refine initThen_readsWithin env _ (fun s _ hpos => ?_) hs
    dsimp only
    split_ifs
    · exact .refl _
    · exact .refl _
    · split <;> simpa using ReadsWithin.append s.log (by simpa using hpos)
  | malloc env =>
    refine initThen_readsWithin env _ (fun s _ hpos => ?_) hs
    dsimp only
    split_ifs
    · exact .refl _
    · exact .refl _
    · split <;> simpa using ReadsWithin.append s.log (by simpa using hpos)
  | eventCreate env =>
    refine initThen_readsWithin env _ (fun s _ hpos => ?_) hs
    dsimp only
    split_ifs
    · exact .refl _
    · exact createPooledEvent_readsWithin _ _ hpos
  | eventCreateWithFlags env eventNull flags ans =>
    refine initThen_readsWithin env _ (fun s hok hpos => ?_) hs
    dsimp only
    split_ifs
    · exact .refl _
    · exact createPooledEvent_readsWithin _ _ hpos
    · refine initThen_readsWithin env _ (fun s _ hpos => ?_) hok
      dsimp only
      split_ifs
      exact createPooledEvent_readsWithin _ _ hpos
  | streamWaitEvent | eventRecord | memcpyAsync =>
    have hpos := hs.count_pos (hop rfl)
    simp only [XpuOp.run, DefaultXpuApi.streamWaitEvent, DefaultXpuApi.eventRecord,
      DefaultXpuApi.memcpyAsync]
    split_ifs
    all_goals first | exact .refl _ | exact submit_readsWithin _ _ hpos
  | streamDestroy | free | eventDestroy =>
    simp only [XpuOp.run, DefaultXpuApi.streamDestroy, DefaultXpuApi.free,
      DefaultXpuApi.eventDestroy]
    split_ifs
    all_goals first | exact .refl _ | simpa using ReadsWithin.append _ (by simp)
  | getCurrentXPUStream => exact .refl _
  | eventQuery =>
    simp only [XpuOp.run, DefaultXpuApi.eventQuery]
    split_ifs <;> exact .refl _
  | streamSynchronize =>
    simp only [XpuOp.run, DefaultXpuApi.streamSynchronize]
    split_ifs
    all_goals first | exact .refl _ | exact ReadsWithin.append _ (by simp)

/-! ### Whole runs -/

/-- `memcpyAsync` as the first call of a process reads `g_devices[0]` while the array is empty. -/
theorem memcpyAsync_reads_empty_devices :
    XpuReachable
        (DefaultXpuApi.memcpyAsync 1 2 4 3 ⟨(.success, 7), .success, .success, .success⟩
          .initial).2 ∧
      (DefaultXpuApi.memcpyAsync 1 2 4 3 ⟨(.success, 7), .success, .success, .success⟩
          .initial).2.log =
        [.devicesRead 0 0, .commandListCreate 7, .execute 3 7, .commandListDestroy 7] :=
  ⟨.step .initial (.call (.memcpyAsync 1 2 4 3 _) _), rfl⟩

/-- The runs in which `streamWaitEvent`, `memcpyAsync` and `eventRecord` are called only once
`initLevelZero` has succeeded. -/
inductive XpuGuarded : XpuState → Prop
  | initial : XpuGuarded .initial
  | call {s : XpuState} (op : XpuOp) : XpuGuarded s →
      (op.readsUnchecked = true → s.globals.initialized = true) → XpuGuarded (op.run s)
  | finish {s : XpuState} {queue : ZeQueue} {list : ZeCommandList} : XpuGuarded s →
      (queue, list) ∈ s.pending → XpuGuarded (s.finish queue list)

theorem XpuGuarded.reachable {s : XpuState} (h : XpuGuarded s) : XpuReachable s := by
  induction h with
  | initial => exact .initial
  | call op _ _ ih => exact .step ih (.call op _)
  | finish _ hp ih => exact .step ih (.finish hp)

/-- **Reads in bounds.** In a run that calls `streamWaitEvent`, `memcpyAsync` and `eventRecord`
only once `initLevelZero` has succeeded, every read of `g_devices` is inside the array; and from
every reachable state, a call of any other method reads only inside the array. -/
theorem XpuGuarded.devicesRead_lt_count {s : XpuState} (h : XpuGuarded s) :
    (∀ i c, XpuEvent.devicesRead i c ∈ s.log → i < c.toNat) ∧
      ∀ s', XpuReachable s' → ∀ op : XpuOp, op.readsUnchecked = false →
        ReadsWithin s'.log (op.run s').log := by
  refine ⟨?_, fun s' hs' op hop => op.run_readsWithin hs'.globalsOk fun h =>
    absurd (hop.symm.trans h) Bool.false_ne_true⟩
  induction h with
  | initial => simp [XpuState.initial]
  | call op hg hop ih =>
    intro i c hr
    exact (op.run_readsWithin hg.reachable.globalsOk hop i c hr).elim (ih i c) id
  | finish _ _ ih =>
    intro i c hr
    simp [XpuState.finish] at hr
    exact ih i c hr

/-- `malloc` initialises Level Zero on a machine with one discrete device; `memcpyAsync` then reads
inside the array. -/
theorem devicesRead_lt_count_after_malloc :
    let env : LevelZeroEnv := ⟨(.success, 1), (.success, [5]), fun _ => (.success, 1),
      fun _ => (.success, [7]), fun _ => (.success, false), (.success, 9)⟩
    let s₁ := (XpuOp.malloc env false 4 (.success, 2)).run .initial
    let s₂ :=
      (XpuOp.memcpyAsync 1 2 4 3 ⟨(.success, 7), .success, .success, .success⟩).run s₁
    XpuGuarded s₂ ∧ (∀ i c, XpuEvent.devicesRead i c ∈ s₂.log → i < c.toNat) ∧
      ∀ s', XpuReachable s' → ∀ op : XpuOp, op.readsUnchecked = false →
        ReadsWithin s'.log (op.run s').log :=
  have h : XpuGuarded _ := .call _ (.call _ .initial (by decide)) (by decide)
  ⟨h, XpuGuarded.devicesRead_lt_count h⟩

end TorchComms
