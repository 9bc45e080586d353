import TorchComms.Device.LevelZero

/-!
# Device discovery

What `initLevelZero` leaves behind. Whatever the driver answers, the globals stay consistent: the
array `g_devices` points to has `g_device_count` entries, and once a run has succeeded there is at
least one. When the first driver that reports devices also hands them over, `g_driver` is that
driver and `g_devices` its discrete devices, in order.

When it does not, the loop goes on with `g_driver` already set and `all_devices` already resized,
and a later success keeps handles that no query returned: `initLevelZero_failed_handle_query`.
-/

namespace TorchComms

@[simp] theorem resize_length (v : List Nat) (n : Nat) : (resize v n).length = n := by
  simp only [resize, List.length_append, List.length_take, List.length_replicate]
  omega

@[simp] theorem writePrefix_length (buf written : List Nat) :
    (writePrefix buf written).length = buf.length := by
  simp only [writePrefix, List.length_append, List.length_take, List.length_drop]
  omega

theorem writePrefix_of_length {buf written : List Nat} (h : written.length = buf.length) :
    writePrefix buf written = written := by
  simp [writePrefix, h, List.take_of_length_le, List.drop_of_length_le]

theorem findDevices_length_lt (env : LevelZeroEnv) :
    ∀ (drivers : List ZeDriver) (driver : ZeDriver) (allDevices : List ZeDevice),
      allDevices.length < UInt32.size →
        (findDevices env drivers driver allDevices).2.length < UInt32.size
  | [], _, _, h => h
  | d :: drivers, driver, allDevices, h => by
    unfold findDevices
    split
    · split_ifs
      · exact findDevices_length_lt env drivers driver allDevices h
      · simpa using UInt32.toNat_lt_size _
      · exact findDevices_length_lt env drivers d _ (by simpa using UInt32.toNat_lt_size _)
    · exact findDevices_length_lt env drivers driver allDevices h

/-- The first driver in `pre ++ d :: post` that reports devices is `d`, and it hands over exactly
as many as it reported: the loop stops at `d` with its devices. -/
theorem findDevices_of_first {env : LevelZeroEnv} {pre post : List ZeDriver} {d : ZeDriver}
    {count : UInt32} {handles : List ZeDevice}
    (hpre : ∀ p ∈ pre, (env.deviceCount p).1 ≠ .success ∨ (env.deviceCount p).2 = 0)
    (hcount : env.deviceCount d = (.success, count)) (hne : count ≠ 0)
    (hdevices : env.devices d = (.success, handles)) (hlen : handles.length = count.toNat)
    (driver : ZeDriver) (allDevices : List ZeDevice) :
    findDevices env (pre ++ d :: post) driver allDevices = (d, handles) := by
  induction pre with
  | nil =>
    have hwrite : writePrefix (resize allDevices count.toNat) handles = handles :=
      writePrefix_of_length (by simp [hlen])
    simp [findDevices, hcount, hne, hdevices, hwrite]
  | cons p pre ih =>
    simp only [List.mem_cons, forall_eq_or_imp] at hpre
    rw [List.cons_append, findDevices]
    split
    · next n hp =>
      rw [hp] at hpre
      rw [if_pos (hpre.1.resolve_left (absurd rfl))]
      exact ih hpre.2
    · exact ih hpre.2

/-! ### The globals stay consistent -/

/-- What every run of `initLevelZero` keeps: `g_devices` has `g_device_count` entries, at least
one once initialization has succeeded. -/
structure GlobalsOk (g : LevelZeroGlobals) : Prop where
  length_devices : g.devices.length = g.deviceCount.toNat
  count_pos : g.initialized = true → 0 < g.deviceCount.toNat

theorem GlobalsOk.initial : GlobalsOk .initial :=
  ⟨rfl, nofun⟩

theorem initLevelZero_of_initialized (env : LevelZeroEnv) {g : LevelZeroGlobals}
    (h : g.initialized = true) : initLevelZero env g = (.success, g) := by
  simp [initLevelZero, h]

/-- The filter of `initLevelZero` keeps a device when not every device is integrated. -/
theorem filter_ne_nil_of_not_all {env : LevelZeroEnv} {allDevices : List ZeDevice}
    (h : allDevices.all (isIgpu env) = false) :
    allDevices.filter (fun d => !isIgpu env d) ≠ [] := by
  obtain ⟨d, hd, hi⟩ : ∃ d ∈ allDevices, isIgpu env d = false := by simpa using h
  exact List.ne_nil_of_mem (List.mem_filter.2 ⟨hd, by simp [hi]⟩)

theorem installDevices_globalsOk (env : LevelZeroEnv) {g : LevelZeroGlobals} (h : GlobalsOk g)
    {allDevices : List ZeDevice} (hlt : allDevices.length < UInt32.size) :
    GlobalsOk (installDevices env g allDevices).2 := by
  unfold installDevices
  split_ifs with hempty hall
  · exact h
  · exact h
  · have hsize := UInt32.toNat_ofNat_of_lt
      (Nat.lt_of_le_of_lt (List.length_filter_le (fun d => !isIgpu env d) allDevices) hlt)
    have hpos := List.length_pos.2 (filter_ne_nil_of_not_all (Bool.eq_false_iff.2 hall))
    split
    · exact ⟨hsize.symm, fun _ => hsize ▸ hpos⟩
    · exact ⟨hsize.symm, fun _ => hsize ▸ hpos⟩

theorem initLevelZero_globalsOk (env : LevelZeroEnv) {g : LevelZeroGlobals} (h : GlobalsOk g) :
    GlobalsOk (initLevelZero env g).2 := by
  unfold initLevelZero
  split_ifs
  · exact h
  · exact h
  · exact h
  · refine installDevices_globalsOk env ?_ (findDevices_length_lt env _ _ [] (by decide))
    exact ⟨h.length_devices, h.count_pos⟩

theorem initialized_of_installDevices (env : LevelZeroEnv) (g : LevelZeroGlobals)
    (allDevices : List ZeDevice) (h : (installDevices env g allDevices).1 = .success) :
    (installDevices env g allDevices).2.initialized = true := by
  unfold installDevices at h ⊢
  split_ifs at h ⊢
  split at h
  · next hc => simp [hc]
  · next result _ hfail _ => exact absurd (by simpa using h) hfail

/-- `initLevelZero` reports success exactly when the process is initialized afterwards. -/
theorem initialized_of_initLevelZero (env : LevelZeroEnv) (g : LevelZeroGlobals)
    (h : (initLevelZero env g).1 = .success) : (initLevelZero env g).2.initialized = true := by
  unfold initLevelZero at h ⊢
  split_ifs at h ⊢ with hinit _ hdrivers
  · exact hinit
  · exact absurd h hdrivers
  · exact initialized_of_installDevices env _ _ h

theorem installDevices_of_success {env : LevelZeroEnv} {g : LevelZeroGlobals}
    {allDevices : List ZeDevice} (h : (installDevices env g allDevices).1 = .success) :
    (installDevices env g allDevices).2.driver = g.driver ∧
      (installDevices env g allDevices).2.devices = allDevices.filter (fun d => !isIgpu env d) ∧
      (installDevices env g allDevices).2.deviceCount =
        UInt32.ofNat (allDevices.filter fun d => !isIgpu env d).length ∧
      allDevices.filter (fun d => !isIgpu env d) ≠ [] := by
  unfold installDevices at h ⊢
  split_ifs at h ⊢ with hempty hall
  have hkept := filter_ne_nil_of_not_all (Bool.eq_false_iff.2 hall)
  split at h
  · next hc => simp [hc, hkept]
  · next result _ hfail _ => exact absurd (by simpa using h) hfail

/-! ### Which driver and which devices -/

/-- **Device discovery.** When the first driver that reports devices also hands over as many as it
reported, a successful `initLevelZero` makes it `g_driver` and keeps its discrete devices, in their
order, at least one of them. -/
theorem initLevelZero_first_driver {env : LevelZeroEnv} {g : LevelZeroGlobals}
    (hinit : g.initialized = false) {pre post : List ZeDriver} {d : ZeDriver} {count : UInt32}
    {handles : List ZeDevice} (hdrivers : env.driverList = pre ++ d :: post)
    (hpre : ∀ p ∈ pre, (env.deviceCount p).1 ≠ .success ∨ (env.deviceCount p).2 = 0)
    (hcount : env.deviceCount d = (.success, count)) (hne : count ≠ 0)
    (hdevices : env.devices d = (.success, handles)) (hlen : handles.length = count.toNat)
    (hsuccess : (initLevelZero env g).1 = .success) :
    (initLevelZero env g).2.driver = d ∧
      (initLevelZero env g).2.devices = handles.filter (fun h => !isIgpu env h) ∧
      0 < (initLevelZero env g).2.deviceCount.toNat := by
  have hfound := @findDevices_of_first env pre post d count handles hpre hcount hne hdevices hlen
    g.driver []
  unfold initLevelZero at hsuccess ⊢
  simp only [hinit, hdrivers, hfound, Bool.false_eq_true, if_false] at hsuccess ⊢
  split_ifs at hsuccess ⊢ with hcount' hdrivers'
  · exact absurd hsuccess hdrivers'
  · obtain ⟨hdriver, hkept, hsize, hne'⟩ := installDevices_of_success hsuccess
    refine ⟨hdriver, hkept, ?_⟩
    have hlt : (handles.filter fun h => !isIgpu env h).length < UInt32.size :=
      Nat.lt_of_le_of_lt (List.length_filter_le _ _) (hlen ▸ UInt32.toNat_lt_size count)
    rw [hsize, UInt32.toNat_ofNat_of_lt hlt]
    exact List.length_pos.2 hne'

/-- Two drivers: the first reports no device and is skipped; the second hands over devices `7`
and `8`, of which `8` is integrated and dropped. -/
theorem initLevelZero_first_driver_skips_empty :
    let env : LevelZeroEnv := ⟨(.success, 2), (.success, [5, 6]),
      fun d => if d = 5 then (.success, 0) else (.success, 2),
      fun d => if d = 6 then (.success, [7, 8]) else (.success, []),
      fun h => (.success, h = 8), (.success, 9)⟩
    (LevelZeroGlobals.initial.initialized = false ∧ env.driverList = [5] ++ 6 :: [] ∧
      (∀ p ∈ [5], (env.deviceCount p).1 ≠ .success ∨ (env.deviceCount p).2 = 0) ∧
      env.deviceCount 6 = (.success, 2) ∧ (2 : UInt32) ≠ 0 ∧
      env.devices 6 = (.success, [7, 8]) ∧
      [7, 8].length = (2 : UInt32).toNat ∧ (initLevelZero env .initial).1 = .success) ∧
    ((initLevelZero env .initial).2.driver = 6 ∧
      (initLevelZero env .initial).2.devices = [7, 8].filter (fun h => !isIgpu env h) ∧
      0 < (initLevelZero env .initial).2.deviceCount.toNat) := by
  refine ⟨⟨?hi, ?hd, ?hp, ?hc, ?hne, ?hdev, ?hlen, ?hs⟩,
    initLevelZero_first_driver ?hi ?hd ?hp ?hc ?hne ?hdev ?hlen ?hs⟩
  all_goals decide

/-- One driver, whose count query finds two devices and whose handle query then fails: the loop
ends with `g_driver` set and `all_devices` two null handles, and `initLevelZero` succeeds with
them although no driver answered both queries. -/
theorem initLevelZero_failed_handle_query :
    let env : LevelZeroEnv := ⟨(.success, 1), (.success, [5]), fun _ => (.success, 2),
      fun _ => (.errorDeviceLost, []), fun _ => (.errorDeviceLost, false), (.success, 9)⟩
    (env.devices 5).1 ≠ .success ∧
      initLevelZero env .initial = (.success, ⟨5, [0, 0], 2, 9, true⟩) := by
  decide

end TorchComms
