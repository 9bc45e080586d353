import Mathlib.Data.List.Basic
import Mathlib.Data.Nat.Digits

/-!
# Level Zero and `initLevelZero`

`ze_result_t` with the codes `DefaultXpuApi` names, and `DefaultXpuApi::getErrorString`, which the
`XPU_CHECK` macro puts into every exception it throws.

`XpuApi.cpp` keeps the driver, the device array, its length and the context in process-wide
globals, filled by `initLevelZero` and cached behind its static `initialized` flag. A handle is a
pointer, so it is a number here and `0` is `nullptr`. What the loader and the driver answer in one
run of `initLevelZero` is a `LevelZeroEnv`; each query is a function of its arguments, so the two
property queries `initLevelZero` makes of one device (in `all_of` and in `remove_if`) get one
answer.
-/

namespace TorchComms

/-- `ze_result_t`. The codes `XpuApi.cpp` never names are `other`. -/
inductive ZeResult where
  | success
  | notReady
  | errorDeviceLost
  | errorOutOfHostMemory
  | errorOutOfDeviceMemory
  | errorUninitialized
  | errorUnsupportedFeature
  | errorInvalidArgument
  | errorInvalidNullHandle
  | errorInvalidNullPointer
  | errorInvalidSize
  | errorUnsupportedSize
  | errorUnsupportedAlignment
  | other (code : Nat)
  deriving DecidableEq, Repr

def getErrorString : ZeResult → String
  | .success => "ZE_RESULT_SUCCESS"
  | .notReady => "ZE_RESULT_NOT_READY"
  | .errorDeviceLost => "ZE_RESULT_ERROR_DEVICE_LOST"
  | .errorOutOfHostMemory => "ZE_RESULT_ERROR_OUT_OF_HOST_MEMORY"
  | .errorOutOfDeviceMemory => "ZE_RESULT_ERROR_OUT_OF_DEVICE_MEMORY"
  | .errorUninitialized => "ZE_RESULT_ERROR_UNINITIALIZED"
  | .errorUnsupportedFeature => "ZE_RESULT_ERROR_UNSUPPORTED_FEATURE"
  | .errorInvalidArgument => "ZE_RESULT_ERROR_INVALID_ARGUMENT"
  | .errorInvalidNullHandle => "ZE_RESULT_ERROR_INVALID_NULL_HANDLE"
  | .errorInvalidNullPointer => "ZE_RESULT_ERROR_INVALID_NULL_POINTER"
  | .errorInvalidSize => "ZE_RESULT_ERROR_INVALID_SIZE"
  | .errorUnsupportedSize => "ZE_RESULT_ERROR_UNSUPPORTED_SIZE"
  | .errorUnsupportedAlignment => "ZE_RESULT_ERROR_UNSUPPORTED_ALIGNMENT"
  | .other _ => "Unknown Level Zero error"

/-- The message `XPU_CHECK(xpu_api, call, err_str)` throws for a failed `status`; the macro's
trailing `" at " __FILE__ ":" __LINE__` is left out. -/
def xpuCheckMessage (errStr : String) (status : ZeResult) : String :=
  errStr ++ ": " ++ getErrorString status

abbrev ZeDriver := Nat

abbrev ZeDevice := Nat

abbrev ZeContext := Nat

/-- `(int)x` for a `uint32_t` `x`: the two's-complement reading of its bits. -/
def toCInt (x : UInt32) : Int :=
  x.toBitVec.toInt

/-- `v.resize(n)` on a vector of handles: new slots are `nullptr`. -/
def resize (v : List Nat) (n : Nat) : List Nat :=
  v.take n ++ List.replicate (n - v.length) 0

def writePrefix (buf written : List Nat) : List Nat :=
  written.take buf.length ++ buf.drop written.length

/-- What the loader and the driver answer to one run of `initLevelZero`: `zeInitDrivers` asked
for the count and then for the handles, `zeDeviceGet` asked for a driver's count and then for its
handles, `zeDeviceGetProperties` with whether the flags have `ZE_DEVICE_PROPERTY_FLAG_INTEGRATED`,
and `zeContextCreate` with the context it writes. Each query is a function of its arguments: in
particular `all_of` and `remove_if` find the same properties for a device. -/
structure LevelZeroEnv where
  driverCount : ZeResult × UInt32
  drivers : ZeResult × List ZeDriver
  deviceCount : ZeDriver → ZeResult × UInt32
  devices : ZeDriver → ZeResult × List ZeDevice
  properties : ZeDevice → ZeResult × Bool
  contextCreate : ZeResult × ZeContext

/-- `g_driver`, `g_devices` (the array it points to; `[]` is `nullptr`), `g_device_count`,
`g_context`, and `initLevelZero`'s static `initialized`. -/
structure LevelZeroGlobals where
  driver : ZeDriver
  devices : List ZeDevice
  deviceCount : UInt32
  context : ZeContext
  initialized : Bool
  deriving DecidableEq, Repr

def LevelZeroGlobals.initial : LevelZeroGlobals :=
  ⟨0, [], 0, 0, false⟩

/-- The `is_igpu` lambda: a device whose properties cannot be read counts as discrete. -/
def isIgpu (env : LevelZeroEnv) (device : ZeDevice) : Bool :=
  match env.properties device with
  | (.success, integrated) => integrated
  | _ => false

/-- The driver loop of `initLevelZero`, from `g_driver` and `all_devices` as they stand: a driver
whose count query fails or finds nothing is skipped; otherwise it becomes `g_driver`, `all_devices`
is resized to its count and filled, and a successful fill ends the loop. -/
def findDevices (env : LevelZeroEnv) : List ZeDriver → ZeDriver → List ZeDevice →
    ZeDriver × List ZeDevice
  | [], driver, allDevices => (driver, allDevices)
  | d :: drivers, driver, allDevices =>
    match env.deviceCount d with
    | (.success, count) =>
      if count = 0 then findDevices env drivers driver allDevices
      else
        let allDevices := writePrefix (resize allDevices count.toNat) (env.devices d).2
        if (env.devices d).1 = .success then (d, allDevices)
        else findDevices env drivers d allDevices
    | _ => findDevices env drivers driver allDevices

def LevelZeroEnv.driverList (env : LevelZeroEnv) : List ZeDriver :=
  writePrefix (List.replicate env.driverCount.2.toNat 0) env.drivers.2

/-- `initLevelZero` after the driver loop, from `all_devices` as the loop left it: the emptiness
and iGPU checks, `remove_if`, the copy into a new `g_devices` array (the old one is not freed) and
`zeContextCreate`, which alone sets `initialized`. -/
def installDevices (env : LevelZeroEnv) (g : LevelZeroGlobals) (allDevices : List ZeDevice) :
    ZeResult × LevelZeroGlobals :=
  if allDevices.isEmpty then (.errorUninitialized, g)
  else if allDevices.all (isIgpu env) then (.errorUninitialized, g)
  else
    let kept := allDevices.filter fun d => !isIgpu env d
    let g := { g with devices := kept, deviceCount := UInt32.ofNat kept.length }
    match env.contextCreate with
    | (.success, context) => (.success, { g with context := context, initialized := true })
    | (result, _) => (result, g)

/-- `initLevelZero`: its result and the globals it leaves. Once it has succeeded it returns
`ZE_RESULT_SUCCESS` at once; until then every call runs the driver loop again, from the current
`g_driver`. -/
def initLevelZero (env : LevelZeroEnv) (g : LevelZeroGlobals) : ZeResult × LevelZeroGlobals :=
  if g.initialized then (.success, g)
  else if env.driverCount.1 ≠ .success ∨ env.driverCount.2 = 0 then (.errorUninitialized, g)
  else if env.drivers.1 ≠ .success then (env.drivers.1, g)
  else
    let found := findDevices env env.driverList g.driver []
    installDevices env { g with driver := found.1 } found.2

end TorchComms
