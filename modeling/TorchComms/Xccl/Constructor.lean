import TorchComms.Xccl.Bootstrap
import TorchComms.Device.XpuApi

/-!
# The constructor

`TorchCommXCCLBootstrap::TorchCommXCCLBootstrap(store, device, xccl_api, xpu_api, timeout)` with
`DefaultXpuApi` as `xpu_api_`, as a function of the process state of `XpuApi.cpp`. What
`query_ranksize()` and `std::getenv` return comes from outside, and so does what Level Zero answers
inside `getDeviceCount`, `setDevice` and `malloc`: all of it is `ConstructorAnswers`. `timeout_`
and `xccl_api_` are only stored. The device index travels as `c10::DeviceIndex`, an `int8_t`. A
failed `XPU_CHECK` throws out of the constructor. The destructor frees the barrier buffer; a failed
check there ends the process.
-/

namespace TorchComms

def kUniqueidXchgMethodDefault : String := kUniqueidXchgMethodAuto

/-- What the constructor's collaborators answer: `query_ranksize()` (`rank_`, `comm_size_`),
`std::getenv("TORCHCOMM_XCCL_BOOTSTRAP_UNIQUEID_EXCHANGE_METHOD")` (`none` is `nullptr`), Level Zero
inside `getDeviceCount`, `setDevice` and `malloc`, and `zeMemAllocDevice` for the barrier buffer
with the pointer it writes. -/
structure ConstructorAnswers where
  ranksize : Nat × Nat
  uniqueidXchgEnv : Option String
  countEnv : LevelZeroEnv
  setEnv : LevelZeroEnv
  mallocEnv : LevelZeroEnv
  alloc : ZeResult × DevicePtr

/-- `c10::DeviceIndex` is `int8_t`: `c10::Device(c10::kXPU, index)` keeps the `int` index modulo
`2 ^ 8`, read as a signed value. -/
def toDeviceIndex (index : Int) : Int := (BitVec.ofInt 8 index).toInt

/-- How `~TorchCommXCCLBootstrap()` ends: normally, or in `std::terminate`, because a destructor
is implicitly `noexcept` and a failed `XPU_CHECK` throws out of it. -/
inductive Destruction where
  | done (b : TorchCommXCCLBootstrap)
  | terminate (e : BootstrapError)
  deriving DecidableEq

namespace TorchCommXCCLBootstrap

/-- The `if (device_.index() == -1)` block: `device_` becomes `c10::Device(c10::kXPU, rank_ %
device_count)`, with the count `getDeviceCount` wrote. `rank_ % 0` is undefined in C++ and is
`rank_` here. -/
def defaultDevice (countEnv : LevelZeroEnv) (rank : Nat) (device : Int) (s : XpuState) :
    Except BootstrapError Int × XpuState :=
  if device ≠ -1 then (.ok device, s)
  else
    match DefaultXpuApi.getDeviceCount countEnv false s with
    | ((.success, count), s) => (.ok (toDeviceIndex ((rank : Int).tmod (count.getD 0))), s)
    | ((status, _), s) => (.error (.xpuCheck "Failed to get XPU device count" status), s)

def selectDevice (countEnv setEnv : LevelZeroEnv) (rank : Nat) (device : Int) (s : XpuState) :
    Except BootstrapError Int × XpuState :=
  match defaultDevice countEnv rank device s with
  | (.error e, s) => (.error e, s)
  | (.ok device, s) =>
    match DefaultXpuApi.setDevice setEnv device s with
    | (.success, s) => (.ok device, s)
    | (status, s) => (.error (.xpuCheck ("Failed to set device to " ++ toString device) status), s)

/-- The constructor: the exchange method from the environment, lower-cased, the device block
(`selectDevice`), and `XPU_CHECK` on `malloc(&barrier_buffer_, sizeof(float))`. -/
def create (store : Option StoreRef) (device : Int) (ans : ConstructorAnswers) (s : XpuState) :
    Except BootstrapError TorchCommXCCLBootstrap × XpuState :=
  let method := (ans.uniqueidXchgEnv.getD kUniqueidXchgMethodDefault).map Char.toLower
  match selectDevice ans.countEnv ans.setEnv ans.ranksize.1 device s with
  | (.error e, s) => (.error e, s)
  | (.ok device, s) =>
    match DefaultXpuApi.malloc ans.mallocEnv false 4 ans.alloc s with
    | ((.success, ptr), s) =>
      (.ok ⟨ans.ranksize.1, ans.ranksize.2, store, false, method, device, ptr.getD 0⟩, s)
    | ((status, _), s) => (.error (.xpuCheck "Failed to allocate barrier buffer" status), s)

/-- `~TorchCommXCCLBootstrap()`: `XPU_CHECK` on `free(barrier_buffer_)` when it is not null, then
`barrier_buffer_ = nullptr`; `status` is what `zeMemFree` answers. -/
def destroy (b : TorchCommXCCLBootstrap) (status : ZeResult) (s : XpuState) :
    Destruction × XpuState :=
  if b.barrierBuffer ≠ 0 then
    match DefaultXpuApi.free b.barrierBuffer status s with
    | (.success, s) => (.done { b with barrierBuffer := 0 }, s)
    | (result, s) => (.terminate (.xpuCheck "Failed to free barrier buffer" result), s)
  else (.done b, s)

end TorchCommXCCLBootstrap

end TorchComms
