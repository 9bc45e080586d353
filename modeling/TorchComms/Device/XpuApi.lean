import TorchComms.Device.LevelZero

/-!
# `DefaultXpuApi`

The methods of `DefaultXpuApi` as functions of the process state: the globals of `XpuApi.cpp`,
the executions the device has not finished, and a log of what the methods did: every read of
`g_devices`, and every Level Zero call that creates or destroys an object or submits or finishes
work. A Level Zero call answers with what the caller of the method passes for it (`status`,
`create`, `alloc`, `ans`, after the method's own arguments, where a null out-pointer is `true`), so
a theorem over all answers holds for every driver. Between two methods the device may finish any pending
execution (`XpuStep.finish`).

Reading `g_devices[i]` past the end of the array is undefined in C++; here it reads `nullptr`, and
the log records the read with the array's length at that moment.
-/

namespace TorchComms

/-- `ze_command_queue_handle_t`, which is `xpuStream_t`. -/
abbrev ZeQueue := Nat

abbrev ZeCommandList := Nat

abbrev ZeEventPool := Nat

abbrev ZeEvent := Nat

abbrev DevicePtr := Nat

inductive QueuePriority where
  | high | normal | low
  deriving DecidableEq, Repr

/-- What a method did, in order. -/
inductive XpuEvent where
  /-- `g_devices[index]` was read while `g_device_count` was `count`. -/
  | devicesRead (index : Nat) (count : UInt32)
  | commandQueueCreate (queue : ZeQueue) (priority : QueuePriority)
  | commandQueueDestroy (queue : ZeQueue)
  | commandListCreate (list : ZeCommandList)
  | commandListDestroy (list : ZeCommandList)
  | execute (queue : ZeQueue) (list : ZeCommandList)
  /-- The device finished the execution of `list` on `queue`. -/
  | finished (queue : ZeQueue) (list : ZeCommandList)
  | eventPoolCreate (pool : ZeEventPool) (timestamps : Bool)
  | eventPoolDestroy (pool : ZeEventPool)
  | eventCreate (pool : ZeEventPool) (event : ZeEvent)
  | eventDestroy (event : ZeEvent)
  | memAllocDevice (ptr : DevicePtr) (size : Nat)
  | memFree (ptr : DevicePtr)
  deriving DecidableEq, Repr

/-- The process as `DefaultXpuApi` sees it: the globals, the executions the device has not
finished, and the log. -/
structure XpuState where
  globals : LevelZeroGlobals
  pending : List (ZeQueue × ZeCommandList)
  log : List XpuEvent
  deriving DecidableEq, Repr

namespace XpuState

def initial : XpuState :=
  ⟨.initial, [], []⟩

def record (s : XpuState) (e : XpuEvent) : XpuState :=
  { s with log := s.log ++ [e] }

def initLevelZero (s : XpuState) (env : LevelZeroEnv) : ZeResult × XpuState :=
  ((TorchComms.initLevelZero env s.globals).1,
    { s with globals := (TorchComms.initLevelZero env s.globals).2 })

def readDevice (s : XpuState) (index : Nat) : ZeDevice × XpuState :=
  (s.globals.devices.getD index 0, s.record (.devicesRead index s.globals.deviceCount))

def finish (s : XpuState) (queue : ZeQueue) (list : ZeCommandList) : XpuState :=
  { s.record (.finished queue list) with pending := s.pending.erase (queue, list) }

/-- `zeCommandQueueSynchronize(queue, UINT64_MAX)` returned success: every execution on `queue`
has finished. -/
def finishQueue (s : XpuState) (queue : ZeQueue) : XpuState :=
  { s with
    pending := s.pending.filter (·.1 ≠ queue)
    log := s.log ++ (s.pending.filter (·.1 = queue)).map fun e => .finished e.1 e.2 }

@[simp] theorem record_globals (s : XpuState) (e : XpuEvent) : (s.record e).globals = s.globals :=
  rfl
@[simp] theorem record_pending (s : XpuState) (e : XpuEvent) : (s.record e).pending = s.pending :=
  rfl
@[simp] theorem record_log (s : XpuState) (e : XpuEvent) : (s.record e).log = s.log ++ [e] := rfl

@[simp] theorem initLevelZero_pending (s : XpuState) (env : LevelZeroEnv) :
    (s.initLevelZero env).2.pending = s.pending := rfl
@[simp] theorem initLevelZero_log (s : XpuState) (env : LevelZeroEnv) :
    (s.initLevelZero env).2.log = s.log := rfl

@[simp] theorem readDevice_globals (s : XpuState) (i : Nat) :
    (s.readDevice i).2.globals = s.globals := rfl
@[simp] theorem readDevice_pending (s : XpuState) (i : Nat) :
    (s.readDevice i).2.pending = s.pending := rfl
@[simp] theorem readDevice_log (s : XpuState) (i : Nat) :
    (s.readDevice i).2.log = s.log ++ [.devicesRead i s.globals.deviceCount] := rfl

@[simp] theorem finish_globals (s : XpuState) (queue : ZeQueue) (list : ZeCommandList) :
    (s.finish queue list).globals = s.globals := rfl
@[simp] theorem finishQueue_globals (s : XpuState) (queue : ZeQueue) :
    (s.finishQueue queue).globals = s.globals := rfl

end XpuState

/-- What the driver answers to one command-list submission: `zeCommandListCreate` (and the list
it creates), the append, `zeCommandListClose` and `zeCommandQueueExecuteCommandLists`. -/
structure SubmitAnswers where
  create : ZeResult × ZeCommandList
  append : ZeResult
  close : ZeResult
  execute : ZeResult

/-- What the driver answers to one event creation: `zeEventPoolCreate` and `zeEventCreate`, with
the handles they create. -/
structure EventAnswers where
  poolCreate : ZeResult × ZeEventPool
  eventCreate : ZeResult × ZeEvent

structure ZeDeviceProperties where
  name : String
  numSlices : UInt32
  numSubslicesPerSlice : UInt32
  deviceId : UInt32

structure XpuDeviceProp where
  name : String
  multiProcessorCount : Int
  major : Int
  minor : Int
  totalGlobalMem : UInt64
  deriving DecidableEq, Repr

namespace DefaultXpuApi

/-- The three submitting methods after their null checks: create a command list on
`g_devices[0]`, append one command, close it, submit it to `stream`, and destroy it. -/
def submit (stream : ZeQueue) (ans : SubmitAnswers) (s : XpuState) : ZeResult × XpuState :=
  let s := (s.readDevice 0).2
  match ans.create with
  | (.success, list) =>
    let s := s.record (.commandListCreate list)
    if ans.append ≠ .success then (ans.append, s.record (.commandListDestroy list))
    else if ans.close ≠ .success then (ans.close, s.record (.commandListDestroy list))
    else
      let s := if ans.execute = .success then
        { s.record (.execute stream list) with pending := s.pending ++ [(stream, list)] }
      else s
      (ans.execute, s.record (.commandListDestroy list))
  | (result, _) => (result, s)

/-- The head of every method that needs a device: `ze_result_t result = initLevelZero(); if (result
!= ZE_RESULT_SUCCESS) return result;`, then `body` on the state `initLevelZero` left. `fail` is what
the method returns for a failed `result`. -/
def initThen {α : Type} (env : LevelZeroEnv) (fail : ZeResult → α)
    (body : XpuState → α × XpuState) (s : XpuState) : α × XpuState :=
  let (result, s) := s.initLevelZero env
  if result ≠ .success then (fail result, s) else body s

theorem initThen_of_success {α : Type} {env : LevelZeroEnv} {s : XpuState}
    (h : (initLevelZero env s.globals).1 = .success) (fail : ZeResult → α)
    (body : XpuState → α × XpuState) :
    initThen env fail body s = body (s.initLevelZero env).2 := by
  simp [initThen, XpuState.initLevelZero, h]

theorem initThen_of_failure {α : Type} {env : LevelZeroEnv} {s : XpuState}
    (h : (initLevelZero env s.globals).1 ≠ .success) (fail : ZeResult → α)
    (body : XpuState → α × XpuState) :
    initThen env fail body s = (fail (s.initLevelZero env).1, (s.initLevelZero env).2) := by
  simp [initThen, XpuState.initLevelZero, h]

def setDevice (env : LevelZeroEnv) (device : Int) : XpuState → ZeResult × XpuState :=
  initThen env id fun s =>
    if device < 0 ∨ device ≥ toCInt s.globals.deviceCount then (.errorInvalidArgument, s)
    else (.success, s)

/-- `DefaultXpuApi::getDeviceProperties(prop, device)`; `propNull` is `prop == nullptr`, `props`
and `props.1`'s result what `zeDeviceGetProperties` answers, `totalSize` what
`zeDeviceGetMemoryProperties` leaves in `mem_props.totalSize` (its result is not looked at). -/
def getDeviceProperties (env : LevelZeroEnv) (propNull : Bool) (device : Int)
    (props : ZeResult × ZeDeviceProperties) (totalSize : UInt64) :
    XpuState → (ZeResult × Option XpuDeviceProp) × XpuState :=
  initThen env (·, none) fun s =>
    if device < 0 ∨ device ≥ toCInt s.globals.deviceCount ∨ propNull then
      ((.errorInvalidArgument, none), s)
    else
      let s := (s.readDevice device.toNat).2
      match props with
      | (.success, p) =>
        let s := (s.readDevice device.toNat).2
        ((.success, some ⟨p.name.take 255, toCInt (p.numSlices * p.numSubslicesPerSlice),
          (p.deviceId >>> 16).toNat, (p.deviceId &&& 0xFFFF).toNat, totalSize⟩), s)
      | (result, _) => ((result, none), s)

/-- `DefaultXpuApi::memGetInfo(free, total)`; `memProps` is what `zeDeviceGetMemoryProperties`
answers and the total size it reports. On success `*free` and `*total` are both that size. -/
def memGetInfo (env : LevelZeroEnv) (freeNull totalNull : Bool) (memProps : ZeResult × UInt64) :
    XpuState → (ZeResult × Option UInt64) × XpuState :=
  initThen env (·, none) fun s =>
    if freeNull ∨ totalNull then ((.errorInvalidNullPointer, none), s)
    else if s.globals.deviceCount > 0 then
      let s := (s.readDevice 0).2
      match memProps with
      | (.success, totalSize) => ((.success, some totalSize), s)
      | _ => ((.errorUninitialized, none), s)
    else ((.errorUninitialized, none), s)

/-- `DefaultXpuApi::getDeviceCount(count)`: on success `*count = (int)g_device_count`. -/
def getDeviceCount (env : LevelZeroEnv) (countNull : Bool) :
    XpuState → (ZeResult × Option Int) × XpuState :=
  initThen env (·, none) fun s =>
    if countNull then ((.errorInvalidNullPointer, none), s)
    else ((.success, some (toCInt s.globals.deviceCount)), s)

def queuePriority (priority : Int) : QueuePriority :=
  if priority < 0 then .high else if priority = 0 then .normal else .low

def streamCreateWithPriority (env : LevelZeroEnv) (pStreamNull : Bool) (priority : Int)
    (create : ZeResult × ZeQueue) : XpuState → (ZeResult × Option ZeQueue) × XpuState :=
  initThen env (·, none) fun s =>
    if pStreamNull then ((.errorInvalidNullPointer, none), s)
    else if s.globals.deviceCount = 0 then ((.errorUninitialized, none), s)
    else
      let s := (s.readDevice 0).2
      match create with
      | (.success, queue) =>
        ((.success, some queue), s.record (.commandQueueCreate queue (queuePriority priority)))
      | (result, _) => ((result, none), s)

def malloc (env : LevelZeroEnv) (devPtrNull : Bool) (size : Nat) (alloc : ZeResult × DevicePtr) :
    XpuState → (ZeResult × Option DevicePtr) × XpuState :=
  initThen env (·, none) fun s =>
    if devPtrNull then ((.errorInvalidNullPointer, none), s)
    else if size = 0 then ((.errorInvalidSize, none), s)
    else
      let s := (s.readDevice 0).2
      match alloc with
      | (.success, ptr) => ((.success, some ptr), s.record (.memAllocDevice ptr size))
      | (result, _) => ((result, none), s)

/-- The event pool and event `eventCreate` makes, after its checks; `timestamps` is
`ZE_EVENT_POOL_FLAG_KERNEL_TIMESTAMP`. A failed `zeEventCreate` leaves the pool as it is. -/
def createPooledEvent (timestamps : Bool) (ans : EventAnswers) (s : XpuState) :
    (ZeResult × Option ZeEvent) × XpuState :=
  let s := (s.readDevice 0).2
  match ans.poolCreate with
  | (.success, pool) =>
    let s := s.record (.eventPoolCreate pool timestamps)
    match ans.eventCreate with
    | (.success, event) => ((.success, some event), s.record (.eventCreate pool event))
    | (result, _) => ((result, none), s)
  | (result, _) => ((result, none), s)

def eventCreate (env : LevelZeroEnv) (eventNull : Bool) (ans : EventAnswers) :
    XpuState → (ZeResult × Option ZeEvent) × XpuState :=
  initThen env (·, none) fun s =>
    if eventNull then ((.errorInvalidNullPointer, none), s) else createPooledEvent false ans s

/-- `DefaultXpuApi::eventCreateWithFlags(event, flags)`: with bit 0 of `flags` (timing) a pool
with kernel timestamps, otherwise `eventCreate(event)`, whose `initLevelZero` has nothing left
to do. Both branches of the `#ifdef` are the same code. -/
def eventCreateWithFlags (env : LevelZeroEnv) (eventNull : Bool) (flags : UInt32)
    (ans : EventAnswers) : XpuState → (ZeResult × Option ZeEvent) × XpuState :=
  initThen env (·, none) fun s =>
    if eventNull then ((.errorInvalidNullPointer, none), s)
    else if flags &&& 1 ≠ 0 then createPooledEvent true ans s
    else eventCreate env eventNull ans s

def streamDestroy (stream : ZeQueue) (status : ZeResult) (s : XpuState) : ZeResult × XpuState :=
  if stream = 0 then (.errorInvalidNullHandle, s)
  else (status, s.record (.commandQueueDestroy stream))

def streamWaitEvent (stream : ZeQueue) (event : ZeEvent) (ans : SubmitAnswers) (s : XpuState) :
    ZeResult × XpuState :=
  if stream = 0 ∨ event = 0 then (.errorInvalidNullHandle, s) else submit stream ans s

def getCurrentXPUStream (current : ZeQueue) (s : XpuState) : ZeQueue × XpuState :=
  (current, s)

def streamSynchronize (stream : ZeQueue) (status : ZeResult) (s : XpuState) :
    ZeResult × XpuState :=
  if stream = 0 then (.errorInvalidNullHandle, s)
  else if status = .success then (.success, s.finishQueue stream)
  else (status, s)

def free (devPtr : DevicePtr) (status : ZeResult) (s : XpuState) : ZeResult × XpuState :=
  if devPtr = 0 then (.errorInvalidNullPointer, s) else (status, s.record (.memFree devPtr))

def memcpyAsync (dst src : DevicePtr) (count : Nat) (stream : ZeQueue) (ans : SubmitAnswers)
    (s : XpuState) : ZeResult × XpuState :=
  if dst = 0 ∨ src = 0 ∨ stream = 0 then (.errorInvalidNullPointer, s)
  else if count = 0 then (.success, s)
  else submit stream ans s

def eventDestroy (event : ZeEvent) (status : ZeResult) (s : XpuState) : ZeResult × XpuState :=
  if event = 0 then (.errorInvalidNullHandle, s) else (status, s.record (.eventDestroy event))

def eventRecord (event : ZeEvent) (stream : ZeQueue) (ans : SubmitAnswers) (s : XpuState) :
    ZeResult × XpuState :=
  if event = 0 ∨ stream = 0 then (.errorInvalidNullHandle, s) else submit stream ans s

def eventQuery (event : ZeEvent) (status : ZeResult) (s : XpuState) : ZeResult × XpuState :=
  if event = 0 then (.errorInvalidNullHandle, s)
  else if status = .success then (.success, s)
  else if status = .notReady then (.notReady, s)
  else (status, s)

end DefaultXpuApi

/-- One call of a `DefaultXpuApi` method, with its arguments (a null out-pointer is `true`) and
what Level Zero answers inside it. `getErrorString` touches no state and is left out. -/
inductive XpuOp where
  | setDevice (env : LevelZeroEnv) (device : Int)
  | getDeviceProperties (env : LevelZeroEnv) (propNull : Bool) (device : Int)
      (props : ZeResult × ZeDeviceProperties) (totalSize : UInt64)
  | memGetInfo (env : LevelZeroEnv) (freeNull totalNull : Bool) (memProps : ZeResult × UInt64)
  | getDeviceCount (env : LevelZeroEnv) (countNull : Bool)
  | streamCreateWithPriority (env : LevelZeroEnv) (pStreamNull : Bool) (priority : Int)
      (create : ZeResult × ZeQueue)
  | streamDestroy (stream : ZeQueue) (status : ZeResult)
  | streamWaitEvent (stream : ZeQueue) (event : ZeEvent) (ans : SubmitAnswers)
  | getCurrentXPUStream (current : ZeQueue)
  | streamSynchronize (stream : ZeQueue) (status : ZeResult)
  | malloc (env : LevelZeroEnv) (devPtrNull : Bool) (size : Nat) (alloc : ZeResult × DevicePtr)
  | free (devPtr : DevicePtr) (status : ZeResult)
  | memcpyAsync (dst src : DevicePtr) (count : Nat) (stream : ZeQueue) (ans : SubmitAnswers)
  | eventCreate (env : LevelZeroEnv) (eventNull : Bool) (ans : EventAnswers)
  | eventCreateWithFlags (env : LevelZeroEnv) (eventNull : Bool) (flags : UInt32)
      (ans : EventAnswers)
  | eventDestroy (event : ZeEvent) (status : ZeResult)
  | eventRecord (event : ZeEvent) (stream : ZeQueue) (ans : SubmitAnswers)
  | eventQuery (event : ZeEvent) (status : ZeResult)

def XpuOp.run : XpuOp → XpuState → XpuState
  | .setDevice env device, s => (DefaultXpuApi.setDevice env device s).2
  | .getDeviceProperties env propNull device props totalSize, s =>
    (DefaultXpuApi.getDeviceProperties env propNull device props totalSize s).2
  | .memGetInfo env freeNull totalNull memProps, s =>
    (DefaultXpuApi.memGetInfo env freeNull totalNull memProps s).2
  | .getDeviceCount env countNull, s => (DefaultXpuApi.getDeviceCount env countNull s).2
  | .streamCreateWithPriority env pStreamNull priority create, s =>
    (DefaultXpuApi.streamCreateWithPriority env pStreamNull priority create s).2
  | .streamDestroy stream status, s => (DefaultXpuApi.streamDestroy stream status s).2
  | .streamWaitEvent stream event ans, s => (DefaultXpuApi.streamWaitEvent stream event ans s).2
  | .getCurrentXPUStream current, s => (DefaultXpuApi.getCurrentXPUStream current s).2
  | .streamSynchronize stream status, s => (DefaultXpuApi.streamSynchronize stream status s).2
  | .malloc env devPtrNull size alloc, s => (DefaultXpuApi.malloc env devPtrNull size alloc s).2
  | .free devPtr status, s => (DefaultXpuApi.free devPtr status s).2
  | .memcpyAsync dst src count stream ans, s =>
    (DefaultXpuApi.memcpyAsync dst src count stream ans s).2
  | .eventCreate env eventNull ans, s => (DefaultXpuApi.eventCreate env eventNull ans s).2
  | .eventCreateWithFlags env eventNull flags ans, s =>
    (DefaultXpuApi.eventCreateWithFlags env eventNull flags ans s).2
  | .eventDestroy event status, s => (DefaultXpuApi.eventDestroy event status s).2
  | .eventRecord event stream ans, s => (DefaultXpuApi.eventRecord event stream ans s).2
  | .eventQuery event status, s => (DefaultXpuApi.eventQuery event status s).2

/-- A method call, or the device finishing a pending execution. -/
inductive XpuStep : XpuState → XpuState → Prop
  | call (op : XpuOp) (s : XpuState) : XpuStep s (op.run s)
  | finish {s : XpuState} {queue : ZeQueue} {list : ZeCommandList} :
      (queue, list) ∈ s.pending → XpuStep s (s.finish queue list)

/-- The states a process reaches from its start. -/
inductive XpuReachable : XpuState → Prop
  | initial : XpuReachable .initial
  | step {s s' : XpuState} : XpuReachable s → XpuStep s s' → XpuReachable s'

end TorchComms
