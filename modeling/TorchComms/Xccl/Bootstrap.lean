import TorchComms.Device.LevelZero
import TorchComms.Xccl.StoreKey
import TorchComms.Xccl.Hints

/-!
# One rank's bootstrap

`TorchCommXCCLBootstrap::createXcclComm` as explicit state passing. A call waits for the other
ranks at three points: a rank other than 0 blocks in `store_->get`, every rank blocks in
`commInitRankConfig`, and the barrier ends in `streamSynchronize`. The call is cut into the
segments between those points, each a function of the rank's state and of what the outside world
answered there; `Phase` says where the current call stands. A C++ exception ends the call: the
state changes made before it stay, and the rank is idle again.

Each rank keeps a log of what it did, tagged with the number of the call that did it. The log is
ghost state: the code keeps none, and the theorems are stated over it.

`sizeof(onecclUniqueId)` is `idBytes`, and `XCCL_CONFIG_INITIALIZER` is `initializer`: both come
from the oneCCL header.
-/

namespace TorchComms

/-- `onecclUniqueId`: an opaque blob of `idBytes` bytes. -/
structure OnecclUniqueId (idBytes : Nat) where
  internal : List UInt8
  length_internal : internal.length = idBytes
  deriving DecidableEq

theorem OnecclUniqueId.ext_internal {idBytes : Nat} {a b : OnecclUniqueId idBytes}
    (h : a.internal = b.internal) : a = b := by
  cases a
  cases b
  cases h
  rfl

abbrev StoreRef := Nat

abbrev OnecclComm := Nat

inductive OnecclResult where
  | success
  | error (code : Nat)
  deriving DecidableEq, Repr

def kUniqueidXchgMethodAuto : String := "auto"

def kUniqueidXchgMethodTCPStore : String := "tcpstore"

/-- The exceptions that leave `createXcclComm`. Those of the store, `StoreManager` and the XCCL
backend carry the collaborator's own text. -/
inductive BootstrapError where
  | invalidExchangeMethod (method : String)
  | noExchange
  | storeManager (what : String)
  | store (what : String)
  | getUniqueId (errorString : String)
  | invalidUniqueIdSize
  | hint (error : StoiError)
  | commInit (errorString : String)
  | xpuCheck (errStr : String) (status : ZeResult)
  deriving DecidableEq

def BootstrapError.what : BootstrapError → String
  | .invalidExchangeMethod method => "Invalid unique ID exchange method " ++ method
  | .noExchange => "No way to exchange unique ID"
  | .storeManager what | .store what => what
  | .getUniqueId errorString => "Failed to get XCCL unique ID: " ++ errorString
  | .invalidUniqueIdSize => "Invalid XCCL unique ID size"
  | .hint _ => "stoi"
  | .commInit errorString => "Failed to initialize XCCL communicator: " ++ errorString
  | .xpuCheck errStr status => xpuCheckMessage errStr status

/-- The fields of `TorchCommXCCLBootstrap` that `createXcclComm` reads or writes: `rank_`,
`comm_size_`, `store_` (`none` is null), `created_internal_store_`, `uniqueid_xchg_method_`,
`device_.index()` and `barrier_buffer_`. -/
structure TorchCommXCCLBootstrap where
  rank : Nat
  commSize : Nat
  store : Option StoreRef
  createdInternalStore : Bool
  uniqueidXchgMethod : String
  device : Int
  barrierBuffer : Nat
  deriving DecidableEq

/-- The arguments of one `createXcclComm(name, options)` call: the name and the hints, in the order
the map enumerates them. -/
structure CommCall where
  name : String
  hints : List (String × String)
  deriving DecidableEq

/-- Where the current `createXcclComm` call stands. -/
inductive Phase (idBytes : Nat) where
  | idle
  /-- A rank other than 0 waits in `store_->get(key)`. -/
  | getting (call : CommCall) (key : String)
  /-- `exchangeUniqueId` returned `uniqueId`; `commInitRankConfig` is next. -/
  | exchanged (call : CommCall) (uniqueId : OnecclUniqueId idBytes)
  /-- The barrier `allReduce` was issued on `comm`; `streamSynchronize` is running. -/
  | synchronizing (comm : OnecclComm)
  deriving DecidableEq

/-- What a rank did. -/
inductive Event (idBytes : Nat) where
  /-- `StoreManager::getStore` was called; it returned the store, or threw. -/
  | storeManagerGetStore (store : Option StoreRef)
  | drewKey (key : String)
  /-- `store_->set(key, vec)` with the bytes of `uniqueId`. -/
  | published (key : String) (uniqueId : OnecclUniqueId idBytes)
  | exchanged (uniqueId : OnecclUniqueId idBytes)
  | commInitRankConfig (commSize : Nat) (uniqueId : OnecclUniqueId idBytes) (rank : Nat)
      (config : OnecclConfig)
  /-- `store_.reset()` in `cleanupTCPStore`. -/
  | reset
  | allReduce (comm : OnecclComm) (result : OnecclResult)
  | returned (comm : OnecclComm)
  | threw (error : BootstrapError)
  deriving DecidableEq

/-- An event, with the number of the `createXcclComm` call it belongs to (the first is `1`). -/
structure Record (idBytes : Nat) where
  call : Nat
  event : Event idBytes
  deriving DecidableEq

/-- One rank process: its bootstrap, the process-wide `counter_`, the number of calls it started,
where the current one stands, and its log. -/
structure Rank (idBytes : Nat) where
  bootstrap : TorchCommXCCLBootstrap
  counter : BitVec 32
  calls : Nat
  phase : Phase idBytes
  log : List (Record idBytes)

/-- The key-value store every `store_` of the rendezvous reaches. -/
abbrev KVStore := String → Option (List UInt8)

/-- What the collaborators answer in the first segment of a call: `isTCPStoreEnabled()` (whether
`MASTER_ADDR` and `MASTER_PORT` are set), `StoreManager::getStore`, `getUniqueId` (with
`getErrorString` of a failure) and `store_->set`. A segment reads only the answers it asks for. -/
structure ExchangeAnswers (idBytes : Nat) where
  tcpStoreEnabled : Bool
  getStore : Except String StoreRef
  getUniqueId : Except String (OnecclUniqueId idBytes)
  set : Except String Unit

/-- What the backend answers after the exchange: `commInitRankConfig`'s status and communicator,
`getErrorString` of that status, and the barrier `allReduce`'s status. -/
structure InitAnswers where
  commInitRankConfig : OnecclResult × Option OnecclComm
  errorString : String
  allReduce : OnecclResult

namespace Rank

variable {idBytes : Nat}

def init (bootstrap : TorchCommXCCLBootstrap) (counter : BitVec 32) : Rank idBytes :=
  ⟨bootstrap, counter, 0, .idle, []⟩

def record (r : Rank idBytes) (e : Event idBytes) : Rank idBytes :=
  { r with log := r.log ++ [⟨r.calls, e⟩] }

/-- A C++ exception `e` leaves the current call. -/
def throw (r : Rank idBytes) (e : BootstrapError) : Rank idBytes :=
  { r.record (.threw e) with phase := .idle }

def goto (r : Rank idBytes) (phase : Phase idBytes) : Rank idBytes :=
  { r with phase := phase }

def setStore (r : Rank idBytes) (store : Option StoreRef) : Rank idBytes :=
  { r with bootstrap := { r.bootstrap with store := store } }

@[simp] theorem record_bootstrap (r : Rank idBytes) (e : Event idBytes) :
    (r.record e).bootstrap = r.bootstrap := rfl
@[simp] theorem record_counter (r : Rank idBytes) (e : Event idBytes) :
    (r.record e).counter = r.counter := rfl
@[simp] theorem record_calls (r : Rank idBytes) (e : Event idBytes) :
    (r.record e).calls = r.calls := rfl
@[simp] theorem record_phase (r : Rank idBytes) (e : Event idBytes) :
    (r.record e).phase = r.phase := rfl
@[simp] theorem record_log (r : Rank idBytes) (e : Event idBytes) :
    (r.record e).log = r.log ++ [⟨r.calls, e⟩] := rfl

@[simp] theorem throw_bootstrap (r : Rank idBytes) (e : BootstrapError) :
    (r.throw e).bootstrap = r.bootstrap := rfl
@[simp] theorem throw_counter (r : Rank idBytes) (e : BootstrapError) :
    (r.throw e).counter = r.counter := rfl
@[simp] theorem throw_calls (r : Rank idBytes) (e : BootstrapError) :
    (r.throw e).calls = r.calls := rfl
@[simp] theorem throw_phase (r : Rank idBytes) (e : BootstrapError) :
    (r.throw e).phase = .idle := rfl
@[simp] theorem throw_log (r : Rank idBytes) (e : BootstrapError) :
    (r.throw e).log = r.log ++ [⟨r.calls, .threw e⟩] := rfl

@[simp] theorem goto_bootstrap (r : Rank idBytes) (p : Phase idBytes) :
    (r.goto p).bootstrap = r.bootstrap := rfl
@[simp] theorem goto_counter (r : Rank idBytes) (p : Phase idBytes) :
    (r.goto p).counter = r.counter := rfl
@[simp] theorem goto_calls (r : Rank idBytes) (p : Phase idBytes) : (r.goto p).calls = r.calls :=
  rfl
@[simp] theorem goto_phase (r : Rank idBytes) (p : Phase idBytes) : (r.goto p).phase = p := rfl
@[simp] theorem goto_log (r : Rank idBytes) (p : Phase idBytes) : (r.goto p).log = r.log := rfl

@[simp] theorem setStore_bootstrap (r : Rank idBytes) (s : Option StoreRef) :
    (r.setStore s).bootstrap = { r.bootstrap with store := s } := rfl
@[simp] theorem setStore_counter (r : Rank idBytes) (s : Option StoreRef) :
    (r.setStore s).counter = r.counter := rfl
@[simp] theorem setStore_calls (r : Rank idBytes) (s : Option StoreRef) :
    (r.setStore s).calls = r.calls := rfl
@[simp] theorem setStore_phase (r : Rank idBytes) (s : Option StoreRef) :
    (r.setStore s).phase = r.phase := rfl
@[simp] theorem setStore_log (r : Rank idBytes) (s : Option StoreRef) :
    (r.setStore s).log = r.log := rfl

/-- `getXCCLStoreKey()` on the process-wide counter. -/
def drawKey (r : Rank idBytes) : Rank idBytes :=
  ({ r with counter := (getXCCLStoreKey r.counter).2 } : Rank idBytes).record
    (.drewKey (getXCCLStoreKey r.counter).1)

/-- `store_ = StoreManager::get().getStore(...)` returned `store`;
`created_internal_store_ = true`. -/
def acquireStore (r : Rank idBytes) (store : StoreRef) : Rank idBytes :=
  let r := (r.record (.storeManagerGetStore (some store))).setStore (some store)
  { r with bootstrap := { r.bootstrap with createdInternalStore := true } }

@[simp] theorem drawKey_bootstrap (r : Rank idBytes) : r.drawKey.bootstrap = r.bootstrap := rfl
@[simp] theorem drawKey_counter (r : Rank idBytes) :
    r.drawKey.counter = (getXCCLStoreKey r.counter).2 := rfl
@[simp] theorem drawKey_calls (r : Rank idBytes) : r.drawKey.calls = r.calls := rfl
@[simp] theorem drawKey_phase (r : Rank idBytes) : r.drawKey.phase = r.phase := rfl
@[simp] theorem drawKey_log (r : Rank idBytes) :
    r.drawKey.log = r.log ++ [⟨r.calls, .drewKey (getXCCLStoreKey r.counter).1⟩] := rfl

@[simp] theorem acquireStore_bootstrap (r : Rank idBytes) (s : StoreRef) :
    (r.acquireStore s).bootstrap =
      { r.bootstrap with store := some s, createdInternalStore := true } := rfl
@[simp] theorem acquireStore_counter (r : Rank idBytes) (s : StoreRef) :
    (r.acquireStore s).counter = r.counter := rfl
@[simp] theorem acquireStore_calls (r : Rank idBytes) (s : StoreRef) :
    (r.acquireStore s).calls = r.calls := rfl
@[simp] theorem acquireStore_phase (r : Rank idBytes) (s : StoreRef) :
    (r.acquireStore s).phase = r.phase := rfl
@[simp] theorem acquireStore_log (r : Rank idBytes) (s : StoreRef) :
    (r.acquireStore s).log = r.log ++ [⟨r.calls, .storeManagerGetStore (some s)⟩] := rfl

/-! ### The segments of `createXcclComm` -/

/-- `exchangeUniqueIdStore` up to its store operation. It draws a key; rank 0 generates the
identifier and sets it under the key, another rank starts waiting in `store_->get(key)`. -/
def exchangeUniqueIdStore (r : Rank idBytes) (kv : KVStore) (call : CommCall)
    (ans : ExchangeAnswers idBytes) : Rank idBytes × KVStore :=
  let key := (getXCCLStoreKey r.counter).1
  let r := r.drawKey
  if r.bootstrap.rank = 0 then
    match ans.getUniqueId with
    | .error errorString => (r.throw (.getUniqueId errorString), kv)
    | .ok uniqueId =>
      match ans.set with
      | .error what => (r.throw (.store what), kv)
      | .ok () =>
        (((r.record (.published key uniqueId)).record (.exchanged uniqueId)).goto
          (.exchanged call uniqueId), Function.update kv key (some uniqueId.internal))
  else (r.goto (.getting call key), kv)

/-- `exchangeUniqueIdTCPStore`: a store from `StoreManager`, owned from now on. -/
def exchangeUniqueIdTCPStore (r : Rank idBytes) (kv : KVStore) (call : CommCall)
    (ans : ExchangeAnswers idBytes) : Rank idBytes × KVStore :=
  match ans.getStore with
  | .error what => ((r.record (.storeManagerGetStore none)).throw (.storeManager what), kv)
  | .ok store => exchangeUniqueIdStore (r.acquireStore store) kv call ans

/-- `exchangeUniqueId`: the store passed to the constructor, or else one from `StoreManager` when
the method is `auto` or `tcpstore` and `MASTER_ADDR` and `MASTER_PORT` are set. -/
def exchangeUniqueId (r : Rank idBytes) (kv : KVStore) (call : CommCall)
    (ans : ExchangeAnswers idBytes) : Rank idBytes × KVStore :=
  match r.bootstrap.store with
  | some _ => exchangeUniqueIdStore r kv call ans
  | none =>
    if r.bootstrap.uniqueidXchgMethod ≠ kUniqueidXchgMethodAuto ∧
        r.bootstrap.uniqueidXchgMethod ≠ kUniqueidXchgMethodTCPStore then
      (r.throw (.invalidExchangeMethod r.bootstrap.uniqueidXchgMethod), kv)
    else if !ans.tcpStoreEnabled then (r.throw .noExchange, kv)
    else exchangeUniqueIdTCPStore r kv call ans

/-- `createXcclComm` from its entry to the first point where it waits. -/
def createXcclComm (r : Rank idBytes) (kv : KVStore) (call : CommCall)
    (ans : ExchangeAnswers idBytes) : Rank idBytes × KVStore :=
  exchangeUniqueId { r with calls := r.calls + 1 } kv call ans

/-- The end of `store_->get(key)` on a rank other than 0: the size check, and the copy of the
bytes into the identifier. -/
def fetchUniqueId (r : Rank idBytes) (call : CommCall) (got : Except String (List UInt8)) :
    Rank idBytes :=
  match got with
  | .error what => r.throw (.store what)
  | .ok vec =>
    if h : vec.length = idBytes then
      (r.record (.exchanged ⟨vec, h⟩)).goto (.exchanged call ⟨vec, h⟩)
    else r.throw .invalidUniqueIdSize

/-- `cleanupTCPStore` up to its wait: when the bootstrap owns its store, drop it and issue the
barrier `allReduce` on `comm`; a failed `allReduce` is only logged. Otherwise `createXcclComm`
returns at once. -/
def cleanupTCPStore (r : Rank idBytes) (comm : OnecclComm) (allReduce : OnecclResult) :
    Rank idBytes :=
  if r.bootstrap.createdInternalStore then
    (((r.setStore none).record .reset).record (.allReduce comm allReduce)).goto
      (.synchronizing comm)
  else (r.record (.returned comm)).goto .idle

/-- `createXcclComm` after `exchangeUniqueId`: the configuration, `commInitRankConfig`, and
`cleanupTCPStore` up to its wait. -/
def initComm (initializer : OnecclConfig) (r : Rank idBytes) (call : CommCall)
    (uniqueId : OnecclUniqueId idBytes) (ans : InitAnswers) : Rank idBytes :=
  match populateXcclConfigFromHints (initializer.setString .commName call.name) call.hints with
  | .error e => r.throw (.hint e)
  | .ok config =>
    let r := r.record (.commInitRankConfig r.bootstrap.commSize uniqueId r.bootstrap.rank config)
    match ans.commInitRankConfig with
    | (.success, some comm) => cleanupTCPStore r comm ans.allReduce
    | _ => r.throw (.commInit ans.errorString)

/-- The end of `streamSynchronize` on the barrier stream; `createXcclComm` returns `comm`. -/
def finishCleanup (r : Rank idBytes) (comm : OnecclComm) (status : ZeResult) : Rank idBytes :=
  if status = .success then (r.record (.returned comm)).goto .idle
  else r.throw (.xpuCheck "Stream synchronization failed" status)

/-! ### Reading the log -/

end Rank

def callEvents {idBytes : Nat} (log : List (Record idBytes)) (j : Nat) : List (Event idBytes) :=
  (log.filter fun e => e.call = j).map (·.event)

@[simp] theorem callEvents_nil {idBytes : Nat} (j : Nat) :
    callEvents ([] : List (Record idBytes)) j = [] := rfl

@[simp] theorem callEvents_append {idBytes : Nat} (log new : List (Record idBytes)) (j : Nat) :
    callEvents (log ++ new) j = callEvents log j ++ callEvents new j := by
  simp [callEvents]

@[simp] theorem callEvents_singleton {idBytes : Nat} (k j : Nat) (e : Event idBytes) :
    callEvents [⟨k, e⟩] j = if k = j then [e] else [] := by
  by_cases h : k = j <;> simp [callEvents, h]

def Event.isStoreManager {idBytes : Nat} : Event idBytes → Bool
  | .storeManagerGetStore _ => true
  | _ => false

def Event.isAllReduce {idBytes : Nat} : Event idBytes → Bool
  | .allReduce _ _ => true
  | _ => false

def Event.touchesStore {idBytes : Nat} : Event idBytes → Bool
  | .storeManagerGetStore _ | .reset | .allReduce _ _ => true
  | _ => false

namespace Rank

variable {idBytes : Nat}

/-! ### What each segment can do -/

theorem exchangeUniqueIdStore_cases (r : Rank idBytes) (kv : KVStore) (call : CommCall)
    (ans : ExchangeAnswers idBytes) :
    (∃ e, exchangeUniqueIdStore r kv call ans = (r.drawKey.throw e, kv) ∧
        e ≠ .invalidUniqueIdSize) ∨
      (r.bootstrap.rank ≠ 0 ∧ exchangeUniqueIdStore r kv call ans =
        (r.drawKey.goto (.getting call (getXCCLStoreKey r.counter).1), kv)) ∨
      (∃ uniqueId, r.bootstrap.rank = 0 ∧ exchangeUniqueIdStore r kv call ans =
        (((r.drawKey.record (.published (getXCCLStoreKey r.counter).1 uniqueId)).record
            (.exchanged uniqueId)).goto (.exchanged call uniqueId),
          Function.update kv (getXCCLStoreKey r.counter).1 (some uniqueId.internal))) := by
  by_cases hrank : r.bootstrap.rank = 0
  · rcases hid : ans.getUniqueId with errorString | uniqueId
    · exact .inl ⟨.getUniqueId errorString, by simp [exchangeUniqueIdStore, hrank, hid], nofun⟩
    · rcases hset : ans.set with what | ⟨⟩
      · exact .inl ⟨.store what, by simp [exchangeUniqueIdStore, hrank, hid, hset], nofun⟩
      · exact .inr (.inr ⟨uniqueId, hrank, by simp [exchangeUniqueIdStore, hrank, hid, hset]⟩)
  · exact .inr (.inl ⟨hrank, by simp [exchangeUniqueIdStore, hrank]⟩)

theorem exchangeUniqueId_cases (r : Rank idBytes) (kv : KVStore) (call : CommCall)
    (ans : ExchangeAnswers idBytes) :
    (r.bootstrap.store.isSome ∧
        exchangeUniqueId r kv call ans = exchangeUniqueIdStore r kv call ans) ∨
      (r.bootstrap.store = none ∧ ∃ e, exchangeUniqueId r kv call ans = (r.throw e, kv) ∧
        e ≠ .invalidUniqueIdSize) ∨
      (r.bootstrap.store = none ∧ ∃ e, exchangeUniqueId r kv call ans =
        ((r.record (.storeManagerGetStore none)).throw e, kv) ∧ e ≠ .invalidUniqueIdSize) ∨
      (r.bootstrap.store = none ∧ ∃ s, exchangeUniqueId r kv call ans =
        exchangeUniqueIdStore (r.acquireStore s) kv call ans) := by
  rcases hstore : r.bootstrap.store with _ | s
  · by_cases hmethod : r.bootstrap.uniqueidXchgMethod ≠ kUniqueidXchgMethodAuto ∧
        r.bootstrap.uniqueidXchgMethod ≠ kUniqueidXchgMethodTCPStore
    · exact .inr (.inl ⟨rfl, .invalidExchangeMethod r.bootstrap.uniqueidXchgMethod,
        by simp [exchangeUniqueId, hstore, hmethod], nofun⟩)
    by_cases hcond : ans.tcpStoreEnabled = false
    · exact .inr (.inl ⟨rfl, .noExchange, by simp [exchangeUniqueId, hstore, hmethod, hcond],
        nofun⟩)
    rcases hget : ans.getStore with what | s
    · exact .inr (.inr (.inl ⟨rfl, .storeManager what, by simp [exchangeUniqueId,
        exchangeUniqueIdTCPStore, hstore, hmethod, hcond, hget], nofun⟩))
    · exact .inr (.inr (.inr ⟨rfl, s, by simp [exchangeUniqueId, exchangeUniqueIdTCPStore,
        hstore, hmethod, hcond, hget]⟩))
  · exact .inl ⟨rfl, by simp [exchangeUniqueId, hstore]⟩

theorem fetchUniqueId_cases (r : Rank idBytes) (call : CommCall)
    (got : Except String (List UInt8)) :
    (∃ what, got = .error what ∧ fetchUniqueId r call got = r.throw (.store what)) ∨
      (∃ vec, got = .ok vec ∧ vec.length ≠ idBytes ∧
        fetchUniqueId r call got = r.throw .invalidUniqueIdSize) ∨
      (∃ uniqueId : OnecclUniqueId idBytes, got = .ok uniqueId.internal ∧
        fetchUniqueId r call got =
          (r.record (.exchanged uniqueId)).goto (.exchanged call uniqueId)) := by
  unfold fetchUniqueId
  rcases got with what | vec
  · exact .inl ⟨what, rfl, rfl⟩
  · by_cases h : vec.length = idBytes
    · exact .inr (.inr ⟨⟨vec, h⟩, rfl, by simp [h]⟩)
    · exact .inr (.inl ⟨vec, rfl, h, by simp [h]⟩)

theorem cleanupTCPStore_cases (r : Rank idBytes) (comm : OnecclComm) (result : OnecclResult) :
    (r.bootstrap.createdInternalStore = true ∧ cleanupTCPStore r comm result =
        (((r.setStore none).record .reset).record (.allReduce comm result)).goto
          (.synchronizing comm)) ∨
      (r.bootstrap.createdInternalStore = false ∧
        cleanupTCPStore r comm result = (r.record (.returned comm)).goto .idle) := by
  unfold cleanupTCPStore
  cases r.bootstrap.createdInternalStore <;> simp

theorem initComm_cases (initializer : OnecclConfig) (r : Rank idBytes) (call : CommCall)
    (uniqueId : OnecclUniqueId idBytes) (ans : InitAnswers) :
    (∃ e, initComm initializer r call uniqueId ans = r.throw e ∧ e ≠ .invalidUniqueIdSize) ∨
      ∃ config, let r' := r.record (.commInitRankConfig r.bootstrap.commSize uniqueId
          r.bootstrap.rank config)
        (∃ e, initComm initializer r call uniqueId ans = r'.throw e ∧
          e ≠ .invalidUniqueIdSize) ∨
        ∃ comm, initComm initializer r call uniqueId ans =
          cleanupTCPStore r' comm ans.allReduce := by
  unfold initComm
  rcases populateXcclConfigFromHints (initializer.setString .commName call.name) call.hints
    with e | config
  · exact .inl ⟨_, rfl, nofun⟩
  · refine .inr ⟨config, ?_⟩
    rcases ans.commInitRankConfig with ⟨_ | _, _ | comm⟩
    · exact .inl ⟨_, rfl, nofun⟩
    · exact .inr ⟨comm, rfl⟩
    · exact .inl ⟨_, rfl, nofun⟩
    · exact .inl ⟨_, rfl, nofun⟩

theorem finishCleanup_cases (r : Rank idBytes) (comm : OnecclComm) (status : ZeResult) :
    (status = .success ∧ finishCleanup r comm status = (r.record (.returned comm)).goto .idle) ∨
      (∃ e, finishCleanup r comm status = r.throw e ∧ e ≠ .invalidUniqueIdSize) := by
  unfold finishCleanup
  split_ifs with h
  · exact .inl ⟨h, rfl⟩
  · exact .inr ⟨_, rfl, nofun⟩

/-! ### Runs of one rank -/

/-- One segment of one rank, with any answers from the outside world. -/
inductive Step (initializer : OnecclConfig) : Rank idBytes → Rank idBytes → Prop
  | call {r : Rank idBytes} (kv : KVStore) (call : CommCall) (ans : ExchangeAnswers idBytes) :
      r.phase = .idle → Step initializer r (createXcclComm r kv call ans).1
  | fetch {r : Rank idBytes} {call : CommCall} {key : String} (got : Except String (List UInt8)) :
      r.phase = .getting call key → Step initializer r (fetchUniqueId r call got)
  | init {r : Rank idBytes} {call : CommCall} {uniqueId : OnecclUniqueId idBytes}
      (ans : InitAnswers) :
      r.phase = .exchanged call uniqueId →
      Step initializer r (initComm initializer r call uniqueId ans)
  | sync {r : Rank idBytes} {comm : OnecclComm} (status : ZeResult) :
      r.phase = .synchronizing comm → Step initializer r (finishCleanup r comm status)

inductive Reachable (initializer : OnecclConfig) (start : Rank idBytes) : Rank idBytes → Prop
  | refl : Reachable initializer start start
  | step {r r' : Rank idBytes} :
      Reachable initializer start r → Step initializer r r' → Reachable initializer start r'

end Rank

end TorchComms
