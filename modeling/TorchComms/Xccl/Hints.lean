import Mathlib.Data.List.Perm.Basic
import Mathlib.Data.Nat.Digits

/-!
# Configuration hints

`populateXcclConfigFromHints` walks the hint map once and, for each key it recognises, writes one
field of the backend's `onecclConfig_t`: integer fields through `std::stoi`, the two string fields
through `strdup(val.c_str())`. Every other key only logs a warning. Logging is not modelled, and a
string field is its text: `strdup` hands the backend a fresh copy of the characters before the
first NUL.

`XCCL_CONFIG_INITIALIZER` comes from the oneCCL header, so the starting configuration is always an
argument here.
-/

namespace TorchComms

/-- The `int` fields of `onecclConfig_t` a hint can set. -/
inductive IntField where
  | blocking | cgaClusterSize | minCTAs | maxCTAs | splitShare | trafficClass | collnetEnable
  | CTAPolicy | shrinkShare | nvlsCTAs | nChannelsPerNetPeer | nvlinkCentricSched
  deriving DecidableEq, Repr

/-- The `const char*` fields of `onecclConfig_t` a hint can set. -/
inductive StringField where
  | netName | commName
  deriving DecidableEq, Repr

/-- The field one branch of `populateXcclConfigFromHints` writes. -/
inductive HintTarget where
  | int (field : IntField)
  | string (field : StringField)
  deriving DecidableEq, Repr

/-- The fields of `onecclConfig_t` that bootstrap code writes; `none` is a null `const char*`. -/
structure OnecclConfig where
  blocking : Int
  cgaClusterSize : Int
  minCTAs : Int
  maxCTAs : Int
  netName : Option String
  splitShare : Int
  trafficClass : Int
  commName : Option String
  collnetEnable : Int
  CTAPolicy : Int
  shrinkShare : Int
  nvlsCTAs : Int
  nChannelsPerNetPeer : Int
  nvlinkCentricSched : Int
  deriving DecidableEq, Inhabited

/-- The branch of the `if` chain in `populateXcclConfigFromHints` that `key` takes; `none` is the
final `else`, which logs "XCCL hint ... is not supported" and ignores the hint. -/
def hintTarget (key : String) : Option HintTarget :=
  if key = "blocking" then some (.int .blocking)
  else if key = "cgaClusterSize" ∨ key = "cga_cluster_size" then some (.int .cgaClusterSize)
  else if key = "minCTAs" ∨ key = "min_ctas" then some (.int .minCTAs)
  else if key = "maxCTAs" ∨ key = "max_ctas" then some (.int .maxCTAs)
  else if key = "netName" then some (.string .netName)
  else if key = "splitShare" ∨ key = "split_share" then some (.int .splitShare)
  else if key = "trafficClass" ∨ key = "traffic_class" then some (.int .trafficClass)
  else if key = "commName" then some (.string .commName)
  else if key = "collnetEnable" ∨ key = "collnet_enable" then some (.int .collnetEnable)
  else if key = "CTAPolicy" ∨ key = "cta_policy" then some (.int .CTAPolicy)
  else if key = "shrinkShare" then some (.int .shrinkShare)
  else if key = "nvlsCTAs" ∨ key = "nvls_ctas" then some (.int .nvlsCTAs)
  else if key = "nChannelsPerNetPeer" ∨ key = "n_channels_per_net_peer" then
    some (.int .nChannelsPerNetPeer)
  else if key = "nvlinkCentricSched" ∨ key = "nvlink_centric_sched" then
    some (.int .nvlinkCentricSched)
  else none

/-- `config.<field> = v` for an `int` field. -/
def OnecclConfig.setInt (config : OnecclConfig) : IntField → Int → OnecclConfig
  | .blocking, v => { config with blocking := v }
  | .cgaClusterSize, v => { config with cgaClusterSize := v }
  | .minCTAs, v => { config with minCTAs := v }
  | .maxCTAs, v => { config with maxCTAs := v }
  | .splitShare, v => { config with splitShare := v }
  | .trafficClass, v => { config with trafficClass := v }
  | .collnetEnable, v => { config with collnetEnable := v }
  | .CTAPolicy, v => { config with CTAPolicy := v }
  | .shrinkShare, v => { config with shrinkShare := v }
  | .nvlsCTAs, v => { config with nvlsCTAs := v }
  | .nChannelsPerNetPeer, v => { config with nChannelsPerNetPeer := v }
  | .nvlinkCentricSched, v => { config with nvlinkCentricSched := v }

/-- The text `strdup(val.c_str())` copies: `val` up to its first NUL. -/
def cString (val : String) : String := ⟨val.toList.takeWhile fun c => c ≠ '\x00'⟩

/-- `config.<field> = strdup(val.c_str())` for a string field. -/
def OnecclConfig.setString (config : OnecclConfig) : StringField → String → OnecclConfig
  | .netName, v => { config with netName := some (cString v) }
  | .commName, v => { config with commName := some (cString v) }

/-- `config.<field>` for an `int` field. -/
def OnecclConfig.getInt (config : OnecclConfig) : IntField → Int
  | .blocking => config.blocking
  | .cgaClusterSize => config.cgaClusterSize
  | .minCTAs => config.minCTAs
  | .maxCTAs => config.maxCTAs
  | .splitShare => config.splitShare
  | .trafficClass => config.trafficClass
  | .collnetEnable => config.collnetEnable
  | .CTAPolicy => config.CTAPolicy
  | .shrinkShare => config.shrinkShare
  | .nvlsCTAs => config.nvlsCTAs
  | .nChannelsPerNetPeer => config.nChannelsPerNetPeer
  | .nvlinkCentricSched => config.nvlinkCentricSched

/-- `config.<field>` for a string field. -/
def OnecclConfig.getString (config : OnecclConfig) : StringField → Option String
  | .netName => config.netName
  | .commName => config.commName

@[simp] theorem getInt_setInt (config : OnecclConfig) (f g : IntField) (v : Int) :
    (config.setInt f v).getInt g = if f = g then v else config.getInt g := by
  cases f <;> cases g <;> rfl

@[simp] theorem getString_setInt (config : OnecclConfig) (f : IntField) (g : StringField)
    (v : Int) : (config.setInt f v).getString g = config.getString g := by
  cases f <;> cases g <;> rfl

@[simp] theorem getInt_setString (config : OnecclConfig) (f : StringField) (g : IntField)
    (v : String) : (config.setString f v).getInt g = config.getInt g := by
  cases f <;> cases g <;> rfl

@[simp] theorem getString_setString (config : OnecclConfig) (f g : StringField) (v : String) :
    (config.setString f v).getString g = if f = g then some (cString v) else config.getString g := by
  cases f <;> cases g <;> rfl

/-! ### `std::stoi` -/

/-- The exceptions `std::stoi` throws. -/
inductive StoiError where
  | invalidArgument
  | outOfRange
  deriving DecidableEq, Repr

/-- `isspace` in the "C" locale. -/
def isCSpace (c : Char) : Bool :=
  c = ' ' || c = '\t' || c = '\n' || c = '\x0B' || c = '\x0C' || c = '\r'

def decimalValue (digits : List Char) : Nat :=
  digits.foldl (fun acc d => 10 * acc + (d.toNat - '0'.toNat)) 0

/-- The sign `strtol` reads (`true` for a minus), and the text after it. -/
def splitSign : List Char → Bool × List Char
  | c :: rest =>
    if c = '-' then (true, rest) else if c = '+' then (false, rest) else (false, c :: rest)
  | [] => (false, [])

/-- `strtol(str, &end, 10)`: it skips leading white space, reads an optional sign and then the
longest run of decimal digits, and ignores what follows; `none` when it reads no digit. -/
def strtol (s : String) : Option Int :=
  let (negative, body) := splitSign (s.toList.dropWhile isCSpace)
  let digits := body.takeWhile Char.isDigit
  if digits = [] then none
  else some (if negative then -(decimalValue digits : Int) else decimalValue digits)

def intRange (value : Int) : Except StoiError Int :=
  if -2 ^ 31 ≤ value ∧ value < 2 ^ 31 then .ok value else .error .outOfRange

/-- `std::stoi(str)` in base 10: `strtol`, then `std::invalid_argument` when it read no digit and
`std::out_of_range` for a value outside `int`. -/
def stoi (s : String) : Except StoiError Int :=
  match strtol s with
  | none => .error .invalidArgument
  | some value => intRange value

/-- What `strtol` reads as `value`, said as a decomposition of the text: C white space, at most
one sign, at least one decimal digit, and a rest that does not start with a digit. -/
def StrtolReads (s : String) (value : Int) : Prop :=
  ∃ space sign digits rest : List Char,
    s.toList = space ++ sign ++ digits ++ rest ∧ (∀ c ∈ space, isCSpace c) ∧
    (sign = [] ∨ sign = ['+'] ∨ sign = ['-']) ∧ digits ≠ [] ∧
    (∀ c ∈ digits, c.isDigit) ∧ (∀ c ∈ rest.head?, c.isDigit = false) ∧
    value = (if sign = ['-'] then -(decimalValue digits : Int) else decimalValue digits)

/-- What `std::stoi` turns into `value`: what `strtol` reads, inside `int`. -/
def StoiAccepts (s : String) (value : Int) : Prop :=
  StrtolReads s value ∧ -2 ^ 31 ≤ value ∧ value < 2 ^ 31

/-! ### The translation loop -/

/-- One branch of `populateXcclConfigFromHints` on `config`. -/
def OnecclConfig.assign (config : OnecclConfig) (val : String) :
    HintTarget → Except StoiError OnecclConfig
  | .int field => (stoi val).map (config.setInt field)
  | .string field => .ok (config.setString field val)

/-- One iteration of the loop: the branch `key` selects, or the warning branch. -/
def applyHint (config : OnecclConfig) (key val : String) : Except StoiError OnecclConfig :=
  match hintTarget key with
  | some target => config.assign val target
  | none => .ok config

/-- `populateXcclConfigFromHints`: the hints in the order the map enumerates them. A thrown
`std::stoi` exception leaves the loop at once. -/
def populateXcclConfigFromHints (config : OnecclConfig) :
    List (String × String) → Except StoiError OnecclConfig
  | [] => .ok config
  | (key, val) :: hints => do
    let config ← applyHint config key val
    populateXcclConfigFromHints config hints

@[simp]
theorem populateXcclConfigFromHints_nil (config : OnecclConfig) :
    populateXcclConfigFromHints config [] = .ok config := rfl

theorem populateXcclConfigFromHints_cons (config : OnecclConfig) (key val : String)
    (hints : List (String × String)) :
    populateXcclConfigFromHints config ((key, val) :: hints) =
      (applyHint config key val).bind fun config => populateXcclConfigFromHints config hints :=
  rfl

theorem setInt_injective (config : OnecclConfig) (f : IntField) :
    Function.Injective (config.setInt f) := by
  intro a b h
  cases f <;> simpa [OnecclConfig.setInt] using h

end TorchComms
