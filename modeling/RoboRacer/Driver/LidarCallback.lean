/-
  Driver/LidarCallback.lean --- announcing and configuring LiDARs
  (`call_back/livox_lidar_callback.cpp`, `lds.cpp`, `lds_lidar.cpp`).

  The SDK announces a LiDAR through `LidarInfoChangeCallback`, which sends it the
  configuration, and answers every command later through the callback that was
  given with it.  A command is in flight from the call that sends it to its
  answer.  The SDK accepts every command and never answers from inside the call,
  so a callback is one step: what it does outside `config_mutex_` reads only the
  part of the configuration that is never written.

  The texts the callbacks print are left out, and with them what they print of
  the response.
-/
import RoboRacer.Driver.CacheIndex
import RoboRacer.Driver.LidarDevice
import RoboRacer.Foundation.Machine

set_option autoImplicit false

namespace RoboRacer.Driver

open RoboRacer.Foundation

/-! ## The data source -/

/-- `LdsLidar`, with the registry and the devices it inherits from `Lds`. -/
structure LdsLidar (R : Type) where
  cacheIndex : CacheIndex
  lidars : Fin kMaxSourceLidar → LidarDevice R

/-- A user config as the parser leaves it: no bit is raised yet. -/
structure ParsedConfig (R : Type) extends UserLivoxLidarConfig R where
  noSetBits : setBits = 0
  noGetBits : getBits = 0

section DataSource

variable {R : Type}

namespace LdsLidar

/-- One device is written. -/
def setDevice (lds : LdsLidar R) (index : Fin kMaxSourceLidar) (lidar : LidarDevice R) :
    LdsLidar R :=
  { lds with lidars := Function.update lds.lidars index lidar }

/-- The data source in static storage, before its constructor runs. -/
def zeroed [IntCast R] : LdsLidar R where
  cacheIndex := .fresh
  lidars := fun _ => .zeroed

/-- `ResetLds`. -/
def resetLds (lds : LdsLidar R) (dataSrc : UInt8) : Option (LdsLidar R) :=
  (List.finRange kMaxSourceLidar).foldlM (fun lds i => do
    let lidar ← resetLidar (lds.lidars i) dataSrc
    return lds.setDevice i lidar) lds

/-- The loop of `InitLivoxLidar`, for one user config: a LiDAR for which there
is no free slot is skipped. -/
def fillInDevice (lds : LdsLidar R) (config : UserLivoxLidarConfig R) : LdsLidar R :=
  match lds.cacheIndex.getFreeIndex LidarProtoType.kLivoxLidarType.code config.handle with
  | none => lds
  | some (cacheIndex, index) =>
    { lds with cacheIndex := cacheIndex }.setDevice index
      { lds.lidars index with
        lidarType := LidarProtoType.kLivoxLidarType.code
        livoxConfig := config
        handle := config.handle }

/-- `InitLivoxLidar`, on the constructed data source. -/
def initLivoxLidar [IntCast R] (userConfigs : List (ParsedConfig R)) : LdsLidar R :=
  userConfigs.foldl (fun lds config => lds.fillInDevice config.toUserLivoxLidarConfig) zeroed

/-- `GetLidarDevice`: the slot of a registered LiDAR. -/
def getLidarDevice (lds : LdsLidar R) (handle : UInt32) : Option (Fin kMaxSourceLidar) :=
  lds.cacheIndex.getIndex LidarProtoType.kLivoxLidarType.code handle

/-- The device of a registered LiDAR. -/
def device (lds : LdsLidar R) (handle : UInt32) : Option (LidarDevice R) :=
  (lds.getLidarDevice handle).map lds.lidars

/-- Resetting devices that are as a reset leaves them changes nothing. -/
theorem foldlM_resetLidar_of_fixed {lds : LdsLidar R} {dataSrc : UInt8}
    (h : ∀ i, resetLidar (lds.lidars i) dataSrc = some (lds.lidars i))
    (indices : List (Fin kMaxSourceLidar)) :
    indices.foldlM (fun lds i => do
      let lidar ← resetLidar (lds.lidars i) dataSrc
      return lds.setDevice i lidar) lds = some lds := by
  induction indices with
  | nil => rfl
  | cons i indices ih =>
    have hset : lds.setDevice i (lds.lidars i) = lds := by
      rw [setDevice, Function.update_eq_self]
    rw [List.foldlM_cons, h i]
    simp only [Option.bind_eq_bind, Option.bind_some, Option.pure_def, hset]
    exact ih

theorem resetLds_zeroed [IntCast R] : (zeroed : LdsLidar R).resetLds 0 = some zeroed :=
  foldlM_resetLidar_of_fixed (fun _ => rfl) _

/-- The constructors of `Lds` and of `LdsLidar` reset every device, with the
data source `kSourceRawLidar`; the zeroed data source stays as it is. -/
theorem constructed_zeroed [IntCast R] :
    ((zeroed : LdsLidar R).resetLds 0).bind (·.resetLds 0) = some zeroed :=
  Option.bind_eq_some_iff.mpr ⟨_, resetLds_zeroed, resetLds_zeroed⟩

/-- Writing the device of one LiDAR leaves the devices of the others alone. -/
theorem device_setDevice {lds : LdsLidar R} (hsound : lds.cacheIndex.Sound) {handle : UInt32}
    {index : Fin kMaxSourceLidar} (h : lds.getLidarDevice handle = some index)
    (lidar : LidarDevice R) (other : UInt32) :
    (lds.setDevice index lidar).device other =
      if other = handle then some lidar else lds.device other := by
  have hindex : (lds.setDevice index lidar).getLidarDevice other = lds.getLidarDevice other := rfl
  rw [device, hindex, device]
  by_cases heq : other = handle
  · rw [heq, h, if_pos rfl]
    exact congrArg some (Function.update_self ..)
  · rw [if_neg heq]
    cases hother : lds.getLidarDevice other with
    | none => rfl
    | some j =>
      have hne : j ≠ index := by
        rintro rfl
        exact heq (hsound.injective other handle j hother h)
      exact congrArg some (Function.update_of_ne hne ..)

/-- Giving one LiDAR a slot, if it has none, and writing its device leaves the
devices of the others alone. -/
theorem device_getFreeIndex {lds : LdsLidar R} (hsound : lds.cacheIndex.Sound)
    {handle : UInt32} {cacheIndex : CacheIndex} {index : Fin kMaxSourceLidar}
    (h : lds.cacheIndex.getFreeIndex LidarProtoType.kLivoxLidarType.code handle =
      some (cacheIndex, index)) (lidar : LidarDevice R) (other : UInt32) :
    ({ lds with cacheIndex := cacheIndex }.setDevice index lidar).device other =
      if other = handle then some lidar else lds.device other := by
  rw [device_setDevice (hsound.getFreeIndex h) (CacheIndex.indexOf_getFreeIndex h)]
  by_cases heq : other = handle
  · rw [if_pos heq, if_pos heq]
  · rw [if_neg heq, if_neg heq]
    exact congrArg (Option.map lds.lidars) (CacheIndex.indexOf_getFreeIndex_other h heq)

/-- The registry is sound and the slots not in use were never written. -/
structure WellFormed [IntCast R] (lds : LdsLidar R) : Prop where
  sound : lds.cacheIndex.Sound
  untouched : ∀ i, lds.cacheIndex.indexCache i = false → lds.lidars i = .zeroed

theorem wellFormed_zeroed [IntCast R] : (zeroed : LdsLidar R).WellFormed where
  sound := CacheIndex.sound_fresh
  untouched _ _ := rfl

/-- Writing the device of a registered LiDAR. -/
theorem WellFormed.setDevice [IntCast R] {lds : LdsLidar R} (hwf : lds.WellFormed)
    {handle : UInt32} {index : Fin kMaxSourceLidar}
    (h : lds.getLidarDevice handle = some index) (lidar : LidarDevice R) :
    (lds.setDevice index lidar).WellFormed where
  sound := hwf.sound
  untouched i hfree := by
    have hne : i ≠ index := by
      rintro rfl
      have hused : lds.cacheIndex.indexCache i = true := hwf.sound.used handle i h
      rw [show lds.cacheIndex.indexCache i = false from hfree] at hused
      cases hused
    exact (Function.update_of_ne hne ..).trans (hwf.untouched i hfree)

/-- Giving a LiDAR a slot and writing its device. -/
theorem WellFormed.getFreeIndex [IntCast R] {lds : LdsLidar R} (hwf : lds.WellFormed)
    {handle : UInt32} {cacheIndex : CacheIndex} {index : Fin kMaxSourceLidar}
    (h : lds.cacheIndex.getFreeIndex LidarProtoType.kLivoxLidarType.code handle =
      some (cacheIndex, index)) (lidar : LidarDevice R) :
    ({ lds with cacheIndex := cacheIndex }.setDevice index lidar).WellFormed := by
  have hnext : ({ lds with cacheIndex := cacheIndex } : LdsLidar R).WellFormed := by
    refine ⟨hwf.sound.getFreeIndex h, fun i hfree => hwf.untouched i ?_⟩
    obtain ⟨-, rfl⟩ | ⟨-, -, hcache, -⟩ := CacheIndex.getFreeIndex_cases h
    · exact hfree
    · have hi : cacheIndex.indexCache i = false := hfree
      rw [hcache] at hi
      by_cases heq : i = index
      · rw [heq, Function.update_self] at hi
        cases hi
      · rwa [Function.update_of_ne heq] at hi
  exact hnext.setDevice (CacheIndex.indexOf_getFreeIndex h) lidar

/-- No LiDAR is sampling, and no bit is raised. -/
structure Idle [IntCast R] (lds : LdsLidar R) : Prop extends lds.WellFormed where
  off : ∀ i, (lds.lidars i).connectState = .kConnectStateOff
  lowered : ∀ i, (lds.lidars i).livoxConfig.setBits = 0

theorem Idle.fillInDevice [IntCast R] {lds : LdsLidar R} (h : lds.Idle)
    (config : ParsedConfig R) : (lds.fillInDevice config.toUserLivoxLidarConfig).Idle := by
  unfold LdsLidar.fillInDevice
  split
  case h_1 => exact h
  case h_2 cacheIndex index hfree =>
    refine ⟨h.toWellFormed.getFreeIndex hfree _, fun i => ?_, fun i => ?_⟩
    · by_cases heq : i = index
      · simp [setDevice, heq, h.off]
      · simp [setDevice, Function.update_of_ne heq, h.off]
    · by_cases heq : i = index
      · simp [setDevice, heq, config.noSetBits]
      · simp [setDevice, Function.update_of_ne heq, h.lowered]

/-- After `InitLivoxLidar` every device is idle. -/
theorem idle_initLivoxLidar [IntCast R] (userConfigs : List (ParsedConfig R)) :
    (initLivoxLidar userConfigs).Idle := by
  have hrun : ∀ (configs : List (ParsedConfig R)) (lds : LdsLidar R), lds.Idle →
      (configs.foldl (fun lds config => lds.fillInDevice config.toUserLivoxLidarConfig)
        lds).Idle := by
    intro configs
    induction configs with
    | nil => exact fun _ h => h
    | cons config configs ih => exact fun lds h => ih _ (h.fillInDevice config)
  exact hrun userConfigs zeroed ⟨wellFormed_zeroed, fun _ => rfl, fun _ => rfl⟩

/-- The device of an idle data source is idle. -/
theorem Idle.device [IntCast R] {lds : LdsLidar R} (h : lds.Idle) {handle : UInt32}
    {lidar : LidarDevice R} (hdevice : lds.device handle = some lidar) :
    lidar.connectState = .kConnectStateOff ∧ lidar.livoxConfig.setBits = 0 := by
  obtain ⟨i, -, rfl⟩ := Option.map_eq_some_iff.mp hdevice
  exact ⟨h.off i, h.lowered i⟩

end LdsLidar

end DataSource

/-! ## Commands and their answers -/

/-- A command sent to a LiDAR, with the arguments of the SDK call. -/
inductive LidarCommand (R : Type) where
  | setLivoxLidarPclDataType (handle : UInt32) (dataType : Int8)
  | setLivoxLidarScanPattern (handle : UInt32) (scanPattern : Int8)
  | setLivoxLidarBlindSpot (handle : UInt32) (blindSpot : Int32)
  | setLivoxLidarDualEmit (handle : UInt32) (enable : Bool)
  | setLivoxLidarInstallAttitude (handle : UInt32) (attitude : ExtParameter R)
  | setLivoxLidarWorkModeNormal (handle : UInt32)
  | enableLivoxLidarImuData (handle : UInt32)

/-- `livox_status`, as far as the callbacks tell its values apart. -/
inductive LivoxStatus where
  | kLivoxLidarStatusSuccess
  | kLivoxLidarStatusTimeout
  /-- Every other status. -/
  | failed
  deriving DecidableEq, Repr

section Callbacks

variable {R : Type}

/-- The items that the user's configuration asks for, in the order in which they
are sent: the bit that is raised and the command. -/
def configRequests (handle : UInt32) (config : UserLivoxLidarConfig R) :
    List (UInt32 × LidarCommand R) :=
  (if config.pclDataType ≠ -1 then
    [(kConfigDataType, .setLivoxLidarPclDataType handle config.pclDataType)] else []) ++
  (if config.patternMode ≠ -1 then
    [(kConfigScanPattern, .setLivoxLidarScanPattern handle config.patternMode)] else []) ++
  (if config.blindSpotSet ≠ -1 then
    [(kConfigBlindSpot, .setLivoxLidarBlindSpot handle config.blindSpotSet)] else []) ++
  (if config.dualEmitEn ≠ -1 then
    [(kConfigDualEmit,
      .setLivoxLidarDualEmit handle (if config.dualEmitEn = 0 then false else true))] else [])

/-- `set_bits |= bit`, for each of the items. -/
def raiseBits (lidar : LidarDevice R) (bits : List UInt32) : LidarDevice R :=
  { lidar with
    livoxConfig :=
      { lidar.livoxConfig with setBits := bits.foldl (· ||| ·) lidar.livoxConfig.setBits } }

/-- What every announcement ends with. -/
def startSampling (handle : UInt32) : List (LidarCommand R) :=
  [.setLivoxLidarWorkModeNormal handle, .enableLivoxLidarImuData handle]

/-- `LidarInfoChangeCallback`: the data source afterwards and the commands sent. -/
def lidarInfoChangeCallback (handle : UInt32) (lds : LdsLidar R) :
    LdsLidar R × List (LidarCommand R) :=
  match lds.getLidarDevice handle with
  | none =>
    -- a LiDAR that is not in the user's config, or for which there was no slot
    match lds.cacheIndex.getFreeIndex LidarProtoType.kLivoxLidarType.code handle with
    | none => (lds, [])
    | some (cacheIndex, index) =>
      ({ lds with cacheIndex := cacheIndex }.setDevice index
        { lds.lidars index with lidarType := LidarProtoType.kLivoxLidarType.code },
       startSampling handle)
  | some index =>
    let lidar := lds.lidars index
    let requests := configRequests handle lidar.livoxConfig
    (lds.setDevice index (raiseBits lidar (requests.map Prod.fst)),
     requests.map Prod.snd ++
       .setLivoxLidarInstallAttitude lidar.livoxConfig.handle lidar.livoxConfig.extrinsicParam ::
       startSampling handle)

/-- A success for one item, under the lock: its bit is lowered, and with the last
bit the LiDAR counts as sampling. -/
def lowerBit (lidar : LidarDevice R) (bit : UInt32) : LidarDevice R :=
  let setBits := lidar.livoxConfig.setBits &&& ~~~bit
  { lidar with
    livoxConfig := { lidar.livoxConfig with setBits := setBits }
    connectState := if setBits = 0 then .kConnectStateSampling else lidar.connectState }

/-- The callback of one item: `bit` is the item's bit and `resend` the command
that is sent again after a timeout.  A failure prints the response, so there has
to be one. -/
def setConfigCallback (bit : UInt32) (resend : UserLivoxLidarConfig R → LidarCommand R)
    (status : LivoxStatus) (handle : UInt32) (hasResponse : Bool) (lds : LdsLidar R) :
    Option (LdsLidar R × List (LidarCommand R)) :=
  match lds.getLidarDevice handle with
  | none => some (lds, [])
  | some index =>
    match status with
    | .kLivoxLidarStatusSuccess => some (lds.setDevice index (lowerBit (lds.lidars index) bit), [])
    | .kLivoxLidarStatusTimeout => some (lds, [resend (lds.lidars index).livoxConfig])
    | .failed => if hasResponse then some (lds, []) else none

def setDataTypeCallback (status : LivoxStatus) (handle : UInt32) (hasResponse : Bool)
    (lds : LdsLidar R) : Option (LdsLidar R × List (LidarCommand R)) :=
  setConfigCallback kConfigDataType
    (fun config => .setLivoxLidarPclDataType handle config.pclDataType)
    status handle hasResponse lds

def setPatternModeCallback (status : LivoxStatus) (handle : UInt32) (hasResponse : Bool)
    (lds : LdsLidar R) : Option (LdsLidar R × List (LidarCommand R)) :=
  setConfigCallback kConfigScanPattern
    (fun config => .setLivoxLidarScanPattern handle config.patternMode)
    status handle hasResponse lds

def setBlindSpotCallback (status : LivoxStatus) (handle : UInt32) (hasResponse : Bool)
    (lds : LdsLidar R) : Option (LdsLidar R × List (LidarCommand R)) :=
  setConfigCallback kConfigBlindSpot
    (fun config => .setLivoxLidarBlindSpot handle config.blindSpotSet)
    status handle hasResponse lds

/-- The value sent again is the `int8_t` itself, converted to `bool`. -/
def setDualEmitCallback (status : LivoxStatus) (handle : UInt32) (hasResponse : Bool)
    (lds : LdsLidar R) : Option (LdsLidar R × List (LidarCommand R)) :=
  setConfigCallback kConfigDualEmit
    (fun config => .setLivoxLidarDualEmit handle (config.dualEmitEn != 0))
    status handle hasResponse lds

/-- `SetAttitudeCallback`: only a timeout sends again, to the handle in the
configuration. -/
def setAttitudeCallback (status : LivoxStatus) (handle : UInt32) (lds : LdsLidar R) :
    LdsLidar R × List (LidarCommand R) :=
  match lds.getLidarDevice handle with
  | none => (lds, [])
  | some index =>
    let config := (lds.lidars index).livoxConfig
    match status with
    | .kLivoxLidarStatusTimeout =>
      (lds, [.setLivoxLidarInstallAttitude config.handle config.extrinsicParam])
    | _ => (lds, [])

/-- `WorkModeChangedCallback`: sent again until it succeeds. -/
def workModeChangedCallback (status : LivoxStatus) (handle : UInt32) (lds : LdsLidar R) :
    LdsLidar R × List (LidarCommand R) :=
  match status with
  | .kLivoxLidarStatusSuccess => (lds, [])
  | _ => (lds, [.setLivoxLidarWorkModeNormal handle])

/-- `EnableLivoxLidarImuDataCallback`. -/
def enableLivoxLidarImuDataCallback (status : LivoxStatus) (handle : UInt32)
    (hasResponse : Bool) (lds : LdsLidar R) : LdsLidar R × List (LidarCommand R) :=
  match lds.getLidarDevice handle with
  | none => (lds, [])
  | some _ =>
    if hasResponse then
      match status with
      | .kLivoxLidarStatusTimeout => (lds, [.enableLivoxLidarImuData handle])
      | _ => (lds, [])
    else (lds, [])

/-- The callback each command is sent with. -/
def LidarCommand.callback (command : LidarCommand R) (status : LivoxStatus)
    (hasResponse : Bool) (lds : LdsLidar R) : Option (LdsLidar R × List (LidarCommand R)) :=
  match command with
  | .setLivoxLidarPclDataType handle _ => setDataTypeCallback status handle hasResponse lds
  | .setLivoxLidarScanPattern handle _ => setPatternModeCallback status handle hasResponse lds
  | .setLivoxLidarBlindSpot handle _ => setBlindSpotCallback status handle hasResponse lds
  | .setLivoxLidarDualEmit handle _ => setDualEmitCallback status handle hasResponse lds
  | .setLivoxLidarInstallAttitude handle _ => some (setAttitudeCallback status handle lds)
  | .setLivoxLidarWorkModeNormal handle => some (workModeChangedCallback status handle lds)
  | .enableLivoxLidarImuData handle =>
    some (enableLivoxLidarImuDataCallback status handle hasResponse lds)

end Callbacks

/-! ## The driver and the SDK -/

/-- The data source together with the commands in flight, and the answers given
so far. -/
structure SdkSession (R : Type) where
  lds : LdsLidar R
  inFlight : List (LidarCommand R)
  answered : List (LidarCommand R × LivoxStatus)

/-- What the SDK does next. -/
inductive SdkEvent where
  /-- It announces a LiDAR. -/
  | lidarInfoChange (handle : UInt32)
  /-- It answers the `i`-th command in flight, with or without a response. -/
  | response (i : Nat) (status : LivoxStatus) (hasResponse : Bool)
  deriving DecidableEq, Repr

namespace SdkSession

variable {R : Type}

/-- One callback.  `none` is an answer to no command, or an undefined one. -/
def step (s : SdkSession R) : SdkEvent → Option (SdkSession R)
  | .lidarInfoChange handle =>
    let (lds, sent) := lidarInfoChangeCallback handle s.lds
    some { s with lds := lds, inFlight := s.inFlight ++ sent }
  | .response i status hasResponse => do
    let command ← s.inFlight[i]?
    let (lds, sent) ← command.callback status hasResponse s.lds
    return {
      lds := lds
      inFlight := s.inFlight.eraseIdx i ++ sent
      answered := s.answered ++ [(command, status)] }

/-- The driver with the user's configs, before any LiDAR is announced. -/
def booted [IntCast R] (userConfigs : List (ParsedConfig R)) : SdkSession R where
  lds := .initLivoxLidar userConfigs
  inFlight := []
  answered := []

/-- The driver under every sequence of announcements and answers. -/
def machine [IntCast R] (userConfigs : List (ParsedConfig R)) :
    Machine (SdkSession R) SdkEvent :=
  .ofStep (booted userConfigs) step

end SdkSession

end RoboRacer.Driver
