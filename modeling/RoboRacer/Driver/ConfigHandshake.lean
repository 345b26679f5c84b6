/-
  Driver/ConfigHandshake.lean --- the configuration of one LiDAR as a handshake.

  `set_bits` is a set of items written as a word.  For each LiDAR, what the
  callbacks do to its bits, its connect state and its commands in flight is the
  handshake of `Foundation/Handshake.lean` over the four optional items:

      progress_of_step        what one callback does, seen from one LiDAR
      handshake_simulated     every run of the driver follows a handshake

  A retry after a timeout is no step of the handshake: it puts the same command
  back in flight.
-/
import Mathlib.Data.Fintype.Powerset
import RoboRacer.Driver.LidarCallback
import RoboRacer.Foundation.Handshake

set_option autoImplicit false

namespace RoboRacer.Driver

open RoboRacer.Foundation

/-! ## Items and bits -/

/-- The optional items of a user config. -/
inductive ConfigItem where
  | dataType
  | scanPattern
  | blindSpot
  | dualEmit
  deriving DecidableEq, Repr

namespace ConfigItem

instance : Fintype ConfigItem where
  elems := {.dataType, .scanPattern, .blindSpot, .dualEmit}
  complete item := by cases item <;> decide

/-- The bit of an item in `set_bits`. -/
def bit : ConfigItem → UInt32
  | .dataType => kConfigDataType
  | .scanPattern => kConfigScanPattern
  | .blindSpot => kConfigBlindSpot
  | .dualEmit => kConfigDualEmit

/-- The items in the order in which they are requested. -/
def inOrder : List ConfigItem := [.dataType, .scanPattern, .blindSpot, .dualEmit]

/-- The word in which the items of `pending` are raised. -/
def encode (pending : Finset ConfigItem) : UInt32 :=
  (if dataType ∈ pending then kConfigDataType else 0) |||
  (if scanPattern ∈ pending then kConfigScanPattern else 0) |||
  (if blindSpot ∈ pending then kConfigBlindSpot else 0) |||
  (if dualEmit ∈ pending then kConfigDualEmit else 0)

theorem encode_eq_zero : ∀ pending, encode pending = 0 ↔ pending = ∅ := by decide

theorem encode_and_bit : ∀ pending item, encode pending &&& item.bit ≠ 0 ↔ item ∈ pending := by
  decide

theorem encode_insert : ∀ pending item,
    encode (insert item pending) = encode pending ||| item.bit := by decide

theorem encode_erase : ∀ pending item,
    encode (pending.erase item) = encode pending &&& ~~~item.bit := by decide

/-- Raising the bits of several items. -/
theorem foldl_bits (items : List ConfigItem) (pending : Finset ConfigItem) :
    (items.map bit).foldl (· ||| ·) (encode pending) = encode (pending ∪ items.toFinset) := by
  induction items generalizing pending with
  | nil => rw [List.map_nil, List.foldl_nil, List.toFinset_nil, Finset.union_empty]
  | cons item items ih =>
    rw [List.map_cons, List.foldl_cons, ← encode_insert, ih, List.toFinset_cons,
      Finset.insert_union, Finset.union_insert]

variable {R : Type}

/-- Whether the user's config holds the item. -/
def requested (config : UserLivoxLidarConfig R) : ConfigItem → Bool
  | .dataType => config.pclDataType != -1
  | .scanPattern => config.patternMode != -1
  | .blindSpot => config.blindSpotSet != -1
  | .dualEmit => config.dualEmitEn != -1

/-- The command that carries the item's value in the config. -/
def command (handle : UInt32) (config : UserLivoxLidarConfig R) : ConfigItem → LidarCommand R
  | .dataType => .setLivoxLidarPclDataType handle config.pclDataType
  | .scanPattern => .setLivoxLidarScanPattern handle config.patternMode
  | .blindSpot => .setLivoxLidarBlindSpot handle config.blindSpotSet
  | .dualEmit => .setLivoxLidarDualEmit handle (config.dualEmitEn != 0)

/-- The items that a config asks for. -/
def requestedItems (config : UserLivoxLidarConfig R) : Finset ConfigItem :=
  (inOrder.filter (requested config)).toFinset

theorem mem_requestedItems {config : UserLivoxLidarConfig R} {item : ConfigItem} :
    item ∈ requestedItems config ↔ requested config item = true := by
  rw [requestedItems, List.mem_toFinset, List.mem_filter]
  constructor
  · exact And.right
  · intro h
    exact ⟨by cases item <;> decide, h⟩

end ConfigItem

variable {R : Type}

/-- The LiDAR and the item that a command is about. -/
def LidarCommand.configItem : LidarCommand R → Option (UInt32 × ConfigItem)
  | .setLivoxLidarPclDataType handle _ => some (handle, .dataType)
  | .setLivoxLidarScanPattern handle _ => some (handle, .scanPattern)
  | .setLivoxLidarBlindSpot handle _ => some (handle, .blindSpot)
  | .setLivoxLidarDualEmit handle _ => some (handle, .dualEmit)
  | .setLivoxLidarInstallAttitude _ _ => none
  | .setLivoxLidarWorkModeNormal _ => none
  | .enableLivoxLidarImuData _ => none

@[simp] theorem configItem_command (handle : UInt32) (config : UserLivoxLidarConfig R)
    (item : ConfigItem) : (item.command handle config).configItem = some (handle, item) := by
  cases item <;> rfl

/-- An announcement raises the bits of the requested items and sends their
commands. -/
theorem configRequests_eq (handle : UInt32) (config : UserLivoxLidarConfig R) :
    configRequests handle config =
      (ConfigItem.inOrder.filter (ConfigItem.requested config)).map
        (fun item => (item.bit, item.command handle config)) := by
  have hdual : (if config.dualEmitEn = 0 then false else true) = (config.dualEmitEn != 0) := by
    by_cases h : config.dualEmitEn = 0 <;> simp [h]
  unfold configRequests ConfigItem.inOrder
  simp only [List.filter_cons, List.filter_nil, ConfigItem.requested, bne_iff_ne, hdual]
  split <;> split <;> split <;> split <;> rfl

/-- The callback of a command about an item is the callback of that item, and
what it sends again is the item's command. -/
theorem callback_eq_of_configItem {c : LidarCommand R} {handle : UInt32} {item : ConfigItem}
    (h : c.configItem = some (handle, item)) (status : LivoxStatus) (hasResponse : Bool)
    (lds : LdsLidar R) :
    c.callback status hasResponse lds =
      setConfigCallback item.bit (fun config => item.command handle config)
        status handle hasResponse lds := by
  cases c <;> cases h <;> rfl

/-- The other callbacks write nothing and send nothing about an item. -/
theorem callback_of_configItem_none {c : LidarCommand R} (h : c.configItem = none)
    (status : LivoxStatus) (hasResponse : Bool) (lds : LdsLidar R) :
    ∃ sent, c.callback status hasResponse lds = some (lds, sent) ∧
      ∀ c' ∈ sent, c'.configItem = none := by
  cases c with
  | setLivoxLidarPclDataType => cases h
  | setLivoxLidarScanPattern => cases h
  | setLivoxLidarBlindSpot => cases h
  | setLivoxLidarDualEmit => cases h
  | setLivoxLidarInstallAttitude handle attitude =>
    simp only [LidarCommand.callback, setAttitudeCallback]
    split
    · exact ⟨[], rfl, by simp⟩
    · cases status <;> exact ⟨_, rfl, by simp [LidarCommand.configItem]⟩
  | setLivoxLidarWorkModeNormal handle =>
    cases status <;> exact ⟨_, rfl, by simp [LidarCommand.configItem]⟩
  | enableLivoxLidarImuData handle =>
    simp only [LidarCommand.callback, enableLivoxLidarImuDataCallback]
    split
    · exact ⟨[], rfl, by simp⟩
    · cases hasResponse <;> cases status <;> exact ⟨_, rfl, by simp [LidarCommand.configItem]⟩

/-! ## One LiDAR's part of the session -/

/-- The commands about one item of one LiDAR. -/
def commandsAbout (handle : UInt32) (item : ConfigItem) (commands : List (LidarCommand R)) :
    List (LidarCommand R) :=
  commands.filter (fun c => c.configItem = some (handle, item))

theorem commandsAbout_append (handle : UInt32) (item : ConfigItem)
    (commands commands' : List (LidarCommand R)) :
    commandsAbout handle item (commands ++ commands') =
      commandsAbout handle item commands ++ commandsAbout handle item commands' :=
  List.filter_append ..

theorem commandsAbout_cons (handle : UInt32) (item : ConfigItem) (c : LidarCommand R)
    (commands : List (LidarCommand R)) :
    commandsAbout handle item (c :: commands) =
      if c.configItem = some (handle, item) then c :: commandsAbout handle item commands
      else commandsAbout handle item commands := by
  simp only [commandsAbout, List.filter_cons, decide_eq_true_eq]

theorem commandsAbout_of_none {commands : List (LidarCommand R)}
    (h : ∀ c ∈ commands, c.configItem = none) (handle : UInt32) (item : ConfigItem) :
    commandsAbout handle item commands = [] := by
  refine List.filter_eq_nil_iff.mpr (fun c hc => ?_)
  rw [h c hc]
  simp

/-- An announcement sends each requested item's command once. -/
theorem commandsAbout_configRequests (handle other : UInt32) (item : ConfigItem)
    (config : UserLivoxLidarConfig R) :
    commandsAbout other item ((configRequests handle config).map Prod.snd) =
      if other = handle ∧ item.requested config = true then [item.command handle config]
      else [] := by
  rw [configRequests_eq, List.map_map, commandsAbout, List.filter_map]
  have hpred : ((fun c : LidarCommand R => decide (c.configItem = some (other, item))) ∘
      (Prod.snd ∘ fun item => (item.bit, item.command handle config))) =
      fun item' => decide (handle = other ∧ item' = item) := by
    funext item'
    simp
  rw [hpred]
  by_cases heq : other = handle
  · subst heq
    cases item <;> cases hreq : ConfigItem.requested config _ <;>
      simp [ConfigItem.inOrder, List.filter_filter, hreq]
  · have hne : ¬ handle = other := fun h => heq h.symm
    simp [heq, hne]

/-! ## What the callbacks do -/

theorem configItem_startSampling (handle : UInt32) :
    ∀ c ∈ (startSampling handle : List (LidarCommand R)), c.configItem = none := by
  intro c hc
  simp only [startSampling, List.mem_cons, List.not_mem_nil, or_false] at hc
  rcases hc with rfl | rfl <;> rfl

/-- An announcement configures a registered LiDAR; it gives another one a slot,
if there is one, and sends it no item. -/
theorem lidarInfoChangeCallback_cases [IntCast R] {lds next : LdsLidar R}
    (hwf : lds.WellFormed) {handle : UInt32} {sent : List (LidarCommand R)}
    (h : lidarInfoChangeCallback handle lds = (next, sent)) :
    next.WellFormed ∧
    ((∃ lidar, lds.device handle = some lidar ∧
        (∀ other, next.device other = if other = handle then
          some (raiseBits lidar ((configRequests handle lidar.livoxConfig).map Prod.fst))
          else lds.device other) ∧
        ∀ other item, commandsAbout other item sent =
          if other = handle ∧ item.requested lidar.livoxConfig = true then
            [item.command handle lidar.livoxConfig] else []) ∨
      (lds.device handle = none ∧ (∀ c ∈ sent, c.configItem = none) ∧
        (next = lds ∨ ∃ lidar : LidarDevice R, lidar.connectState = .kConnectStateOff ∧
          lidar.livoxConfig = LidarDevice.zeroed.livoxConfig ∧
          ∀ other, next.device other =
            if other = handle then some lidar else lds.device other))) := by
  unfold lidarInfoChangeCallback at h
  cases hindex : lds.getLidarDevice handle with
  | none =>
    have hdevice : lds.device handle = none := by rw [LdsLidar.device, hindex]; rfl
    rw [hindex] at h
    cases hfree : lds.cacheIndex.getFreeIndex LidarProtoType.kLivoxLidarType.code handle with
    | none =>
      simp only [hfree, Prod.mk.injEq] at h
      obtain ⟨rfl, rfl⟩ := h
      exact ⟨hwf, .inr ⟨hdevice, by simp, .inl rfl⟩⟩
    | some found =>
      obtain ⟨cacheIndex, index⟩ := found
      simp only [hfree, Prod.mk.injEq] at h
      obtain ⟨rfl, rfl⟩ := h
      refine ⟨hwf.getFreeIndex hfree _, .inr ⟨hdevice, configItem_startSampling handle, .inr ?_⟩⟩
      -- the LiDAR had no slot, so this one was free and is as it was at the start
      have hzeroed : lds.lidars index = .zeroed := by
        obtain ⟨hfound, -⟩ | ⟨-, hunused, -⟩ := CacheIndex.getFreeIndex_cases hfree
        · have hnone : lds.cacheIndex.indexOf handle = none := hindex
          rw [hnone] at hfound
          cases hfound
        · exact hwf.untouched index hunused
      refine ⟨_, ?_, ?_, LdsLidar.device_getFreeIndex hwf.sound hfree _⟩
      · rw [hzeroed]; rfl
      · rw [hzeroed]
  | some index =>
    have hdevice : lds.device handle = some (lds.lidars index) := by
      rw [LdsLidar.device, hindex]; rfl
    simp only [hindex, Prod.mk.injEq] at h
    obtain ⟨rfl, rfl⟩ := h
    refine ⟨hwf.setDevice hindex _, .inl ⟨lds.lidars index, hdevice,
      LdsLidar.device_setDevice hwf.sound hindex _, fun other item => ?_⟩⟩
    have hrest : commandsAbout other item
        (.setLivoxLidarInstallAttitude (lds.lidars index).livoxConfig.handle
          (lds.lidars index).livoxConfig.extrinsicParam :: startSampling handle) = [] := by
      refine commandsAbout_of_none (fun c hc => ?_) other item
      rcases List.mem_cons.mp hc with rfl | hc
      · rfl
      · exact configItem_startSampling handle c hc
    rw [commandsAbout_append, hrest, List.append_nil, commandsAbout_configRequests]

/-- The callback of one item of a registered LiDAR lowers the bit on success,
sends the item again on a timeout, and does nothing else. -/
theorem setConfigCallback_cases [IntCast R] {lds next : LdsLidar R} (hwf : lds.WellFormed)
    {bit : UInt32} {resend : UserLivoxLidarConfig R → LidarCommand R} {status : LivoxStatus}
    {handle : UInt32} {hasResponse : Bool} {sent : List (LidarCommand R)}
    {lidar : LidarDevice R} (hdevice : lds.device handle = some lidar)
    (h : setConfigCallback bit resend status handle hasResponse lds = some (next, sent)) :
    next.WellFormed ∧
    (∀ other, next.device other = if other = handle then
      some (if status = .kLivoxLidarStatusSuccess then lowerBit lidar bit else lidar)
      else lds.device other) ∧
    sent = if status = .kLivoxLidarStatusTimeout then [resend lidar.livoxConfig] else [] := by
  obtain ⟨index, hindex, rfl⟩ := Option.map_eq_some_iff.mp hdevice
  -- a callback that writes nothing leaves every device as it is
  have hsame : ∀ other, lds.device other =
      if other = handle then some (lds.lidars index) else lds.device other := by
    intro other
    by_cases heq : other = handle
    · rw [heq, if_pos rfl, hdevice]
    · rw [if_neg heq]
  simp only [setConfigCallback, hindex] at h
  cases status with
  | kLivoxLidarStatusSuccess =>
    cases h
    exact ⟨hwf.setDevice hindex _, LdsLidar.device_setDevice hwf.sound hindex _, rfl⟩
  | kLivoxLidarStatusTimeout =>
    cases h
    exact ⟨hwf, hsame, rfl⟩
  | failed =>
    cases hasResponse with
    | false => cases h
    | true =>
      cases h
      exact ⟨hwf, hsame, rfl⟩

/-! ## The session, seen from one LiDAR -/

namespace SdkSession

/-- The commands in flight about one item of one LiDAR. -/
def outstanding (s : SdkSession R) (handle : UInt32) (item : ConfigItem) :
    List (LidarCommand R) :=
  commandsAbout handle item s.inFlight

/-- The answers to the commands about one item of one LiDAR, oldest first. -/
def answers (s : SdkSession R) (handle : UInt32) (item : ConfigItem) : List LivoxStatus :=
  (s.answered.filter (fun a => a.1.configItem = some (handle, item))).map Prod.snd

theorem answers_append {s : SdkSession R} {lds : LdsLidar R} {inFlight : List (LidarCommand R)}
    (c : LidarCommand R) (status : LivoxStatus) (handle : UInt32) (item : ConfigItem) :
    answers { lds := lds, inFlight := inFlight, answered := s.answered ++ [(c, status)] }
        handle item =
      s.answers handle item ++ if c.configItem = some (handle, item) then [status] else [] := by
  by_cases h : c.configItem = some (handle, item) <;> simp [answers, h]

theorem step_lidarInfoChange {s t : SdkSession R} {handle : UInt32}
    (h : s.step (.lidarInfoChange handle) = some t) :
    ∃ next sent, lidarInfoChangeCallback handle s.lds = (next, sent) ∧
      t = { s with lds := next, inFlight := s.inFlight ++ sent } :=
  ⟨_, _, rfl, (Option.some.inj h).symm⟩

theorem step_response {s t : SdkSession R} {i : Nat} {status : LivoxStatus}
    {hasResponse : Bool} (h : s.step (.response i status hasResponse) = some t) :
    ∃ c next sent, s.inFlight[i]? = some c ∧
      c.callback status hasResponse s.lds = some (next, sent) ∧
      t = {
        lds := next
        inFlight := s.inFlight.eraseIdx i ++ sent
        answered := s.answered ++ [(c, status)] } := by
  obtain ⟨c, hc, hrest⟩ := Option.bind_eq_some_iff.mp h
  obtain ⟨⟨next, sent⟩, hcallback, ht⟩ := Option.bind_eq_some_iff.mp hrest
  exact ⟨c, next, sent, hc, hcallback, (Option.some.inj ht).symm⟩

/-- The data source is well formed, and only registered LiDARs are being
configured. -/
structure WellFormed [IntCast R] (s : SdkSession R) : Prop where
  dataSource : s.lds.WellFormed
  registered : ∀ handle item, s.outstanding handle item ≠ [] → (s.lds.device handle).isSome

end SdkSession

/-- What one callback does, seen from the LiDAR `handle`. -/
inductive Progress [IntCast R] (handle : UInt32) (s t : SdkSession R) : SdkEvent → Prop
  /-- The callback is about something else, or finds no free slot. -/
  | idle {e : SdkEvent} (unregistered : e = .lidarInfoChange handle → s.lds.device handle = none)
      (device : t.lds.device handle = s.lds.device handle)
      (outstanding : ∀ item, t.outstanding handle item = s.outstanding handle item)
      (answers : ∀ item, t.answers handle item = s.answers handle item) :
      Progress handle s t e
  /-- The LiDAR is announced and gets a slot. -/
  | registered {lidar : LidarDevice R} (unregistered : s.lds.device handle = none)
      (device : t.lds.device handle = some lidar)
      (off : lidar.connectState = .kConnectStateOff)
      (config : lidar.livoxConfig = LidarDevice.zeroed.livoxConfig)
      (outstanding : ∀ item, t.outstanding handle item = s.outstanding handle item)
      (answers : ∀ item, t.answers handle item = s.answers handle item) :
      Progress handle s t (.lidarInfoChange handle)
  /-- The LiDAR is announced and is configured. -/
  | announced {lidar : LidarDevice R} (registered : s.lds.device handle = some lidar)
      (device : t.lds.device handle =
        some (raiseBits lidar ((configRequests handle lidar.livoxConfig).map Prod.fst)))
      (outstanding : ∀ item, t.outstanding handle item = s.outstanding handle item ++
        if item.requested lidar.livoxConfig = true then [item.command handle lidar.livoxConfig]
        else [])
      (answers : ∀ item, t.answers handle item = s.answers handle item) :
      Progress handle s t (.lidarInfoChange handle)
  /-- A command about `item` is answered. -/
  | answered {lidar : LidarDevice R} {item : ConfigItem} {i : Nat} {status : LivoxStatus}
      {hasResponse : Bool} {c : LidarCommand R} {before after : List (LidarCommand R)}
      (registered : s.lds.device handle = some lidar)
      (device : t.lds.device handle =
        some (if status = .kLivoxLidarStatusSuccess then lowerBit lidar item.bit else lidar))
      (sent : s.outstanding handle item = before ++ c :: after)
      (outstanding : t.outstanding handle item = before ++ after ++
        if status = .kLivoxLidarStatusTimeout then [item.command handle lidar.livoxConfig]
        else [])
      (answers : t.answers handle item = s.answers handle item ++ [status])
      (others : ∀ other, other ≠ item →
        t.outstanding handle other = s.outstanding handle other ∧
          t.answers handle other = s.answers handle other) :
      Progress handle s t (.response i status hasResponse)

/-- What one announcement does, seen from every LiDAR. -/
theorem progress_lidarInfoChange [IntCast R] {s t : SdkSession R} {announced : UInt32}
    (hwf : s.lds.WellFormed) (h : s.step (.lidarInfoChange announced) = some t)
    (handle : UInt32) :
    t.lds.WellFormed ∧ Progress handle s t (.lidarInfoChange announced) := by
  obtain ⟨next, sent, hcallback, rfl⟩ := SdkSession.step_lidarInfoChange h
  obtain ⟨hnext, hcases⟩ := lidarInfoChangeCallback_cases hwf hcallback
  refine ⟨hnext, ?_⟩
  have hsent : ∀ item, commandsAbout handle item (s.inFlight ++ sent) =
      s.outstanding handle item ++ commandsAbout handle item sent :=
    fun item => commandsAbout_append ..
  -- only the announced LiDAR's device can be written
  have hother : handle ≠ announced →
      (.lidarInfoChange announced : SdkEvent) = .lidarInfoChange handle →
      s.lds.device handle = none := by
    intro hne he
    cases he
    exact absurd rfl hne
  obtain ⟨lidar, hdevice, hwritten, habout⟩ | ⟨hdevice, hnone, hwritten⟩ := hcases
  · by_cases heq : handle = announced
    · subst heq
      refine .announced hdevice ?_ (fun item => ?_) (fun _ => rfl)
      · exact (hwritten handle).trans (if_pos rfl)
      · rw [SdkSession.outstanding, hsent, habout]
        simp
    · refine .idle (hother heq) ?_ (fun item => ?_) (fun _ => rfl)
      · exact (hwritten handle).trans (if_neg heq)
      · rw [SdkSession.outstanding, hsent, habout, if_neg (fun hboth => heq hboth.1),
          List.append_nil]
  · have hquiet : ∀ item, commandsAbout handle item (s.inFlight ++ sent) =
        s.outstanding handle item := by
      intro item
      rw [hsent, commandsAbout_of_none hnone, List.append_nil]
    obtain rfl | ⟨lidar, hoff, hconfig, hwritten⟩ := hwritten
    · by_cases heq : handle = announced
      · subst heq
        exact .idle (fun _ => hdevice) rfl hquiet (fun _ => rfl)
      · exact .idle (hother heq) rfl hquiet (fun _ => rfl)
    · by_cases heq : handle = announced
      · subst heq
        exact .registered hdevice ((hwritten handle).trans (if_pos rfl)) hoff hconfig hquiet
          (fun _ => rfl)
      · exact .idle (hother heq) ((hwritten handle).trans (if_neg heq)) hquiet (fun _ => rfl)

/-- A list with one element taken out. -/
theorem exists_eraseIdx {α : Type} {l : List α} {i : Nat} {a : α} (h : l[i]? = some a) :
    ∃ before after, l = before ++ a :: after ∧ l.eraseIdx i = before ++ after := by
  obtain ⟨hi, rfl⟩ := List.getElem?_eq_some_iff.mp h
  refine ⟨l.take i, l.drop (i + 1), ?_, List.eraseIdx_eq_take_drop_succ ..⟩
  rw [List.getElem_cons_drop, List.take_append_drop]

/-- What is in flight about an item once a command was answered, and the one about
`item` of `owner` sent again or not. -/
theorem commandsAbout_answered {inFlight before after : List (LidarCommand R)} {i : Nat}
    (herase : inFlight.eraseIdx i = before ++ after) (resent : Prop) [Decidable resent]
    (owner : UInt32) (item : ConfigItem) (config : UserLivoxLidarConfig R) (handle : UInt32)
    (other : ConfigItem) :
    commandsAbout handle other (inFlight.eraseIdx i ++
        if resent then [item.command owner config] else []) =
      commandsAbout handle other before ++ commandsAbout handle other after ++
        if resent ∧ (handle, other) = (owner, item) then [item.command owner config] else [] := by
  rw [herase, commandsAbout_append, commandsAbout_append]
  congr 1
  by_cases hresent : resent
  · rw [if_pos hresent, commandsAbout_cons, configItem_command]
    by_cases habout : (handle, other) = (owner, item)
    · rw [if_pos (by rw [habout]), if_pos ⟨hresent, habout⟩]
      rfl
    · rw [if_neg (fun h => habout (Option.some.inj h).symm), if_neg (fun h => habout h.2)]
      rfl
  · rw [if_neg hresent, if_neg (fun h => hresent h.1)]
    rfl

/-- What one answer does, seen from every LiDAR. -/
theorem progress_response [IntCast R] {s t : SdkSession R} {i : Nat} {status : LivoxStatus}
    {hasResponse : Bool} (hwf : s.WellFormed)
    (h : s.step (.response i status hasResponse) = some t) (handle : UInt32) :
    t.lds.WellFormed ∧ Progress handle s t (.response i status hasResponse) := by
  obtain ⟨c, next, sent, hc, hcallback, rfl⟩ := SdkSession.step_response h
  obtain ⟨before, after, hsplit, herase⟩ := exists_eraseIdx hc
  cases hitem : c.configItem with
  | none =>
    obtain ⟨sent', hcallback', hnone⟩ :=
      callback_of_configItem_none hitem status hasResponse s.lds
    rw [hcallback'] at hcallback
    cases hcallback
    refine ⟨hwf.dataSource, .idle (by intro he; cases he) rfl (fun item => ?_) (fun item => ?_)⟩
    · rw [SdkSession.outstanding, SdkSession.outstanding, herase, hsplit]
      simp only [commandsAbout_append, commandsAbout_cons, hitem, commandsAbout_of_none hnone,
        List.append_nil, reduceCtorEq, if_false]
    · rw [SdkSession.answers_append, hitem]
      simp
  | some about =>
    obtain ⟨owner, item⟩ := about
    have hout : s.outstanding owner item =
        commandsAbout owner item before ++ c :: commandsAbout owner item after := by
      rw [SdkSession.outstanding, hsplit, commandsAbout_append, commandsAbout_cons,
        if_pos hitem]
    obtain ⟨lidar, hdevice⟩ := Option.isSome_iff_exists.mp
      (hwf.registered owner item (by rw [hout]; simp))
    rw [callback_eq_of_configItem hitem] at hcallback
    obtain ⟨hnext, hwritten, rfl⟩ := setConfigCallback_cases hwf.dataSource hdevice hcallback
    -- what is in flight afterwards, for each item of each LiDAR
    have hafter := commandsAbout_answered herase (status = .kLivoxLidarStatusTimeout) owner item
      lidar.livoxConfig
    have hothers : ∀ handle other, (handle, other) ≠ (owner, item) →
        commandsAbout handle other (s.inFlight.eraseIdx i ++
          if status = .kLivoxLidarStatusTimeout then [item.command owner lidar.livoxConfig]
          else []) = s.outstanding handle other := by
      intro handle other hne
      rw [hafter, if_neg (fun hboth => hne hboth.2), List.append_nil, SdkSession.outstanding,
        hsplit, commandsAbout_append, commandsAbout_cons, if_neg]
      rw [hitem]
      exact fun heq => hne (Option.some.inj heq).symm
    refine ⟨hnext, ?_⟩
    by_cases heq : handle = owner
    · subst heq
      refine .answered hdevice ((hwritten handle).trans (if_pos rfl)) hout ?_ ?_ ?_
      · rw [SdkSession.outstanding, hafter]
        simp
      · rw [SdkSession.answers_append, if_pos hitem]
      · intro other hne
        refine ⟨hothers handle other (fun h => hne (Prod.mk.inj h).2), ?_⟩
        rw [SdkSession.answers_append, hitem, if_neg, List.append_nil]
        exact fun h => hne (Prod.mk.inj (Option.some.inj h)).2.symm
    · refine .idle (by intro he; cases he) ((hwritten handle).trans (if_neg heq))
        (fun other => hothers handle other (fun h => heq (Prod.mk.inj h).1)) (fun other => ?_)
      rw [SdkSession.answers_append, hitem, if_neg, List.append_nil]
      exact fun h => heq (Prod.mk.inj (Option.some.inj h)).1.symm

/-- **One callback, seen from one LiDAR.** -/
theorem progress_of_step [IntCast R] {s t : SdkSession R} {e : SdkEvent} (hwf : s.WellFormed)
    (h : s.step e = some t) (handle : UInt32) : Progress handle s t e := by
  cases e with
  | lidarInfoChange announced => exact (progress_lidarInfoChange hwf.dataSource h handle).2
  | response i status hasResponse => exact (progress_response hwf h handle).2

/-- A LiDAR stays registered. -/
theorem Progress.isSome_device [IntCast R] {s t : SdkSession R} {e : SdkEvent} {handle : UInt32}
    (h : Progress handle s t e) (hs : (s.lds.device handle).isSome) :
    (t.lds.device handle).isSome := by
  cases h with
  | idle unregistered device outstanding answers => rwa [device]
  | registered unregistered device => rw [device]; rfl
  | announced registered device => rw [device]; rfl
  | answered registered device => rw [device]; rfl

theorem SdkSession.WellFormed.step [IntCast R] {s t : SdkSession R} {e : SdkEvent}
    (hwf : s.WellFormed) (h : s.step e = some t) : t.WellFormed := by
  refine ⟨?_, fun handle item hne => ?_⟩
  · cases e with
    | lidarInfoChange announced => exact (progress_lidarInfoChange hwf.dataSource h announced).1
    | response i status hasResponse => exact (progress_response hwf h 0).1
  · have hprogress := progress_of_step hwf h handle
    cases hprogress with
    | idle unregistered device outstanding answers =>
      rw [device]
      exact hwf.registered handle item (by rwa [outstanding] at hne)
    | registered unregistered device => rw [device]; rfl
    | announced registered device => rw [device]; rfl
    | answered registered device => rw [device]; rfl

theorem wellFormed_booted [IntCast R] (userConfigs : List (ParsedConfig R)) :
    (SdkSession.booted userConfigs).WellFormed where
  dataSource := (LdsLidar.idle_initLivoxLidar userConfigs).toWellFormed
  registered _ _ hne := absurd rfl hne

/-! ## The simulation -/

/-- The session follows the handshake `a` on the LiDAR `handle`, whose user config
is `config`: its bits are the pending items, it is sampling when the handshake is
ready, and each item's command is in flight once for each outstanding request. -/
structure Follows [IntCast R] (handle : UInt32) (config : UserLivoxLidarConfig R)
    (s : SdkSession R) (a : Handshake ConfigItem) : Prop where
  configured : ∀ lidar, s.lds.device handle = some lidar →
    lidar.livoxConfig = { config with setBits := ConfigItem.encode a.pending }
  connectState : ∀ lidar, s.lds.device handle = some lidar →
    (lidar.connectState = .kConnectStateSampling ↔ a.ready = true)
  unregistered : s.lds.device handle = none →
    config = LidarDevice.zeroed.livoxConfig ∧ a = .initial
  outstanding : ∀ item,
    s.outstanding handle item = List.replicate (a.outstanding item) (item.command handle config)
  acknowledged : ∀ item,
    (s.answers handle item).count .kLivoxLidarStatusSuccess = a.acknowledged item
  failed : ∀ item, (s.answers handle item).count .failed = a.failed item

/-- Taking one copy out. -/
theorem append_eq_replicate {α : Type} {before after : List α} {c d : α} {n : Nat}
    (h : before ++ c :: after = List.replicate n d) :
    n ≠ 0 ∧ before ++ after = List.replicate (n - 1) d := by
  obtain ⟨hlength, hmem⟩ := List.eq_replicate_iff.mp h
  rw [List.length_append, List.length_cons] at hlength
  refine ⟨by omega, List.eq_replicate_iff.mpr ⟨?_, fun x hx => hmem x ?_⟩⟩
  · rw [List.length_append]
    omega
  · rcases List.mem_append.mp hx with hx | hx
    · exact List.mem_append_left _ hx
    · exact List.mem_append_right _ (List.mem_cons_of_mem _ hx)

@[simp] theorem requested_setBits (config : UserLivoxLidarConfig R) (setBits : UInt32)
    (item : ConfigItem) :
    item.requested { config with setBits := setBits } = item.requested config := by
  cases item <;> rfl

@[simp] theorem command_setBits (handle : UInt32) (config : UserLivoxLidarConfig R)
    (setBits : UInt32) (item : ConfigItem) :
    item.command handle { config with setBits := setBits } = item.command handle config := by
  cases item <;> rfl

/-- An announcement raises the requested items. -/
theorem livoxConfig_raiseBits {lidar : LidarDevice R} {config : UserLivoxLidarConfig R}
    {pending : Finset ConfigItem}
    (h : lidar.livoxConfig = { config with setBits := ConfigItem.encode pending })
    (handle : UInt32) :
    (raiseBits lidar ((configRequests handle lidar.livoxConfig).map Prod.fst)).livoxConfig =
      { config with
        setBits := ConfigItem.encode (pending ∪ ConfigItem.requestedItems config) } := by
  have hbits : (configRequests handle lidar.livoxConfig).map Prod.fst =
      (ConfigItem.inOrder.filter (ConfigItem.requested config)).map ConfigItem.bit := by
    rw [configRequests_eq, h, List.map_map]
    congr 2
  rw [raiseBits, hbits, h]
  simp only [ConfigItem.foldl_bits, ConfigItem.requestedItems]

theorem replicate_append_ite {α : Type} (n : Nat) (c : α) (p : Prop) [Decidable p] :
    (List.replicate n c ++ if p then [c] else []) =
      List.replicate (n + if p then 1 else 0) c := by
  by_cases h : p
  · rw [if_pos h, if_pos h, List.replicate_succ']
  · rw [if_neg h, if_neg h, List.append_nil, Nat.add_zero]

/-- A success lowers one bit, and the last one makes the LiDAR sampling. -/
theorem livoxConfig_lowerBit {lidar : LidarDevice R} {config : UserLivoxLidarConfig R}
    {pending : Finset ConfigItem}
    (h : lidar.livoxConfig = { config with setBits := ConfigItem.encode pending })
    (item : ConfigItem) :
    (lowerBit lidar item.bit).livoxConfig =
        { config with setBits := ConfigItem.encode (pending.erase item) } ∧
      ((lowerBit lidar item.bit).connectState = .kConnectStateSampling ↔
        lidar.connectState = .kConnectStateSampling ∨ pending.erase item = ∅) := by
  have hbits : lidar.livoxConfig.setBits &&& ~~~item.bit =
      ConfigItem.encode (pending.erase item) := by
    rw [h, ConfigItem.encode_erase]
  constructor
  · simp only [lowerBit, h, ConfigItem.encode_erase]
  · simp only [lowerBit, hbits, ConfigItem.encode_eq_zero]
    by_cases hempty : pending.erase item = ∅ <;> simp [hempty]

/-- Following a handshake, for a registered LiDAR. -/
theorem Follows.of_device [IntCast R] {handle : UInt32} {config : UserLivoxLidarConfig R}
    {s : SdkSession R} {a : Handshake ConfigItem} {lidar : LidarDevice R}
    (hdevice : s.lds.device handle = some lidar)
    (hconfig : lidar.livoxConfig = { config with setBits := ConfigItem.encode a.pending })
    (hstate : lidar.connectState = .kConnectStateSampling ↔ a.ready = true)
    (hitems : ∀ item,
      s.outstanding handle item =
          List.replicate (a.outstanding item) (item.command handle config) ∧
        (s.answers handle item).count .kLivoxLidarStatusSuccess = a.acknowledged item ∧
        (s.answers handle item).count .failed = a.failed item) :
    Follows handle config s a where
  configured lidar' h := by
    rw [hdevice] at h
    cases h
    exact hconfig
  connectState lidar' h := by
    rw [hdevice] at h
    cases h
    exact hstate
  unregistered h := by
    rw [hdevice] at h
    cases h
  outstanding item := (hitems item).1
  acknowledged item := (hitems item).2.1
  failed item := (hitems item).2.2

/-- An answer to a command about `item` is the handshake's answer to a request. -/
theorem Follows.answered [IntCast R] {handle : UInt32} {config : UserLivoxLidarConfig R}
    {s t : SdkSession R} {a : Handshake ConfigItem} (hf : Follows handle config s a)
    (ha : (Handshake.machine (ConfigItem.requestedItems config)).Reachable a)
    {lidar : LidarDevice R} {item : ConfigItem} {status : LivoxStatus}
    (registered : s.lds.device handle = some lidar)
    (device : t.lds.device handle =
      some (if status = .kLivoxLidarStatusSuccess then lowerBit lidar item.bit else lidar))
    (hne : a.outstanding item ≠ 0)
    (outstanding : t.outstanding handle item =
      List.replicate (a.outstanding item - 1) (item.command handle config) ++
        if status = .kLivoxLidarStatusTimeout then [item.command handle config] else [])
    (answers : t.answers handle item = s.answers handle item ++ [status])
    (others : ∀ other, other ≠ item →
      t.outstanding handle other = s.outstanding handle other ∧
        t.answers handle other = s.answers handle other) :
    ∃ a', (Handshake.machine (ConfigItem.requestedItems config)).Reachable a' ∧
      Follows handle config t a' ∧ a'.rounds = a.rounds := by
  have hlidar := hf.configured lidar registered
  have hstate := hf.connectState lidar registered
  -- the items that the answer is not about
  have hothers : ∀ other, other ≠ item →
      t.outstanding handle other =
          List.replicate (a.outstanding other) (other.command handle config) ∧
        (t.answers handle other).count .kLivoxLidarStatusSuccess = a.acknowledged other ∧
        (t.answers handle other).count .failed = a.failed other := by
    intro other hother
    rw [(others other hother).1, (others other hother).2]
    exact ⟨hf.outstanding other, hf.acknowledged other, hf.failed other⟩
  cases status with
  | kLivoxLidarStatusSuccess =>
    obtain ⟨hconfig, hsampling⟩ := livoxConfig_lowerBit hlidar item
    refine ⟨a.acknowledge item, .step (l := .acknowledge item) ha (if_neg hne),
      .of_device device hconfig ?_ (fun other => ?_), rfl⟩
    · rw [if_pos rfl, hsampling, hstate]
      simp [Handshake.acknowledge]
    · by_cases hother : other = item
      · subst hother
        rw [outstanding, answers]
        simp [Handshake.acknowledge, hf.acknowledged, hf.failed]
      · simpa only [Handshake.acknowledge, Function.update_of_ne hother]
          using hothers other hother
  | kLivoxLidarStatusTimeout =>
    refine ⟨a, ha, .of_device device hlidar hstate (fun other => ?_), rfl⟩
    by_cases hother : other = item
    · subst hother
      rw [outstanding, answers, if_pos rfl, ← List.replicate_succ',
        Nat.sub_add_cancel (Nat.pos_of_ne_zero hne)]
      simp [hf.acknowledged, hf.failed]
    · exact hothers other hother
  | failed =>
    refine ⟨a.fail item, .step (l := .fail item) ha (if_neg hne),
      .of_device device hlidar hstate (fun other => ?_), rfl⟩
    by_cases hother : other = item
    · subst hother
      rw [outstanding, answers]
      simp [Handshake.fail, hf.acknowledged, hf.failed]
    · simpa only [Handshake.fail, Function.update_of_ne hother] using hothers other hother

/-- **Simulation step.**  One callback is at most one event of the handshake of
each LiDAR, and it begins a round when it announces a registered one. -/
theorem Follows.step [IntCast R] {handle : UInt32} {config : UserLivoxLidarConfig R}
    {s t : SdkSession R} {e : SdkEvent} {a : Handshake ConfigItem}
    (hf : Follows handle config s a) (hprogress : Progress handle s t e)
    (ha : (Handshake.machine (ConfigItem.requestedItems config)).Reachable a) :
    ∃ a', (Handshake.machine (ConfigItem.requestedItems config)).Reachable a' ∧
      Follows handle config t a' ∧
      a'.rounds = a.rounds +
        if e = .lidarInfoChange handle ∧ (s.lds.device handle).isSome then 1 else 0 := by
  cases hprogress with
  | idle unregistered device outstanding answers =>
    refine ⟨a, ha, ?_, ?_⟩
    · refine ⟨?_, ?_, ?_, fun item => ?_, fun item => ?_, fun item => ?_⟩
      · rw [device]
        exact hf.configured
      · rw [device]
        exact hf.connectState
      · rw [device]
        exact hf.unregistered
      · rw [outstanding, hf.outstanding]
      · rw [answers, hf.acknowledged]
      · rw [answers, hf.failed]
    · rw [if_neg, Nat.add_zero]
      rintro ⟨he, hsome⟩
      rw [unregistered he] at hsome
      cases hsome
  | registered unregistered device off hconfig outstanding answers =>
    obtain ⟨rfl, rfl⟩ := hf.unregistered unregistered
    refine ⟨.initial, ha, .of_device device hconfig ?_ (fun item => ?_), ?_⟩
    · simp [off, Handshake.initial]
    · rw [outstanding, answers, hf.outstanding, hf.acknowledged, hf.failed]
      exact ⟨rfl, rfl, rfl⟩
    · rw [unregistered]
      simp
  | @announced lidar registered device outstanding answers =>
    have hlidar := hf.configured lidar registered
    have hstate := hf.connectState lidar registered
    refine ⟨a.raised (ConfigItem.requestedItems config), .step (l := .raise) ha rfl,
      .of_device device (livoxConfig_raiseBits hlidar handle) hstate (fun item => ?_), ?_⟩
    · rw [outstanding, answers, hf.outstanding, hf.acknowledged, hf.failed, hlidar]
      simp only [requested_setBits, command_setBits, replicate_append_ite, Handshake.raised,
        ConfigItem.mem_requestedItems, and_self]
    · rw [if_pos ⟨rfl, by rw [registered]; rfl⟩]
      rfl
  | @answered lidar item i status hasResponse c before after registered device sent outstanding
      answers others =>
    rw [hf.outstanding] at sent
    obtain ⟨hne, hrest⟩ := append_eq_replicate sent.symm
    rw [hrest, hf.configured lidar registered, command_setBits] at outstanding
    have hrounds : ¬ ((.response i status hasResponse : SdkEvent) = .lidarInfoChange handle ∧
        (s.lds.device handle).isSome) := fun h => by cases h.1
    rw [if_neg hrounds, Nat.add_zero]
    exact hf.answered ha registered device hne outstanding answers others

section Runs

variable [IntCast R] (userConfigs : List (ParsedConfig R)) (handle : UInt32)

/-- The configuration of a LiDAR: the user's, or the zeroed one of a LiDAR that is
not listed. -/
def configOf : UserLivoxLidarConfig R :=
  (((SdkSession.booted userConfigs).lds.device handle).map LidarDevice.livoxConfig).getD
    LidarDevice.zeroed.livoxConfig

/-- In this run some announcement found the LiDAR registered. -/
def AnnouncedRegistered (events : List SdkEvent) : Prop :=
  ∃ earlier u, earlier ++ [.lidarInfoChange handle] <+: events ∧
    (SdkSession.machine userConfigs).Run (.booted userConfigs) earlier u ∧
    (u.lds.device handle).isSome

variable {userConfigs handle}

theorem follows_booted :
    Follows handle (configOf userConfigs handle) (.booted userConfigs) .initial := by
  have hidle := LdsLidar.idle_initLivoxLidar userConfigs
  cases hdevice : (SdkSession.booted userConfigs).lds.device handle with
  | none =>
    refine ⟨?_, ?_, fun _ => ⟨?_, rfl⟩, fun _ => rfl, fun _ => rfl, fun _ => rfl⟩
    · rw [hdevice]
      exact fun _ h => nomatch h
    · rw [hdevice]
      exact fun _ h => nomatch h
    · rw [configOf, hdevice]
      rfl
  | some lidar =>
    obtain ⟨hoff, hbits⟩ := hidle.device hdevice
    refine .of_device hdevice ?_ ?_ (fun _ => ⟨rfl, rfl, rfl⟩)
    · have hzero : ConfigItem.encode (Handshake.initial : Handshake ConfigItem).pending = 0 := rfl
      rw [configOf, hdevice, hzero, ← hbits]
      rfl
    · simp [hoff, Handshake.initial]

/-- One more event: the announcement is new or it is an earlier one. -/
theorem announcedRegistered_snoc {events : List SdkEvent} {e : SdkEvent} {s : SdkSession R}
    (hrun : (SdkSession.machine userConfigs).Run (.booted userConfigs) events s) :
    AnnouncedRegistered userConfigs handle (events ++ [e]) ↔
      AnnouncedRegistered userConfigs handle events ∨
        (e = .lidarInfoChange handle ∧ (s.lds.device handle).isSome) := by
  constructor
  · rintro ⟨earlier, u, hpre, hu, hsome⟩
    rcases Machine.prefix_concat_concat_iff.mp hpre with hpre | ⟨rfl, rfl⟩
    · exact .inl ⟨earlier, u, hpre, hu, hsome⟩
    · rw [Machine.Run.unique hu hrun] at hsome
      exact .inr ⟨rfl, hsome⟩
  · rintro (⟨earlier, u, hpre, hu, hsome⟩ | ⟨rfl, hsome⟩)
    · exact ⟨earlier, u, hpre.trans (List.prefix_append ..), hu, hsome⟩
    · exact ⟨events, s, List.prefix_rfl, hrun, hsome⟩

/-- **Simulation.**  Every run of the driver follows, for every LiDAR, a handshake
over the items of its config.  The handshake has begun a round if and only if the
LiDAR was announced when it was registered, and has begun as many rounds as there
were announcements if the LiDAR is in the user's config. -/
theorem handshake_simulated {events : List SdkEvent} {t : SdkSession R}
    (hrun : (SdkSession.machine userConfigs).Run (.booted userConfigs) events t)
    (handle : UInt32) :
    t.WellFormed ∧ ∃ a,
      (Handshake.machine (ConfigItem.requestedItems (configOf userConfigs handle))).Reachable a ∧
      Follows handle (configOf userConfigs handle) t a ∧
      (0 < a.rounds ↔ AnnouncedRegistered userConfigs handle events) ∧
      (((SdkSession.booted userConfigs).lds.device handle).isSome →
        (t.lds.device handle).isSome ∧ a.rounds = events.count (.lidarInfoChange handle)) := by
  induction hrun with
  | nil =>
    refine ⟨wellFormed_booted userConfigs, .initial, .init rfl, follows_booted, ?_,
      fun hsome => ⟨hsome, rfl⟩⟩
    constructor
    · intro h
      exact absurd h (Nat.lt_irrefl 0)
    · rintro ⟨earlier, u, hpre, -⟩
      exact absurd hpre Machine.not_prefix_nil
  | @snoc s u events e hrun hstep ih =>
    obtain ⟨hwf, a, ha, hfollows, hbegun, hlisted⟩ := ih
    have hprogress := progress_of_step hwf hstep handle
    obtain ⟨a', ha', hfollows', hrounds⟩ := hfollows.step hprogress ha
    refine ⟨hwf.step hstep, a', ha', hfollows', ?_, fun hsome => ?_⟩
    · rw [announcedRegistered_snoc hrun, ← hbegun, hrounds]
      split
      case isTrue h => exact ⟨fun _ => .inr h, fun _ => by omega⟩
      case isFalse h =>
        rw [Nat.add_zero]
        exact ⟨.inl, fun hor => hor.resolve_right h⟩
    · obtain ⟨hs, hcount⟩ := hlisted hsome
      refine ⟨hprogress.isSome_device hs, ?_⟩
      rw [hrounds, hcount, List.count_append, List.count_singleton]
      simp [hs]

end Runs

end RoboRacer.Driver
