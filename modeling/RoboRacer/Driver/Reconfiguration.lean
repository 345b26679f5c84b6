/-
  Driver/Reconfiguration.lean --- which LiDARs the driver reconfigures.

  A LiDAR that no user config names should only be started, not configured.  The
  announcement callback tells the two kinds apart by asking whether the LiDAR has
  a slot, and gives a LiDAR without one a slot:

      SessionInv        who is registered, and who the commands in flight are for
      leavesUnlistedAlone_iff
                        in which runs no unlisted LiDAR is reconfigured
-/
import RoboRacer.Driver.DeviceTable
import RoboRacer.Driver.SamplingState

set_option autoImplicit false

namespace RoboRacer.Driver

open RoboRacer.Foundation

variable {R : Type}

/-! ## Who is configured, and by which commands -/

/-- The LiDARs with an entry in the user config. -/
def listed (userConfigs : List (ParsedConfig R)) : List UInt32 :=
  userConfigs.map (fun config => config.handle)

/-- The LiDAR that an event announces. -/
def SdkEvent.announced : SdkEvent → List UInt32
  | .lidarInfoChange handle => [handle]
  | .response _ _ _ => []

namespace LidarCommand

/-- The LiDAR that a command is sent to. -/
def handle : LidarCommand R → UInt32
  | setLivoxLidarPclDataType handle _ => handle
  | setLivoxLidarScanPattern handle _ => handle
  | setLivoxLidarBlindSpot handle _ => handle
  | setLivoxLidarDualEmit handle _ => handle
  | setLivoxLidarInstallAttitude handle _ => handle
  | setLivoxLidarWorkModeNormal handle => handle
  | enableLivoxLidarImuData handle => handle

/-- Whether a command changes the configuration of a LiDAR. -/
def reconfigures : LidarCommand R → Bool
  | setLivoxLidarWorkModeNormal _ => false
  | enableLivoxLidarImuData _ => false
  | _ => true

theorem handle_eq_of_configItem {c : LidarCommand R} {handle : UInt32} {item : ConfigItem}
    (h : c.configItem = some (handle, item)) : c.handle = handle ∧ c.reconfigures = true := by
  cases c <;> cases h <;> exact ⟨rfl, rfl⟩

end LidarCommand

@[simp] theorem ConfigItem.handle_command (handle : UInt32) (config : UserLivoxLidarConfig R)
    (item : ConfigItem) : (item.command handle config).handle = handle := by
  cases item <;> rfl

namespace SdkSession

/-- The LiDAR that a callback runs for. -/
def subject (s : SdkSession R) : SdkEvent → Option UInt32
  | .lidarInfoChange handle => some handle
  | .response i _ _ => s.inFlight[i]?.map LidarCommand.handle

/-- The commands that a callback sends. -/
def sent (s : SdkSession R) : SdkEvent → List (LidarCommand R)
  | .lidarInfoChange handle => (lidarInfoChangeCallback handle s.lds).2
  | .response i status hasResponse =>
    match s.inFlight[i]?.bind (fun c => c.callback status hasResponse s.lds) with
    | none => []
    | some (_, sent) => sent

/-- No command that reconfigures a LiDAR is sent to a LiDAR that is not in the
user config, or on its behalf. -/
def LeavesUnlistedAlone (userConfigs : List (ParsedConfig R)) (s : SdkSession R)
    (e : SdkEvent) : Prop :=
  ∀ c ∈ s.sent e, c.reconfigures = true →
    c.handle ∈ listed userConfigs ∧ ∀ handle ∈ s.subject e, handle ∈ listed userConfigs

end SdkSession

/-! ## What the callbacks send -/

section Callbacks

variable {arrivals filledIn : List UInt32} {lds next : LdsLidar R}
  {sent : List (LidarCommand R)}

theorem reconfigures_startSampling {handle : UInt32} {c : LidarCommand R}
    (hc : c ∈ startSampling handle) : c.reconfigures = false := by
  simp only [startSampling, List.mem_cons, List.not_mem_nil, or_false] at hc
  rcases hc with rfl | rfl <;> rfl

/-- A LiDAR without a slot is only started when it is announced. -/
theorem sent_of_unregistered {handle : UInt32} (hindex : lds.getLidarDevice handle = none)
    {c : LidarCommand R} (hc : c ∈ (lidarInfoChangeCallback handle lds).2) :
    c.reconfigures = false := by
  unfold lidarInfoChangeCallback at hc
  rw [hindex] at hc
  simp only at hc
  split at hc
  · cases hc
  · exact reconfigures_startSampling hc

/-- A LiDAR with a slot is configured as the slot says: the items go to itself and
the attitude to the handle in the configuration. -/
theorem sent_of_registered {handle : UInt32} {index : Fin kMaxSourceLidar}
    (hindex : lds.getLidarDevice handle = some index) :
    (∀ c ∈ (lidarInfoChangeCallback handle lds).2, c.reconfigures = true →
      c.handle = handle ∨ c.handle = (lds.lidars index).livoxConfig.handle) ∧
    .setLivoxLidarInstallAttitude (lds.lidars index).livoxConfig.handle
      (lds.lidars index).livoxConfig.extrinsicParam ∈ (lidarInfoChangeCallback handle lds).2 := by
  unfold lidarInfoChangeCallback
  simp only [hindex]
  refine ⟨fun c hc hreconf => ?_, List.mem_append_right _ List.mem_cons_self⟩
  rcases List.mem_append.mp hc with hrequest | hrest
  · rw [configRequests_eq, List.map_map] at hrequest
    obtain ⟨item, -, rfl⟩ := List.mem_map.mp hrequest
    exact .inl (ConfigItem.handle_command ..)
  · rcases List.mem_cons.mp hrest with rfl | hstart
    · exact .inr rfl
    · rw [reconfigures_startSampling hstart] at hreconf
      cases hreconf

/-- The answer about one item changes at most the item's bit, and the item is sent
again to the LiDAR that answered. -/
theorem setConfigCallback_spec [IntCast R] (h : lds.TableInv arrivals filledIn) {bit : UInt32}
    {resend : UserLivoxLidarConfig R → LidarCommand R} {status : LivoxStatus}
    {handle : UInt32} {hasResponse : Bool}
    (hcallback : setConfigCallback bit resend status handle hasResponse lds =
      some (next, sent)) :
    next.TableInv arrivals filledIn ∧ ∀ c ∈ sent, ∃ config, c = resend config := by
  unfold setConfigCallback at hcallback
  cases hindex : lds.getLidarDevice handle with
  | none =>
    rw [hindex] at hcallback
    cases hcallback
    exact ⟨h, fun c hc => absurd hc List.not_mem_nil⟩
  | some index =>
    rw [hindex] at hcallback
    cases status with
    | kLivoxLidarStatusSuccess =>
      cases hcallback
      exact ⟨h.setDevice hindex (h.entry_of_index hindex).lowerBit,
        fun c hc => absurd hc List.not_mem_nil⟩
    | kLivoxLidarStatusTimeout =>
      cases hcallback
      exact ⟨h, fun c hc => ⟨_, List.mem_singleton.mp hc⟩⟩
    | failed =>
      cases hasResponse with
      | false => cases hcallback
      | true =>
        cases hcallback
        exact ⟨h, fun c hc => absurd hc List.not_mem_nil⟩

/-- The answer about the attitude makes the driver send it to the handle in the
configuration, or nothing. -/
theorem setAttitudeCallback_spec {status : LivoxStatus} {handle : UInt32} {c : LidarCommand R}
    (hc : c ∈ (setAttitudeCallback status handle lds).2) :
    ∃ lidar, lds.device handle = some lidar ∧ c.handle = lidar.livoxConfig.handle := by
  unfold setAttitudeCallback at hc
  cases hindex : lds.getLidarDevice handle with
  | none =>
    rw [hindex] at hc
    cases hc
  | some index =>
    refine ⟨lds.lidars index, Option.map_eq_some_iff.mpr ⟨index, hindex, rfl⟩, ?_⟩
    rw [hindex] at hc
    cases status with
    | kLivoxLidarStatusTimeout => rw [List.mem_singleton.mp hc]; rfl
    | _ => cases hc

/-- The other answers never make the driver reconfigure a LiDAR. -/
theorem workModeChangedCallback_spec {status : LivoxStatus} {handle : UInt32}
    {c : LidarCommand R} (hc : c ∈ (workModeChangedCallback status handle lds).2) :
    c.reconfigures = false := by
  cases status with
  | kLivoxLidarStatusSuccess => cases hc
  | _ => rw [List.mem_singleton.mp hc]; rfl

theorem enableLivoxLidarImuDataCallback_spec {status : LivoxStatus} {handle : UInt32}
    {hasResponse : Bool} {c : LidarCommand R}
    (hc : c ∈ (enableLivoxLidarImuDataCallback status handle hasResponse lds).2) :
    c.reconfigures = false := by
  unfold enableLivoxLidarImuDataCallback at hc
  split at hc
  · cases hc
  · cases hasResponse with
    | false => cases hc
    | true =>
      cases status with
      | kLivoxLidarStatusTimeout => rw [List.mem_singleton.mp hc]; rfl
      | _ => cases hc

/-- A command that an answer makes the driver send again is for the LiDAR that
answered, or for the handle in its configuration, and it reconfigures a LiDAR only
if the answered command did. -/
theorem callback_spec [IntCast R] (h : lds.TableInv arrivals filledIn) {c : LidarCommand R}
    {status : LivoxStatus} {hasResponse : Bool}
    (hcallback : c.callback status hasResponse lds = some (next, sent)) :
    next.TableInv arrivals filledIn ∧
    ∀ c' ∈ sent, c'.reconfigures = true → c.reconfigures = true ∧
      (c'.handle = c.handle ∨
        ∃ lidar, lds.device c.handle = some lidar ∧ c'.handle = lidar.livoxConfig.handle) := by
  cases hitem : c.configItem with
  | some about =>
    obtain ⟨handle, item⟩ := about
    obtain ⟨rfl, hreconf⟩ := LidarCommand.handle_eq_of_configItem hitem
    rw [callback_eq_of_configItem hitem] at hcallback
    obtain ⟨hnext, hsent⟩ := setConfigCallback_spec h hcallback
    refine ⟨hnext, fun c' hc' _ => ⟨hreconf, .inl ?_⟩⟩
    obtain ⟨config, rfl⟩ := hsent c' hc'
    exact ConfigItem.handle_command ..
  | none =>
    -- no other callback writes the table
    obtain ⟨sent', hsame, -⟩ := callback_of_configItem_none hitem status hasResponse lds
    rw [hsame] at hcallback
    cases hcallback
    have hsent : (c.callback status hasResponse lds).map Prod.snd = some sent := by
      rw [hsame]; rfl
    refine ⟨h, fun c' hc' hreconf' => ?_⟩
    cases c with
    | setLivoxLidarInstallAttitude handle attitude =>
      cases hsent
      exact ⟨rfl, .inr (setAttitudeCallback_spec hc')⟩
    | setLivoxLidarWorkModeNormal handle =>
      cases hsent
      rw [workModeChangedCallback_spec hc'] at hreconf'
      cases hreconf'
    | enableLivoxLidarImuData handle =>
      cases hsent
      rw [enableLivoxLidarImuDataCallback_spec hc'] at hreconf'
      cases hreconf'
    | _ => cases hitem

end Callbacks

/-! ## Whole runs -/

section Runs

variable [IntCast R]

/-- The state of the driver after a run in which the LiDARs of `arrivals` were
announced and no unlisted LiDAR was reconfigured. -/
structure SdkSession.Inv (userConfigs : List (ParsedConfig R)) (arrivals : List UInt32)
    (s : SdkSession R) : Prop where
  table : s.lds.TableInv (listed userConfigs ++ arrivals) (listed userConfigs)
  /-- Only LiDARs in the user config are being reconfigured. -/
  inFlight : ∀ c ∈ s.inFlight, c.reconfigures = true → c.handle ∈ listed userConfigs

variable {userConfigs : List (ParsedConfig R)} {arrivals : List UInt32} {s t : SdkSession R}

theorem SdkSession.Inv.booted : (SdkSession.booted userConfigs).Inv userConfigs [] where
  table := by
    have hinit := LdsLidar.TableInv.zeroed.initLivoxLidar
      (userConfigs.map ParsedConfig.toUserLivoxLidarConfig)
    rw [List.foldl_map, List.map_map, List.nil_append] at hinit
    rw [List.append_nil]
    exact hinit
  inFlight c hc := by cases hc

/-- The configuration of a LiDAR in the user config carries its handle. -/
theorem SdkSession.Inv.configHandle (h : s.Inv userConfigs arrivals) {handle : UInt32}
    (hlisted : handle ∈ listed userConfigs) {lidar : LidarDevice R}
    (hdevice : s.lds.device handle = some lidar) : lidar.livoxConfig.handle = handle := by
  have hentry := h.table.entry handle lidar hdevice
  rw [hentry.config, hentry.ofNamed hlisted]

namespace SdkSession

omit [IntCast R] in
/-- What is in flight after a callback was in flight before or was sent by it. -/
theorem mem_inFlight_step {e : SdkEvent} (hstep : s.step e = some t) {c : LidarCommand R}
    (hc : c ∈ t.inFlight) : c ∈ s.inFlight ∨ c ∈ s.sent e := by
  cases e with
  | lidarInfoChange handle =>
    obtain ⟨next, sent, hcallback, rfl⟩ := step_lidarInfoChange hstep
    rw [SdkSession.sent, hcallback]
    exact List.mem_append.mp hc
  | response i status hasResponse =>
    obtain ⟨c₀, next, sent, hc₀, hcallback, rfl⟩ := step_response hstep
    rw [SdkSession.sent, hc₀, Option.bind_some, hcallback]
    exact (List.mem_append.mp hc).imp_left List.mem_of_mem_eraseIdx

/-- The table after a callback. -/
theorem Inv.table_step (h : s.Inv userConfigs arrivals) {e : SdkEvent}
    (hstep : s.step e = some t) :
    t.lds.TableInv (listed userConfigs ++ (arrivals ++ e.announced)) (listed userConfigs) := by
  cases e with
  | lidarInfoChange handle =>
    obtain ⟨next, sent, hcallback, rfl⟩ := step_lidarInfoChange hstep
    have hnext := h.table.lidarInfoChange handle
    rw [hcallback, List.append_assoc] at hnext
    exact hnext
  | response i status hasResponse =>
    obtain ⟨c, next, sent, -, hcallback, rfl⟩ := step_response hstep
    rw [SdkEvent.announced, List.append_nil]
    exact (callback_spec h.table hcallback).1

/-- A callback that leaves the unlisted LiDARs alone puts no command to one of them
in flight. -/
theorem Inv.step (h : s.Inv userConfigs arrivals) {e : SdkEvent} (hstep : s.step e = some t)
    (halone : s.LeavesUnlistedAlone userConfigs e) :
    t.Inv userConfigs (arrivals ++ e.announced) where
  table := h.table_step hstep
  inFlight c hc hreconf := by
    rcases mem_inFlight_step hstep hc with hbefore | hsent
    · exact h.inFlight c hbefore hreconf
    · exact (halone c hsent hreconf).1

/-- An announcement reconfigures a LiDAR that it should not exactly when the LiDAR
is not in the user config and has a slot. -/
theorem Inv.alone_lidarInfoChange_iff (h : s.Inv userConfigs arrivals) (handle : UInt32) :
    s.LeavesUnlistedAlone userConfigs (.lidarInfoChange handle) ↔
      handle ∈ listed userConfigs ∨
        handle ∉ seats kMaxSourceLidar (listed userConfigs ++ arrivals) := by
  cases hindex : s.lds.getLidarDevice handle with
  | none =>
    have hnew : handle ∉ seats kMaxSourceLidar (listed userConfigs ++ arrivals) := by
      intro hmem
      obtain ⟨i, hi⟩ := h.table.seated.mem_iff.mp hmem
      rw [show s.lds.getLidarDevice handle = some i from hi] at hindex
      cases hindex
    refine iff_of_true (fun c hc hreconf => ?_) (.inr hnew)
    rw [sent_of_unregistered hindex hc] at hreconf
    cases hreconf
  | some index =>
    have hseat : handle ∈ seats kMaxSourceLidar (listed userConfigs ++ arrivals) :=
      h.table.seated.mem_iff.mpr ⟨index, hindex⟩
    obtain ⟨hsent, hattitude⟩ := sent_of_registered hindex
    rw [or_iff_left (not_not_intro hseat)]
    constructor
    · intro halone
      exact (halone _ hattitude rfl).2 handle rfl
    · intro hlisted c hc hreconf
      have hconfig := h.configHandle hlisted
        (Option.map_eq_some_iff.mpr ⟨index, hindex, rfl⟩)
      refine ⟨?_, fun other hother => ?_⟩
      · rcases hsent c hc hreconf with heq | heq
        · rwa [heq]
        · rwa [heq, hconfig]
      · cases hother
        exact hlisted

/-- An answer makes the driver reconfigure only the LiDARs of the user config. -/
theorem Inv.alone_response (h : s.Inv userConfigs arrivals) (i : Nat) (status : LivoxStatus)
    (hasResponse : Bool) :
    s.LeavesUnlistedAlone userConfigs (.response i status hasResponse) := by
  intro c' hc' hreconf'
  rw [SdkSession.sent] at hc'
  split at hc'
  case h_1 => cases hc'
  case h_2 next sent hresult =>
  obtain ⟨c, hc, hcallback⟩ := Option.bind_eq_some_iff.mp hresult
  obtain ⟨hreconf, htarget⟩ := (callback_spec h.table hcallback).2 c' hc' hreconf'
  have hlisted := h.inFlight c (List.mem_of_getElem? hc) hreconf
  refine ⟨?_, fun handle hhandle => ?_⟩
  · obtain heq | ⟨lidar, hdevice, heq⟩ := htarget
    · rwa [heq]
    · rwa [heq, h.configHandle hlisted hdevice]
  · rw [subject, hc] at hhandle
    cases hhandle
    exact hlisted

/-- The invariant holds along a run that leaves the unlisted LiDARs alone. -/
theorem inv_of_run {events : List SdkEvent}
    (hrun : (machine userConfigs).Run (.booted userConfigs) events t)
    (halone : ∀ earlier handle, earlier ++ [.lidarInfoChange handle] <+: events →
      handle ∈ listed userConfigs ∨ handle ∉ seats kMaxSourceLidar
        (listed userConfigs ++ earlier.flatMap SdkEvent.announced)) :
    t.Inv userConfigs (events.flatMap SdkEvent.announced) := by
  induction hrun with
  | nil => exact .booted
  | @snoc s t events e hrun hstep ih =>
    have hinv := ih (fun earlier handle hpre =>
      halone earlier handle (hpre.trans (List.prefix_append ..)))
    rw [List.flatMap_append, List.flatMap_singleton]
    apply hinv.step hstep
    cases e with
    | lidarInfoChange handle =>
      exact (hinv.alone_lidarInfoChange_iff handle).mpr (halone events handle List.prefix_rfl)
    | response i status hasResponse => exact hinv.alone_response i status hasResponse

end SdkSession

/-- **When no unlisted LiDAR is reconfigured.**

In a run of the driver with any announcements and answers, no command for the
data type, the scan pattern, the blind spot, the dual emission or the install
attitude is sent to a LiDAR without a user config, or on behalf of one, if and
only if no such LiDAR is announced again after it has got one of the 32 slots. -/
theorem leavesUnlistedAlone_iff {events : List SdkEvent}
    (hrun : (SdkSession.machine userConfigs).Run (.booted userConfigs) events t) :
    (∀ earlier e s, earlier ++ [e] <+: events →
      (SdkSession.machine userConfigs).Run (.booted userConfigs) earlier s →
      s.LeavesUnlistedAlone userConfigs e) ↔
    (∀ earlier handle, earlier ++ [.lidarInfoChange handle] <+: events →
      handle ∈ listed userConfigs ∨ handle ∉ seats kMaxSourceLidar
        (listed userConfigs ++ earlier.flatMap SdkEvent.announced)) := by
  constructor
  · intro hall
    induction hrun with
    | nil =>
      intro earlier handle hpre
      exact absurd hpre Machine.not_prefix_nil
    | @snoc s t events e hrun hstep ih =>
      have hbefore := ih (fun earlier e s hpre =>
        hall earlier e s (hpre.trans (List.prefix_append ..)))
      intro earlier handle hpre
      rcases Machine.prefix_concat_concat_iff.mp hpre with hpre | ⟨rfl, rfl⟩
      · exact hbefore earlier handle hpre
      · exact ((SdkSession.inv_of_run hrun hbefore).alone_lidarInfoChange_iff handle).mp
          (hall _ _ s List.prefix_rfl hrun)
  · intro halone earlier e s hpre hs
    have hinv := SdkSession.inv_of_run hs (fun before handle hbefore =>
      halone before handle ((hbefore.trans (List.prefix_append ..)).trans hpre))
    cases e with
    | lidarInfoChange handle =>
      exact (hinv.alone_lidarInfoChange_iff handle).mpr (halone earlier handle hpre)
    | response i status hasResponse => exact hinv.alone_response i status hasResponse

/-- A LiDAR without a user config is announced once, one with a config after it. -/
theorem leavesUnlistedAlone_announced :
    ∃ s, (SdkSession.machine [ParsedConfig.ofItems 5 1 0 50 1]).Run
        (.booted [ParsedConfig.ofItems 5 1 0 50 1]) [.lidarInfoChange 7] s ∧
      s.LeavesUnlistedAlone [ParsedConfig.ofItems 5 1 0 50 1] (.lidarInfoChange 5) := by
  have hfirst : (([.lidarInfoChange 7] : List SdkEvent).foldlM
        SdkSession.step (.booted [ParsedConfig.ofItems 5 1 0 50 1])).map
      (fun s => (s.lds.getLidarDevice 7).isSome) = some true := by decide
  have hsteps : (([.lidarInfoChange 7, .lidarInfoChange 5] : List SdkEvent).foldlM
        SdkSession.step (.booted [ParsedConfig.ofItems 5 1 0 50 1])).map
      (fun s => s.inFlight.length) = some 9 := by decide
  obtain ⟨s, hrun, -⟩ := exists_run hfirst
  obtain ⟨t, hlong, -⟩ := exists_run hsteps
  refine ⟨s, hrun, (leavesUnlistedAlone_iff hlong).mpr (fun earlier handle hpre => ?_)
    [.lidarInfoChange 7] (.lidarInfoChange 5) s List.prefix_rfl hrun⟩
  rcases earlier with _ | ⟨first, _ | ⟨second, rest⟩⟩
  · obtain rfl : handle = 7 := by simpa using hpre
    exact .inr (by decide)
  · obtain ⟨rfl, rfl⟩ : first = .lidarInfoChange 7 ∧ handle = 5 := by simpa using hpre
    exact .inl (by decide)
  · simp at hpre

/-- Without any user config, a LiDAR that is announced twice is sent an install
attitude for the LiDAR with handle 0. -/
theorem reannounced_unlisted_lidar_reconfigured :
    ¬ ∀ (userConfigs : List (ParsedConfig Int)) (earlier : List SdkEvent) (e : SdkEvent)
      (s : SdkSession Int),
      (SdkSession.machine userConfigs).Run (.booted userConfigs) earlier s →
      s.LeavesUnlistedAlone userConfigs e := by
  intro h
  have hsteps : (([.lidarInfoChange 7] : List SdkEvent).foldlM SdkSession.step
        (.booted ([] : List (ParsedConfig Int)))).map
      (fun s => (s.lds.getLidarDevice 7).isSome) = some true := by decide
  obtain ⟨s, hrun, hsome⟩ := exists_run hsteps
  obtain ⟨index, hindex⟩ := Option.isSome_iff_exists.mp hsome
  have hsent := (sent_of_registered hindex).2
  obtain ⟨hlisted, -⟩ := h [] _ (.lidarInfoChange 7) s hrun _ hsent rfl
  cases hlisted

end Runs

end RoboRacer.Driver
