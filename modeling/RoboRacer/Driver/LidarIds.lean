/-
  Driver/LidarIds.lean --- how a `CustomMsg` names its LiDAR
  (`lddc.cpp`, `lds_lidar.cpp`, `comm/comm.cpp`, `msg/CustomMsg.msg`).

  The address of a configured LiDAR becomes a 32-bit handle, `InitLivoxLidar` writes the
  handle to the LiDAR's slot, and `InitCustomMsg` assigns it to `lidar_id`, which has eight
  bits.  On a little-endian host these are the first octet of the address:

      configuredLds          the data source with the LiDARs of the user configs
      lidarId_configured     the id of a configured LiDAR
      lidar_ids_differ_iff   when different LiDARs have different ids
-/
import RoboRacer.Driver.CustomMsg
import RoboRacer.Driver.DeviceTable
import RoboRacer.Driver.Ipv4
import RoboRacer.Driver.ParseUserConfigs

set_option autoImplicit false

namespace RoboRacer.Driver

open RoboRacer.Foundation

variable {R : Type}

/-- The data source once the LiDARs of the user configs have been filled in and the SDK has
announced some. -/
def configuredLds [IntCast R] (userConfigs : List (UserLivoxLidarConfig R))
    (announced : List UInt32) : LdsLidar R :=
  LdsLidar.tableAfter (.initLivoxLidar userConfigs :: announced.map .lidarInfoChange)

/-- No two LiDARs have messages with one `lidar_id`. -/
def IdsDiffer (lds : LdsLidar R) (handles : List UInt32) : Prop :=
  ∀ handle ∈ handles, ∀ other ∈ handles, handle ≠ other →
    ∀ i j, lds.getLidarDevice handle = some i → lds.getLidarDevice other = some j →
      ∀ (frameId frameId' : String) (pkg pkg' : StoragePacket R),
        (initCustomMsg frameId (lds.lidars i) pkg).lidarId ≠
          (initCustomMsg frameId' (lds.lidars j) pkg').lidarId

/-- Announcements ask for slots, behind the user configs. -/
theorem flatMap_announced (announced : List UInt32) :
    (announced.map (TableEvent.lidarInfoChange (R := R))).flatMap TableEvent.arrivals = announced ∧
      (announced.map (TableEvent.lidarInfoChange (R := R))).flatMap TableEvent.filledIn = [] := by
  constructor
  · rw [List.flatMap_map]
    exact List.flatMap_singleton' announced
  · rw [List.flatMap_map]
    exact List.flatMap_eq_nil_iff.mpr fun _ _ => rfl

section Configured

variable [IntCast R] {userConfigs : List (UserLivoxLidarConfig R)}

theorem tableInv_configuredLds (userConfigs : List (UserLivoxLidarConfig R))
    (announced : List UInt32) :
    LdsLidar.TableInv (userConfigs.map (·.handle) ++ announced) (userConfigs.map (·.handle))
      (configuredLds userConfigs announced) := by
  have hinv := LdsLidar.tableInv_tableAfter
    (.initLivoxLidar userConfigs :: announced.map (TableEvent.lidarInfoChange (R := R)))
  obtain ⟨harrivals, hfilledIn⟩ := flatMap_announced (R := R) announced
  rw [List.flatMap_cons, List.flatMap_cons, harrivals, hfilledIn, List.append_nil] at hinv
  exact hinv

/-- Up to 32 configured LiDARs all have a slot. -/
theorem exists_slot_configured (hroom : userConfigs.length ≤ kMaxSourceLidar)
    (announced : List UInt32) {handle : UInt32} (hmem : handle ∈ userConfigs.map (·.handle)) :
    ∃ i, (configuredLds userConfigs announced).getLidarDevice handle = some i := by
  have hinv := tableInv_configuredLds userConfigs announced
  have hseat : handle ∈ seats kMaxSourceLidar (userConfigs.map (·.handle)) :=
    mem_seats_of_room (by rw [List.length_map]; exact hroom) hmem
  exact hinv.seated.mem_iff.mp (mem_seats_append hseat announced)

/-- The id of a configured LiDAR is the lowest byte of its handle. -/
theorem lidarId_configured (announced : List UInt32) {handle : UInt32}
    (hmem : handle ∈ userConfigs.map (·.handle)) {i : Fin kMaxSourceLidar}
    (hi : (configuredLds userConfigs announced).getLidarDevice handle = some i)
    (frameId : String) (pkg : StoragePacket R) :
    (initCustomMsg frameId ((configuredLds userConfigs announced).lidars i) pkg).lidarId =
      handle.toUInt8 := by
  have hentry := (tableInv_configuredLds userConfigs announced).entry_of_index hi
  have hhandle := hentry.ofNamed hmem
  rw [initCustomMsg, if_pos hentry.lidarType, hhandle]

/-- Ids differ when the lowest bytes of the handles do. -/
theorem idsDiffer_iff (hroom : userConfigs.length ≤ kMaxSourceLidar) (announced : List UInt32) :
    IdsDiffer (configuredLds userConfigs announced) (userConfigs.map (·.handle)) ↔
      ∀ handle ∈ userConfigs.map (·.handle), ∀ other ∈ userConfigs.map (·.handle),
        handle ≠ other → handle.toUInt8 ≠ other.toUInt8 := by
  constructor
  · intro hdiffer handle hmem other hmem' hne
    obtain ⟨i, hi⟩ := exists_slot_configured hroom announced hmem
    obtain ⟨j, hj⟩ := exists_slot_configured hroom announced hmem'
    let pkg : StoragePacket R := { baseTime := 0, pointsNum := 0, points := [] }
    have hids := hdiffer handle hmem other hmem' hne i j hi hj "" "" pkg pkg
    rwa [lidarId_configured announced hmem hi, lidarId_configured announced hmem' hj] at hids
  · intro hbytes handle hmem other hmem' hne i j hi hj frameId frameId' pkg pkg'
    rw [lidarId_configured announced hmem hi, lidarId_configured announced hmem' hj]
    exact hbytes handle hmem other hmem' hne

end Configured

/-- On a little-endian host the lowest byte of a handle is the first octet. -/
theorem toUInt8_handle (address : Ipv4Address) : (address.handle .little).toUInt8 = address.a :=
  (List.cons.inj (address.bytes_handle .little)).1

/-- **When `CustomMsg` identifies its LiDAR.**

For up to 32 LiDARs with different addresses, parsed from dotted decimal on a little-endian
host, and whatever is announced later: every LiDAR has a slot, and the messages of different
LiDARs have different `lidar_id`s if and only if no two addresses have the same first
octet. -/
theorem lidar_ids_differ_iff (N : Type) [ParserApi N R] [IntCast R]
    (addresses : List Ipv4Address) (hnodup : addresses.Nodup)
    (hroom : addresses.length ≤ kMaxSourceLidar) (userConfigs : List (UserLivoxLidarConfig R))
    (hconfigs : userConfigs.map (·.handle) =
      addresses.map fun address => ipStringToNum N R address.dotted)
    (hinet : ∀ address ∈ addresses,
      ParserApi.inetAddr N R address.dotted = address.handle .little)
    (announced : List UInt32) :
    (∀ handle ∈ userConfigs.map (·.handle), ∃ i,
      (configuredLds userConfigs announced).getLidarDevice handle = some i) ∧
    (IdsDiffer (configuredLds userConfigs announced) (userConfigs.map (·.handle)) ↔
      (addresses.map (·.a)).Nodup) := by
  have hlength : userConfigs.length = addresses.length := by
    rw [← List.length_map (f := fun config : UserLivoxLidarConfig R => config.handle), hconfigs,
      List.length_map]
  have hroom' : userConfigs.length ≤ kMaxSourceLidar := hlength ▸ hroom
  have hhandles : userConfigs.map (·.handle) = addresses.map (·.handle .little) :=
    hconfigs.trans (List.map_congr_left hinet)
  refine ⟨fun handle hmem => exists_slot_configured hroom' announced hmem, ?_⟩
  rw [idsDiffer_iff hroom' announced, hhandles, List.nodup_map_iff_inj_on hnodup]
  simp only [List.forall_mem_map, toUInt8_handle]
  constructor
  · intro hbytes address hmem other hmem' heq
    by_contra hne
    exact hbytes address hmem other hmem' (mt (Ipv4Address.handle_injective .little) hne) heq
  · intro hinj address hmem other hmem' hne heq
    exact hne (congrArg (·.handle .little) (hinj address hmem other hmem' heq))

/-! ### One subnet -/

/-- Numbers that are naturals, and an `inet_addr` that reads dotted decimal on a
little-endian host. -/
instance dottedApi : ParserApi Nat Int where
  getInt n := if n ≤ 2147483647 then some (Int32.ofNat n) else none
  getFloat n := n
  inetAddr ip := match readDotted ip with
    | some address => address.handle .little
    | none => 0xFFFFFFFF

theorem inetAddr_dotted (address : Ipv4Address) :
    ParserApi.inetAddr Nat Int address.dotted = address.handle .little := by
  change (match readDotted address.dotted with
    | some address => address.handle .little
    | none => 0xFFFFFFFF) = _
  rw [readDotted_dotted]

/-- The config of a LiDAR of which only the address is given. -/
def addressConfig (address : Ipv4Address) : UserLivoxLidarConfig Int where
  handle := ipStringToNum Nat Int address.dotted
  pclDataType := -1
  patternMode := -1
  blindSpotSet := -1
  dualEmitEn := -1
  extrinsicParam := .cleared
  setBits := 0
  getBits := 0

theorem lidar_ids_differ_two :
    (∀ handle ∈ [addressConfig ⟨192, 168, 1, 100⟩, addressConfig ⟨10, 0, 0, 5⟩].map (·.handle),
      ∃ i, (configuredLds [addressConfig ⟨192, 168, 1, 100⟩, addressConfig ⟨10, 0, 0, 5⟩]
        []).getLidarDevice handle = some i) ∧
    (IdsDiffer
        (configuredLds [addressConfig ⟨192, 168, 1, 100⟩, addressConfig ⟨10, 0, 0, 5⟩] [])
        ([addressConfig ⟨192, 168, 1, 100⟩, addressConfig ⟨10, 0, 0, 5⟩].map (·.handle)) ↔
      [(192 : UInt8), 10].Nodup) :=
  lidar_ids_differ_iff Nat [⟨192, 168, 1, 100⟩, ⟨10, 0, 0, 5⟩] (by decide) (by decide)
    [addressConfig ⟨192, 168, 1, 100⟩, addressConfig ⟨10, 0, 0, 5⟩] rfl
    (fun address _ => inetAddr_dotted address) []

theorem map_handle_addressConfig (addresses : List Ipv4Address) :
    (addresses.map addressConfig).map (·.handle) = addresses.map (·.handle .little) := by
  rw [List.map_map]
  exact List.map_congr_left fun address _ => inetAddr_dotted address

/-- 192.168.1.100 and 192.168.1.101 both have the id 192. -/
theorem subnet_shares_lidar_id :
    ¬ ∀ (addresses : List Ipv4Address), addresses.Nodup → addresses.length ≤ kMaxSourceLidar →
      IdsDiffer (configuredLds (addresses.map addressConfig) [])
        ((addresses.map addressConfig).map (·.handle)) := by
  intro h
  have hdiffer := h [⟨192, 168, 1, 100⟩, ⟨192, 168, 1, 101⟩] (by decide) (by decide)
  rw [idsDiffer_iff (by decide) [], map_handle_addressConfig] at hdiffer
  exact hdiffer _ (.head _) _ (.tail _ (.head _)) (by decide) rfl

end RoboRacer.Driver
