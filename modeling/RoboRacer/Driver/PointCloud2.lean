/-
  Driver/PointCloud2.lean --- from a queue slot to a `PointCloud2` (`lddc.cpp`,
  `comm/comm.h`).

  A `PointCloud2` describes its own bytes: a table names the fields of a point with their
  offsets and types.  `InitPointcloud2MsgHeader` writes the table by hand, and
  `InitPointcloud2Msg` copies packed structs of another declaration into the data.  A
  reader that knows only the message gets the packet's points back.

  Floats are their bit patterns.
-/
import RoboRacer.Driver.CustomMsg
import RoboRacer.Foundation.Records

set_option autoImplicit false

namespace RoboRacer.Driver

open RoboRacer.Foundation

/-! ## The message -/

/-- The type constants of `PointField`. -/
inductive PointField.Datatype where
  | INT8
  | UINT8
  | INT16
  | UINT16
  | INT32
  | UINT32
  | FLOAT32
  | FLOAT64
  deriving DecidableEq, Repr

/-- `PointField`. -/
structure PointField where
  name : String
  offset : UInt32
  datatype : PointField.Datatype
  count : UInt32
  deriving DecidableEq, Repr

/-- `PointCloud2`; `stamp` is the header's, in nanoseconds. -/
structure PointCloud2 where
  frameId : String
  stamp : UInt64
  height : UInt32
  width : UInt32
  fields : List PointField
  isBigendian : Bool
  pointStep : UInt32
  rowStep : UInt32
  data : List UInt8
  isDense : Bool

/-! ## The conversion -/

/-- `LivoxPointXyzrtlt`, a packed struct. -/
structure LivoxPointXyzrtlt where
  x : UInt32
  y : UInt32
  z : UInt32
  reflectivity : UInt32
  tag : UInt8
  line : UInt8
  timestamp : UInt64
  deriving DecidableEq, Repr

/-- The members of a point in memory, in the order of their declaration. -/
def LivoxPointXyzrtlt.members (point : LivoxPointXyzrtlt) : List (List UInt8) :=
  [leBytes 4 point.x.toNat, leBytes 4 point.y.toNat, leBytes 4 point.z.toNat,
    leBytes 4 point.reflectivity.toNat, leBytes 1 point.tag.toNat, leBytes 1 point.line.toNat,
    leBytes 8 point.timestamp.toNat]

/-- The bytes of a point: under `pack(1)` no padding comes between the members. -/
def LivoxPointXyzrtlt.bytes (point : LivoxPointXyzrtlt) : List UInt8 :=
  point.members.flatten

/-- `sizeof(LivoxPointXyzrtlt)`. -/
def sizeofLivoxPointXyzrtlt : UInt32 := 26

/-- The bits of `static_cast<double>(time)`. -/
def doubleBits (time : UInt64) : UInt64 := time.toFloat.toBits

/-- The body of the loop of `InitPointcloud2Msg`. -/
def toLivoxPointXyzrtlt (point : PointXyzlt UInt32) : LivoxPointXyzrtlt where
  x := point.x
  y := point.y
  z := point.z
  reflectivity := point.intensity
  tag := point.tag
  line := point.line
  timestamp := doubleBits point.offsetTime

/-- `InitPointcloud2MsgHeader`, on an empty message. -/
def initPointcloud2MsgHeader (frameId : String) : PointCloud2 where
  frameId := frameId
  stamp := 0
  height := 1
  width := 0
  fields :=
    [{ name := "x", offset := 0, datatype := .FLOAT32, count := 1 },
      { name := "y", offset := 4, datatype := .FLOAT32, count := 1 },
      { name := "z", offset := 8, datatype := .FLOAT32, count := 1 },
      { name := "intensity", offset := 12, datatype := .FLOAT32, count := 1 },
      { name := "tag", offset := 16, datatype := .UINT8, count := 1 },
      { name := "line", offset := 17, datatype := .UINT8, count := 1 },
      { name := "timestamp", offset := 18, datatype := .FLOAT64, count := 1 }]
  isBigendian := false
  pointStep := sizeofLivoxPointXyzrtlt
  rowStep := 0
  data := []
  isDense := false

/-- `InitPointcloud2Msg`: the message and the timestamp, which the caller set to 0.
`points[i]` outside the vector is `none`. -/
def initPointcloud2Msg (frameId : String) (pkg : StoragePacket UInt32) :
    Option (PointCloud2 × UInt64) := do
  let cloud := initPointcloud2MsgHeader frameId
  let timestamp := if pkg.points.isEmpty then 0 else pkg.baseTime
  let points ← (List.range pkg.pointsNum.toNat).mapM fun i =>
    pkg.points[i]?.map toLivoxPointXyzrtlt
  return (
    { cloud with
      pointStep := sizeofLivoxPointXyzrtlt
      width := pkg.pointsNum
      rowStep := pkg.pointsNum * sizeofLivoxPointXyzrtlt
      isBigendian := false
      isDense := true
      stamp := timestamp
      data := points.flatMap LivoxPointXyzrtlt.bytes }, timestamp)

/-! ## Reading a message -/

/-- The size of a value of a type. -/
def PointField.Datatype.size : PointField.Datatype → Nat
  | .INT8 | .UINT8 => 1
  | .INT16 | .UINT16 => 2
  | .INT32 | .UINT32 | .FLOAT32 => 4
  | .FLOAT64 => 8

/-- The bytes of a point that a field takes. -/
def PointField.span (field : PointField) : Nat × Nat :=
  (field.offset.toNat, field.datatype.size * field.count.toNat)

/-- A point as a reader of a message knows it, from the seven fields by their names. -/
structure CloudPoint where
  x : UInt32
  y : UInt32
  z : UInt32
  intensity : UInt32
  tag : UInt8
  line : UInt8
  timestamp : UInt64
  deriving DecidableEq, Repr

/-- A point of a packet, with its timestamp as a double. -/
def PointXyzlt.toCloudPoint (point : PointXyzlt UInt32) : CloudPoint where
  x := point.x
  y := point.y
  z := point.z
  intensity := point.intensity
  tag := point.tag
  line := point.line
  timestamp := doubleBits point.offsetTime

namespace PointCloud2

/-- The bits of the field called `name`, which must have the given type, of the point in
row `row` and column `col`.  A missing field and bytes outside the data are `none`. -/
def readField (msg : PointCloud2) (row col : Nat) (name : String)
    (datatype : PointField.Datatype) : Option Nat := do
  let field ← msg.fields.find? fun field => field.name = name ∧ field.datatype = datatype
  let start := row * msg.rowStep.toNat + (col * msg.pointStep.toNat + field.offset.toNat)
  if start + datatype.size ≤ msg.data.length then
    let bytes := slice msg.data start datatype.size
    return if msg.isBigendian then beValue bytes else leValue bytes
  else none

/-- The point in row `row` and column `col`. -/
def readPoint (msg : PointCloud2) (row col : Nat) : Option CloudPoint := do
  let x ← msg.readField row col "x" .FLOAT32
  let y ← msg.readField row col "y" .FLOAT32
  let z ← msg.readField row col "z" .FLOAT32
  let intensity ← msg.readField row col "intensity" .FLOAT32
  let tag ← msg.readField row col "tag" .UINT8
  let line ← msg.readField row col "line" .UINT8
  let timestamp ← msg.readField row col "timestamp" .FLOAT64
  return {
    x := UInt32.ofNat x, y := UInt32.ofNat y, z := UInt32.ofNat z
    intensity := UInt32.ofNat intensity
    tag := UInt8.ofNat tag, line := UInt8.ofNat line
    timestamp := UInt64.ofNat timestamp }

/-- All points of a message, row by row. -/
def read (msg : PointCloud2) : Option (List CloudPoint) :=
  ((List.range msg.height.toNat).flatMap fun row =>
    (List.range msg.width.toNat).map fun col => (row, col)).mapM fun index =>
      msg.readPoint index.1 index.2

end PointCloud2

/-! ## The layout of a point -/

theorem LivoxPointXyzrtlt.length_bytes (point : LivoxPointXyzrtlt) : point.bytes.length = 26 := by
  simp [bytes, members, length_leBytes]

/-- A field whose offset is the length of the members before it reads its member. -/
theorem PointCloud2.readField_eq {msg : PointCloud2} {points : List LivoxPointXyzrtlt}
    (hdata : msg.data = points.flatMap LivoxPointXyzrtlt.bytes)
    (hstep : msg.pointStep = sizeofLivoxPointXyzrtlt) (hlittle : msg.isBigendian = false)
    {i : Nat} {point : LivoxPointXyzrtlt} (hi : points[i]? = some point)
    {name : String} {datatype : PointField.Datatype} {field : PointField}
    (hfield : msg.fields.find? (fun field => field.name = name ∧ field.datatype = datatype) =
      some field)
    {k value : Nat} (hmember : point.members[k]? = some (leBytes datatype.size value))
    (hoffset : (point.members.take k).flatten.length = field.offset.toNat)
    (hvalue : value < 256 ^ datatype.size) :
    msg.readField 0 i name datatype = some value := by
  have hin := length_take_flatten_add_le point.members hmember
  rw [hoffset, length_leBytes, ← LivoxPointXyzrtlt.bytes, point.length_bytes] at hin
  have hlength : msg.data.length = points.length * 26 := by
    rw [hdata, length_flatMap_records LivoxPointXyzrtlt.length_bytes]
  have hbound : i < points.length := (List.getElem?_eq_some_iff.mp hi).1
  have hstart : msg.pointStep.toNat = 26 := by rw [hstep]; rfl
  have hslice : slice msg.data (i * 26 + field.offset.toNat) datatype.size =
      leBytes datatype.size value := by
    rw [hdata, slice_flatMap LivoxPointXyzrtlt.length_bytes hi hin, ← hoffset]
    have hslice := slice_flatten point.members hmember
    rwa [length_leBytes] at hslice
  unfold readField
  rw [hfield]
  simp only [Option.bind_eq_bind, Option.bind_some, Nat.zero_mul, Nat.zero_add, hstart, hslice,
    hlittle, Bool.false_eq_true, if_false, leValue_leBytes hvalue]
  exact if_pos (by omega)

/-- A reader of the message gets every point back. -/
theorem PointCloud2.readPoint_eq {msg : PointCloud2} {points : List LivoxPointXyzrtlt}
    (hdata : msg.data = points.flatMap LivoxPointXyzrtlt.bytes)
    (hstep : msg.pointStep = sizeofLivoxPointXyzrtlt) (hlittle : msg.isBigendian = false)
    {frameId : String} (hfields : msg.fields = (initPointcloud2MsgHeader frameId).fields)
    {i : Nat} {point : PointXyzlt UInt32}
    (hi : points[i]? = some (toLivoxPointXyzrtlt point)) :
    msg.readPoint 0 i = some point.toCloudPoint := by
  have hread : ∀ (name : String) (datatype : PointField.Datatype) (field : PointField)
      (k value : Nat),
      (initPointcloud2MsgHeader frameId).fields.find?
        (fun field => field.name = name ∧ field.datatype = datatype) = some field →
      (toLivoxPointXyzrtlt point).members[k]? = some (leBytes datatype.size value) →
      ((toLivoxPointXyzrtlt point).members.take k).flatten.length = field.offset.toNat →
      value < 256 ^ datatype.size → msg.readField 0 i name datatype = some value := by
    intro name datatype field k value hfield hmember hoffset hvalue
    rw [← hfields] at hfield
    exact readField_eq hdata hstep hlittle hi hfield hmember hoffset hvalue
  unfold readPoint
  rw [hread "x" .FLOAT32 _ 0 point.x.toNat rfl rfl rfl point.x.toNat_lt,
    hread "y" .FLOAT32 _ 1 point.y.toNat rfl rfl rfl point.y.toNat_lt,
    hread "z" .FLOAT32 _ 2 point.z.toNat rfl rfl rfl point.z.toNat_lt,
    hread "intensity" .FLOAT32 _ 3 point.intensity.toNat rfl rfl rfl point.intensity.toNat_lt,
    hread "tag" .UINT8 _ 4 point.tag.toNat rfl rfl rfl point.tag.toNat_lt,
    hread "line" .UINT8 _ 5 point.line.toNat rfl rfl rfl point.line.toNat_lt,
    hread "timestamp" .FLOAT64 _ 6 (doubleBits point.offsetTime).toNat rfl rfl rfl
      (doubleBits point.offsetTime).toNat_lt]
  simp [PointXyzlt.toCloudPoint]

/-! ## The message of a popped packet -/

/-- A popped packet has as many points as it announces. -/
theorem length_points_of_queueCopySlot {R : Type} {queue : LidarDataQueue R}
    {pkg : StoragePacket R} (h : queueCopySlot queue = some pkg) :
    pkg.points.length = pkg.pointsNum.toNat := by
  unfold queueCopySlot at h
  split at h
  · cases h
  · split at h
    · next hle =>
      injection h with hpkg
      rw [← hpkg, List.length_take, Nat.min_eq_left hle]
    · cases h

/-- What `InitPointcloud2Msg` makes of a popped packet, whose loop stays inside the
vector. -/
theorem initPointcloud2Msg_spec (frameId : String) {pkg : StoragePacket UInt32}
    (h : pkg.points.length = pkg.pointsNum.toNat) :
    ∃ msg timestamp, initPointcloud2Msg frameId pkg = some (msg, timestamp) ∧
      msg.fields = (initPointcloud2MsgHeader frameId).fields ∧
      msg.pointStep = sizeofLivoxPointXyzrtlt ∧ msg.isBigendian = false ∧
      msg.height = 1 ∧ msg.width = pkg.pointsNum ∧
      msg.rowStep = pkg.pointsNum * sizeofLivoxPointXyzrtlt ∧
      msg.data = (pkg.points.map toLivoxPointXyzrtlt).flatMap LivoxPointXyzrtlt.bytes := by
  unfold initPointcloud2Msg
  rw [← h, mapM_range_getElem? pkg.points toLivoxPointXyzrtlt]
  exact ⟨_, _, rfl, rfl, rfl, rfl, rfl, rfl, rfl, rfl⟩

theorem PointCloud2.read_eq {msg : PointCloud2} {points : List (PointXyzlt UInt32)}
    (hheight : msg.height = 1) (hwidth : msg.width.toNat = points.length)
    (h : ∀ i point, points[i]? = some point → msg.readPoint 0 i = some point.toCloudPoint) :
    msg.read = some (points.map PointXyzlt.toCloudPoint) := by
  have hrow : msg.read = (List.range points.length).mapM (msg.readPoint 0) := by
    rw [read, hheight, hwidth]
    simp [List.mapM_map, Function.comp_def]
  rw [hrow, ← List.length_map PointXyzlt.toCloudPoint]
  refine mapM_range_eq _ fun i cloudPoint hi => ?_
  rw [List.getElem?_map, Option.map_eq_some_iff] at hi
  obtain ⟨point, hpoint, rfl⟩ := hi
  exact h i point hpoint

/-- **A message describes itself.**  A reader of the message of a popped packet gets
exactly the points of the packet, in their order; the fields of the table share no byte
and fill a point; and the data has as many bytes as the rows say. -/
theorem pointCloud2_describes_itself (frameId : String) {queue : LidarDataQueue UInt32}
    {pkg : StoragePacket UInt32} (hpkg : queueCopySlot queue = some pkg)
    (hsize : pkg.pointsNum.toNat * sizeofLivoxPointXyzrtlt.toNat < 2 ^ 32) :
    ∃ msg timestamp, initPointcloud2Msg frameId pkg = some (msg, timestamp) ∧
      msg.read = some (pkg.points.map PointXyzlt.toCloudPoint) ∧
      Tiles msg.pointStep.toNat (msg.fields.map PointField.span) ∧
      msg.data.length = msg.rowStep.toNat * msg.height.toNat := by
  have hlength := length_points_of_queueCopySlot hpkg
  obtain ⟨msg, timestamp, hmsg, hfields, hstep, hlittle, hheight, hwidth, hrow, hdata⟩ :=
    initPointcloud2Msg_spec frameId hlength
  refine ⟨msg, timestamp, hmsg, ?_, ?_, ?_⟩
  · apply PointCloud2.read_eq hheight (by rw [hwidth, hlength])
    intro i point hi
    refine PointCloud2.readPoint_eq hdata hstep hlittle hfields ?_
    rw [List.getElem?_map, hi]
    rfl
  · rw [hstep, hfields]
    apply Consecutive.tiles
    exact ⟨rfl, rfl, rfl, rfl, rfl, rfl, rfl, rfl⟩
  · rw [hdata, length_flatMap_records LivoxPointXyzrtlt.length_bytes, List.length_map, hlength,
      hrow, hheight, UInt32.toNat_mul, Nat.mod_eq_of_lt hsize]
    exact (Nat.mul_one _).symm

/-- A queue with a packet of two points. -/
def twoPointQueue : LidarDataQueue UInt32 where
  storagePacket := .live [
    { baseTime := 1000
      pointsNum := 2
      points :=
        [{ x := 0x3F800000, y := 0, z := 0xBF800000, intensity := 0x41200000, tag := 16, line := 3
           offsetTime := 1000 },
          { x := 0, y := 0x3F800000, z := 0, intensity := 0, tag := 0, line := 1
            offsetTime := 1005 }] }]
  rdIdx := 0
  wrIdx := 1
  mask := 0
  size := 1

theorem pointCloud2_describes_itself_two :
    ∃ pkg msg timestamp, queueCopySlot twoPointQueue = some pkg ∧
      initPointcloud2Msg "livox_frame" pkg = some (msg, timestamp) ∧
      msg.read = some (pkg.points.map PointXyzlt.toCloudPoint) := by
  obtain ⟨msg, timestamp, hmsg, hread, -⟩ :=
    @pointCloud2_describes_itself "livox_frame" twoPointQueue _ rfl (by decide)
  exact ⟨_, msg, timestamp, rfl, hmsg, hread⟩

end RoboRacer.Driver
