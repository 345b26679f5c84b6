/-
  Driver/ParseUserConfigs.lean --- the user configs of the LiDARs
  (`parse_cfg_file/parse_livox_lidar_cfg.cpp`).

  The parser walks a document that RapidJSON has read.  Every value passes through
  `GetInt` or `GetFloat` and a cast before it reaches the struct, whose members have
  widths of their own.  An accessor of RapidJSON asserts the type of the value; a failed
  assertion is `none` here.

  What the parser prints is left out.
-/
import RoboRacer.Driver.LidarCallback

set_option autoImplicit false

namespace RoboRacer.Driver

/-! ## Documents -/

/-- A JSON value, with numbers in `N`. -/
inductive JsonValue (N : Type) where
  | null
  | bool (b : Bool)
  | number (n : N)
  | string (s : String)
  | array (values : List (JsonValue N))
  | object (members : List (String × JsonValue N))

/-- What the parser uses of RapidJSON's numbers and of the C library. -/
class ParserApi (N R : Type) where
  /-- `GetInt`, for a number that is an `int`. -/
  getInt : N → Option Int32
  /-- `GetFloat`: the number is rounded to a float. -/
  getFloat : N → R
  /-- `inet_addr`, of a C string. -/
  inetAddr : List Char → UInt32

namespace JsonValue

variable {N : Type}

/-- `FindMember`: the first member of that name. -/
def findMember (value : JsonValue N) (name : String) : Option (Option (JsonValue N)) :=
  match value with
  | .object members => some ((members.find? fun member => member.1 = name).map (·.2))
  | _ => none

/-- `GetString`, up to the first NUL, where the copy to a `std::string` ends. -/
def getString : JsonValue N → Option (List Char)
  | .string s => some (s.toList.takeWhile (· ≠ Char.ofNat 0))
  | _ => none

/-- `GetArray`. -/
def getArray : JsonValue N → Option (List (JsonValue N))
  | .array values => some values
  | _ => none

section Numbers

variable (R : Type) [ParserApi N R]

/-- `GetInt`. -/
def getInt : JsonValue N → Option Int32
  | .number n => ParserApi.getInt R n
  | _ => none

/-- `GetFloat`. -/
def getFloat : JsonValue N → Option R
  | .number n => some (ParserApi.getFloat n)
  | _ => none

/-- An optional integer: its default, or the value after the cast. -/
def intItem {α : Type} (value : JsonValue N) (name : String) (absent : α) (cast : Int32 → α) :
    Option α := do
  match ← value.findMember name with
  | none => return absent
  | some item => return cast (← item.getInt R)

/-- An optional float, 0 by default. -/
def floatItem [IntCast R] (value : JsonValue N) (name : String) : Option R := do
  match ← value.findMember name with
  | none => return ((0 : Int) : R)
  | some item => item.getFloat R

end Numbers

end JsonValue

/-! ## The parser -/

section Parser

variable {N R : Type} [ParserApi N R] [IntCast R]

/-- `IpStringToNum`. -/
def ipStringToNum (N R : Type) [ParserApi N R] (ipString : List Char) : UInt32 :=
  ParserApi.inetAddr N R ipString

/-- `memset(&param, 0, sizeof(param))`. -/
def ExtParameter.cleared : ExtParameter R where
  roll := ((0 : Int) : R)
  pitch := ((0 : Int) : R)
  yaw := ((0 : Int) : R)
  x := 0
  y := 0
  z := 0

/-- `ParseExtrinsics`: what it returns, and `param`. -/
def parseExtrinsics (value : JsonValue N) : Option (Bool × ExtParameter R) := do
  let roll ← value.floatItem R "roll"
  let pitch ← value.floatItem R "pitch"
  let yaw ← value.floatItem R "yaw"
  let x ← value.intItem R "x" 0 Int32.toInt
  let y ← value.intItem R "y" 0 Int32.toInt
  let z ← value.intItem R "z" 0 Int32.toInt
  return (true, { roll := roll, pitch := pitch, yaw := yaw, x := x, y := y, z := z })

/-- `pcl_data_type`, cast to `int8_t`. -/
def parsePclDataType (config : JsonValue N) : Option Int8 :=
  config.intItem R "pcl_data_type" (-1) Int32.toInt8

/-- `pattern_mode`, cast to `int8_t`. -/
def parsePatternMode (config : JsonValue N) : Option Int8 :=
  config.intItem R "pattern_mode" (-1) Int32.toInt8

/-- `blind_spot_set`, cast to `int8_t` and stored in 32 bits. -/
def parseBlindSpotSet (config : JsonValue N) : Option Int32 :=
  config.intItem R "blind_spot_set" (-1) fun n => n.toInt8.toInt32

/-- `dual_emit_en`, cast to `uint8_t` and stored in an `int8_t`. -/
def parseDualEmitEn (config : JsonValue N) : Option Int8 :=
  config.intItem R "dual_emit_en" (-1) fun n => (UInt8.ofInt n.toInt).toInt8

/-- The extrinsic of an entry. -/
def parseExtrinsicParam (config : JsonValue N) : Option (ExtParameter R) := do
  match ← config.findMember "extrinsic_parameter" with
  | none => return .cleared
  | some value =>
    let (ok, param) ← parseExtrinsics value
    return if ok then param else .cleared

/-- The body of the loop of `ParseUserConfigs`: an entry without an `ip` is skipped. -/
def parseUserConfig (config : JsonValue N) : Option (Option (UserLivoxLidarConfig R)) := do
  match ← config.findMember "ip" with
  | none => return none
  | some ip =>
    let ip ← ip.getString
    let pclDataType ← parsePclDataType (R := R) config
    let patternMode ← parsePatternMode (R := R) config
    let blindSpotSet ← parseBlindSpotSet (R := R) config
    let dualEmitEn ← parseDualEmitEn (R := R) config
    let extrinsicParam ← parseExtrinsicParam config
    return some {
      handle := ipStringToNum N R ip
      pclDataType := pclDataType
      patternMode := patternMode
      blindSpotSet := blindSpotSet
      dualEmitEn := dualEmitEn
      extrinsicParam := extrinsicParam
      setBits := 0
      getBits := 0 }

/-- The loop of `ParseUserConfigs`. -/
def pushUserConfigs (entries : List (JsonValue N))
    (userConfigs : List (UserLivoxLidarConfig R)) : Option (List (UserLivoxLidarConfig R)) :=
  entries.foldlM (fun userConfigs config => do
    let userConfig ← parseUserConfig config
    return userConfigs ++ userConfig.toList) userConfigs

/-- `ParseUserConfigs`: what it returns, and `user_configs`. -/
def parseUserConfigs (doc : JsonValue N) (userConfigs : List (UserLivoxLidarConfig R)) :
    Option (Bool × List (UserLivoxLidarConfig R)) := do
  let lidarConfigs ← (← doc.findMember "lidar_configs")
  let userConfigs ← pushUserConfigs (← lidarConfigs.getArray) userConfigs
  return (userConfigs.length != 0, userConfigs)

/-- The parser raises no bit. -/
theorem parseUserConfig_noBits {config : JsonValue N} {userConfig : UserLivoxLidarConfig R}
    (h : parseUserConfig config = some (some userConfig)) :
    userConfig.setBits = 0 ∧ userConfig.getBits = 0 := by
  unfold parseUserConfig at h
  obtain ⟨ip, -, h⟩ := Option.bind_eq_some_iff.mp h
  cases ip with
  | none => cases h
  | some ip =>
    simp only [Option.bind_eq_bind, Option.bind_eq_some_iff] at h
    obtain ⟨_, -, _, -, _, -, _, -, _, -, _, -, h⟩ := h
    injection h with h
    injection h with h
    rw [← h]
    exact ⟨rfl, rfl⟩

theorem pushUserConfigs_noBits {entries : List (JsonValue N)}
    {before after : List (UserLivoxLidarConfig R)}
    (hbefore : ∀ userConfig ∈ before, userConfig.setBits = 0 ∧ userConfig.getBits = 0)
    (h : pushUserConfigs entries before = some after) :
    ∀ userConfig ∈ after, userConfig.setBits = 0 ∧ userConfig.getBits = 0 := by
  induction entries generalizing before with
  | nil =>
    injection h with h
    rw [← h]
    exact hbefore
  | cons config entries ih =>
    obtain ⟨next, hnext, hrest⟩ := Option.bind_eq_some_iff.mp h
    obtain ⟨userConfig, hconfig, hnext⟩ := Option.bind_eq_some_iff.mp hnext
    injection hnext with hnext
    refine ih ?_ hrest
    rw [← hnext]
    intro candidate hmem
    rcases List.mem_append.mp hmem with hmem | hmem
    · exact hbefore candidate hmem
    · rw [Option.mem_toList] at hmem
      rw [hmem] at hconfig
      exact parseUserConfig_noBits hconfig

/-- Whatever the document, the configs a parser leaves are `ParsedConfig`s. -/
theorem parsedConfig_of_parseUserConfigs {doc : JsonValue N} {ok : Bool}
    {userConfigs : List (UserLivoxLidarConfig R)}
    (h : parseUserConfigs doc [] = some (ok, userConfigs)) :
    ∀ userConfig ∈ userConfigs,
      ∃ parsed : ParsedConfig R, parsed.toUserLivoxLidarConfig = userConfig := by
  unfold parseUserConfigs at h
  simp only [Option.bind_eq_bind, Option.bind_eq_some_iff] at h
  obtain ⟨_, -, _, -, _, -, after, hafter, h⟩ := h
  injection h with h
  injection h with _ h
  intro userConfig hmem
  rw [← h] at hmem
  obtain ⟨hset, hget⟩ := pushUserConfigs_noBits (by simp) hafter userConfig hmem
  exact ⟨{ userConfig with noSetBits := hset, noGetBits := hget }, rfl⟩

end Parser

/-! ## Entries -/

/-- What an entry says of the extrinsic. -/
structure ExtrinsicEntry (N : Type) where
  roll : Option N
  pitch : Option N
  yaw : Option N
  x : Option Int32
  y : Option Int32
  z : Option Int32

/-- What an entry of `lidar_configs` says; every key is optional. -/
structure LidarEntry (N : Type) where
  ip : Option String
  pclDataType : Option Int32
  patternMode : Option Int32
  blindSpotSet : Option Int32
  dualEmitEn : Option Int32
  extrinsicParameter : Option (ExtrinsicEntry N)

section Entries

variable {N : Type}

/-- The extrinsic of an entry that does not mention it is empty. -/
def LidarEntry.extrinsic (entry : LidarEntry N) : ExtrinsicEntry N :=
  entry.extrinsicParameter.getD
    { roll := none, pitch := none, yaw := none, x := none, y := none, z := none }

/-- The number is one of the angles of the entry. -/
def LidarEntry.IsAngle (entry : LidarEntry N) (n : N) : Prop :=
  entry.extrinsic.roll = some n ∨ entry.extrinsic.pitch = some n ∨ entry.extrinsic.yaw = some n

/-- An item, where it is given, is in its range. -/
def ItemIn (item : Option Int32) (least greatest : Int) : Prop :=
  ∀ n ∈ item, least ≤ n.toInt ∧ n.toInt ≤ greatest

theorem itemIn_none (least greatest : Int) : ItemIn none least greatest := by
  intro n hn
  cases hn

theorem itemIn_some {n : Int32} {least greatest : Int}
    (h : least ≤ n.toInt ∧ n.toInt ≤ greatest) : ItemIn (some n) least greatest := by
  intro m hm
  obtain rfl : n = m := Option.some.inj hm
  exact h

/-- The documented ranges. -/
structure LidarEntry.InRange (entry : LidarEntry N) : Prop where
  pclDataType : ItemIn entry.pclDataType 1 3
  patternMode : ItemIn entry.patternMode 0 2
  blindSpotSet : ItemIn entry.blindSpotSet 50 200
  dualEmitEn : ItemIn entry.dualEmitEn 0 1

variable (R : Type) [ParserApi N R]

/-- The member is absent, or an integer with the given value. -/
def JsonValue.HasInt (value : JsonValue N) (name : String) (item : Option Int32) : Prop :=
  match item with
  | none => value.findMember name = some none
  | some n => ∃ number, value.findMember name = some (some (.number number)) ∧
      ParserApi.getInt R number = some n

/-- The value is an object with these extrinsic components. -/
structure JsonValue.IsExtrinsic (value : JsonValue N) (entry : ExtrinsicEntry N) : Prop where
  roll : value.findMember "roll" = some (entry.roll.map .number)
  pitch : value.findMember "pitch" = some (entry.pitch.map .number)
  yaw : value.findMember "yaw" = some (entry.yaw.map .number)
  x : value.HasInt R "x" entry.x
  y : value.HasInt R "y" entry.y
  z : value.HasInt R "z" entry.z

/-- The value is a well-typed entry that says `entry`. -/
structure JsonValue.IsEntry (value : JsonValue N) (entry : LidarEntry N) : Prop where
  ip : value.findMember "ip" = some (entry.ip.map .string)
  pclDataType : value.HasInt R "pcl_data_type" entry.pclDataType
  patternMode : value.HasInt R "pattern_mode" entry.patternMode
  blindSpotSet : value.HasInt R "blind_spot_set" entry.blindSpotSet
  dualEmitEn : value.HasInt R "dual_emit_en" entry.dualEmitEn
  extrinsicParameter :
    match entry.extrinsicParameter with
    | none => value.findMember "extrinsic_parameter" = some none
    | some extrinsic => ∃ item, value.findMember "extrinsic_parameter" = some (some item) ∧
        item.IsExtrinsic R extrinsic

variable [IntCast R]

/-- An integer item, and what is stored of it: the value, or its default. -/
def IntHeld (item : Option Int32) (absent stored : Int) : Prop :=
  stored = (item.map Int32.toInt).getD absent

variable {R}

/-- An angle, and what is stored of it: the value, or 0. -/
def AngleHeld (exactly : N → R → Prop) (item : Option N) (stored : R) : Prop :=
  match item with
  | none => stored = ((0 : Int) : R)
  | some n => exactly n stored

/-- The config holds what the entry says.  `exactly n angle` is for the number `n` and the
float `angle` to be the same. -/
structure UserLivoxLidarConfig.Holds (exactly : N → R → Prop) (ip : String)
    (entry : LidarEntry N) (config : UserLivoxLidarConfig R) : Prop where
  handle : config.handle = ipStringToNum N R (ip.toList.takeWhile (· ≠ Char.ofNat 0))
  pclDataType : IntHeld entry.pclDataType (-1) config.pclDataType.toInt
  patternMode : IntHeld entry.patternMode (-1) config.patternMode.toInt
  blindSpotSet : IntHeld entry.blindSpotSet (-1) config.blindSpotSet.toInt
  dualEmitEn : IntHeld entry.dualEmitEn (-1) config.dualEmitEn.toInt
  roll : AngleHeld exactly entry.extrinsic.roll config.extrinsicParam.roll
  pitch : AngleHeld exactly entry.extrinsic.pitch config.extrinsicParam.pitch
  yaw : AngleHeld exactly entry.extrinsic.yaw config.extrinsicParam.yaw
  x : IntHeld entry.extrinsic.x 0 config.extrinsicParam.x
  y : IntHeld entry.extrinsic.y 0 config.extrinsicParam.y
  z : IntHeld entry.extrinsic.z 0 config.extrinsicParam.z
  setBits : config.setBits = 0
  getBits : config.getBits = 0

/-- The entries that have an `ip`, with it. -/
def withIp (entries : List (LidarEntry N)) : List (String × LidarEntry N) :=
  entries.filterMap fun entry => entry.ip.map fun ip => (ip, entry)

/-- What the parser stores for an entry. -/
def LidarEntry.parsed (ip : String) (entry : LidarEntry N) : UserLivoxLidarConfig R where
  handle := ipStringToNum N R (ip.toList.takeWhile (· ≠ Char.ofNat 0))
  pclDataType := (entry.pclDataType.map Int32.toInt8).getD (-1)
  patternMode := (entry.patternMode.map Int32.toInt8).getD (-1)
  blindSpotSet := (entry.blindSpotSet.map fun n => n.toInt8.toInt32).getD (-1)
  dualEmitEn := (entry.dualEmitEn.map fun n => (UInt8.ofInt n.toInt).toInt8).getD (-1)
  extrinsicParam :=
    { roll := (entry.extrinsic.roll.map ParserApi.getFloat).getD ((0 : Int) : R)
      pitch := (entry.extrinsic.pitch.map ParserApi.getFloat).getD ((0 : Int) : R)
      yaw := (entry.extrinsic.yaw.map ParserApi.getFloat).getD ((0 : Int) : R)
      x := (entry.extrinsic.x.map Int32.toInt).getD 0
      y := (entry.extrinsic.y.map Int32.toInt).getD 0
      z := (entry.extrinsic.z.map Int32.toInt).getD 0 }
  setBits := 0
  getBits := 0

/-! ## What the parser stores -/

omit [IntCast R] in
theorem intItem_eq {value : JsonValue N} {name : String} {item : Option Int32}
    (h : value.HasInt R name item) {α : Type} (absent : α) (cast : Int32 → α) :
    value.intItem R name absent cast = some ((item.map cast).getD absent) := by
  cases item with
  | none =>
    have habsent : value.findMember name = some none := h
    rw [JsonValue.intItem, habsent]
    rfl
  | some n =>
    obtain ⟨number, hmember, hnumber⟩ := h
    rw [JsonValue.intItem, hmember]
    change (JsonValue.getInt R (.number number)).bind (fun n => some (cast n)) = _
    rw [JsonValue.getInt, hnumber]
    rfl

theorem floatItem_eq {value : JsonValue N} {name : String} {item : Option N}
    (h : value.findMember name = some (item.map .number)) :
    value.floatItem R name = some ((item.map ParserApi.getFloat).getD ((0 : Int) : R)) := by
  rw [JsonValue.floatItem, h]
  cases item with
  | none => rfl
  | some n => rfl

theorem parseExtrinsics_eq {value : JsonValue N} {entry : ExtrinsicEntry N}
    (h : value.IsExtrinsic R entry) :
    parseExtrinsics value = some (true,
      { roll := (entry.roll.map ParserApi.getFloat).getD ((0 : Int) : R)
        pitch := (entry.pitch.map ParserApi.getFloat).getD ((0 : Int) : R)
        yaw := (entry.yaw.map ParserApi.getFloat).getD ((0 : Int) : R)
        x := (entry.x.map Int32.toInt).getD 0
        y := (entry.y.map Int32.toInt).getD 0
        z := (entry.z.map Int32.toInt).getD 0 }) := by
  rw [parseExtrinsics, floatItem_eq h.roll, floatItem_eq h.pitch, floatItem_eq h.yaw,
    intItem_eq h.x, intItem_eq h.y, intItem_eq h.z]
  rfl

/-- **One entry.** -/
theorem parseUserConfig_eq {value : JsonValue N} {entry : LidarEntry N}
    (h : value.IsEntry R entry) :
    parseUserConfig (R := R) value = some (entry.ip.map fun ip => entry.parsed ip) := by
  have hextrinsic : parseExtrinsicParam value =
      some (entry.parsed (R := R) "").extrinsicParam := by
    have hitem := h.extrinsicParameter
    unfold parseExtrinsicParam LidarEntry.parsed LidarEntry.extrinsic
    cases hentry : entry.extrinsicParameter with
    | none =>
      rw [hentry] at hitem
      have habsent : value.findMember "extrinsic_parameter" = some none := hitem
      rw [habsent]
      rfl
    | some extrinsic =>
      rw [hentry] at hitem
      obtain ⟨item, hmember, hitem⟩ := hitem
      rw [hmember]
      change (parseExtrinsics item).bind (fun result =>
        some (if result.1 then result.2 else .cleared)) = _
      rw [parseExtrinsics_eq hitem]
      rfl
  rw [parseUserConfig, h.ip]
  cases entry.ip with
  | none => rfl
  | some ip =>
    have hip : JsonValue.getString (.string ip : JsonValue N) =
        some (ip.toList.takeWhile (· ≠ Char.ofNat 0)) := rfl
    simp only [Option.map_some, Option.bind_eq_bind, Option.bind_some, hip, parsePclDataType,
      parsePatternMode, parseBlindSpotSet, parseDualEmitEn, intItem_eq h.pclDataType,
      intItem_eq h.patternMode, intItem_eq h.blindSpotSet, intItem_eq h.dualEmitEn, hextrinsic]
    rfl

/-- **The loop.** -/
theorem pushUserConfigs_eq {values : List (JsonValue N)} {entries : List (LidarEntry N)}
    (h : List.Forall₂ (JsonValue.IsEntry R) values entries) :
    ∀ userConfigs : List (UserLivoxLidarConfig R),
      pushUserConfigs values userConfigs =
        some (userConfigs ++ (withIp entries).map fun entry => entry.2.parsed entry.1) := by
  induction h with
  | nil =>
    intro userConfigs
    rw [withIp, List.filterMap_nil, List.map_nil, List.append_nil]
    rfl
  | @cons value entry values entries hentry _ ih =>
    intro userConfigs
    have hcons : pushUserConfigs (value :: values) userConfigs =
        ((parseUserConfig value).bind fun userConfig =>
          some (userConfigs ++ userConfig.toList)).bind (pushUserConfigs values) := rfl
    rw [hcons, parseUserConfig_eq hentry, Option.bind_some, Option.bind_some, ih,
      List.append_assoc]
    cases hip : entry.ip with
    | none => simp [withIp, hip]
    | some ip => simp [withIp, hip]

theorem parseUserConfigs_eq {doc : JsonValue N} {values : List (JsonValue N)}
    {entries : List (LidarEntry N)}
    (hdoc : doc.findMember "lidar_configs" = some (some (.array values)))
    (h : List.Forall₂ (JsonValue.IsEntry R) values entries) :
    parseUserConfigs (R := R) doc [] =
      some ((withIp entries).length != 0,
        (withIp entries).map fun entry => entry.2.parsed entry.1) := by
  rw [parseUserConfigs, hdoc]
  change (pushUserConfigs values []).bind (fun userConfigs =>
    some (userConfigs.length != 0, userConfigs)) = _
  rw [pushUserConfigs_eq h, List.nil_append, Option.bind_some, List.length_map]

/-! ## What the casts keep -/

/-- A value of eight signed bits survives the cast to `int8_t`. -/
theorem toInt_toInt8 {n : Int32} (hleast : -128 ≤ n.toInt) (hgreatest : n.toInt ≤ 127) :
    n.toInt8.toInt = n.toInt := by
  rw [Int32.toInt_toInt8]
  exact Int.bmod_eq_of_le (by omega) (by omega)

omit [ParserApi N R] [IntCast R] in
theorem intHeld_toInt8 {item : Option Int32} {least greatest : Int}
    (hitem : ItemIn item least greatest) (hleast : -128 ≤ least) (hgreatest : greatest ≤ 127) :
    IntHeld item (-1) ((item.map Int32.toInt8).getD (-1)).toInt := by
  cases item with
  | none => rfl
  | some n =>
    obtain ⟨hle, hge⟩ := hitem n rfl
    exact toInt_toInt8 (by omega) (by omega)

/-- From 128 on the cast of `blind_spot_set` changes the value. -/
theorem intHeld_blindSpotSet_iff {item : Option Int32} (hitem : ItemIn item 50 200) :
    IntHeld item (-1) ((item.map fun n => n.toInt8.toInt32).getD (-1)).toInt ↔
      ∀ n, item = some n → n.toInt ≤ 127 := by
  cases item with
  | none =>
    constructor
    · intro _ n hn
      cases hn
    · intro _
      rfl
  | some n =>
    obtain ⟨hle, hge⟩ := hitem n rfl
    have hstored : IntHeld (some n) (-1) (n.toInt8.toInt32).toInt ↔ n.toInt8.toInt = n.toInt := by
      rw [IntHeld, Int8.toInt_toInt32]
      rfl
    constructor
    · intro h m hm
      obtain rfl : n = m := Option.some.inj hm
      have hrange := n.toInt8.toInt_lt
      rw [hstored.mp h] at hrange
      omega
    · intro h
      exact hstored.mpr (toInt_toInt8 (by omega) (h n rfl))

theorem intHeld_dualEmitEn {item : Option Int32} (hitem : ItemIn item 0 1) :
    IntHeld item (-1)
      ((item.map fun n => (UInt8.ofInt n.toInt).toInt8).getD (-1)).toInt := by
  cases item with
  | none => rfl
  | some n =>
    obtain ⟨hle, hge⟩ := hitem n rfl
    have hn : n.toInt = 0 ∨ n.toInt = 1 := by omega
    rcases hn with hn | hn
    · change (UInt8.ofInt n.toInt).toInt8.toInt = n.toInt
      rw [hn]
      rfl
    · change (UInt8.ofInt n.toInt).toInt8.toInt = n.toInt
      rw [hn]
      rfl

theorem angleHeld_iff (exactly : N → R → Prop) (item : Option N) :
    AngleHeld exactly item ((item.map ParserApi.getFloat).getD ((0 : Int) : R)) ↔
      ∀ n, item = some n → exactly n (ParserApi.getFloat n) := by
  cases item with
  | none =>
    constructor
    · intro _ n hn
      cases hn
    · intro _
      rfl
  | some n =>
    constructor
    · intro h m hm
      obtain rfl : n = m := Option.some.inj hm
      exact h
    · intro h
      exact h n rfl

/-- Of a well-typed entry the parser loses a blind spot from 128 on, and what rounding to a
float loses of an angle. -/
theorem LidarEntry.parsed_holds_iff (exactly : N → R → Prop) (ip : String)
    {entry : LidarEntry N} (hrange : entry.InRange) :
    (entry.parsed (R := R) ip).Holds exactly ip entry ↔
      (∀ n, entry.blindSpotSet = some n → n.toInt ≤ 127) ∧
        ∀ n, entry.IsAngle n → exactly n (ParserApi.getFloat n) := by
  constructor
  · intro h
    refine ⟨(intHeld_blindSpotSet_iff hrange.blindSpotSet).mp h.blindSpotSet, fun n hn => ?_⟩
    rcases hn with hroll | hpitch | hyaw
    · exact (angleHeld_iff exactly _).mp h.roll n hroll
    · exact (angleHeld_iff exactly _).mp h.pitch n hpitch
    · exact (angleHeld_iff exactly _).mp h.yaw n hyaw
  · rintro ⟨hblind, hangle⟩
    exact {
      handle := rfl
      pclDataType := intHeld_toInt8 hrange.pclDataType (by decide) (by decide)
      patternMode := intHeld_toInt8 hrange.patternMode (by decide) (by decide)
      blindSpotSet := (intHeld_blindSpotSet_iff hrange.blindSpotSet).mpr hblind
      dualEmitEn := intHeld_dualEmitEn hrange.dualEmitEn
      roll := (angleHeld_iff exactly _).mpr fun n hn => hangle n (.inl hn)
      pitch := (angleHeld_iff exactly _).mpr fun n hn => hangle n (.inr (.inl hn))
      yaw := (angleHeld_iff exactly _).mpr fun n hn => hangle n (.inr (.inr hn))
      x := rfl
      y := rfl
      z := rfl
      setBits := rfl
      getBits := rfl }

/-! ## The whole list -/

theorem mem_withIp_iff {entries : List (LidarEntry N)} {ip : String} {entry : LidarEntry N} :
    (ip, entry) ∈ withIp entries ↔ entry ∈ entries ∧ entry.ip = some ip := by
  rw [withIp, List.mem_filterMap]
  constructor
  · rintro ⟨candidate, hmem, hcandidate⟩
    obtain ⟨_, hip, hpair⟩ := Option.map_eq_some_iff.mp hcandidate
    injection hpair with h₁ h₂
    rw [← h₁, ← h₂]
    exact ⟨hmem, hip⟩
  · rintro ⟨hmem, hip⟩
    exact ⟨entry, hmem, by rw [hip]; rfl⟩

theorem withIp_eq_nil_iff (entries : List (LidarEntry N)) :
    withIp entries = [] ↔ ∀ entry ∈ entries, entry.ip = none := by
  rw [withIp, List.filterMap_eq_nil_iff]
  exact forall₂_congr fun entry _ => Option.map_eq_none_iff

/-- What is promised of `ParseUserConfigs`: one config for each entry with an `ip`, in their
order, that holds what the entry says, and false exactly when there is none. -/
def Preserves (exactly : N → R → Prop) (entries : List (LidarEntry N))
    (result : Option (Bool × List (UserLivoxLidarConfig R))) : Prop :=
  ∃ ok userConfigs, result = some (ok, userConfigs) ∧
    List.Forall₂ (fun entry userConfig =>
      UserLivoxLidarConfig.Holds exactly entry.1 entry.2 userConfig) (withIp entries) userConfigs ∧
    (ok = false ↔ ∀ entry ∈ entries, entry.ip = none)

/-- **When the config is preserved.**  Over any well-typed list of entries, and for any notion
of a float being exactly a number, the parser keeps what it reads if and only if no entry
with an `ip` asks for a blind spot above 127 and all angles of these entries are floats. -/
theorem parseUserConfigs_preserves_iff (exactly : N → R → Prop) {doc : JsonValue N}
    {values : List (JsonValue N)} {entries : List (LidarEntry N)}
    (hdoc : doc.findMember "lidar_configs" = some (some (.array values)))
    (htyped : List.Forall₂ (JsonValue.IsEntry R) values entries)
    (hrange : ∀ entry ∈ entries, entry.InRange) :
    Preserves exactly entries (parseUserConfigs (R := R) doc []) ↔
      ∀ entry ∈ entries, entry.ip ≠ none →
        (∀ n, entry.blindSpotSet = some n → n.toInt ≤ 127) ∧
          ∀ n, entry.IsAngle n → exactly n (ParserApi.getFloat n) := by
  have hheld : List.Forall₂ (fun entry userConfig =>
        UserLivoxLidarConfig.Holds exactly entry.1 entry.2 userConfig) (withIp entries)
        ((withIp entries).map fun entry => entry.2.parsed (R := R) entry.1) ↔
      ∀ entry ∈ entries, entry.ip ≠ none →
        (∀ n, entry.blindSpotSet = some n → n.toInt ≤ 127) ∧
          ∀ n, entry.IsAngle n → exactly n (ParserApi.getFloat n) := by
    rw [List.forall₂_map_right_iff, List.forall₂_same]
    constructor
    · intro h entry hmem hip
      obtain ⟨ip, hip⟩ := Option.ne_none_iff_exists'.mp hip
      exact (LidarEntry.parsed_holds_iff exactly ip (hrange entry hmem)).mp
        (h (ip, entry) (mem_withIp_iff.mpr ⟨hmem, hip⟩))
    · rintro h ⟨ip, entry⟩ hmember
      obtain ⟨hmem, hip⟩ := mem_withIp_iff.mp hmember
      exact (LidarEntry.parsed_holds_iff exactly ip (hrange entry hmem)).mpr
        (h entry hmem (by rw [hip]; exact Option.some_ne_none ip))
  have hok : ((withIp entries).length != 0) = false ↔ ∀ entry ∈ entries, entry.ip = none := by
    rw [← withIp_eq_nil_iff, bne_eq_false_iff_eq, List.length_eq_zero_iff]
  rw [← hheld, Preserves, parseUserConfigs_eq hdoc htyped]
  constructor
  · rintro ⟨ok, userConfigs, heq, hforall, -⟩
    injection heq with hpair
    injection hpair with _ hconfigs
    rw [hconfigs]
    exact hforall
  · intro h
    exact ⟨_, _, rfl, h, hok⟩

end Entries

/-! ## Two documents -/

/-- Numbers that are integers, and floats that hold them. -/
instance intApi : ParserApi Int Int where
  getInt n := if -2147483648 ≤ n ∧ n ≤ 2147483647 then some (Int32.ofInt n) else none
  getFloat n := n
  inetAddr ip := if ip = "192.168.1.100".toList then 0x6401A8C0 else 0xFFFFFFFF

/-- An entry for one LiDAR with the given blind spot. -/
def blindSpotValue (blindSpot : Int) : JsonValue Int :=
  .object [("ip", .string "192.168.1.100"), ("pcl_data_type", .number 1),
    ("blind_spot_set", .number blindSpot),
    ("extrinsic_parameter", .object [("roll", .number 90), ("x", .number (-500))])]

/-- An entry without an `ip`. -/
def namelessValue : JsonValue Int :=
  .object [("pattern_mode", .number 0)]

def blindSpotDoc (blindSpot : Int) : JsonValue Int :=
  .object [("lidar_configs", .array [blindSpotValue blindSpot, namelessValue])]

/-- What these entries say. -/
def blindSpotEntries (blindSpot : Int32) : List (LidarEntry Int) :=
  [{ ip := some "192.168.1.100", pclDataType := some 1, patternMode := none,
      blindSpotSet := some blindSpot, dualEmitEn := none,
      extrinsicParameter := some
        { roll := some 90, pitch := none, yaw := none, x := some (-500), y := none, z := none } },
    { ip := none, pclDataType := none, patternMode := some 0, blindSpotSet := none,
      dualEmitEn := none, extrinsicParameter := none }]

theorem parseUserConfigs_preserves_near :
    Preserves (R := Int) (· = ·) (blindSpotEntries 60)
      (parseUserConfigs (blindSpotDoc 60) []) := by
  have hdoc : (blindSpotDoc 60).findMember "lidar_configs" =
      some (some (.array [blindSpotValue 60, namelessValue])) := rfl
  have htyped : List.Forall₂ (JsonValue.IsEntry Int) [blindSpotValue 60, namelessValue]
      (blindSpotEntries 60) :=
    .cons
      { ip := rfl
        pclDataType := ⟨1, rfl, rfl⟩
        patternMode := rfl
        blindSpotSet := ⟨60, rfl, rfl⟩
        dualEmitEn := rfl
        extrinsicParameter := ⟨_, rfl,
          { roll := rfl, pitch := rfl, yaw := rfl, x := ⟨-500, rfl, rfl⟩, y := rfl, z := rfl }⟩ }
      (.cons
        { ip := rfl
          pclDataType := rfl
          patternMode := ⟨0, rfl, rfl⟩
          blindSpotSet := rfl
          dualEmitEn := rfl
          extrinsicParameter := rfl } .nil)
  have hrange : ∀ entry ∈ blindSpotEntries 60, entry.InRange := by
    intro entry hmem
    rcases List.mem_pair.mp hmem with rfl | rfl
    · exact ⟨itemIn_some (by decide), itemIn_none _ _, itemIn_some (by decide), itemIn_none _ _⟩
    · exact ⟨itemIn_none _ _, itemIn_some (by decide), itemIn_none _ _, itemIn_none _ _⟩
  apply (parseUserConfigs_preserves_iff (R := Int) (· = ·) hdoc htyped hrange).mpr
  intro entry hmem _
  refine ⟨?_, fun n _ => rfl⟩
  rcases List.mem_pair.mp hmem with rfl | rfl
  · intro n hn
    obtain rfl : 60 = n := Option.some.inj hn
    decide
  · intro n hn
    cases hn

/-- A blind spot of 200 cm is stored as -56. -/
theorem parseUserConfigs_loses_blind_spot :
    (parseUserConfigs (R := Int) (blindSpotDoc 200) []).map (fun result =>
        result.2.map fun userConfig => userConfig.blindSpotSet) = some [-56] ∧
      ¬ Preserves (R := Int) (· = ·) (blindSpotEntries 200)
        (parseUserConfigs (blindSpotDoc 200) []) := by
  have hstored : (parseUserConfigs (R := Int) (blindSpotDoc 200) []).map (fun result =>
      result.2.map fun userConfig => userConfig.blindSpotSet) = some [-56] := by rfl
  refine ⟨hstored, ?_⟩
  rintro ⟨ok, userConfigs, hresult, hforall, -⟩
  rw [hresult] at hstored
  injection hstored with hstored
  cases hforall with
  | @cons _ userConfig _ _ hholds _ =>
    have hblind : userConfig.blindSpotSet = -56 := (List.cons.inj hstored).1
    have hgiven : userConfig.blindSpotSet.toInt = 200 := hholds.blindSpotSet
    rw [hblind] at hgiven
    exact absurd hgiven (by decide)

end RoboRacer.Driver
