/-
  Driver/ParserSafety.lean --- which documents do the config parsers read to the end?
  (`parse_cfg_file/parse_cfg_file.cpp`, `parse_cfg_file/parse_livox_lidar_cfg.cpp`).

  Both parsers walk a document that the user has written.  They ask for the type of some
  values before they read them and not of others, and a RapidJSON accessor on a value of
  another type is a failed assertion, `none` here.

      JsonValue.Offers   an object whose member, if it is there, has the type that is read
      WellTyped          the types that the parsers rely on
      parsers_total_iff  they return, true or false, exactly on the well-typed documents
-/
import RoboRacer.Driver.ParseUserConfigs

set_option autoImplicit false

namespace RoboRacer.Driver

/-! ## The two parsers -/

/-- What `ParseSummaryInfo` uses of RapidJSON's numbers. -/
class UintApi (N : Type) where
  /-- `GetUint`, for a number that is an `unsigned`. -/
  getUint : N → Option UInt32

/-- What becomes of a config file. -/
inductive ConfigFile (N : Type) where
  /-- `fopen` fails. -/
  | unopened
  /-- The text is not JSON. -/
  | malformed
  | document (doc : JsonValue N)

namespace JsonValue

variable {N : Type}

def isObject : JsonValue N → Bool
  | .object _ => true
  | _ => false

def isArray : JsonValue N → Bool
  | .array _ => true
  | _ => false

/-- `Size`, of an array. -/
def size : JsonValue N → Option Nat
  | .array values => some values.length
  | _ => none

/-- `GetUint`. -/
def getUint [UintApi N] : JsonValue N → Option UInt32
  | .number n => UintApi.getUint n
  | _ => none

/-- `IsUint`. -/
def isUint [UintApi N] (value : JsonValue N) : Bool := value.getUint.isSome

end JsonValue

/-- `ParseSummaryInfo`: what it returns, and `lidar_summary_info.lidar_type`. -/
def parseSummaryInfo {N : Type} [UintApi N] (file : ConfigFile N) (lidarType : UInt8) :
    Option (Bool × UInt8) :=
  match file with
  | .unopened => some (false, lidarType)
  | .malformed => some (false, lidarType)
  | .document doc => do
    match ← doc.findMember "lidar_summary_info" with
    | none => return (false, lidarType)
    | some object =>
      if !object.isObject then return (false, lidarType)
      match ← object.findMember "lidar_type" with
      | none => return (false, lidarType)
      | some value =>
        if !value.isUint then return (false, lidarType)
        return (true, (← value.getUint).toUInt8)

/-- `LivoxLidarConfigParser::Parse`: what it returns, and `lidar_configs`. -/
def LivoxLidarConfigParser.parse {N R : Type} [ParserApi N R] [IntCast R] (file : ConfigFile N)
    (lidarConfigs : List (UserLivoxLidarConfig R)) :
    Option (Bool × List (UserLivoxLidarConfig R)) :=
  match file with
  | .unopened => some (false, lidarConfigs)
  | .malformed => some (false, [])
  | .document doc => do
    match ← doc.findMember "lidar_configs" with
    | none => return (false, [])
    | some value =>
      if !value.isArray then return (false, [])
      if (← value.size) = 0 then return (false, [])
      parseUserConfigs doc []

/-! ## Types -/

/-- The value is an object, and its member of that name, if there is one, satisfies `P`. -/
def JsonValue.Offers {N : Type} (value : JsonValue N) (name : String) (P : JsonValue N → Prop) :
    Prop :=
  ∃ member, value.findMember name = some member ∧ ∀ item, member = some item → P item

namespace JsonValue

variable {N : Type}

/-- The value is a string. -/
def IsString (value : JsonValue N) : Prop := ∃ s, value = .string s

/-- The value is a number. -/
def IsNumber (value : JsonValue N) : Prop := ∃ n, value = .number n

/-- The value is a number that is an `int`. -/
def IsInt (R : Type) [ParserApi N R] (value : JsonValue N) : Prop :=
  ∃ n, value = .number n ∧ (ParserApi.getInt R n).isSome

theorem isSome_getString_iff (value : JsonValue N) : value.getString.isSome ↔ value.IsString := by
  cases value <;> simp [getString, IsString]

theorem isSome_getInt_iff (R : Type) [ParserApi N R] (value : JsonValue N) :
    (value.getInt R).isSome ↔ value.IsInt R := by
  cases value <;> simp [getInt, IsInt]

theorem isSome_getFloat_iff (R : Type) [ParserApi N R] (value : JsonValue N) :
    (value.getFloat R).isSome ↔ value.IsNumber := by
  cases value <;> simp [getFloat, IsNumber]

theorem isArray_iff (value : JsonValue N) :
    value.isArray = true ↔ ∃ values, value = .array values := by
  cases value <;> simp [isArray]

/-- `FindMember` needs an object and nothing else. -/
theorem isSome_findMember_iff (value : JsonValue N) (name : String) :
    (value.findMember name).isSome ↔ value.isObject := by
  cases value <;> simp [findMember, isObject]

/-- A member that is looked up and, if it is there, read. -/
theorem isSome_bind_findMember_iff {α : Type} {value : JsonValue N} {name : String}
    {f : Option (JsonValue N) → Option α} {P : JsonValue N → Prop} (hnone : (f none).isSome)
    (hsome : ∀ item, (f (some item)).isSome ↔ P item) :
    ((value.findMember name).bind f).isSome ↔ value.Offers name P := by
  constructor
  · intro h
    obtain ⟨a, ha⟩ := Option.isSome_iff_exists.mp h
    obtain ⟨member, hmember, hf⟩ := Option.bind_eq_some_iff.mp ha
    refine ⟨member, hmember, ?_⟩
    rintro item rfl
    exact (hsome item).mp (Option.isSome_iff_exists.mpr ⟨a, hf⟩)
  · rintro ⟨member, hmember, hitem⟩
    rw [hmember, Option.bind_some]
    cases member with
    | none => exact hnone
    | some item => exact (hsome item).mpr (hitem item rfl)

end JsonValue

/-! ## What the parsers rely on -/

section Types

variable {N : Type} (R : Type) [ParserApi N R]

/-- The types that `ParseExtrinsics` relies on. -/
structure ExtrinsicTyped (value : JsonValue N) : Prop where
  roll : value.Offers "roll" JsonValue.IsNumber
  pitch : value.Offers "pitch" JsonValue.IsNumber
  yaw : value.Offers "yaw" JsonValue.IsNumber
  x : value.Offers "x" (JsonValue.IsInt R)
  y : value.Offers "y" (JsonValue.IsInt R)
  z : value.Offers "z" (JsonValue.IsInt R)

/-- The types of the optional items of an entry. -/
structure ItemsTyped (config : JsonValue N) : Prop where
  pclDataType : config.Offers "pcl_data_type" (JsonValue.IsInt R)
  patternMode : config.Offers "pattern_mode" (JsonValue.IsInt R)
  blindSpotSet : config.Offers "blind_spot_set" (JsonValue.IsInt R)
  dualEmitEn : config.Offers "dual_emit_en" (JsonValue.IsInt R)
  extrinsicParameter : config.Offers "extrinsic_parameter" (ExtrinsicTyped R)

/-- An entry is an object; with an `ip`, this is a string and the items have their types. -/
def EntryTyped (config : JsonValue N) : Prop :=
  config.Offers "ip" fun ip => ip.IsString ∧ ItemsTyped R config

/-- A document is an object; if its `lidar_configs` is an array, every entry has its type. -/
def WellTyped (doc : JsonValue N) : Prop :=
  doc.Offers "lidar_configs" fun value =>
    ∀ values, value = .array values → ∀ config ∈ values, EntryTyped R config

end Types

/-! ## Where the parsers return -/

/-- A computation followed by one that succeeds or fails whatever it is given. -/
theorem isSome_bind_iff_and {α β : Type} {x : Option α} {f : α → Option β} {P : Prop}
    (hf : ∀ a, (f a).isSome ↔ P) : (x.bind f).isSome ↔ x.isSome ∧ P := by
  cases x with
  | none => exact iff_of_false Bool.false_ne_true fun h => Bool.false_ne_true h.1
  | some a => simpa using hf a

theorem isSome_bind_iff_of_total {α β : Type} {x : Option α} {f : α → Option β}
    (hf : ∀ a, (f a).isSome) : (x.bind f).isSome ↔ x.isSome :=
  (isSome_bind_iff_and fun a => iff_of_true (hf a) trivial).trans (iff_of_eq (and_true _))

section Returns

variable {N R : Type} [ParserApi N R]

theorem isSome_intItem_iff {α : Type} (value : JsonValue N) (name : String) (absent : α)
    (cast : Int32 → α) :
    (value.intItem R name absent cast).isSome ↔ value.Offers name (JsonValue.IsInt R) := by
  refine JsonValue.isSome_bind_findMember_iff rfl fun item => ?_
  rw [← JsonValue.isSome_getInt_iff]
  exact isSome_bind_iff_of_total fun _ => rfl

variable [IntCast R]

theorem isSome_floatItem_iff (value : JsonValue N) (name : String) :
    (value.floatItem R name).isSome ↔ value.Offers name JsonValue.IsNumber :=
  JsonValue.isSome_bind_findMember_iff rfl fun item => JsonValue.isSome_getFloat_iff R item

theorem isSome_parseExtrinsics_iff (value : JsonValue N) :
    (parseExtrinsics (R := R) value).isSome ↔ ExtrinsicTyped R value := by
  have hsteps : (parseExtrinsics (R := R) value).isSome ↔
      (value.floatItem R "roll").isSome ∧ (value.floatItem R "pitch").isSome ∧
        (value.floatItem R "yaw").isSome ∧ (value.intItem R "x" 0 Int32.toInt).isSome ∧
        (value.intItem R "y" 0 Int32.toInt).isSome ∧
        (value.intItem R "z" 0 Int32.toInt).isSome := by
    unfold parseExtrinsics
    refine isSome_bind_iff_and fun _ => isSome_bind_iff_and fun _ => isSome_bind_iff_and fun _ =>
      isSome_bind_iff_and fun _ => isSome_bind_iff_and fun _ => isSome_bind_iff_of_total fun _ => ?_
    rfl
  rw [hsteps, isSome_floatItem_iff, isSome_floatItem_iff, isSome_floatItem_iff,
    isSome_intItem_iff, isSome_intItem_iff, isSome_intItem_iff]
  constructor
  · rintro ⟨roll, pitch, yaw, x, y, z⟩
    exact ⟨roll, pitch, yaw, x, y, z⟩
  · intro h
    exact ⟨h.roll, h.pitch, h.yaw, h.x, h.y, h.z⟩

theorem isSome_parseExtrinsicParam_iff (config : JsonValue N) :
    (parseExtrinsicParam (R := R) config).isSome ↔
      config.Offers "extrinsic_parameter" (ExtrinsicTyped R) := by
  refine JsonValue.isSome_bind_findMember_iff rfl fun item => ?_
  rw [← isSome_parseExtrinsics_iff]
  exact isSome_bind_iff_of_total fun _ => rfl

/-- **One entry.** -/
theorem isSome_parseUserConfig_iff (config : JsonValue N) :
    (parseUserConfig (R := R) config).isSome ↔ EntryTyped R config := by
  refine JsonValue.isSome_bind_findMember_iff rfl fun ip => ?_
  have hsteps : ∀ {α : Type} (stored : List Char → Int8 → Int8 → Int32 → Int8 →
      ExtParameter R → α),
      (ip.getString.bind fun s => (parsePclDataType (R := R) config).bind fun a =>
        (parsePatternMode (R := R) config).bind fun b =>
        (parseBlindSpotSet (R := R) config).bind fun c =>
        (parseDualEmitEn (R := R) config).bind fun d =>
        (parseExtrinsicParam config).bind fun e => some (stored s a b c d e)).isSome ↔
      ip.getString.isSome ∧ (parsePclDataType (R := R) config).isSome ∧
        (parsePatternMode (R := R) config).isSome ∧ (parseBlindSpotSet (R := R) config).isSome ∧
        (parseDualEmitEn (R := R) config).isSome ∧
        (parseExtrinsicParam (R := R) config).isSome := by
    intro α stored
    refine isSome_bind_iff_and fun _ => isSome_bind_iff_and fun _ => isSome_bind_iff_and fun _ =>
      isSome_bind_iff_and fun _ => isSome_bind_iff_and fun _ => isSome_bind_iff_of_total fun _ => ?_
    rfl
  refine (hsteps _).trans ?_
  rw [JsonValue.isSome_getString_iff, parsePclDataType, parsePatternMode, parseBlindSpotSet,
    parseDualEmitEn, isSome_intItem_iff, isSome_intItem_iff, isSome_intItem_iff,
    isSome_intItem_iff, isSome_parseExtrinsicParam_iff]
  constructor
  · rintro ⟨hip, pcl, pattern, blind, dual, extrinsic⟩
    exact ⟨hip, pcl, pattern, blind, dual, extrinsic⟩
  · rintro ⟨hip, h⟩
    exact ⟨hip, h.pclDataType, h.patternMode, h.blindSpotSet, h.dualEmitEn, h.extrinsicParameter⟩

/-- **The loop.** -/
theorem isSome_pushUserConfigs_iff (entries : List (JsonValue N))
    (userConfigs : List (UserLivoxLidarConfig R)) :
    (pushUserConfigs entries userConfigs).isSome ↔ ∀ config ∈ entries, EntryTyped R config := by
  induction entries generalizing userConfigs with
  | nil => simp [pushUserConfigs]
  | cons config entries ih =>
    have hcons : pushUserConfigs (config :: entries) userConfigs =
        ((parseUserConfig config).bind fun userConfig =>
          pushUserConfigs entries (userConfigs ++ userConfig.toList)) := by
      rw [pushUserConfigs, List.foldlM_cons]
      exact Option.bind_assoc _ _ _
    rw [hcons, isSome_bind_iff_and (fun _ => ih _), isSome_parseUserConfig_iff,
      List.forall_mem_cons]

/-- `ParseUserConfigs`, of a document whose member `lidar_configs` is an array. -/
theorem isSome_parseUserConfigs_iff {doc : JsonValue N} {values : List (JsonValue N)}
    (hdoc : doc.findMember "lidar_configs" = some (some (.array values)))
    (userConfigs : List (UserLivoxLidarConfig R)) :
    (parseUserConfigs doc userConfigs).isSome ↔ ∀ config ∈ values, EntryTyped R config := by
  have hloop : parseUserConfigs doc userConfigs =
      (pushUserConfigs values userConfigs).bind fun userConfigs =>
        some (userConfigs.length != 0, userConfigs) := by
    rw [parseUserConfigs, hdoc]
    rfl
  rw [hloop, isSome_bind_iff_of_total fun _ => rfl, isSome_pushUserConfigs_iff]

/-- `Parse`, where there is nothing to loop over. -/
theorem parse_of_not_array {doc value : JsonValue N}
    (hdoc : doc.findMember "lidar_configs" = some (some value)) (hvalue : value.isArray = false)
    (lidarConfigs : List (UserLivoxLidarConfig R)) :
    LivoxLidarConfigParser.parse (.document doc) lidarConfigs = some (false, []) := by
  rw [LivoxLidarConfigParser.parse, hdoc]
  change (if (!value.isArray) = true then some (false, []) else _) = _
  rw [hvalue]
  rfl

/-- `Parse`, where there is an array. -/
theorem parse_of_array {doc : JsonValue N} {values : List (JsonValue N)}
    (hdoc : doc.findMember "lidar_configs" = some (some (.array values)))
    (lidarConfigs : List (UserLivoxLidarConfig R)) :
    LivoxLidarConfigParser.parse (.document doc) lidarConfigs =
      if values.length = 0 then some (false, []) else parseUserConfigs doc [] := by
  rw [LivoxLidarConfigParser.parse, hdoc]
  rfl

/-- `Parse` returns on the documents that have the types it relies on. -/
theorem isSome_parse_iff (doc : JsonValue N) (lidarConfigs : List (UserLivoxLidarConfig R)) :
    (LivoxLidarConfigParser.parse (.document doc) lidarConfigs).isSome ↔ WellTyped R doc := by
  have hoffers : WellTyped R doc ↔ ∃ member, doc.findMember "lidar_configs" = some member ∧
      ∀ item, member = some item → ∀ values, item = .array values →
        ∀ config ∈ values, EntryTyped R config := Iff.rfl
  cases hdoc : doc.findMember "lidar_configs" with
  | none =>
    have hparse : LivoxLidarConfigParser.parse (.document doc) lidarConfigs = none := by
      rw [LivoxLidarConfigParser.parse, hdoc]
      rfl
    rw [hparse, hoffers]
    refine iff_of_false Bool.false_ne_true ?_
    rintro ⟨member, hmember, -⟩
    cases hdoc.symm.trans hmember
  | some member =>
    have hmember : WellTyped R doc ↔ ∀ item, member = some item → ∀ values,
        item = .array values → ∀ config ∈ values, EntryTyped R config := by
      rw [hoffers, hdoc]
      simp
    rw [hmember]
    cases member with
    | none =>
      have hparse : LivoxLidarConfigParser.parse (.document doc) lidarConfigs =
          some (false, []) := by
        rw [LivoxLidarConfigParser.parse, hdoc]
        rfl
      rw [hparse]
      exact iff_of_true rfl fun item hitem => by cases hitem
    | some value =>
      cases hvalue : value.isArray with
      | false =>
        rw [parse_of_not_array hdoc hvalue]
        refine iff_of_true rfl ?_
        rintro item hitem values rfl
        obtain rfl : value = .array values := Option.some.inj hitem
        cases hvalue
      | true =>
        obtain ⟨values, rfl⟩ := value.isArray_iff.mp hvalue
        have hentries : (∀ item, some (JsonValue.array values) = some item → ∀ entries,
            item = .array entries → ∀ config ∈ entries, EntryTyped R config) ↔
              ∀ config ∈ values, EntryTyped R config := by
          simp
        rw [hentries, parse_of_array hdoc]
        split
        · rename_i hempty
          rw [List.length_eq_zero_iff.mp hempty]
          exact iff_of_true rfl (List.forall_mem_nil _)
        · exact isSome_parseUserConfigs_iff hdoc []

end Returns

/-- The value of `lidar_type` is tested before it is read. -/
theorem isSome_readLidarType {N : Type} [UintApi N] (value : JsonValue N) (lidarType : UInt8) :
    (if !value.isUint then some (false, lidarType)
      else value.getUint.bind fun n => some (true, n.toUInt8)).isSome := by
  rw [JsonValue.isUint]
  cases value.getUint with
  | none => rfl
  | some n => rfl

/-- `ParseSummaryInfo` returns on the documents that are objects. -/
theorem isSome_parseSummaryInfo_iff {N : Type} [UintApi N] (doc : JsonValue N)
    (lidarType : UInt8) : (parseSummaryInfo (.document doc) lidarType).isSome ↔ doc.isObject := by
  rw [← doc.isSome_findMember_iff "lidar_summary_info", parseSummaryInfo]
  refine isSome_bind_iff_of_total fun member => ?_
  cases member with
  | none => rfl
  | some object =>
    change (if !object.isObject then some (false, lidarType) else _).isSome = true
    cases hobject : object.isObject with
    | false => rfl
    | true =>
      obtain ⟨item, hitem⟩ := Option.isSome_iff_exists.mp
        ((object.isSome_findMember_iff "lidar_type").mpr hobject)
      change ((object.findMember "lidar_type").bind _).isSome = true
      rw [hitem]
      cases item with
      | none => rfl
      | some value => exact isSome_readLidarType value lidarType

/-! ## The exact condition -/

theorem WellTyped.isObject {N R : Type} [ParserApi N R] {doc : JsonValue N}
    (h : WellTyped R doc) : doc.isObject := by
  obtain ⟨member, hmember, -⟩ := h
  rw [← doc.isSome_findMember_iff "lidar_configs", hmember]
  rfl

/-- **When the parsers return.**  Both return true or false, and no accessor is applied to a
value of another type, if and only if the document is an object and the entries of its
`lidar_configs`, where this is an array, are objects that have, with an `ip`, the types that
are read. -/
theorem parsers_total_iff {N R : Type} [ParserApi N R] [UintApi N] [IntCast R]
    (doc : JsonValue N) (lidarType : UInt8) (lidarConfigs : List (UserLivoxLidarConfig R)) :
    ((parseSummaryInfo (.document doc) lidarType).isSome ∧
        (LivoxLidarConfigParser.parse (.document doc) lidarConfigs).isSome) ↔
      WellTyped R doc := by
  rw [isSome_parseSummaryInfo_iff, isSome_parse_iff]
  exact and_iff_right_of_imp WellTyped.isObject

/-- A file that is not JSON, or not there, is no document, and both parsers return false. -/
theorem parsers_return_of_not_document {N R : Type} [ParserApi N R] [UintApi N] [IntCast R]
    {file : ConfigFile N} (hfile : ∀ doc, file ≠ .document doc) (lidarType : UInt8)
    (lidarConfigs : List (UserLivoxLidarConfig R)) :
    parseSummaryInfo file lidarType = some (false, lidarType) ∧
      (LivoxLidarConfigParser.parse file lidarConfigs).map Prod.fst = some false := by
  cases file with
  | unopened => exact ⟨rfl, rfl⟩
  | malformed => exact ⟨rfl, rfl⟩
  | document doc => exact absurd rfl (hfile doc)

/-! ### A pattern mode in quotation marks -/

instance intUintApi : UintApi Int where
  getUint n := if 0 ≤ n ∧ n ≤ 4294967295 then some (UInt32.ofInt n) else none

/-- One LiDAR whose `pattern_mode` is a string. -/
def quotedDoc : JsonValue Int :=
  .object [("lidar_summary_info", .object [("lidar_type", .number 8)]),
    ("lidar_configs", .array [.object [("ip", .string "192.168.1.100"),
      ("pattern_mode", .string "0")]])]

/-- `ParseSummaryInfo` reads the document; `Parse` calls `GetInt` on the string. -/
theorem parse_asserts_on_quoted_number :
    parseSummaryInfo (.document quotedDoc) 0 = some (true, 8) ∧
      LivoxLidarConfigParser.parse (R := Int) (.document quotedDoc) [] = none :=
  ⟨by rfl, by rfl⟩

end RoboRacer.Driver
