/-
  Driver/TopicNames.lean --- the topics of the LiDARs (`comm/comm.cpp`, `lddc.cpp`).

  With `use_multi_topic_` every LiDAR has two topics of its own, named after its address.
  An address has periods, which `ReplacePeriodByUnderline` rewrites one by one, each time
  from the beginning of the string; the name goes through a buffer of 48 bytes:

      replacePeriodByUnderline_eq   what the loop returns
      topicName_eq                  the name is not cut off
      Publishers.Named              the publishers carry the names of their LiDARs
      topic_names_unambiguous       different LiDARs have different names and publishers

  A publisher is made when it is first asked for and kept.
-/
import Mathlib.Data.List.TakeWhile
import RoboRacer.Driver.Ipv4
import RoboRacer.Driver.LidarCallback
import RoboRacer.Driver.Settings

set_option autoImplicit false

namespace RoboRacer.Driver

open RoboRacer.Foundation

/-! ## `ReplacePeriodByUnderline` -/

/-- `str.find(".")`. -/
def findPeriod (str : List Char) : Option Nat :=
  str.findIdx? (· == '.')

/-- The first period of a string. -/
theorem findPeriod_eq_some {str : List Char} {pos : Nat} (h : findPeriod str = some pos) :
    ∃ before after, str = before ++ '.' :: after ∧ before.length = pos := by
  obtain ⟨hlt, hperiod, -⟩ := List.findIdx?_eq_some_iff_getElem.mp h
  refine ⟨str.take pos, str.drop (pos + 1), ?_, List.length_take_of_le (Nat.le_of_lt hlt)⟩
  rw [← beq_iff_eq.mp hperiod, ← List.drop_eq_getElem_cons hlt, List.take_append_drop]

/-- Writing over a period. -/
theorem set_period {str : List Char} {pos : Nat} (h : findPeriod str = some pos) :
    ∃ before after, str = before ++ '.' :: after ∧
      str.set pos '_' = before ++ '_' :: after := by
  obtain ⟨before, after, rfl, rfl⟩ := findPeriod_eq_some h
  exact ⟨before, after, rfl, by simp⟩

/-- Every pass of the loop leaves one period less. -/
theorem count_set_period {str : List Char} {pos : Nat} (h : findPeriod str = some pos) :
    (str.set pos '_').count '.' < str.count '.' := by
  obtain ⟨before, after, hstr, hset⟩ := set_period h
  rw [hset, hstr, List.count_append, List.count_append, List.count_cons_self,
    List.count_cons_of_ne (by decide)]
  omega

/-- `ReplacePeriodByUnderline`. -/
def replacePeriodByUnderline (str : List Char) : List Char :=
  match _h : findPeriod str with
  | none => str
  | some pos => replacePeriodByUnderline (str.set pos '_')
  termination_by str.count '.'
  decreasing_by exact count_set_period _h

/-- A period becomes an underline. -/
def underline (c : Char) : Char :=
  if c = '.' then '_' else c

/-- **The loop.**  Every period is replaced, and nothing else. -/
theorem replacePeriodByUnderline_eq (str : List Char) :
    replacePeriodByUnderline str = str.map underline := by
  fun_induction replacePeriodByUnderline str with
  | case1 str hnone =>
    have hkept : ∀ c ∈ str, underline c = id c := by
      intro c hc
      exact if_neg (beq_eq_false_iff_ne.mp (List.findIdx?_eq_none_iff.mp hnone c hc))
    rw [List.map_congr_left hkept, List.map_id]
  | case2 str pos hsome ih =>
    obtain ⟨before, after, hstr, hset⟩ := set_period hsome
    rw [ih, hset, hstr, List.map_append, List.map_append, List.map_cons, List.map_cons]
    rfl

/-! ## Names -/

/-- What `%s` prints of a string, and what a string is made of that is read from a buffer. -/
def cString (str : List Char) : List Char :=
  str.takeWhile (· ≠ Char.ofNat 0)

/-- The text that is printed: `text` and the address. -/
def topicText (order : ByteOrder) (text : String) (handle : UInt32) : List Char :=
  text.toList ++ cString (replacePeriodByUnderline (ipNumToString order handle))

/-- The size of `name_str`. -/
abbrev nameSize : Nat := 48

/-- `topic_name`, behind `snprintf`, which writes one character less than the buffer has. -/
def topicName (order : ByteOrder) (text : String) (handle : UInt32) : List Char :=
  cString ((topicText order text handle).take (nameSize - 1))

theorem cString_eq_self {str : List Char} (h : ∀ c ∈ str, c ≠ Char.ofNat 0) :
    cString str = str :=
  List.takeWhile_eq_self_iff.mpr fun c hc => decide_eq_true (h c hc)

/-- The address behind the loop: the same numbers, with underlines between them. -/
theorem replacePeriod_ipNumToString (order : ByteOrder) (handle : UInt32) :
    replacePeriodByUnderline (ipNumToString order handle) =
      joined '_' ((order.bytes handle).map UInt8.toNat) := by
  have hdigit : ∀ c : Char, c.isDigit = true → underline c = c := by
    intro c hc
    refine if_neg ?_
    rintro rfl
    cases hc
  rw [replacePeriodByUnderline_eq]
  exact map_joined rfl hdigit _

theorem ne_nul_of_mem_joined {ns : List Nat} {c : Char} (h : c ∈ joined '_' ns) :
    c ≠ Char.ofNat 0 := by
  rintro rfl
  rcases mem_joined h with heq | hdigit
  · exact absurd heq (by decide)
  · cases hdigit

theorem topicText_eq (order : ByteOrder) (text : String) (handle : UInt32) :
    topicText order text handle =
      text.toList ++ joined '_' ((order.bytes handle).map UInt8.toNat) := by
  rw [topicText, replacePeriod_ipNumToString, cString_eq_self fun _ => ne_nul_of_mem_joined]

theorem length_bytes (order : ByteOrder) (n : UInt32) : (order.bytes n).length = 4 := by
  cases order with
  | little => rfl
  | big => rfl

/-- The address takes at most fifteen characters. -/
theorem length_topicText (order : ByteOrder) (text : String) (handle : UInt32) :
    (topicText order text handle).length ≤ text.toList.length + 15 := by
  have hsmall : ∀ n ∈ (order.bytes handle).map UInt8.toNat, n < 10 ^ 3 := by
    intro n hn
    obtain ⟨b, -, rfl⟩ := List.mem_map.mp hn
    have hlt := b.toNat_lt
    omega
  have hlength := length_joined_lt '_' (by decide) (map_toNat_bytes_ne_nil order handle) hsmall
  rw [List.length_map, length_bytes] at hlength
  rw [topicText_eq, List.length_append]
  omega

/-- A text that leaves room for the address and the NUL is not cut off. -/
theorem topicName_eq (order : ByteOrder) {text : String}
    (hroom : text.toList.length + 15 < nameSize) (htext : ∀ c ∈ text.toList, c ≠ Char.ofNat 0)
    (handle : UInt32) :
    topicName order text handle = topicText order text handle := by
  have hlength := length_topicText order text handle
  rw [topicName, List.take_of_length_le (by omega), topicText_eq]
  refine cString_eq_self fun c hc => ?_
  rcases List.mem_append.mp hc with hc | hc
  · exact htext c hc
  · exact ne_nul_of_mem_joined hc

/-- The text determines the handle. -/
theorem topicText_injective (order : ByteOrder) (text : String) {handle other : UInt32}
    (h : topicText order text handle = topicText order text other) : handle = other := by
  rw [topicText_eq, topicText_eq] at h
  have hnumbers := (joined_inj (by decide) (map_toNat_bytes_ne_nil order handle)
    (map_toNat_bytes_ne_nil order other)).mp (List.append_cancel_left h)
  exact bytes_injective order (eq_of_map_toNat hnumbers)

/-! ## Publishers -/

/-- `kLivoxImuMsg` and `kMinEthPacketQueueSize`. -/
def kLivoxImuMsg : UInt8 := 3
def kMinEthPacketQueueSize : UInt32 := 32

/-- A publisher, by the arguments that it was created with. -/
structure Publisher where
  msgType : UInt8
  topicName : List Char
  queueSize : UInt32
  deriving DecidableEq

/-- `CreatePublisher`: the null pointer for a format that it does not know. -/
def createPublisher (msgType : UInt8) (topicName : List Char) (queueSize : UInt32) :
    Option Publisher :=
  if msgType = kPointCloud2Msg ∨ msgType = kLivoxCustomMsg ∨ msgType = kLivoxImuMsg then
    some { msgType := msgType, topicName := topicName, queueSize := queueSize }
  else none

/-- The publishers of one kind: those of the slots, and the shared one. -/
structure Publishers where
  privatePub : Fin kMaxSourceLidar → Option Publisher
  globalPub : Option Publisher

/-- The members of `Lddc` that choose and keep publishers. -/
structure Lddc where
  transferFormat : UInt8
  useMultiTopic : UInt8
  /-- `private_pub_` and `global_pub_`. -/
  clouds : Publishers
  /-- `private_imu_pub_` and `global_imu_pub_`. -/
  imus : Publishers

/-- The body of `GetCurrentPublisher` and of `GetCurrentImuPublisher`. -/
def currentPublisher (order : ByteOrder) (useMultiTopic msgType : UInt8) (text shared : String)
    (pubs : Publishers) (handle : UInt32) (index : Fin kMaxSourceLidar) :
    Publishers × Option Publisher :=
  if useMultiTopic ≠ 0 then
    match pubs.privatePub index with
    | some pub => (pubs, some pub)
    | none =>
      let pub := createPublisher msgType (topicName order text handle) (kMinEthPacketQueueSize * 2)
      ({ pubs with privatePub := Function.update pubs.privatePub index pub }, pub)
  else
    match pubs.globalPub with
    | some pub => (pubs, some pub)
    | none =>
      let pub := createPublisher msgType shared.toList (kMinEthPacketQueueSize * 8)
      ({ pubs with globalPub := pub }, pub)

variable {R : Type}

/-- `GetCurrentPublisher`, for a slot of the device table. -/
def getCurrentPublisher (order : ByteOrder) (lddc : Lddc)
    (lidars : Fin kMaxSourceLidar → LidarDevice R) (index : Fin kMaxSourceLidar) :
    Lddc × Option Publisher :=
  let (clouds, pub) := currentPublisher order lddc.useMultiTopic lddc.transferFormat
    "livox/lidar_" "livox/lidar" lddc.clouds (lidars index).handle index
  ({ lddc with clouds := clouds }, pub)

/-- `GetCurrentImuPublisher`. -/
def getCurrentImuPublisher (order : ByteOrder) (lddc : Lddc)
    (lidars : Fin kMaxSourceLidar → LidarDevice R) (index : Fin kMaxSourceLidar) :
    Lddc × Option Publisher :=
  let (imus, pub) := currentPublisher order lddc.useMultiTopic kLivoxImuMsg
    "livox/imu_" "livox/imu" lddc.imus (lidars index).handle index
  ({ lddc with imus := imus }, pub)

/-- A call of one of them. -/
inductive PublisherCall where
  | cloud (index : Fin kMaxSourceLidar)
  | imu (index : Fin kMaxSourceLidar)

/-- The members after a call, and what it returns. -/
def PublisherCall.run (order : ByteOrder) (lidars : Fin kMaxSourceLidar → LidarDevice R)
    (lddc : Lddc) : PublisherCall → Lddc × Option Publisher
  | .cloud index => getCurrentPublisher order lddc lidars index
  | .imu index => getCurrentImuPublisher order lddc lidars index

/-- The members after some calls. -/
def lddcAfter (order : ByteOrder) (lidars : Fin kMaxSourceLidar → LidarDevice R) (lddc : Lddc)
    (calls : List PublisherCall) : Lddc :=
  calls.foldl (fun lddc call => (call.run order lidars lddc).1) lddc

/-- `Lddc` behind its constructor: there are no publishers. -/
def Lddc.constructed (transferFormat useMultiTopic : UInt8) : Lddc where
  transferFormat := transferFormat
  useMultiTopic := useMultiTopic
  clouds := { privatePub := fun _ => none, globalPub := none }
  imus := { privatePub := fun _ => none, globalPub := none }

/-- The publishers of the slots have the names of their LiDARs. -/
def Publishers.Named (order : ByteOrder) (text : String)
    (lidars : Fin kMaxSourceLidar → LidarDevice R) (pubs : Publishers) : Prop :=
  ∀ index pub, pubs.privatePub index = some pub →
    pub.topicName = topicName order text (lidars index).handle

theorem createPublisher_topicName {msgType : UInt8} {name : List Char} {queueSize : UInt32}
    {pub : Publisher} (h : createPublisher msgType name queueSize = some pub) :
    pub.topicName = name := by
  unfold createPublisher at h
  split at h
  · cases h
    rfl
  · cases h

/-- **Step lemma.** -/
theorem Publishers.Named.currentPublisher {order : ByteOrder} {text : String}
    {lidars : Fin kMaxSourceLidar → LidarDevice R} {pubs : Publishers}
    (h : pubs.Named order text lidars) (useMultiTopic msgType : UInt8) (shared : String)
    (index : Fin kMaxSourceLidar) :
    (currentPublisher order useMultiTopic msgType text shared pubs (lidars index).handle
      index).1.Named order text lidars := by
  unfold Driver.currentPublisher
  split
  case isTrue =>
    split
    case h_1 => exact h
    case h_2 =>
      intro other pub hpub
      change Function.update pubs.privatePub index _ other = some pub at hpub
      by_cases heq : other = index
      · rw [heq, Function.update_self] at hpub
        rw [heq]
        exact createPublisher_topicName hpub
      · rw [Function.update_of_ne heq] at hpub
        exact h other pub hpub
  case isFalse =>
    split
    case h_1 => exact h
    case h_2 => exact h

/-- **Run lemma.** -/
theorem named_lddcAfter (order : ByteOrder) (lidars : Fin kMaxSourceLidar → LidarDevice R)
    (transferFormat useMultiTopic : UInt8) (calls : List PublisherCall) :
    (lddcAfter order lidars (.constructed transferFormat useMultiTopic) calls).clouds.Named order
        "livox/lidar_" lidars ∧
      (lddcAfter order lidars (.constructed transferFormat useMultiTopic) calls).imus.Named order
        "livox/imu_" lidars := by
  induction calls using List.reverseRecOn with
  | nil =>
    constructor
    · intro index pub hpub
      cases hpub
    · intro index pub hpub
      cases hpub
  | append_singleton calls call ih =>
    rw [lddcAfter, List.foldl_concat]
    cases call with
    | cloud index => exact ⟨ih.1.currentPublisher _ _ _ index, ih.2⟩
    | imu index => exact ⟨ih.1, ih.2.currentPublisher _ _ _ index⟩

/-! ## The property -/

/-- Publishers of LiDARs with different handles have different topics. -/
def Publishers.Unambiguous (lidars : Fin kMaxSourceLidar → LidarDevice R) (pubs : Publishers) :
    Prop :=
  ∀ i j, (lidars i).handle ≠ (lidars j).handle → ∀ pub pub', pubs.privatePub i = some pub →
    pubs.privatePub j = some pub' → pub.topicName ≠ pub'.topicName

/-- The texts of the two kinds of topics. -/
def topicTexts : List String :=
  ["livox/lidar_", "livox/imu_"]

/-- The texts leave room for the address. -/
theorem topicName_of_mem (order : ByteOrder) {text : String} (h : text ∈ topicTexts)
    (handle : UInt32) :
    (topicText order text handle).length < nameSize ∧
      topicName order text handle = topicText order text handle := by
  have hroom : text.toList.length + 15 < nameSize ∧ Char.ofNat 0 ∉ text.toList := by
    rcases List.mem_pair.mp h with rfl | rfl
    · decide
    · decide
  have hlength := length_topicText order text handle
  exact ⟨Nat.lt_of_le_of_lt hlength hroom.1, topicName_eq order hroom.1
    (fun c hc hnul => hroom.2 (hnul ▸ hc)) handle⟩

theorem topicName_injective (order : ByteOrder) {text : String} (h : text ∈ topicTexts)
    {handle other : UInt32} (hsame : topicName order text handle = topicName order text other) :
    handle = other := by
  rw [(topicName_of_mem order h handle).2, (topicName_of_mem order h other).2] at hsame
  exact topicText_injective order text hsame

theorem Publishers.Named.unambiguous {order : ByteOrder} {text : String}
    {lidars : Fin kMaxSourceLidar → LidarDevice R} {pubs : Publishers}
    (h : pubs.Named order text lidars) (htext : text ∈ topicTexts) : pubs.Unambiguous lidars := by
  intro i j hne pub pub' hpub hpub' hsame
  rw [h i pub hpub, h j pub' hpub'] at hsame
  exact hne (topicName_injective order htext hsame)

/-- **The topics of the LiDARs are unambiguous.**

For every string the loop ends with every period replaced and nothing else.  For every
handle the name fits the buffer with its NUL and is not cut off, and different handles have
different names.  In every run of calls the publishers of different LiDARs, of clouds and of
IMU data, have different topics. -/
theorem topic_names_unambiguous :
    (∀ str, replacePeriodByUnderline str = str.map underline) ∧
    (∀ order, ∀ text ∈ topicTexts,
      (∀ handle, (topicText order text handle).length < nameSize ∧
        topicName order text handle = topicText order text handle) ∧
      ∀ handle other, handle ≠ other →
        topicName order text handle ≠ topicName order text other) ∧
    ∀ order (lidars : Fin kMaxSourceLidar → LidarDevice R) (transferFormat useMultiTopic : UInt8)
      (calls : List PublisherCall),
      (lddcAfter order lidars (.constructed transferFormat useMultiTopic)
        calls).clouds.Unambiguous lidars ∧
      (lddcAfter order lidars (.constructed transferFormat useMultiTopic)
        calls).imus.Unambiguous lidars := by
  refine ⟨replacePeriodByUnderline_eq, fun order text htext => ?_, ?_⟩
  · exact ⟨topicName_of_mem order htext,
      fun handle other hne hsame => hne (topicName_injective order htext hsame)⟩
  · intro order lidars transferFormat useMultiTopic calls
    obtain ⟨hclouds, himus⟩ :=
      named_lddcAfter order lidars transferFormat useMultiTopic calls
    exact ⟨hclouds.unambiguous (.head _), himus.unambiguous (.tail _ (.head _))⟩

end RoboRacer.Driver
