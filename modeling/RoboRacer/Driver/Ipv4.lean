/-
  Driver/Ipv4.lean --- IPv4 addresses and the handles of LiDARs (`comm/comm.cpp`).

  A handle is the `s_addr` of an address: its four octets, first to last, in the order of
  the bytes in memory.  Which octet is the lowest byte of the number depends on the host.
-/
import RoboRacer.Foundation.Decimals

set_option autoImplicit false

namespace RoboRacer.Driver

open RoboRacer.Foundation

/-! ## Bytes -/

/-- The bytes of a `uint32_t`, from the lowest one. -/
def lowToHigh (n : UInt32) : List UInt8 :=
  [n.toUInt8, (n >>> 8).toUInt8, (n >>> 16).toUInt8, (n >>> 24).toUInt8]

/-- The `uint32_t` of some bytes, from the lowest one. -/
def ofLowToHigh (b₀ b₁ b₂ b₃ : UInt8) : UInt32 :=
  UInt32.ofNat (b₀.toNat + 2 ^ 8 * b₁.toNat + 2 ^ 16 * b₂.toNat + 2 ^ 24 * b₃.toNat)

theorem map_toNat_lowToHigh (n : UInt32) :
    (lowToHigh n).map UInt8.toNat =
      [n.toNat % 256, n.toNat / 2 ^ 8 % 256, n.toNat / 2 ^ 16 % 256, n.toNat / 2 ^ 24 % 256] := by
  simp [lowToHigh, UInt32.toNat_shiftRight, Nat.shiftRight_eq_div_pow]

/-- Bytes are compared as numbers. -/
theorem eq_of_map_toNat {bytes bytes' : List UInt8}
    (h : bytes.map UInt8.toNat = bytes'.map UInt8.toNat) : bytes = bytes' :=
  (List.map_inj_right fun _ _ => UInt8.toNat_inj.mp).mp h

/-- A number is determined by its bytes. -/
theorem lowToHigh_injective {n m : UInt32} (h : lowToHigh n = lowToHigh m) : n = m := by
  have hbytes := congrArg (List.map UInt8.toNat) h
  rw [map_toNat_lowToHigh, map_toNat_lowToHigh] at hbytes
  injection hbytes with h₀ hbytes
  injection hbytes with h₁ hbytes
  injection hbytes with h₂ hbytes
  injection hbytes with h₃ _
  have hn := n.toNat_lt
  have hm := m.toNat_lt
  exact UInt32.toNat_inj.mp (by omega)

theorem lowToHigh_ofLowToHigh (b₀ b₁ b₂ b₃ : UInt8) :
    lowToHigh (ofLowToHigh b₀ b₁ b₂ b₃) = [b₀, b₁, b₂, b₃] := by
  have h₀ := b₀.toNat_lt
  have h₁ := b₁.toNat_lt
  have h₂ := b₂.toNat_lt
  have h₃ := b₃.toNat_lt
  have hlt : b₀.toNat + 2 ^ 8 * b₁.toNat + 2 ^ 16 * b₂.toNat + 2 ^ 24 * b₃.toNat < 2 ^ 32 := by
    omega
  apply eq_of_map_toNat
  rw [map_toNat_lowToHigh, ofLowToHigh, UInt32.toNat_ofNat', Nat.mod_eq_of_lt hlt]
  simp only [List.map_cons, List.map_nil, List.cons.injEq, and_true]
  omega

/-- The order in which a host keeps the bytes of a number. -/
inductive ByteOrder where
  | little
  | big
  deriving DecidableEq, Repr

/-- The bytes of a `uint32_t`, in the order of their addresses. -/
def ByteOrder.bytes : ByteOrder → UInt32 → List UInt8
  | .little, n => lowToHigh n
  | .big, n => (lowToHigh n).reverse

theorem bytes_injective (order : ByteOrder) {n m : UInt32}
    (h : order.bytes n = order.bytes m) : n = m := by
  cases order with
  | little => exact lowToHigh_injective h
  | big => exact lowToHigh_injective (List.reverse_inj.mp h)

/-! ## Addresses -/

/-- An address, by its octets. -/
structure Ipv4Address where
  a : UInt8
  b : UInt8
  c : UInt8
  d : UInt8
  deriving DecidableEq, Repr

namespace Ipv4Address

def octets (address : Ipv4Address) : List UInt8 :=
  [address.a, address.b, address.c, address.d]

/-- Dotted decimal. -/
def dotted (address : Ipv4Address) : List Char :=
  joined '.' (address.octets.map UInt8.toNat)

/-- The address in network byte order: the number whose bytes in memory are the octets. -/
def handle (address : Ipv4Address) : ByteOrder → UInt32
  | .little => ofLowToHigh address.a address.b address.c address.d
  | .big => ofLowToHigh address.d address.c address.b address.a

theorem octets_injective {address other : Ipv4Address} (h : address.octets = other.octets) :
    address = other := by
  cases address
  cases other
  simpa [octets] using h

theorem bytes_handle (order : ByteOrder) (address : Ipv4Address) :
    order.bytes (address.handle order) = address.octets := by
  cases order with
  | little => exact lowToHigh_ofLowToHigh ..
  | big =>
    rw [ByteOrder.bytes, handle, lowToHigh_ofLowToHigh]
    rfl

/-- Addresses with one handle are one address. -/
theorem handle_injective (order : ByteOrder) {address other : Ipv4Address}
    (h : address.handle order = other.handle order) : address = other := by
  refine octets_injective ?_
  rw [← bytes_handle order, h, bytes_handle]

end Ipv4Address

/-! ## The functions -/

/-- `inet_ntoa`, for the `in_addr` of a handle. -/
def inetNtoa (order : ByteOrder) (sAddr : UInt32) : List Char :=
  joined '.' ((order.bytes sAddr).map UInt8.toNat)

/-- `IpNumToString`. -/
def ipNumToString (order : ByteOrder) (ipNum : UInt32) : List Char :=
  inetNtoa order ipNum

/-- The handle of an address is printed as the address. -/
theorem ipNumToString_handle (order : ByteOrder) (address : Ipv4Address) :
    ipNumToString order (address.handle order) = address.dotted := by
  rw [ipNumToString, inetNtoa, address.bytes_handle, Ipv4Address.dotted]

theorem map_toNat_bytes_ne_nil (order : ByteOrder) (n : UInt32) :
    (order.bytes n).map UInt8.toNat ≠ [] := by
  cases order with
  | little => exact List.cons_ne_nil _ _
  | big => simp [ByteOrder.bytes, lowToHigh]

/-- The address in a text of four numbers. -/
def readDotted (text : List Char) : Option Ipv4Address :=
  match readJoined '.' text with
  | [a, b, c, d] => some ⟨.ofNat a, .ofNat b, .ofNat c, .ofNat d⟩
  | _ => none

theorem readDotted_dotted (address : Ipv4Address) :
    readDotted address.dotted = some address := by
  have hread : readJoined '.' address.dotted = address.octets.map UInt8.toNat :=
    readJoined_joined (by decide) (by simp [Ipv4Address.octets])
  rw [readDotted, hread]
  simp [Ipv4Address.octets]

end RoboRacer.Driver
