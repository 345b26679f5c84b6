/-
  Driver/SdkLayout.lean --- one Livox SDK header and one float arithmetic.

  The driver is modelled over any `LivoxSdk`; the concrete runs of this project
  use the packed little-endian structs of the SDK and double coordinates.
-/
import RoboRacer.Driver.CustomMsg

set_option autoImplicit false

namespace RoboRacer.Driver

namespace SdkLayout

/-- The unsigned little-endian number in the `width` bytes at `offset`. -/
def unsignedAt (raw : List UInt8) (offset width : Nat) : Nat :=
  ((raw.drop offset).take width).foldr (fun byte acc => byte.toNat + 256 * acc) 0

/-- The same bytes as a two's complement number. -/
def signedAt (raw : List UInt8) (offset width : Nat) : Int :=
  (BitVec.ofNat (8 * width) (unsignedAt raw offset width)).toInt

def byteAt (raw : List UInt8) (offset : Nat) : UInt8 := raw.getD offset 0

/-- A packed Cartesian point with coordinates of `width` bytes. -/
def cartesianAt (width : Nat) (raw : List UInt8) (i : Nat) : CartesianRawPoint :=
  let offset := (3 * width + 2) * i
  { x := signedAt raw offset width
    y := signedAt raw (offset + width) width
    z := signedAt raw (offset + 2 * width) width
    reflectivity := byteAt raw (offset + 3 * width)
    tag := byteAt raw (offset + 3 * width + 1) }

/-- A packed spherical point: a depth of four bytes and two angles of two. -/
def sphericalAt (raw : List UInt8) (i : Nat) : SpherRawPoint :=
  let offset := 10 * i
  { depth := unsignedAt raw offset 4
    theta := unsignedAt raw (offset + 4) 2
    phi := unsignedAt raw (offset + 6) 2
    reflectivity := byteAt raw (offset + 8)
    tag := byteAt raw (offset + 9) }

/-- The little-endian float in the four bytes at `offset`. -/
def floatAt (raw : List UInt8) (offset : Nat) : Float :=
  (Float32.ofBits (UInt32.ofNat (unsignedAt raw offset 4))).toFloat

end SdkLayout

instance livoxSdk2 : LivoxSdk where
  rawHigh := SdkLayout.cartesianAt 4
  rawLow := SdkLayout.cartesianAt 2
  rawSpher := SdkLayout.sphericalAt
  kLivoxLidarImuData := 0
  kLivoxLidarCartesianCoordinateHighData := 1
  kLivoxLidarCartesianCoordinateLowData := 2
  kLivoxLidarSphericalCoordinateData := 3
  kLivoxLidarTypeIndustrialHAP := 10
  kLivoxLidarTypeMid360 := 9
  sizeofEthernetPacket := 37

instance floatTrig : Trig Float where
  sin := Float.sin
  cos := Float.cos
  pi := 3.14159265358979323846

instance floatIntCast : IntCast Float where
  intCast := Float.ofInt

instance floatReadImu : ReadImu Float where
  rawImu raw :=
    { gyroX := SdkLayout.floatAt raw 0
      gyroY := SdkLayout.floatAt raw 4
      gyroZ := SdkLayout.floatAt raw 8
      accX := SdkLayout.floatAt raw 12
      accY := SdkLayout.floatAt raw 16
      accZ := SdkLayout.floatAt raw 20 }

instance floatToByte : ToByte Float where
  toByte := Float.toUInt8

end RoboRacer.Driver
