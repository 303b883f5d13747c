import MPing.Infra.Bytes
import MPing.Infra.Slice
import MPing.Net.Asio

/-!
# `network_serialization.hpp`

The byte order of the host is a parameter: `std::endian::native` is decided when the program is
compiled, and the `if constexpr` of `to_bigendian` / `to_littleendian` keeps one branch.

A template argument `T` with `std::integral T` is a width of `n` bytes, its value a
`BitVec (8 * n)`.
-/

namespace MPing

open Infra

/-! ## Byte order -/

/-- `std::endian`. The `requires` clauses exclude hosts that are neither. -/
inductive Endian where
  | little
  | big
deriving DecidableEq, Repr

/-- `std::byteswap`: the value whose bytes are those of `x` in reverse. -/
def byteswap (n : Nat) (x : BitVec (8 * n)) : BitVec (8 * n) :=
  BitVec.ofNat (8 * n) (ofLittleEndian (littleEndian n x.toNat).reverse)

def toBigendian (native : Endian) (n : Nat) (host : BitVec (8 * n)) : BitVec (8 * n) :=
  if native = .little then byteswap n host else host

def toLittleendian (native : Endian) (n : Nat) (host : BitVec (8 * n)) : BitVec (8 * n) :=
  if native = .big then byteswap n host else host

/-- `std::bit_cast` to an array of bytes: the bytes of `i` in the order memory holds them. -/
def toByteArray (native : Endian) (n : Nat) (i : BitVec (8 * n)) : Bytes :=
  match native with
  | .little => littleEndian n i.toNat
  | .big => bigEndian n i.toNat

/-! ## Socket addresses -/

/-- `std::ranges::copy(src, it)`: the array after the copy, and the iterator behind it. -/
def rangesCopy (result : Bytes) (it : Nat) (src : Bytes) : Bytes × Nat :=
  (overwrite result it src, it + src.length)

/--
The common body of `ipv6_to_sockaddr_storage` and `ipv4_to_sockaddr_storage`.

`std::advance(it, 4)` runs in both, so the address starts at offset 8 whatever its family.
-/
def toSockaddrStorage (native : Endian) (typeInt : BitVec 16) (addressBytes : Bytes)
    (port : UInt16) : Bytes :=
  let result : Bytes := List.replicate 128 0
  let it := 0
  let (result, it) := rangesCopy result it (toByteArray native 2 (toLittleendian native 2 typeInt))
  let portBytes := toByteArray native 2 (toBigendian native 2 port.toBitVec)
  let (result, it) := rangesCopy result it portBytes
  let it := it + 4
  (rangesCopy result it addressBytes).1

def ipv6ToSockaddrStorage (native : Endian) (address : AddressV6) (port : UInt16) : Bytes :=
  toSockaddrStorage native 10 address.toBytes.toList port

def ipv4ToSockaddrStorage (native : Endian) (address : AddressV4) (port : UInt16) : Bytes :=
  toSockaddrStorage native 2 address.toBytes.toList port

/-! ## The byte order of the host does not show -/

/-- The bytes of a swapped value are the bytes of the value, reversed. -/
theorem littleEndian_byteswap (n : Nat) (x : BitVec (8 * n)) :
    littleEndian n (byteswap n x).toNat = bigEndian n x.toNat := by
  have hpow : 2 ^ (8 * n) = 256 ^ n := by rw [Nat.pow_mul]
  have h := littleEndian_ofLittleEndian (bigEndian n x.toNat)
  rw [length_bigEndian] at h
  rw [byteswap, BitVec.toNat_ofNat, hpow, littleEndian_mod]
  exact h

/-- **`to_byte_array(to_bigendian(x))` is most significant byte first on every host.** -/
theorem toByteArray_toBigendian (native : Endian) (n : Nat) (x : BitVec (8 * n)) :
    toByteArray native n (toBigendian native n x) = bigEndian n x.toNat := by
  cases native with
  | little => simp [toByteArray, toBigendian, littleEndian_byteswap]
  | big => simp [toByteArray, toBigendian]

/-- **`to_byte_array(to_littleendian(x))` is least significant byte first on every host.** -/
theorem toByteArray_toLittleendian (native : Endian) (n : Nat) (x : BitVec (8 * n)) :
    toByteArray native n (toLittleendian native n x) = littleEndian n x.toNat := by
  cases native with
  | little => simp [toByteArray, toLittleendian]
  | big => simp [toByteArray, toLittleendian, bigEndian, littleEndian_byteswap]

/-! ## The layout of a socket address -/

/--
**What `toSockaddrStorage` leaves in the array.**

Family, port, the four bytes `std::advance` steps over, the address, and zeros up to 128 bytes.
-/
theorem toSockaddrStorage_eq (native : Endian) (typeInt : BitVec 16) (addressBytes : Bytes)
    (port : UInt16) :
    toSockaddrStorage native typeInt addressBytes port
      = littleEndian 2 typeInt.toNat ++ bigEndian 2 port.toNat ++ List.replicate 4 0
          ++ addressBytes ++ List.replicate (120 - addressBytes.length) 0 := by
  have h0 : (List.replicate 128 0 : Bytes) = [] ++ List.replicate 128 0 := rfl
  simp only [toSockaddrStorage, rangesCopy]
  rw [toByteArray_toBigendian, toByteArray_toLittleendian, h0,
    overwrite_fill (k := 0) (by simp) (by omega), overwrite_fill (k := 0) (by simp) (by simp),
    overwrite_fill (k := 4) (by simp) (by simp)]
  simp

end MPing
