/-!
# The values of Boost.Asio the program handles

Addresses, endpoints and error codes, and the exceptions that travel through the program.
Only what `src/` reads of them is here: an address is its bytes (and, for IPv6, its scope id), an
error code is its value.
-/

namespace MPing

/-! ## Errors -/

/-- `boost::system::error_code`. -/
structure ErrorCode where
  value : Int
deriving DecidableEq, Repr

/-- The contextual conversion to `bool` in `if (ec)`. -/
def ErrorCode.failed (ec : ErrorCode) : Bool := ec.value != 0

/-- `boost::asio::error::operation_aborted` (`ECANCELED`). -/
def ErrorCode.operationAborted : ErrorCode := ⟨125⟩

/--
What a call may end with instead of a value.

`signedOverflow` is not a C++ exception: it marks a computation that leaves the range of `int64_t`,
which is undefined behaviour in C++. Every signed operation of the model is checked for it.
-/
inductive Exception where
  | invalidArgument (what : String)
  | outOfRange (what : String)
  | runtimeError (what : String)
  | systemError (ec : ErrorCode) (what : String)
  | badAddressCast
  | signedOverflow
deriving DecidableEq, Repr

/-! ## Addresses -/

/-- `boost::asio::ip::address_v4`. -/
structure AddressV4 where
  toBytes : Vector UInt8 4
deriving DecidableEq, Repr

/-- `boost::asio::ip::address_v6`. The scope id is not part of `to_bytes()`. -/
structure AddressV6 where
  toBytes : Vector UInt8 16
  scopeId : UInt32
deriving DecidableEq, Repr

/-- `0.0.0.0`. -/
def AddressV4.any : AddressV4 := ⟨Vector.replicate 4 0⟩

/-- `boost::asio::ip::address`: one of the two. -/
inductive Address where
  | v4 (address : AddressV4)
  | v6 (address : AddressV6)
deriving DecidableEq, Repr

namespace Address

/-- A default-constructed `address` is the unspecified IPv4 address. -/
instance : Inhabited Address := ⟨.v4 .any⟩

def isV4 : Address → Bool
  | .v4 _ => true
  | .v6 _ => false

def isV6 : Address → Bool
  | .v4 _ => false
  | .v6 _ => true

/-- `to_v4()`, which throws `bad_address_cast` on an IPv6 address. -/
def toV4 : Address → Except Exception AddressV4
  | .v4 a => .ok a
  | .v6 _ => .error .badAddressCast

/-- `to_v6()`, which throws `bad_address_cast` on an IPv4 address. -/
def toV6 : Address → Except Exception AddressV6
  | .v4 _ => .error .badAddressCast
  | .v6 a => .ok a

end Address

/-- `boost::asio::ip::udp::endpoint`. -/
structure Endpoint where
  address : Address
  port : UInt16
deriving DecidableEq, Repr

/-- The protocol a socket is opened with. -/
inductive Protocol where
  | v4
  | v6
deriving DecidableEq, Repr

/-- `endpoint.protocol()`. -/
def Endpoint.protocol (e : Endpoint) : Protocol :=
  if e.address.isV4 then .v4 else .v6

end MPing
