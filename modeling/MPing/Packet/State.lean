import MPing.Packet.NetworkSerialization

/-!
# `MPingState`

The state of a sender or receiver and its packet (`mping_state.hpp`, `mping_state.cpp`).

`std::chrono::steady_clock` counts nanoseconds in a signed 64-bit integer, so a time point is an
`Int64` and every operation on it is checked (`int64`). The clock and the random generator are
outside the program: a reading of the clock and the drawn pid are arguments.
-/

namespace MPing

open Infra

/-! ## Durations -/

/-- A signed 64-bit result; outside the range the C++ computation is undefined. -/
def int64 (x : Int) : Except Exception Int64 :=
  if -2 ^ 63 ≤ x ∧ x < 2 ^ 63 then .ok (Int64.ofInt x) else .error .signedOverflow

/-- `duration_cast` to a period `k` times as long: a division that truncates toward zero. -/
def durationCast (k : Int) (d : Int64) : Except Exception Int64 := int64 (d.toInt.tdiv k)

def nanosecondsPerSecond : Int := 1000000000

def nanosecondsPerMicrosecond : Int := 1000

/-! ## The state -/

/-- `MPING_STATE_TYPE`. -/
inductive MPingStateType where
  | sender
  | receiver
deriving DecidableEq, Repr

/-- `std::to_underlying`: `'s'` and `'r'`. -/
def MPingStateType.toUnderlying : MPingStateType → UInt8
  | .sender => 0x73
  | .receiver => 0x72

structure MPingState where
  type : MPingStateType
  ttl : UInt8
  srcHost : Address
  srcPort : UInt16
  destHost : Address
  destPort : UInt16
  sequenceNumber : UInt32
  pid : UInt32
  tv : Int64
deriving DecidableEq, Repr

namespace MPingState

/-- The default constructor. -/
instance : Inhabited MPingState where
  default :=
    { type := .sender, ttl := 0, srcHost := default, srcPort := 0, destHost := default,
      destPort := 0, sequenceNumber := 0, pid := 0, tv := 0 }

/-- The constructor that draws its pid. The distribution covers all of `uint32_t`. -/
def new (type : MPingStateType) (ttl : UInt8) (srcHost : Address) (srcPort : UInt16)
    (destHost : Address) (destPort : UInt16) (pid : UInt32) : MPingState :=
  { type, ttl, srcHost, srcPort, destHost, destPort, sequenceNumber := 0, pid, tv := 0 }

def nextSeqNo (s : MPingState) : MPingState :=
  if s.sequenceNumber = 0xFFFFFFFF then { s with sequenceNumber := 0 }
  else { s with sequenceNumber := s.sequenceNumber + 1 }

/-- `now` is what `steady_clock::now()` returns. -/
def setCurrentTime (s : MPingState) (now : Int64) : MPingState := { s with tv := now }

def getSeconds (s : MPingState) : Except Exception Int64 := durationCast nanosecondsPerSecond s.tv

/-- `duration - seconds` is computed in nanoseconds, the common type of the two. -/
def getMicroseconds (s : MPingState) : Except Exception Int64 := do
  let duration := s.tv
  let seconds ← durationCast nanosecondsPerSecond duration
  let secondsInNanoseconds ← int64 (seconds.toInt * nanosecondsPerSecond)
  let remaining ← int64 (duration.toInt - secondsInNanoseconds.toInt)
  durationCast nanosecondsPerMicrosecond remaining

/-! ## The packet -/

/-- `std::to_array(MPING_STATE_VERSION)`: `"2.0"` and its terminating zero. -/
def mstateVersion : Bytes := [0x32, 0x2E, 0x30, 0x00]

/-- Appends a host. The last branch is unreachable for a value of `Address`. -/
def appendHost (native : Endian) (what : String) (host : Address) (port : UInt16)
    (result : Bytes) : Except Exception Bytes :=
  if host.isV6 then do
    let address ← host.toV6
    return result ++ ipv6ToSockaddrStorage native address port
  else if host.isV4 then do
    let address ← host.toV4
    return result ++ ipv4ToSockaddrStorage native address port
  else throw (.invalidArgument what)

def serialize (native : Endian) (s : MPingState) : Except Exception Bytes := do
  let result : Bytes := []
  -- Ver
  let result := result ++ mstateVersion
  -- T
  let result := result ++ [s.type.toUnderlying]
  -- L
  let ttl := toByteArray native 1 (toBigendian native 1 s.ttl.toBitVec)
  let result := result ++ ttl
  let twoNullCharacters : Bytes := [0, 0]
  let result := result ++ twoNullCharacters
  let result ← appendHost native "Invalid source address" s.srcHost s.srcPort result
  let result ← appendHost native "Invalid destination address" s.destHost s.destPort result
  -- Seq
  let seq := toByteArray native 4 (toBigendian native 4 s.sequenceNumber.toBitVec)
  let result := result ++ seq
  -- PID
  let pid := toByteArray native 4 (toBigendian native 4 s.pid.toBitVec)
  let result := result ++ pid
  -- Seconds and Microseconds: the casts to `uint64_t` keep the bits
  let seconds ← s.getSeconds
  let result := result ++ toByteArray native 8 (toBigendian native 8 seconds.toUInt64.toBitVec)
  let microseconds ← s.getMicroseconds
  return result ++ toByteArray native 8 (toBigendian native 8 microseconds.toUInt64.toBitVec)

end MPingState

end MPing
