import MPing.Packet.State

/-!
# The I/O objects of Boost.Asio the program uses

A UDP socket with the options the program sets, and a steady timer. The operating system is a
parameter (`Platform`): it may answer any call with an error, and an error becomes the exception
Asio throws.

Operations that complete later stay with their object until the event loop runs their handler:
sends in `UdpSocket.pending`, waits in `SteadyTimer`.
-/

namespace MPing

open Infra

/-! ## Socket options -/

/-- `ip::multicast::hops`. A value outside a byte cannot be built. -/
structure Hops where
  value : Int
  lower : 0 ≤ value
  upper : value ≤ 255
deriving DecidableEq, Repr

/-- The constructor of `ip::multicast::hops`. -/
def Hops.new (v : Int) : Except Exception Hops :=
  if h : 0 ≤ v ∧ v ≤ 255 then .ok ⟨v, h.1, h.2⟩
  else .error (.outOfRange "multicast hops value out of range")

/-- `ip::multicast::outbound_interface` holds one value for either family. -/
structure OutboundInterface where
  ipv4Value : AddressV4
  ipv6Value : UInt32
deriving DecidableEq, Repr

/-- The constructor from an interface index: the IPv4 value is `address_v4::any()`. -/
def OutboundInterface.ofIndex (index : UInt32) : OutboundInterface := ⟨.any, index⟩

inductive SocketOption where
  | reuseAddress (on : Bool)
  | outboundInterface (interface : OutboundInterface)
  | enableLoopback (on : Bool)
  | hops (hops : Hops)
  | receiveBufferSize (size : Int)
deriving DecidableEq, Repr

/-- How the interface for multicast was selected: `IP_MULTICAST_IF` or `IPV6_MULTICAST_IF`. -/
inductive MulticastInterface where
  | byAddress (address : AddressV4)
  | byIndex (index : UInt32)
deriving DecidableEq, Repr

/-! ## The platform -/

inductive SocketCall where
  | openSocket (protocol : Protocol)
  | setOption (protocol : Protocol) (option : SocketOption)
  | bind (protocol : Protocol) (endpoint : Endpoint)

/-- What the program asks of its environment while it starts. -/
structure Platform where
  /-- `std::endian::native`. -/
  native : Endian
  /-- `ip::make_address`. -/
  makeAddress : String → Except Exception Address
  /-- `::if_nametoindex`: the return value, and `errno` after the call. -/
  ifNametoindex : String → UInt32 × Int
  /-- The answer of the operating system to a socket call. -/
  answer : SocketCall → ErrorCode

/-- `boost::asio::detail::throw_error`. -/
def throwIfFailed (ec : ErrorCode) (what : String) : Except Exception Unit :=
  if ec.failed then .error (.systemError ec what) else .ok ()

/-! ## Sockets -/

structure Datagram where
  payload : Bytes
  destination : Endpoint
deriving DecidableEq, Repr

/--
`ip::udp::socket`. An option is `none` until the program sets it.

`boundTo` is the endpoint the program asked for. For port 0 the system picks a port of its own
choice, which the program never asks for and the model does not know.
-/
structure UdpSocket where
  protocol : Protocol
  reuseAddress : Option Bool := none
  multicastInterface : Option MulticastInterface := none
  loopback : Option Bool := none
  hops : Option Hops := none
  receiveBufferSize : Option Int := none
  boundTo : Option Endpoint := none
  /-- Sends whose handler has not run yet. -/
  pending : List Datagram := []
deriving DecidableEq, Repr

namespace UdpSocket

/-- The constructor that opens the socket. -/
def new (platform : Platform) (protocol : Protocol) : Except Exception UdpSocket := do
  throwIfFailed (platform.answer (.openSocket protocol)) "open"
  return { protocol }

/-- What an option does to a socket. Only the outbound interface asks for the family. -/
def withOption (s : UdpSocket) : SocketOption → UdpSocket
  | .reuseAddress on => { s with reuseAddress := some on }
  | .outboundInterface i =>
    match s.protocol with
    | .v4 => { s with multicastInterface := some (.byAddress i.ipv4Value) }
    | .v6 => { s with multicastInterface := some (.byIndex i.ipv6Value) }
  | .enableLoopback on => { s with loopback := some on }
  | .hops h => { s with hops := some h }
  | .receiveBufferSize size => { s with receiveBufferSize := some size }

def setOption (platform : Platform) (option : SocketOption) (s : UdpSocket) :
    Except Exception UdpSocket := do
  throwIfFailed (platform.answer (.setOption s.protocol option)) "set_option"
  return s.withOption option

/-- Records the endpoint asked for, with port 0 where the choice is left to the system. -/
def bind (platform : Platform) (endpoint : Endpoint) (s : UdpSocket) :
    Except Exception UdpSocket := do
  throwIfFailed (platform.answer (.bind s.protocol endpoint)) "bind"
  return { s with boundTo := some endpoint }

def asyncSendTo (d : Datagram) (s : UdpSocket) : UdpSocket := { s with pending := s.pending ++ [d] }

end UdpSocket

/-! ## Timers -/

/-- `steady_timer`: waits that still run, and waits that were cancelled. -/
structure SteadyTimer where
  pending : Nat := 0
  aborted : Nat := 0
deriving DecidableEq, Repr

namespace SteadyTimer

/-- Setting the expiry cancels every wait; each handler will see `operation_aborted`. -/
def expiresAfter (t : SteadyTimer) : SteadyTimer :=
  { pending := 0, aborted := t.aborted + t.pending }

def asyncWait (t : SteadyTimer) : SteadyTimer := { t with pending := t.pending + 1 }

end SteadyTimer

end MPing
