import MPing.Infra.Stateful
import MPing.Net.IoObject

/-!
# `MulticastTxSocket`

The sending socket (`multicast_tx_socket.cpp`) and the wrapper it uses to look up an interface
(`posix_wrapper.cpp`). Sending and its handler are in `MPing.Sender.Sender`, where the event loop
is.

`MulticastTxSocket.new_ok` says everything about a socket the constructor returned.
-/

namespace MPing

open Infra

/-- `std::function<void(boost::system::error_code)>`: a handler may throw. -/
abbrev ErrorHandler := ErrorCode → Except Exception Unit

/-! ## The interface -/

/-- What a C function sees of `s.c_str()`: everything before the first zero. -/
def cStr (s : String) : String := String.ofList (s.toList.takeWhile (· != '\x00'))

/-- `PosixWrapper::if_nametoindex`. -/
def PosixWrapper.ifNametoindex (platform : Platform) (ifname : String) :
    Except Exception UInt32 :=
  let (result, errno) := platform.ifNametoindex (cStr ifname)
  if result = 0 then .error (.systemError ⟨errno⟩ "Failed to get interface index.")
  else .ok result

/-! ## The socket -/

structure MulticastTxSocket where
  socket : UdpSocket
  errorHandler : ErrorHandler

namespace MulticastTxSocket

/-- The constructor. -/
def new (platform : Platform) (errorHandler : ErrorHandler) (endpoint : Endpoint) (hops : Hops)
    (interface : String) : Except Exception MulticastTxSocket := do
  let socket ← UdpSocket.new platform endpoint.protocol
  let socket ← socket.setOption platform (.reuseAddress true)
  let index ← PosixWrapper.ifNametoindex platform interface
  let socket ← socket.setOption platform (.outboundInterface (.ofIndex index))
  let socket ← socket.setOption platform (.enableLoopback true)
  let socket ← socket.setOption platform (.hops hops)
  let socket ← socket.setOption platform (.receiveBufferSize 0)
  let socket ← socket.bind platform endpoint
  return { socket, errorHandler }

end MulticastTxSocket

/-! ## What the constructor returns -/

theorem UdpSocket.new_ok {platform : Platform} {protocol : Protocol} {s : UdpSocket}
    (h : UdpSocket.new platform protocol = .ok s) : s = { protocol } := by
  obtain ⟨_, _, h⟩ := except_bind_eq_ok.mp h
  exact (Except.ok.inj h).symm

theorem UdpSocket.setOption_ok {platform : Platform} {option : SocketOption} {s s' : UdpSocket}
    (h : s.setOption platform option = .ok s') : s' = s.withOption option := by
  obtain ⟨_, _, h⟩ := except_bind_eq_ok.mp h
  exact (Except.ok.inj h).symm

theorem UdpSocket.bind_ok {platform : Platform} {endpoint : Endpoint} {s s' : UdpSocket}
    (h : s.bind platform endpoint = .ok s') : s' = { s with boundTo := some endpoint } := by
  obtain ⟨_, _, h⟩ := except_bind_eq_ok.mp h
  exact (Except.ok.inj h).symm

/-- The interface an index selects on a socket of a family. An IPv4 socket ignores the index. -/
def selectedInterface (index : UInt32) : Protocol → MulticastInterface
  | .v4 => .byAddress .any
  | .v6 => .byIndex index

/-- The socket the constructor leaves behind. -/
def configuredSocket (endpoint : Endpoint) (hops : Hops) (index : UInt32) : UdpSocket where
  protocol := endpoint.protocol
  reuseAddress := some true
  multicastInterface := some (selectedInterface index endpoint.protocol)
  loopback := some true
  hops := some hops
  receiveBufferSize := some 0
  boundTo := some endpoint

/-- **What is known of a socket the constructor returned.** -/
theorem MulticastTxSocket.new_ok {platform : Platform} {errorHandler : ErrorHandler}
    {endpoint : Endpoint} {hops : Hops} {interface : String} {s : MulticastTxSocket}
    (h : MulticastTxSocket.new platform errorHandler endpoint hops interface = .ok s) :
    ∃ index, PosixWrapper.ifNametoindex platform interface = .ok index ∧
      s = { socket := configuredSocket endpoint hops index, errorHandler } := by
  simp only [MulticastTxSocket.new, except_bind_eq_ok] at h
  obtain ⟨s₀, h₀, s₁, h₁, index, hindex, s₂, h₂, s₃, h₃, s₄, h₄, s₅, h₅, s₆, h₆, h⟩ := h
  obtain rfl := UdpSocket.new_ok h₀
  obtain rfl := UdpSocket.setOption_ok h₁
  obtain rfl := UdpSocket.setOption_ok h₂
  obtain rfl := UdpSocket.setOption_ok h₃
  obtain rfl := UdpSocket.setOption_ok h₄
  obtain rfl := UdpSocket.setOption_ok h₅
  obtain rfl := UdpSocket.bind_ok h₆
  refine ⟨index, hindex, ?_⟩
  rw [← Except.ok.inj h]
  simp only [UdpSocket.withOption, configuredSocket, OutboundInterface.ofIndex]
  cases endpoint.protocol <;> rfl

end MPing
