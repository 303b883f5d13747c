import MPing.Spec.Packet
import MPing.Spec.SenderSound

/-!
# What a packet advertises and what the socket does

The addresses, the ports and the ttl are parsed and stored three times: in the socket, in the state
and in the endpoint. The copies agree in every run (`advertises_of_reaches`). The outbound interface
is the exception: an IPv4 socket drops the index that was looked up for its name, so that the
kernel chooses (`advertised_iff`).
-/

namespace MPing.Spec

open Infra World

/-! ## The copies agree -/

/-- The socket that sends `d` does what its packet `p` says, up to the choice of the interface. -/
structure Advertises (platform : Platform) (a : Sender.Arguments) (socket : UdpSocket)
    (d : Datagram) (p : Packet) : Prop where
  decoded : decode d.payload = some p
  bound : ∃ srcHost, platform.makeAddress a.bindAddress = .ok srcHost ∧
    socket.boundTo = some ⟨srcHost, a.bindPort⟩ ∧ p.src = ⟨observeAddress srcHost, a.bindPort⟩
  hops : ∃ hops, socket.hops = some hops ∧ hops.value = p.ttl.toNat
  destination : p.dest = ⟨observeAddress d.destination.address, d.destination.port⟩

/-- The interface selected on the socket is the one that was asked for by name. -/
def SelectsInterface (platform : Platform) (a : Sender.Arguments) (socket : UdpSocket) : Prop :=
  ∃ index, PosixWrapper.ifNametoindex platform a.interface = .ok index ∧
    socket.multicastInterface = some (.byIndex index)

section Advertised

variable {platform : Platform} {a : Sender.Arguments} {pid : UInt32} {es : List Event} {w : World}

/-- Every datagram of a run is the announcement of a beat. -/
theorem mem_sent_of_reaches (h : Sender.Reaches platform a pid es w) {d : Datagram}
    (hd : d ∈ w.sent) :
    ∃ srcHost destHost beat, platform.makeAddress a.bindAddress = .ok srcHost ∧
      d = { payload := (announcement a pid srcHost destHost beat).wire
            destination := ⟨destHost, a.port⟩ } := by
  obtain ⟨w₀, hnew, hrun⟩ := h
  obtain ⟨srcHost, destHost, index, hsrc, -, -, rfl⟩ := Sender.new_ok hnew
  obtain ⟨b, -, hw⟩ := sender_refines_beacon (announces_initial index) hrun
  rw [hw.sent, List.mem_map] at hd
  obtain ⟨beat, -, rfl⟩ := hd
  exact ⟨srcHost, destHost, beat, hsrc, rfl⟩

/-- **The socket does what every packet of a run says**, whatever the families. -/
theorem advertises_of_reaches (h : Sender.Reaches platform a pid es w) {d : Datagram}
    (hd : d ∈ w.sent) : ∃ p, Advertises platform a w.sender.socket.socket d p := by
  obtain ⟨srcHost, destHost, beat, hsrc, rfl⟩ := mem_sent_of_reaches h hd
  obtain ⟨srcHost', _, index, hsrc', -, -, hfixed⟩ := Sender.fixed_of_reaches h
  obtain rfl := Except.ok.inj (hsrc.symm.trans hsrc')
  refine ⟨observe (announcement a pid srcHost destHost beat), decode_wire _, ?_, ?_, rfl⟩
  · exact ⟨srcHost, hsrc, congrArg UdpSocket.boundTo hfixed.socket, rfl⟩
  · exact ⟨.ofByte a.ttl, congrArg UdpSocket.hops hfixed.socket, rfl⟩

/-! ## The interface -/

/-- What is selected in every run: the index on an IPv6 socket, `0.0.0.0` on an IPv4 socket. -/
theorem multicastInterface_of_reaches (h : Sender.Reaches platform a pid es w) :
    ∃ srcHost index, platform.makeAddress a.bindAddress = .ok srcHost ∧
      PosixWrapper.ifNametoindex platform a.interface = .ok index ∧
      w.sender.socket.socket.multicastInterface =
        some (if srcHost.isV4 then .byAddress .any else .byIndex index) := by
  obtain ⟨srcHost, _, index, hsrc, -, hindex, hfixed⟩ := Sender.fixed_of_reaches h
  have hselected := congrArg UdpSocket.multicastInterface hfixed.socket
  refine ⟨srcHost, index, hsrc, hindex, hselected.trans ?_⟩
  simp only [configuredSocket, Endpoint.protocol]
  cases srcHost <;> rfl

theorem selectsInterface_iff (h : Sender.Reaches platform a pid es w) :
    SelectsInterface platform a w.sender.socket.socket ↔
      ∃ address, platform.makeAddress a.bindAddress = .ok (.v6 address) := by
  obtain ⟨srcHost, index, hsrc, hindex, hselected⟩ := multicastInterface_of_reaches h
  cases srcHost with
  | v4 address => simp [SelectsInterface, hselected, hsrc, Address.isV4]
  | v6 address => simp [SelectsInterface, hselected, hsrc, hindex, Address.isV4]

end Advertised

/-- A sender that was constructed sends a packet once its first wait is over. -/
theorem exists_sent {platform : Platform} {a : Sender.Arguments} {pid : UInt32} {w₀ : World}
    (h : Sender.new platform a pid = .ok w₀) :
    ∃ es w, run (World.step platform) w₀ es = some w ∧ w.sent ≠ [] := by
  obtain ⟨srcHost, destHost, index, -, -, -, rfl⟩ := Sender.new_ok h
  refine ⟨[.timerCompleted ⟨0⟩ 0], _, rfl, ?_⟩
  rw [World.dispatch_of_ok (exec_timerHandler_of_ok rfl 0 _)]
  exact ne_of_eq_of_ne (sent_expired _ 0) (by simp)

/--
**What the payload advertises is what the socket does, exactly on IPv6 sockets.**

The property speaks of every datagram of every run. Bound address, hop limit and destination agree
for both families; the interface whose name was given is selected only if the bind address is an
IPv6 address.
-/
theorem advertised_iff {platform : Platform} {a : Sender.Arguments} {pid : UInt32} {w₀ : World}
    (h : Sender.new platform a pid = .ok w₀) :
    (∀ es w, run (World.step platform) w₀ es = some w → ∀ d ∈ w.sent,
      (∃ p, Advertises platform a w.sender.socket.socket d p) ∧
        SelectsInterface platform a w.sender.socket.socket) ↔
      ∃ address, platform.makeAddress a.bindAddress = .ok (.v6 address) := by
  constructor
  · intro hall
    obtain ⟨es, w, hrun, hsent⟩ := exists_sent h
    obtain ⟨d, hd⟩ := List.exists_mem_of_ne_nil _ hsent
    exact (selectsInterface_iff ⟨w₀, h, hrun⟩).mp (hall es w hrun d hd).2
  · intro hv6 es w hrun d hd
    exact ⟨advertises_of_reaches ⟨w₀, h, hrun⟩ hd, (selectsInterface_iff ⟨w₀, h, hrun⟩).mpr hv6⟩

/-- On an IPv6 socket the interface `eth0` is selected for every packet. -/
theorem advertised_ipv6 :
    ∃ w₀, Sender.new .sample .sample 7 = .ok w₀ ∧
      ∀ es w, run (World.step .sample) w₀ es = some w → ∀ d ∈ w.sent,
        (∃ p, Advertises .sample .sample w.sender.socket.socket d p) ∧
          SelectsInterface .sample .sample w.sender.socket.socket :=
  ⟨_, rfl, (advertised_iff rfl).mpr ⟨_, rfl⟩⟩

/-- With an IPv4 bind address the packets leave through whichever interface the kernel chooses. -/
theorem ipv4_interface_ignored :
    ∃ w₀, Sender.new .sample .sampleV4 7 = .ok w₀ ∧
      (∃ es w, run (World.step .sample) w₀ es = some w ∧ w.sent ≠ [] ∧
        PosixWrapper.ifNametoindex .sample "eth0" = .ok 2 ∧
        w.sender.socket.socket.multicastInterface = some (.byAddress .any)) ∧
      ¬ ∀ es w, run (World.step .sample) w₀ es = some w → ∀ d ∈ w.sent,
        (∃ p, Advertises .sample .sampleV4 w.sender.socket.socket d p) ∧
          SelectsInterface .sample .sampleV4 w.sender.socket.socket := by
  obtain ⟨w₀, hnew⟩ : ∃ w₀, Sender.new .sample .sampleV4 7 = .ok w₀ := ⟨_, rfl⟩
  obtain ⟨es, w, hrun, hsent⟩ := exists_sent hnew
  obtain ⟨srcHost, index, hsrc, hindex, hselected⟩ := multicastInterface_of_reaches ⟨w₀, hnew, hrun⟩
  obtain rfl := Except.ok.inj hsrc
  refine ⟨w₀, hnew, ⟨es, w, hrun, hsent, rfl, hselected⟩, fun hall => ?_⟩
  obtain ⟨d, hd⟩ := List.exists_mem_of_ne_nil _ hsent
  obtain ⟨index', -, heq⟩ := (hall es w hrun d hd).2
  rw [hselected] at heq
  cases heq

end MPing.Spec
