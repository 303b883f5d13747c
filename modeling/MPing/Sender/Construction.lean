import MPing.Sender.Step

/-!
# When a sender can be constructed

The constructor parses two addresses, looks up an interface, opens a socket and sets it up; each of
these may throw. `Sender.new_eq_ok_iff` says what has to be so for none of them to.
-/

namespace MPing

open Infra Infra.Stateful

/-! ## The calls on the socket -/

/-- A call that returns a socket unless the system refuses it. -/
theorem throwIfFailed_bind_eq_ok {ec : ErrorCode} {what : String} {s s' : UdpSocket} :
    (throwIfFailed ec what >>= fun _ => pure s) = .ok s' ↔ ec.failed = false ∧ s' = s := by
  unfold throwIfFailed
  cases ec.failed with
  | true => simp [bind, Except.bind]
  | false => simpa [bind, Except.bind, pure, Except.pure] using eq_comm

theorem UdpSocket.new_eq_ok {platform : Platform} {protocol : Protocol} {s : UdpSocket} :
    UdpSocket.new platform protocol = .ok s ↔
      (platform.answer (.openSocket protocol)).failed = false ∧ s = { protocol } :=
  throwIfFailed_bind_eq_ok

theorem UdpSocket.setOption_eq_ok {platform : Platform} {option : SocketOption}
    {s s' : UdpSocket} :
    s.setOption platform option = .ok s' ↔
      (platform.answer (.setOption s.protocol option)).failed = false ∧
        s' = s.withOption option :=
  throwIfFailed_bind_eq_ok

theorem UdpSocket.bind_eq_ok {platform : Platform} {endpoint : Endpoint} {s s' : UdpSocket} :
    s.bind platform endpoint = .ok s' ↔
      (platform.answer (.bind s.protocol endpoint)).failed = false ∧
        s' = { s with boundTo := some endpoint } :=
  throwIfFailed_bind_eq_ok

/-- No option changes the family of a socket. -/
@[simp] theorem UdpSocket.protocol_withOption (s : UdpSocket) (option : SocketOption) :
    (s.withOption option).protocol = s.protocol := by
  cases option with
  | outboundInterface i =>
    unfold UdpSocket.withOption
    dsimp only
    split <;> rfl
  | reuseAddress | enableLoopback | hops | receiveBufferSize => rfl

theorem PosixWrapper.ifNametoindex_eq_ok {platform : Platform} {ifname : String}
    {index : UInt32} :
    PosixWrapper.ifNametoindex platform ifname = .ok index ↔
      (platform.ifNametoindex (cStr ifname)).1 = index ∧ index ≠ 0 := by
  unfold PosixWrapper.ifNametoindex
  rcases platform.ifNametoindex (cStr ifname) with ⟨result, errno⟩
  by_cases hresult : result = 0
  · simp only [hresult, if_true]
    refine iff_of_false (by simp) ?_
    rintro ⟨rfl, hne⟩
    exact hne rfl
  · simp only [hresult, if_false, Except.ok.injEq]
    constructor
    · rintro rfl
      exact ⟨rfl, hresult⟩
    · exact And.left

/-! ## The constructors -/

/-- The calls of the constructor of the socket, in order. -/
def socketCalls (endpoint : Endpoint) (hops : Hops) (index : UInt32) : List SocketCall :=
  let protocol := endpoint.protocol
  [.openSocket protocol, .setOption protocol (.reuseAddress true),
    .setOption protocol (.outboundInterface (.ofIndex index)),
    .setOption protocol (.enableLoopback true), .setOption protocol (.hops hops),
    .setOption protocol (.receiveBufferSize 0), .bind protocol endpoint]

/-- The socket is there exactly if the interface was found and no call failed. -/
theorem MulticastTxSocket.exists_new {platform : Platform} (errorHandler : ErrorHandler)
    {endpoint : Endpoint} {hops : Hops} {interface : String} {index : UInt32}
    (hindex : PosixWrapper.ifNametoindex platform interface = .ok index) :
    (∃ s, MulticastTxSocket.new platform errorHandler endpoint hops interface = .ok s) ↔
      ∀ call ∈ socketCalls endpoint hops index, (platform.answer call).failed = false := by
  simp only [socketCalls, List.forall_mem_cons, List.not_mem_nil, false_implies, implies_true,
    and_true]
  simp only [MulticastTxSocket.new, except_bind_eq_ok, hindex, Except.ok.injEq,
    exists_eq_left', UdpSocket.new_eq_ok, UdpSocket.setOption_eq_ok, UdpSocket.bind_eq_ok]
  constructor
  · rintro ⟨s, _, ⟨h₀, rfl⟩, _, ⟨h₁, rfl⟩, _, ⟨h₂, rfl⟩, _, ⟨h₃, rfl⟩, _, ⟨h₄, rfl⟩, _, ⟨h₅, rfl⟩,
      _, ⟨h₆, rfl⟩, -⟩
    simp only [UdpSocket.protocol_withOption] at h₁ h₂ h₃ h₄ h₅ h₆
    exact ⟨h₀, h₁, h₂, h₃, h₄, h₅, h₆⟩
  · rintro ⟨h₀, h₁, h₂, h₃, h₄, h₅, h₆⟩
    refine ⟨_, _, ⟨h₀, rfl⟩, _, ⟨h₁, rfl⟩, _, ⟨?_, rfl⟩, _, ⟨?_, rfl⟩, _, ⟨?_, rfl⟩, _, ⟨?_, rfl⟩,
      _, ⟨?_, rfl⟩, rfl⟩
    · simpa only [UdpSocket.protocol_withOption] using h₂
    · simpa only [UdpSocket.protocol_withOption] using h₃
    · simpa only [UdpSocket.protocol_withOption] using h₄
    · simpa only [UdpSocket.protocol_withOption] using h₅
    · simpa only [UdpSocket.protocol_withOption] using h₆

/-- The addresses parse, the interface exists, and the system refuses no call on the socket. -/
structure Constructible (platform : Platform) (a : Sender.Arguments) (srcHost destHost : Address)
    (index : UInt32) : Prop where
  source : platform.makeAddress a.bindAddress = .ok srcHost
  destination : platform.makeAddress a.address = .ok destHost
  interface : (platform.ifNametoindex (cStr a.interface)).1 = index
  exists_interface : index ≠ 0
  calls : ∀ call ∈ socketCalls ⟨srcHost, a.bindPort⟩ (.ofByte a.ttl) index,
    (platform.answer call).failed = false

/-- **When the constructor returns, and what.** -/
theorem Sender.new_eq_ok_iff {platform : Platform} {a : Sender.Arguments} {pid : UInt32}
    {w : World} :
    Sender.new platform a pid = .ok w ↔
      ∃ srcHost destHost index, Constructible platform a srcHost destHost index ∧
        w = World.initial a pid srcHost destHost index := by
  constructor
  · intro hnew
    obtain ⟨srcHost, destHost, index, hsrc, hdest, hindex, rfl⟩ := Sender.new_ok hnew
    obtain ⟨hinterface, hne⟩ := PosixWrapper.ifNametoindex_eq_ok.mp hindex
    refine ⟨srcHost, destHost, index, ⟨hsrc, hdest, hinterface, hne, ?_⟩, rfl⟩
    -- the socket was constructed on the way
    rw [← MulticastTxSocket.exists_new a.networkErrorHandler hindex]
    simp only [Sender.new, hsrc, Hops.new_toNat, except_bind_eq_ok, Except.ok.injEq,
      exists_eq_left'] at hnew
    obtain ⟨s, hs, -⟩ := hnew
    exact ⟨s, hs⟩
  · rintro ⟨srcHost, destHost, index, h, rfl⟩
    have hindex : PosixWrapper.ifNametoindex platform a.interface = .ok index :=
      PosixWrapper.ifNametoindex_eq_ok.mpr ⟨h.interface, h.exists_interface⟩
    obtain ⟨s, hs⟩ := (MulticastTxSocket.exists_new a.networkErrorHandler hindex).mpr h.calls
    obtain ⟨index', hindex', rfl⟩ := MulticastTxSocket.new_ok hs
    obtain rfl := Except.ok.inj (hindex.symm.trans hindex')
    simp only [Sender.new, h.source, h.destination, Hops.new_toNat, hs, exec_scheduleSend, bind,
      Except.bind]
    rfl

end MPing
