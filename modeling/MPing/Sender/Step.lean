import MPing.Infra.Machine
import MPing.Packet.Wire
import MPing.Sender.Sender

/-!
# What an event does to a sender

The programs of `MPing.Sender.Sender` in closed form, and runs of the event loop over them. Later
modules do not unfold the programs any more.

* `step_cases` — everything an event can do
* `Sender.new_ok` — everything the constructor can do
* `Sender.fixed_of_reaches` — what no run changes
-/

namespace MPing

open Infra Infra.Stateful

/-! ## What the programs do -/

namespace World

/-- After `schedule_send`: every wait cancelled, one new wait. -/
def scheduled (w : World) : World :=
  { w with
    sender.timer := w.sender.timer.expiresAfter.asyncWait
    trace := w.trace ++ [⟨w.context, .expiresAfter 1, w.sender.timer⟩,
      ⟨w.context, .asyncWait, w.sender.timer.expiresAfter⟩] }

/-- The datagram the next `send_packet` sends if the clock then reads `now`. -/
def nextDatagram (w : World) (now : Int64) : Datagram :=
  { payload := (w.sender.state.setCurrentTime now).wire, destination := w.sender.endpoint }

/-- After `send_packet`. -/
def packetSent (w : World) (now : Int64) : World :=
  { w with
    sender.state := (w.sender.state.setCurrentTime now).nextSeqNo
    sender.socket.socket := w.sender.socket.socket.asyncSendTo (w.nextDatagram now)
    trace := w.trace ++ [⟨w.context, .asyncSendTo (w.nextDatagram now), w.sender.timer⟩] }

end World

theorem exec_scheduleSend (w : World) : exec Sender.scheduleSend w = (.ok (), w.scheduled) := by
  simp [Sender.scheduleSend, expiresAfter, asyncWait, exec_bind, World.record, World.scheduled]

theorem exec_sendPacket (platform : Platform) (now : Int64) (w : World) :
    exec (Sender.sendPacket platform now) w = (.ok (), w.packetSent now) := by
  simp [Sender.sendPacket, MulticastTxSocket.sendPacket, asyncSendTo, exec_bind,
    MPingState.serialize_eq, World.record, World.packetSent, World.nextDatagram]

theorem exec_timerHandler_of_ok {platform : Platform} {ec : ErrorCode} (h : ec.failed = false)
    (now : Int64) (w : World) :
    exec (Sender.timerHandler platform ec now) w = (.ok (), w.scheduled.packetSent now) := by
  simp [Sender.timerHandler, h, exec_bind, exec_scheduleSend, exec_sendPacket]

theorem exec_timerHandler_of_failed {platform : Platform} {ec : ErrorCode} (h : ec.failed = true)
    (now : Int64) (w : World) :
    exec (Sender.timerHandler platform ec now) w = (w.sender.timerErrorHandler ec, w) := by
  simp [Sender.timerHandler, h, exec_bind]

theorem exec_sendHandler (ec : ErrorCode) (n : Nat) (w : World) :
    exec (MulticastTxSocket.sendHandler ec n) w =
      (if ec.failed then w.sender.socket.errorHandler ec else .ok (), w) := by
  cases h : ec.failed <;> simp [MulticastTxSocket.sendHandler, h, exec_bind]

/-! ## What an event can do -/

namespace World

/-- After a wait that ended well: the timer is armed again and a packet is on its way. -/
def expired (w : World) (now : Int64) : World :=
  let w := record .enter { w.takeWait with context := .timerHandler }
  ((w.scheduled.packetSent now).record .leave).setIdle

/-- After a handler that does nothing but report `outcome`. -/
def reported (w : World) (context : Context) (outcome : Except Exception Unit) : World :=
  { w with
    context := .idle
    trace := w.trace ++ ⟨context, .enter, w.sender.timer⟩ ::
      (if outcome = .ok () then [⟨context, .leave, w.sender.timer⟩] else [])
    thrown := match outcome with
      | .ok () => w.thrown
      | .error e => some e }

theorem dispatch_of_ok {w w' : World} {context : Context} {handler : Program Unit}
    (h : exec handler (record .enter { w with context }) = (.ok (), w')) :
    w.dispatch context handler = (w'.record .leave).setIdle := by
  rw [dispatch, h]

/-- A handler that leaves the world alone and returns or throws. -/
theorem dispatch_of_report {w : World} {context : Context} {handler : Program Unit}
    {outcome : Except Exception Unit}
    (h : exec handler (record .enter { w with context }) =
      (outcome, record .enter { w with context })) :
    w.dispatch context handler = w.reported context outcome := by
  rw [dispatch, h]
  cases outcome <;> simp [reported, record, setIdle]

/-- The four kinds of event and what each does to the world. -/
inductive Effect (w : World) : Event → World → Prop where
  | expiry {ec : ErrorCode} {now : Int64} (ok : ec.failed = false)
      (pending : 0 < w.sender.timer.pending) :
      Effect w (.timerCompleted ec now) (w.expired now)
  | timerError {ec : ErrorCode} {now : Int64} (failed : ec.failed = true)
      (pending : 0 < w.sender.timer.pending) :
      Effect w (.timerCompleted ec now)
        (w.takeWait.reported .timerHandler (w.sender.timerErrorHandler ec))
  | abort {now : Int64} (aborted : 0 < w.sender.timer.aborted) :
      Effect w (.timerAborted now)
        (w.takeAborted.reported .timerHandler (w.sender.timerErrorHandler .operationAborted))
  | sendCompletion {i : Nat} {ec : ErrorCode} {n : Nat}
      (inFlight : i < w.sender.socket.socket.pending.length) :
      Effect w (.sendCompleted i ec n)
        ((w.takeSend i).reported .sendHandler
          (if ec.failed then w.sender.socket.errorHandler ec else .ok ()))

/-- **Everything an event can do.** -/
theorem step_cases {platform : Platform} {w w' : World} {e : Event}
    (h : w.step platform e = some w') : w.thrown = none ∧ Effect w e w' := by
  cases e with
  | timerCompleted ec now =>
    simp only [step] at h
    split at h
    · next hguard =>
      obtain rfl := Option.some.inj h
      refine ⟨Option.isNone_iff_eq_none.mp hguard.1, ?_⟩
      cases hec : ec.failed with
      | false =>
        rw [dispatch_of_ok (exec_timerHandler_of_ok hec now _)]
        exact .expiry hec hguard.2
      | true =>
        rw [dispatch_of_report (exec_timerHandler_of_failed hec now _)]
        exact .timerError hec hguard.2
    · cases h
  | timerAborted now =>
    simp only [step] at h
    split at h
    · next hguard =>
      obtain rfl := Option.some.inj h
      refine ⟨Option.isNone_iff_eq_none.mp hguard.1, ?_⟩
      -- `operation_aborted` is an error like any other
      rw [dispatch_of_report (exec_timerHandler_of_failed rfl now _)]
      exact .abort hguard.2
    · cases h
  | sendCompleted i ec n =>
    simp only [step] at h
    split at h
    · next hguard =>
      obtain rfl := Option.some.inj h
      refine ⟨Option.isNone_iff_eq_none.mp hguard.1, ?_⟩
      rw [dispatch_of_report (exec_sendHandler ec n _)]
      exact .sendCompletion hguard.2
    · cases h

/-- Each of these effects happens, as long as no exception has left the loop. -/
theorem step_of_effect {platform : Platform} {w w' : World} {e : Event} (hthrown : w.thrown = none)
    (h : w.Effect e w') : w.step platform e = some w' := by
  cases h with
  | @expiry ec now hok hpending =>
    rw [step, if_pos ⟨by rw [hthrown]; rfl, hpending⟩,
      dispatch_of_ok (exec_timerHandler_of_ok hok now _)]
    rfl
  | @timerError ec now hfailed hpending =>
    rw [step, if_pos ⟨by rw [hthrown]; rfl, hpending⟩,
      dispatch_of_report (exec_timerHandler_of_failed hfailed now _)]
    rfl
  | @abort now haborted =>
    rw [step, if_pos ⟨by rw [hthrown]; rfl, haborted⟩,
      dispatch_of_report (exec_timerHandler_of_failed rfl now _)]
    rfl
  | @sendCompletion i ec n hi =>
    rw [step, if_pos ⟨by rw [hthrown]; rfl, hi⟩, dispatch_of_report (exec_sendHandler ec n _)]
    rfl

end World

/-! ## Where an event leaves the world -/

namespace World

section Expired

variable (w : World) (now : Int64)

theorem expired_sender :
    (w.expired now).sender =
      { w.sender with
        state := (w.sender.state.setCurrentTime now).nextSeqNo
        socket.socket := w.sender.socket.socket.asyncSendTo (w.nextDatagram now)
        timer := w.takeWait.sender.timer.expiresAfter.asyncWait } := rfl

/-- The calls of a successful handler, in order. -/
theorem expired_trace :
    (w.expired now).trace = w.trace ++
      [⟨.timerHandler, .enter, w.takeWait.sender.timer⟩,
        ⟨.timerHandler, .expiresAfter 1, w.takeWait.sender.timer⟩,
        ⟨.timerHandler, .asyncWait, w.takeWait.sender.timer.expiresAfter⟩,
        ⟨.timerHandler, .asyncSendTo (w.nextDatagram now),
          w.takeWait.sender.timer.expiresAfter.asyncWait⟩,
        ⟨.timerHandler, .leave, w.takeWait.sender.timer.expiresAfter.asyncWait⟩] := by
  simp [expired, record, setIdle, scheduled, packetSent, takeWait, nextDatagram]

@[simp] theorem expired_thrown : (w.expired now).thrown = w.thrown := rfl

/-- A successful handler sends one datagram. -/
theorem sent_expired : (w.expired now).sent = w.sent ++ [w.nextDatagram now] := by
  rw [sent, expired_trace, List.filterMap_append]
  rfl

end Expired

section Reported

variable (w : World) (context : Context) (outcome : Except Exception Unit)

@[simp] theorem reported_sender : (w.reported context outcome).sender = w.sender := rfl

/-- A handler that only reports sends nothing. -/
theorem sent_reported : (w.reported context outcome).sent = w.sent := by
  simp only [reported, sent, List.filterMap_append]
  split <;> simp [Moment.datagram?]

end Reported

end World

/-! ## What the constructor can do -/

/-- A byte always fits the hop limit. -/
def Hops.ofByte (ttl : UInt8) : Hops where
  value := ttl.toNat
  lower := by omega
  upper := by
    have h := ttl.toNat_lt
    omega

theorem Hops.new_toNat (ttl : UInt8) : Hops.new ttl.toNat = .ok (Hops.ofByte ttl) :=
  dif_pos ⟨(Hops.ofByte ttl).lower, (Hops.ofByte ttl).upper⟩

/-- The world after a constructor that parsed the addresses and found the interface. -/
def World.initial (a : Sender.Arguments) (pid : UInt32) (srcHost destHost : Address)
    (index : UInt32) : World where
  sender :=
    { socket :=
        { socket := configuredSocket ⟨srcHost, a.bindPort⟩ (.ofByte a.ttl) index
          errorHandler := a.networkErrorHandler }
      state := .new .sender a.ttl srcHost a.bindPort destHost a.port pid
      timerErrorHandler := a.timerErrorHandler
      endpoint := ⟨destHost, a.port⟩
      timer := { pending := 1, aborted := 0 } }
  context := .idle
  trace := [⟨.constructor, .expiresAfter 1, {}⟩, ⟨.constructor, .asyncWait, {}⟩]

/-- **Everything the constructor can do, if it does not throw.** -/
theorem Sender.new_ok {platform : Platform} {a : Arguments} {pid : UInt32} {w : World}
    (h : Sender.new platform a pid = .ok w) :
    ∃ srcHost destHost index, platform.makeAddress a.bindAddress = .ok srcHost ∧
      platform.makeAddress a.address = .ok destHost ∧
      PosixWrapper.ifNametoindex platform a.interface = .ok index ∧
      w = World.initial a pid srcHost destHost index := by
  simp only [Sender.new, exec_scheduleSend, except_bind_eq_ok] at h
  obtain ⟨srcHost, hsrc, hops, hhops, socket, hsocket, srcHost', hsrc', destHost, hdest, address,
    haddress, h⟩ := h
  obtain rfl : Hops.ofByte a.ttl = hops := Except.ok.inj ((Hops.new_toNat a.ttl).symm.trans hhops)
  obtain rfl : srcHost = srcHost' := Except.ok.inj (hsrc.symm.trans hsrc')
  obtain rfl : destHost = address := Except.ok.inj (hdest.symm.trans haddress)
  obtain ⟨index, hindex, rfl⟩ := MulticastTxSocket.new_ok hsocket
  exact ⟨srcHost, destHost, index, hsrc, hdest, hindex, (Except.ok.inj h).symm⟩

/-! ## Runs -/

/-- `es` is a run of a sender constructed with `a` and `pid`, and `w` is where it leads. -/
def Sender.Reaches (platform : Platform) (a : Arguments) (pid : UInt32) (es : List Event)
    (w : World) : Prop :=
  ∃ w₀, Sender.new platform a pid = .ok w₀ ∧ run (World.step platform) w₀ es = some w

/-- The clock reading of a timer completion that ended well. -/
def Event.reading? : Event → Option Int64
  | .timerCompleted ec now => if ec.failed then none else some now
  | _ => none

/-- The clock readings of the successful timer completions of a run. -/
def readings (es : List Event) : List Int64 := es.filterMap Event.reading?

/-- The completion of a send. -/
def Event.isSendCompleted : Event → Bool
  | .sendCompleted .. => true
  | _ => false

theorem readings_concat (es : List Event) (e : Event) :
    readings (es ++ [e]) = readings es ++ e.reading?.toList := by
  cases h : e.reading? <;> simp [readings, h]

/-! ## What never changes -/

/-- The handlers, the destination and the options of the socket are as the constructor left them. -/
structure World.Fixed (a : Sender.Arguments) (srcHost destHost : Address) (index : UInt32)
    (w : World) : Prop where
  networkErrorHandler : w.sender.socket.errorHandler = a.networkErrorHandler
  timerErrorHandler : w.sender.timerErrorHandler = a.timerErrorHandler
  endpoint : w.sender.endpoint = ⟨destHost, a.port⟩
  socket : { w.sender.socket.socket with pending := [] } =
    configuredSocket ⟨srcHost, a.bindPort⟩ (.ofByte a.ttl) index

theorem World.fixed_initial (a : Sender.Arguments) (pid : UInt32) (srcHost destHost : Address)
    (index : UInt32) :
    (World.initial a pid srcHost destHost index).Fixed a srcHost destHost index :=
  ⟨rfl, rfl, rfl, rfl⟩

theorem World.fixed_step {platform : Platform} {a : Sender.Arguments} {srcHost destHost : Address}
    {index : UInt32} {w w' : World} {e : Event} (h : w.Fixed a srcHost destHost index)
    (hstep : w.step platform e = some w') : w'.Fixed a srcHost destHost index := by
  obtain ⟨-, heffect⟩ := step_cases hstep
  -- every event changes the state, the timer and the sends in flight at most
  cases heffect with
  | expiry => exact ⟨h.networkErrorHandler, h.timerErrorHandler, h.endpoint, h.socket⟩
  | timerError => exact ⟨h.networkErrorHandler, h.timerErrorHandler, h.endpoint, h.socket⟩
  | abort => exact ⟨h.networkErrorHandler, h.timerErrorHandler, h.endpoint, h.socket⟩
  | sendCompletion => exact ⟨h.networkErrorHandler, h.timerErrorHandler, h.endpoint, h.socket⟩

/-- **What the constructor set holds in every reachable world.** -/
theorem Sender.fixed_of_reaches {platform : Platform} {a : Arguments} {pid : UInt32}
    {es : List Event} {w : World} (h : Sender.Reaches platform a pid es w) :
    ∃ srcHost destHost index, platform.makeAddress a.bindAddress = .ok srcHost ∧
      platform.makeAddress a.address = .ok destHost ∧
      PosixWrapper.ifNametoindex platform a.interface = .ok index ∧
      w.Fixed a srcHost destHost index := by
  obtain ⟨w₀, hnew, hrun⟩ := h
  obtain ⟨srcHost, destHost, index, hsrc, hdest, hindex, rfl⟩ := Sender.new_ok hnew
  refine ⟨srcHost, destHost, index, hsrc, hdest, hindex, ?_⟩
  exact run_invariant (I := fun _ w => w.Fixed a srcHost destHost index)
    (World.fixed_initial a pid srcHost destHost index)
    (fun _ w e w' _ hw hstep => World.fixed_step hw hstep) hrun

/-! ## A sender to look at -/

/-- A host that knows a few addresses and one interface, and on which every call succeeds. -/
def Platform.sample : Platform where
  native := .little
  makeAddress s :=
    if s = "2001:db8::1" then
      .ok (.v6 ⟨#v[0x20, 0x01, 0x0D, 0xB8, 0, 0, 0, 0, 0, 0, 0, 0, 0, 0, 0, 0x01], 0⟩)
    else if s = "ff2e::42" then
      .ok (.v6 ⟨#v[0xFF, 0x2E, 0, 0, 0, 0, 0, 0, 0, 0, 0, 0, 0, 0, 0, 0x42], 0⟩)
    else if s = "192.0.2.1" then .ok (.v4 ⟨#v[192, 0, 2, 1]⟩)
    else if s = "239.1.2.3" then .ok (.v4 ⟨#v[239, 1, 2, 3]⟩)
    else .error (.systemError ⟨22⟩ "Invalid argument")
  ifNametoindex s := if s = "eth0" then (2, 0) else (0, 19)
  answer _ := ⟨0⟩

/-- The arguments that `main` passes on for a command line with the defaults. -/
def Sender.Arguments.sample : Sender.Arguments where
  networkErrorHandler _ := .error (.runtimeError "Fatal error")
  timerErrorHandler _ := .error (.runtimeError "Fatal error")
  bindAddress := "2001:db8::1"
  bindPort := 4321
  address := "ff2e::42"
  port := 4321
  ttl := 64
  interface := "eth0"

/-- The same with IPv4 addresses. -/
def Sender.Arguments.sampleV4 : Sender.Arguments :=
  { sample with bindAddress := "192.0.2.1", address := "239.1.2.3" }

end MPing
