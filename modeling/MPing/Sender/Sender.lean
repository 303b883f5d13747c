import MPing.Sender.MulticastTxSocket

/-!
# `Sender`

The sender (`mping_sender.cpp`) on an event loop. The member functions are programs on a `World`:
the object, and what an observer of the process can see of it. An event is the completion of an
asynchronous operation; `step` runs its handler to the end before the next event.

Every call to Asio is recorded together with the state of the timer just before it, so that
statements about the middle of a handler can be made.
-/

namespace MPing

open Infra Infra.Stateful

structure Sender where
  socket : MulticastTxSocket
  state : MPingState
  timerErrorHandler : ErrorHandler
  endpoint : Endpoint
  timer : SteadyTimer

/-! ## The world -/

/-- The function of the program that is executing. -/
inductive Context where
  | constructor
  | timerHandler
  | sendHandler
  | idle
deriving DecidableEq, Repr

/-- The calls to Asio, and the borders of a handler. -/
inductive Call where
  | enter
  | expiresAfter (seconds : Nat)
  | asyncWait
  | asyncSendTo (datagram : Datagram)
  | leave
deriving DecidableEq, Repr

/-- A call, who made it, and the timer just before. -/
structure Moment where
  context : Context
  call : Call
  timer : SteadyTimer
deriving DecidableEq, Repr

/-- The sender and its history. `thrown` is the exception that left `io.run()`, if any. -/
structure World where
  sender : Sender
  context : Context
  trace : List Moment := []
  thrown : Option Exception := none

/-- The datagram a call hands to the socket. -/
def Moment.datagram? (m : Moment) : Option Datagram :=
  match m.call with
  | .asyncSendTo d => some d
  | _ => none

namespace World

/-- The datagrams handed to the socket so far, in order. -/
def sent (w : World) : List Datagram := w.trace.filterMap Moment.datagram?

def record (call : Call) (w : World) : World :=
  { w with trace := w.trace ++ [⟨w.context, call, w.sender.timer⟩] }

/-- A successful constructor leaves the event loop idle. -/
def setIdle (w : World) : World := { w with context := .idle }

end World

/-! ## The programs -/

abbrev Program := Stateful World Exception

def expiresAfter (seconds : Nat) : Program Unit := modify fun w =>
  { w.record (.expiresAfter seconds) with sender.timer := w.sender.timer.expiresAfter }

def asyncWait : Program Unit := modify fun w =>
  { w.record .asyncWait with sender.timer := w.sender.timer.asyncWait }

def asyncSendTo (d : Datagram) : Program Unit := modify fun w =>
  { w.record (.asyncSendTo d) with
    sender.socket.socket := w.sender.socket.socket.asyncSendTo d }

namespace MulticastTxSocket

def sendPacket (message : Bytes) (endpoint : Endpoint) : Program Unit :=
  asyncSendTo { payload := message, destination := endpoint }

/-- The handler given to `async_send_to`. -/
def sendHandler (ec : ErrorCode) (_bytesTransferred : Nat) : Program Unit := do
  if ec.failed then ofExcept ((← get).sender.socket.errorHandler ec)
  else pure ()

end MulticastTxSocket

namespace Sender

def scheduleSend : Program Unit := do
  expiresAfter 1
  asyncWait

/-- `now` is what the clock reads in `set_current_time`. -/
def sendPacket (platform : Platform) (now : Int64) : Program Unit := do
  modify fun w => { w with sender.state := w.sender.state.setCurrentTime now }
  let message ← ofExcept ((← get).sender.state.serialize platform.native)
  modify fun w => { w with sender.state := w.sender.state.nextSeqNo }
  MulticastTxSocket.sendPacket message (← get).sender.endpoint

/-- The handler given to `async_wait`. -/
def timerHandler (platform : Platform) (ec : ErrorCode) (now : Int64) : Program Unit := do
  if ec.failed then ofExcept ((← get).sender.timerErrorHandler ec)
  else
    scheduleSend
    sendPacket platform now

/-- The arguments of the constructor. -/
structure Arguments where
  networkErrorHandler : ErrorHandler
  timerErrorHandler : ErrorHandler
  bindAddress : String
  bindPort : UInt16
  address : String
  port : UInt16
  ttl : UInt8
  interface : String

/-- The constructor: the members in their order, then the first wait. `pid` is the drawn pid. -/
def new (platform : Platform) (a : Arguments) (pid : UInt32) : Except Exception World := do
  let bindAddress ← platform.makeAddress a.bindAddress
  let hops ← Hops.new a.ttl.toNat
  let socket ← MulticastTxSocket.new platform a.networkErrorHandler ⟨bindAddress, a.bindPort⟩ hops
    a.interface
  let srcHost ← platform.makeAddress a.bindAddress
  let destHost ← platform.makeAddress a.address
  let state := MPingState.new .sender a.ttl srcHost a.bindPort destHost a.port pid
  let address ← platform.makeAddress a.address
  let sender : Sender :=
    { socket, state, timerErrorHandler := a.timerErrorHandler, endpoint := ⟨address, a.port⟩,
      timer := {} }
  match exec scheduleSend { sender, context := .constructor } with
  | (.ok (), w) => return w.setIdle
  | (.error e, _) => throw e

end Sender

/-! ## The event loop -/

/-- Completions. `now` is what the clock reads while the handler runs. -/
inductive Event where
  | timerCompleted (ec : ErrorCode) (now : Int64)
  | timerAborted (now : Int64)
  | sendCompleted (i : Nat) (ec : ErrorCode) (bytesTransferred : Nat)
deriving DecidableEq, Repr

namespace World

/-- Takes a wait that ran out off the timer. -/
def takeWait (w : World) : World :=
  { w with sender.timer.pending := w.sender.timer.pending - 1 }

/-- Takes a cancelled wait off the timer. -/
def takeAborted (w : World) : World :=
  { w with sender.timer.aborted := w.sender.timer.aborted - 1 }

/-- Takes the `i`-th send in flight off the socket. -/
def takeSend (i : Nat) (w : World) : World :=
  { w with sender.socket.socket.pending := w.sender.socket.socket.pending.eraseIdx i }

/-- Runs a handler to its end. An exception leaves `io.run()`. -/
def dispatch (context : Context) (handler : Program Unit) (w : World) : World :=
  match exec handler (record .enter { w with context }) with
  | (.ok (), w') => (w'.record .leave).setIdle
  | (.error e, w') => { w'.setIdle with thrown := some e }

/--
One event. A wait completes once, a cancelled wait completes with `operation_aborted`, and any send
in flight may complete. After an exception no handler runs any more.
-/
def step (platform : Platform) (w : World) : Event → Option World
  | .timerCompleted ec now =>
    if w.thrown.isNone ∧ 0 < w.sender.timer.pending then
      some (w.takeWait.dispatch .timerHandler (Sender.timerHandler platform ec now))
    else none
  | .timerAborted now =>
    if w.thrown.isNone ∧ 0 < w.sender.timer.aborted then
      some (w.takeAborted.dispatch .timerHandler
        (Sender.timerHandler platform .operationAborted now))
    else none
  | .sendCompleted i ec bytesTransferred =>
    if w.thrown.isNone ∧ i < w.sender.socket.socket.pending.length then
      some ((w.takeSend i).dispatch .sendHandler
        (MulticastTxSocket.sendHandler ec bytesTransferred))
    else none

end World

end MPing
