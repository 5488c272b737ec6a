import BuildBroker.Http.Step
import BuildBroker.Log.Socket

/-!
# The Broker and Its Log Sockets

Everything that can happen at a broker whose logs are written and watched through sockets, one step
at a time: what happens to the broker otherwise, a socket is opened, and something happens at a
socket. A socket is opened some time after the request for it has been answered, and for a build
that is there. A step that is not possible now has no result.
-/

namespace BuildBroker

/-- Opens a socket on a side of a log: the log afterwards, and the broker's end of it. -/
def Log.SocketEnd.connect (ch : Log.Channel) : Http.LogSide → Log.Channel × Log.SocketEnd
  | .input => (ch, .producer .connected)
  | .output =>
    let (ch, w) := Log.Follower.connect ch
    (ch, .follower w)

/-- Whether a step is a call at a log, other than the end that comes with a result. -/
def BuildStep.isLogCall : BuildStep → Bool
  | .append _ | .observe _ _ | .receive _ _ | .unobserve _ => true
  | _ => false

/-- Whether a step of the broker is a call at a log that no socket makes. -/
def BrokerStep.isLogCall : BrokerStep → Bool
  | .inside (.build _ y) => y.isLogCall
  | _ => false

/-- A socket on the log of a build. -/
structure LogSocket where
  id : BuildId
  side : Log.SocketEnd

/-- A broker with all log sockets that were ever opened at it, in their order. -/
structure Switchboard where
  coordinator : Coordinator
  sockets : List LogSocket

/-- A step at a broker with its log sockets. -/
inductive SwitchboardStep where
  /-- Something happens at the broker, but not at a log. -/
  | serve (s : BrokerStep)
  | connect (id : BuildId) (side : Http.LogSide)
  /-- Something happens at a socket. -/
  | socket (number : Nat) (y : Log.SocketStep)

namespace Switchboard

/-- A broker at which nothing has happened. -/
def start (settings : CoordinatorSettings) : Switchboard :=
  ⟨⟨settings, .empty⟩, []⟩

/-- Changes the log of a build. -/
def setLog (w : Switchboard) (id : BuildId) (log : Log.Channel) : Switchboard :=
  { w with coordinator := w.coordinator.modify id fun b => { b with log } }

/-- What a step at a socket does, if it is possible: to the socket and to the log, and the frames
that are sent. -/
def socketStep? (w : Switchboard) (n : Nat) (y : Log.SocketStep) :
    Option (Log.SocketEnd × Log.Channel × List Log.Frame) := do
  let x ← w.sockets[n]?
  let b ← w.coordinator.registry.find? x.id
  x.side.step? b.log y

/-- Takes one step, if it is possible. -/
def step? (w : Switchboard) : SwitchboardStep → Option Switchboard
  | .serve s =>
    if s.isLogCall then none
    else (w.coordinator.serveStep? s).map fun coordinator => { w with coordinator }
  | .connect id side => do
    let b ← w.coordinator.registry.find? id
    let (log, e) := Log.SocketEnd.connect b.log side
    return { w.setLog id log with sockets := w.sockets ++ [⟨id, e⟩] }
  | .socket n y => do
    let x ← w.sockets[n]?
    let (e, log, _) ← w.socketStep? n y
    return { w.setLog x.id log with sockets := w.sockets.set n ⟨x.id, e⟩ }

/-- Takes steps one after the other, if all of them are possible. -/
def run (w : Switchboard) (steps : List SwitchboardStep) : Option Switchboard :=
  steps.foldlM step? w

end Switchboard

end BuildBroker
