import BuildBroker.Log.Channel

/-!
# Log Sockets

The two kinds of sockets on the log of a build. A *producer* sends frames; every frame of text or of
octets is one chunk of the log. A *follower* is sent the log, one frame of octets for each chunk,
the history first; when the log ends it is told so by a close frame. On both the broker answers a
ping and passes over the other frames, and the other end may leave by a close frame.

`SocketEnd.step?` is one step at a socket of either kind; a step that is not possible now has no
result.
-/

namespace BuildBroker.Log

/-- A frame on a socket. -/
inductive Frame where
  | text (s : String)
  | binary (b : Bytes)
  | ping (b : Bytes)
  | pong (b : Bytes)
  /-- The last frame of its sender, with the code of a reason if there is one. -/
  | close (code : Option Nat)
deriving DecidableEq, Repr

namespace Frame

/-- The chunk that a frame carries, if it carries one. -/
def chunk? : Frame → Option Bytes
  | .text s => some (Bytes.ofText s)
  | .binary b => some b
  | _ => none

/-- The frame that a frame is answered with, if there is one. -/
def reply? : Frame → Option Frame
  | .ping b => some (.pong b)
  | _ => none

end Frame

/-! ## Producers -/

/-- The broker's end of a producer's socket. -/
structure Producer where
  /-- Whether the broker still listens. -/
  listening : Bool
deriving DecidableEq, Repr

namespace Producer

/-- A producer that has just connected. -/
def connected : Producer := ⟨true⟩

/-- What the broker does with a frame of a producer: also the log afterwards, and what is sent back.
A chunk that the log refuses ends the socket. -/
def receive (p : Producer) (ch : Channel) (f : Frame) : Producer × Channel × List Frame :=
  if !p.listening then (p, ch, [])
  else match f.chunk?, f with
    | some chunk, _ =>
      let (ch, accepted) := ch.append chunk
      (⟨accepted⟩, ch, [])
    | none, .close _ => (⟨false⟩, ch, [])
    | none, _ => (p, ch, f.reply?.toList)

/-- The connection to the producer is lost. -/
def lost (_ : Producer) : Producer := ⟨false⟩

end Producer

/-! ## Followers -/

/-- The broker's end of a follower's socket. -/
structure Follower where
  /-- The number of the observer that reads the log for it. -/
  observer : Nat
  /-- Whether the broker still sends. -/
  sending : Bool
deriving DecidableEq, Repr

namespace Follower

/-- A follower that has just connected to a log. -/
def connect (ch : Channel) : Channel × Follower :=
  let (ch, observer) := ch.subscribe
  (ch, ⟨observer, true⟩)

/-- Sends the next chunk, or the close frame after the last one; nothing while the log is waited
for. -/
def turn (w : Follower) (ch : Channel) : Follower × Channel × Option Frame :=
  if !w.sending then (w, ch, none)
  else
    let (ch, r) := ch.receive w.observer (some 1)
    match r.chunks with
    | chunk :: _ => (w, ch, some (.binary chunk))
    | [] =>
      if r.ended then ({ w with sending := false }, ch, some (.close none))
      else (w, ch, none)

/-- Sends what there is, at most `limit` frames. -/
def send (w : Follower) (ch : Channel) : (limit : Nat) → Follower × Channel × List Frame
  | 0 => (w, ch, [])
  | limit + 1 =>
    match w.turn ch with
    | (w, ch, none) => (w, ch, [])
    | (w, ch, some f) =>
      let (w, ch, fs) := send w ch limit
      (w, ch, f :: fs)

/-- A follower that the broker stops sending to stops reading the log. -/
def leave (w : Follower) (ch : Channel) : Follower × Channel :=
  if w.sending then ({ w with sending := false }, ch.leave w.observer) else (w, ch)

/-- What the broker does with a frame of a follower. -/
def receive (w : Follower) (ch : Channel) (f : Frame) : Follower × Channel × List Frame :=
  if !w.sending then (w, ch, [])
  else match f with
    | .close _ =>
      let (w, ch) := w.leave ch
      (w, ch, [])
    | f => (w, ch, f.reply?.toList)

end Follower

/-! ## Sockets -/

/-- The broker's end of a log socket. -/
inductive SocketEnd where
  | producer (p : Producer)
  | follower (w : Follower)
deriving DecidableEq, Repr

/-- What happens at a log socket. -/
inductive SocketStep where
  /-- A frame arrives; none if it is the end of the connection, or its failure. -/
  | arrive (f : Option Frame)
  /-- The next frame is sent to a follower, which gets through or fails. -/
  | turn (through : Bool)
deriving DecidableEq, Repr

namespace SocketEnd

/-- Whether the broker has not left the socket. -/
def isOpen : SocketEnd → Bool
  | .producer p => p.listening
  | .follower w => w.sending

/-- What the broker does with what arrives at a socket: also the log afterwards, and what is sent
back. -/
def arrive (ch : Channel) : SocketEnd → Option Frame → SocketEnd × Channel × List Frame
  | .producer p, some f =>
    let (p, ch, fs) := p.receive ch f
    (.producer p, ch, fs)
  | .producer p, none => (.producer p.lost, ch, [])
  | .follower w, some f =>
    let (w, ch, fs) := w.receive ch f
    (.follower w, ch, fs)
  | .follower w, none =>
    let (w, ch) := w.leave ch
    (.follower w, ch, [])

/-- Sends the next frame to a follower, if there is one. If that fails the broker leaves. -/
def turn? (ch : Channel) (through : Bool) : SocketEnd → Option (SocketEnd × Channel × List Frame)
  | .producer _ => none
  | .follower w =>
    match w.turn ch with
    | (_, _, none) => none
    | (w, ch, some f) =>
      if through then some (.follower w, ch, [f])
      else
        let (w, ch) := w.leave ch
        some (.follower w, ch, [])

/-- Takes one step at a socket, if it is possible. -/
def step? (e : SocketEnd) (ch : Channel) : SocketStep → Option (SocketEnd × Channel × List Frame)
  | .arrive f => some (e.arrive ch f)
  | .turn through => e.turn? ch through

end SocketEnd

end BuildBroker.Log
