import BuildBroker.Http.Handler
import BuildBroker.Text.Base64
import BuildBroker.Text.Sha1

/-!
# Becoming a Log Socket

The answer that turns the connection of a request into a log socket. It proves by a digest of the
caller's key that the request was understood.
-/

namespace BuildBroker.Http

/-- What is added to the key of every caller. -/
def keyMark : String := "258EAFA5-E914-47DA-95CA-C5AB0DC85B11"

/-- The proof for a key. -/
def keyProof (key : Bytes) : String :=
  Base64.encode (Sha1.digest (key ++ Bytes.ofText keyMark))

/-- The answer after which the connection is a log socket. -/
def socketAnswer (r : Request) : Response :=
  let key := (r.headers.first? "sec-websocket-key").getD []
  ⟨101, [⟨"connection", Bytes.ofText "upgrade"⟩, ⟨"upgrade", Bytes.ofText "websocket"⟩,
    ⟨"sec-websocket-accept", Bytes.ofText (keyProof key)⟩], []⟩

end BuildBroker.Http
