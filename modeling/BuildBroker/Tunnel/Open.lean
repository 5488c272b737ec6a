import BuildBroker.Executor.Client
import BuildBroker.Http.Handler
import BuildBroker.Http.Wire

/-!
# Opening a Tunnel

A caller who wants an interactive session is connected to the executor's endpoint for it. The
caller's own request is sent there, directed at the endpoint. If the executor switches protocols the
tunnel is open; any other answer is passed back as it is.
-/

namespace BuildBroker.Tunnel

open Http Executor

/-- A caller's request on its way to the endpoint. -/
structure Forwarded where
  /-- The host to connect to, as the endpoint's URL shows it. -/
  host : String
  port : Nat
  method : String
  target : String
  headers : Headers
  body : Body
deriving DecidableEq

/-- The port of an endpoint whose URL has no port and no scheme with a default one. -/
def fallbackPort : Nat := 80

/-- The path and the query of an endpoint, as a request names them. -/
def requestTarget (u : Url) : String :=
  match u.target.toList with
  | '/' :: _ => u.target
  | _ => "/" ++ u.target

/-- Whether the path and the query of an endpoint can be named. -/
def fitsTarget (u : Url) : Bool :=
  u.target.utf8ByteSize ≤ targetLimit

/-- The caller's request, directed at the endpoint. -/
def Forwarded.ofRequest (u : Url) (host : Host) (r : Request) : Forwarded where
  host := host.toText
  port := u.effectivePort?.getD fallbackPort
  method := r.method
  target := requestTarget u
  headers := r.headers.replace "host" (Bytes.ofText (hostText u))
  body := r.body

/-- The caller's request as it is sent to the endpoint, with its body in one piece. -/
def Forwarded.toBytes (x : Forwarded) : Bytes :=
  let headers := if Wire.extent? x.headers = some .chunks then
      (x.headers.without "transfer-encoding").replace "content-length"
        (Bytes.ofText (toString x.body.octets.length))
    else x.headers
  requestBytes x.method x.target headers x.body.octets

/-- The status of an answer that switches protocols. -/
def switchedStatus : Nat := 101

/-- What comes of the attempt to open a tunnel. -/
inductive Opening where
  | failed (e : TunnelError)
  /-- The executor answered otherwise. -/
  | declined (a : Answer)
  /-- The tunnel is open; the executor's headers, and what it has sent already. -/
  | opened (headers : Headers) (early : Bytes)
  /-- The executor does not answer. -/
  | silent
deriving DecidableEq

/-- What an executor's reply to the caller's request comes to. -/
def Opening.ofReply : Reply → Opening
  | .refused => .failed .unreachable
  | .dropped => .failed .handshake
  | .silent => .silent
  | .answer a =>
    if a.status = switchedStatus then .opened (a.headers.without "content-length") a.body
    else .declined a

/-- Tries to open a tunnel: connects first, then sends the request, if its target can be named. Also
the request that was sent. -/
def openTunnel (listens : String → Nat → Bool) (send : Forwarded → Reply) (u : Url) (r : Request) :
    Option Forwarded × Opening :=
  match u.host? with
  | none => (none, .failed (.noHost u))
  | some host =>
    let x := Forwarded.ofRequest u host r
    if !listens x.host x.port then (none, .failed .unreachable)
    else if !fitsTarget u then (none, .failed .targetTooLong)
    else (some x, .ofReply (send x))

/-- The answer to the caller; nothing yet while the executor does not answer. -/
def Opening.response? : Opening → Option Response
  | .failed e => some e.response
  | .declined a => some ⟨a.status, a.headers, a.body⟩
  | .opened headers _ => some ⟨switchedStatus, headers, []⟩
  | .silent => none

end BuildBroker.Tunnel
