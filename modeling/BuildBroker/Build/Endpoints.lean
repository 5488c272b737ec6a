import BuildBroker.Json.Decode
import BuildBroker.Url.Parse

/-!
# Session Endpoints

The addresses that an executor may hand out for a build it has taken: one to abort it, and one to
open an interactive session.
-/

namespace BuildBroker

/-- A URL as a document holds it. -/
def Url.toValue (u : Url) : Json.Value :=
  .string u.toText

/-- Reads a URL from a document. -/
def Url.decode (d : Json.Doc) : Json.Decoded Url := do
  let s ← Json.decodeTextAs "a string representing an URL" d
  match Url.parse s with
  | .ok u => .ok u
  | .error e => Json.unfit (.refused (e.message ++ ": " ++ Text.quote s))

/-- The addresses for controlling a running build. -/
structure SessionEndpoints where
  abortUrl : Option Url
  hijackUrl : Option Url
deriving DecidableEq

namespace SessionEndpoints

/-- No addresses. -/
def none : SessionEndpoints := ⟨Option.none, Option.none⟩

instance : Inhabited SessionEndpoints := ⟨none⟩

/-- Whether no address is given. -/
def isEmpty (e : SessionEndpoints) : Bool :=
  e.abortUrl.isNone && e.hijackUrl.isNone

/-- The endpoints as a document. -/
def toValue (e : SessionEndpoints) : Json.Value :=
  let url (u : Option Url) : Json.Value := (u.map Url.toValue).getD .null
  .object [("abort_url", url e.abortUrl), ("hijack_url", url e.hijackUrl)]

/-- Endpoints that are being read: a field that was null has been read too. -/
structure Draft where
  abortUrl : Option (Option Url)
  hijackUrl : Option (Option Url)

/-- How endpoints are read; by position both have to be there if `positional` says so. -/
def shape (name : String) (positional : Bool) : Json.RecordShape Draft SessionEndpoints where
  name
  fields := [
    .storing "abort_url" positional Draft.abortUrl (fun s x => { s with abortUrl := some x })
      (Json.decodeNullable Url.decode),
    .storing "hijack_url" positional Draft.hijackUrl (fun s x => { s with hijackUrl := some x })
      (Json.decodeNullable Url.decode)]
  start := ⟨Option.none, Option.none⟩
  finish := fun s => .ok ⟨s.abortUrl.join, s.hijackUrl.join⟩

/-- Reads endpoints as they are kept. -/
def decode : Json.Doc → Json.Decoded SessionEndpoints :=
  (shape "SessionEndpoints" true).decode

/-- Reads endpoints from an executor's answer that it has taken a build. -/
def decodeAcceptance : Json.Doc → Json.Decoded SessionEndpoints :=
  (shape "ExecutorAcceptance" false).decode

end SessionEndpoints

end BuildBroker
