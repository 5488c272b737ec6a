import BuildBroker.Build.Record

/-!
# Delegation

What the executor is sent when it is asked to take a build: the build's id, its configuration, and
the addresses under which the executor reaches the broker for this build.
-/

namespace BuildBroker

/-- The addresses on this broker that an executor calls back for one build. -/
structure CallbackUrls where
  logs : Url
  bits : Url
  result : Url
deriving DecidableEq

namespace CallbackUrls

/-- A peer address without blanks around it and slashes at its end. -/
def peerText (peer : String) : List Char :=
  ((Text.trimChars peer.toList).reverse.dropWhile (· = '/')).reverse

/-- Reads a callback address. -/
def parse (raw : String) : Except BuildError Url :=
  match Url.parse raw with
  | .ok u => .ok u
  | .error e => .error (.invalidUrl (raw ++ ": " ++ e.message))

/-- The callback addresses of a build, on the `host:port` under which the broker is reached. -/
def forBuild (peer : String) (id : BuildId) : Except BuildError CallbackUrls := do
  let p := String.ofList (peerText peer)
  if p.isEmpty then throw (.invalidUrl "peer address cannot be empty")
  let build := p ++ "/builds/" ++ id.toText
  let logs ← parse ("ws://" ++ build ++ "/log/input")
  let bits ← parse ("http://" ++ build ++ "/bits")
  let result ← parse ("http://" ++ build ++ "/result")
  return { logs, bits, result }

end CallbackUrls

/-- What a delegated build runs. -/
structure DelegationConfig where
  image : String
  script : String
  env : Env
deriving DecidableEq

/-- One input of a delegated build: where it comes from and where it goes. -/
structure DelegationInput where
  kind : String
  source : Url
  destination : String
deriving DecidableEq

/-- What the executor is asked to run. -/
structure Delegation where
  id : BuildId
  logsUrl : Url
  callback : Url
  config : DelegationConfig
  inputs : List DelegationInput
deriving DecidableEq

namespace DelegationConfig

/-- The configuration as a document. -/
def toValue (c : DelegationConfig) : Json.Value :=
  .object [("image", .string c.image), ("script", .string c.script), ("env", c.env.toValue)]

/-- A configuration that is being read. -/
structure Draft where
  image : Option String
  script : Option String
  env : Option Env

/-- How a configuration is read: only the image has to be given. -/
def shape : Json.RecordShape Draft DelegationConfig where
  name := "ExecutorBuildConfig"
  fields := [
    .storing "image" true Draft.image (fun s x => { s with image := some x }) Json.decodeText,
    .storing "script" false Draft.script (fun s x => { s with script := some x }) Json.decodeText,
    .storing "env" false Draft.env (fun s x => { s with env := some x }) Env.decode]
  start := ⟨none, none, none⟩
  finish := fun s => do
    let image ← Json.required "image" s.image
    return { image, script := s.script.getD "", env := s.env.getD .empty }

end DelegationConfig

namespace DelegationInput

/-- The kind of an input whose octets are fetched as they are. -/
def rawKind : String := "raw"

/-- The input as a document. -/
def toValue (i : DelegationInput) : Json.Value :=
  .object [("type", .string i.kind), ("source", .object [("uri", i.source.toValue)]),
    ("destination_path", .string i.destination)]

/-- How the source of an input is read. -/
def sourceShape : Json.RecordShape (Option Url) Url where
  name := "ExecutorInputSource"
  fields := [.storing "uri" true id (fun _ x => some x) Url.decode]
  start := none
  finish := Json.required "uri"

/-- An input that is being read. -/
structure Draft where
  kind : Option String
  source : Option Url
  destination : Option String

/-- How an input is read: only the destination has a default. -/
def shape : Json.RecordShape Draft DelegationInput where
  name := "ExecutorInput"
  fields := [
    .storing "type" true Draft.kind (fun s x => { s with kind := some x }) Json.decodeText,
    .storing "source" true Draft.source (fun s x => { s with source := some x }) sourceShape.decode,
    .storing "destination_path" false Draft.destination
      (fun s x => { s with destination := some x }) Json.decodeText]
  start := ⟨none, none, none⟩
  finish := fun s => do
    let kind ← Json.required "type" s.kind
    let source ← Json.required "source" s.source
    return { kind, source, destination := s.destination.getD "" }

end DelegationInput

namespace Delegation

/-- What the executor is asked to run for a submission. -/
def ofSubmission (id : BuildId) (s : Submission) (urls : CallbackUrls) : Delegation where
  id
  logsUrl := urls.logs
  callback := urls.result
  config := ⟨s.image, s.script, s.env⟩
  inputs := [⟨DelegationInput.rawKind, urls.bits, s.path⟩]

/-- The delegation as a document. -/
def toValue (d : Delegation) : Json.Value :=
  .object [("guid", d.id.toValue), ("logs_url", d.logsUrl.toValue),
    ("callback", d.callback.toValue), ("config", d.config.toValue),
    ("inputs", .array (d.inputs.map DelegationInput.toValue))]

/-- A delegation that is being read. -/
structure Draft where
  id : Option BuildId
  logsUrl : Option Url
  callback : Option Url
  config : Option DelegationConfig
  inputs : Option (List DelegationInput)

/-- How a delegation is read: every field has to be given. -/
def shape : Json.RecordShape Draft Delegation where
  name := "ExecutorBuild"
  fields := [
    .storing "guid" true Draft.id (fun s x => { s with id := some x }) BuildId.decode,
    .storing "logs_url" true Draft.logsUrl (fun s x => { s with logsUrl := some x }) Url.decode,
    .storing "callback" true Draft.callback (fun s x => { s with callback := some x }) Url.decode,
    .storing "config" true Draft.config (fun s x => { s with config := some x })
      DelegationConfig.shape.decode,
    .storing "inputs" true Draft.inputs (fun s x => { s with inputs := some x })
      (Json.decodeList DelegationInput.shape.decode)]
  start := ⟨none, none, none, none, none⟩
  finish := fun s => do
    let id ← Json.required "guid" s.id
    let logsUrl ← Json.required "logs_url" s.logsUrl
    let callback ← Json.required "callback" s.callback
    let config ← Json.required "config" s.config
    let inputs ← Json.required "inputs" s.inputs
    return { id, logsUrl, callback, config, inputs }

/-- Reads a delegation from a document. -/
def decode : Json.Doc → Json.Decoded Delegation :=
  shape.decode

end Delegation

end BuildBroker
