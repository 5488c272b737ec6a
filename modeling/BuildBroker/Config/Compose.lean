import BuildBroker.Net.Address
import BuildBroker.Url.Parse
import BuildBroker.Config.Environment
import BuildBroker.Config.FileLayer

/-!
# Effective Settings

Each setting is taken from the first layer that has it: the overrides of the command line, the
environment, the settings file, the default. Only the value that was taken is checked.
-/

namespace BuildBroker.Config

/-- Why no settings are in effect. -/
inductive ConfigError where
  | fileNotFound (path : String)
  | unreadableFile (path : String)
  | malformedFile (path : String)
  | malformedEnvFile (path : String)
  | missingPeer
  | invalidListen (value : String)
  | invalidExecutorUrl (value : String) (cause : UrlError)
  | unsupportedScheme (value : String)
  | zeroTimeout (which : Timeout)
deriving DecidableEq, Repr

/-- The words for the cause below an error, if there is one. -/
def ConfigError.cause? : ConfigError → Option String
  | .unreadableFile _ => some "stream did not contain valid UTF-8"
  | .malformedFile _ => some "not a document of settings"
  | .malformedEnvFile _ => some "not a file of variables"
  | .invalidListen _ => some "invalid socket address syntax"
  | .invalidExecutorUrl _ cause => some cause.message
  | _ => none

/-- The words for an error, without its cause. -/
def ConfigError.headline : ConfigError → String
  | .fileNotFound path => "config file " ++ path ++ " does not exist"
  | .unreadableFile path => "failed to read config file " ++ path
  | .malformedFile path => "failed to parse config file " ++ path
  | .malformedEnvFile path => "failed to load env file " ++ path
  | .missingPeer =>
    "peer address is required (set --peer-addr, GLIDER_PEER_ADDR, or [server].peer_addr)"
  | .invalidListen value => "invalid listen address `" ++ value ++ "`"
  | .invalidExecutorUrl value _ => "invalid executor url `" ++ value ++ "`"
  | .unsupportedScheme value => "executor url `" ++ value ++ "` must use http or https"
  | .zeroTimeout which => which.variableName ++ " must be greater than zero"

/-- The words for an error, with its cause if there is one. -/
def ConfigError.message (e : ConfigError) : String :=
  match e.cause? with
  | some cause => e.headline ++ ": " ++ cause
  | none => e.headline

/-- Something that is in effect but probably not meant. -/
structure Warning where
  message : String
  hint : String
deriving DecidableEq, Repr

/-- What the command line sets. -/
structure Overrides where
  listen : Option String
  peer : Option String
  executorUrl : Option String
deriving DecidableEq, Inhabited

/-- The settings of a broker. -/
structure Settings where
  listen : Net.SocketAddress
  /-- The `host:port` under which the executor reaches the broker. -/
  peer : String
  executorUrl : Url
  executorTimeout : Nat
  fetchTimeout : Nat
  pickupTimeout : Nat
deriving DecidableEq

/-- The address that builds are handed to. -/
def Settings.buildsUrl (s : Settings) : Url :=
  s.executorUrl.child "builds"

/-! ## Defaults -/

/-- The address to listen on where none is set. -/
def defaultListen : String := "0.0.0.0:5637"

/-- The address of the executor where none is set. -/
def defaultExecutorUrl : String := "http://127.0.0.1:4637"

/-- The milliseconds of a timeout where none are set. -/
def Timeout.default : Timeout → Nat
  | .executor => 30000
  | .fetch => 1000
  | .pickup => 60000

/-! ## Choosing -/

/-- The first layer that has a setting: blank overrides and blank entries of a file do not count. -/
def chooseText (flag environment file : Option String) : Option String :=
  (flag.bind Text.nonBlank).or (environment.or (file.bind Text.nonBlank))

/-- A timeout from the first layer that has it; it must not be zero. -/
def chooseTimeout (which : Timeout) (environment file : Option Nat) : Except ConfigError Nat :=
  let n := (environment.or file).getD which.default
  if n = 0 then .error (.zeroTimeout which) else .ok n

/-- The part of a peer address that names a host: what stands before the last colon, if only digits
follow it, without brackets around it. -/
def peerHost (peer : String) : List Char :=
  let cs := peer.toList
  let port := (cs.reverse.takeWhile (· ≠ ':')).reverse
  let host :=
    if cs.contains ':' && port.all Text.isDigit then (cs.take (cs.length - port.length)).dropLast
    else cs
  (((host.dropWhile (· = '[')).reverse).dropWhile (· = ']')).reverse

/-- Whether a peer address names only this host. -/
def isLocalPeer (peer : String) : Bool :=
  let host := peerHost peer
  host.map Char.toLower = "localhost".toList ||
    match Net.Ip.ofChars? host with
    | some ip => ip.isLoopback || ip.isUnspecified
    | none => false

/-! ## Warnings -/

/-- A timeout is set but is no count. -/
def Warning.unparsed (t : Timeout) : Warning :=
  ⟨t.variableName ++ " is not a millisecond count", "falling back to the file or default value"⟩

/-- Executors on other hosts cannot reach the peer address. -/
def Warning.localPeer (peer : String) : Warning :=
  ⟨"peer address `" ++ peer ++ "` is local to this host",
    "remote executors will not be able to call back"⟩

/-- An upload gives up before a fetch does. -/
def Warning.shortPickup : Warning :=
  ⟨"bits pickup timeout is shorter than the fetch timeout",
    "uploads may be withdrawn before the executor arrives"⟩

/-! ## Composition -/

/-- The settings in effect, with warnings. The first check that fails decides the error. -/
def compose (flags : Overrides) (env : EnvironmentLayer) (file : FileLayer) :
    Except ConfigError (Settings × List Warning) := do
  let listenText := (chooseText flags.listen env.listen file.listen).getD defaultListen
  let some listen := Net.SocketAddress.ofText? listenText | throw (.invalidListen listenText)
  let some peer := chooseText flags.peer env.peer file.peer | throw .missingPeer
  let urlText :=
    (chooseText flags.executorUrl env.executorUrl file.executorUrl).getD defaultExecutorUrl
  let executorUrl ← match Url.parse urlText with
    | .ok u => pure u
    | .error e => throw (.invalidExecutorUrl urlText e)
  if executorUrl.scheme ≠ "http" ∧ executorUrl.scheme ≠ "https" then
    throw (.unsupportedScheme urlText)
  let executorTimeout ← chooseTimeout .executor env.executorTimeout file.executorTimeout
  let fetchTimeout ← chooseTimeout .fetch env.fetchTimeout file.fetchTimeout
  let pickupTimeout ← chooseTimeout .pickup env.pickupTimeout file.pickupTimeout
  let warnings := env.unparsed.map Warning.unparsed
    ++ (if isLocalPeer peer then [Warning.localPeer peer] else [])
    ++ (if pickupTimeout < fetchTimeout then [Warning.shortPickup] else [])
  return ({ listen, peer, executorUrl, executorTimeout, fetchTimeout, pickupTimeout }, warnings)

end BuildBroker.Config
