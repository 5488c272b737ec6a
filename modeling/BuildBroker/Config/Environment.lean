import BuildBroker.Text.Blank
import BuildBroker.Text.Natural
import BuildBroker.Env

/-!
# Settings from the Environment

The variables that hold settings. A blank variable counts as unset, and the text of a set one is
trimmed. A timeout that is no count of milliseconds counts as unset too, but is remembered.
-/

namespace BuildBroker.Config

/-- The variable that names the settings file. -/
def configVariable : String := "GLIDER_CONFIG"

/-- The variable of the address to listen on. -/
def listenVariable : String := "GLIDER_LISTEN_ADDR"

/-- The variable of the address under which the executor reaches the broker. -/
def peerVariable : String := "GLIDER_PEER_ADDR"

/-- The variable of the address of the executor. -/
def executorVariable : String := "GLIDER_EXECUTOR_URL"

/-- The timeouts that can be set. -/
inductive Timeout where
  /-- How long a request to the executor may take. -/
  | executor
  /-- How long a fetch waits for an upload to arrive. -/
  | fetch
  /-- How long an upload waits for the executor to start fetching. -/
  | pickup
deriving DecidableEq, Repr

/-- The variable of a timeout. -/
def Timeout.variableName : Timeout → String
  | .executor => "GLIDER_EXECUTOR_TIMEOUT_MS"
  | .fetch => "GLIDER_BITS_FETCH_TIMEOUT_MS"
  | .pickup => "GLIDER_BITS_PICKUP_TIMEOUT_MS"

/-- Reads a count of milliseconds. -/
def readMillis? (s : String) : Option Nat :=
  Text.readCounter? (Text.trim s)

/-- What the environment says about the settings. -/
structure EnvironmentLayer where
  configPath : Option String
  listen : Option String
  peer : Option String
  executorUrl : Option String
  executorTimeout : Option Nat
  fetchTimeout : Option Nat
  pickupTimeout : Option Nat
  /-- The timeouts that are set but are no counts. -/
  unparsed : List Timeout
deriving DecidableEq, Inhabited

namespace EnvironmentLayer

/-- The text of a variable, if it is set and not blank. -/
def setting (lookup : String → Option String) (name : String) : Option String :=
  (lookup name).bind Text.nonBlank

/-- A timeout, if its variable holds a count. -/
def timeout (lookup : String → Option String) (t : Timeout) : Option Nat :=
  (setting lookup t.variableName).bind readMillis?

/-- Whether the variable of a timeout is set but holds no count. -/
def isUnparsed (lookup : String → Option String) (t : Timeout) : Bool :=
  (setting lookup t.variableName).isSome && (timeout lookup t).isNone

/-- Reads the settings through a lookup of variables. -/
def ofLookup (lookup : String → Option String) : EnvironmentLayer where
  configPath := setting lookup configVariable
  listen := setting lookup listenVariable
  peer := setting lookup peerVariable
  executorUrl := setting lookup executorVariable
  executorTimeout := timeout lookup .executor
  fetchTimeout := timeout lookup .fetch
  pickupTimeout := timeout lookup .pickup
  unparsed := [.executor, .fetch, .pickup].filter (isUnparsed lookup)

/-- Reads the settings of an environment. -/
def ofEnv (env : Env) : EnvironmentLayer :=
  ofLookup env.get?

end EnvironmentLayer

end BuildBroker.Config
