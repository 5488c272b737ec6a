import BuildBroker.CommandLine.Arguments
import BuildBroker.Coordinator.Basic
import BuildBroker.Journal

/-!
# Starting Up

From the command line to a broker that is ready to listen: the settings are loaded, the journal
tells what is in effect, and what goes wrong is reported with its causes.
-/

namespace BuildBroker.CommandLine

open Journal Config

/-! ## Reports -/

/-- A text with its further lines moved in. -/
def indentLines (first next : String) (text : String) : String :=
  first ++ String.intercalate ("\n" ++ next) (text.splitOn "\n")

/-- The causes of a failure, each below the one it explains; several of them are numbered. -/
def causeLines (causes : List String) : List String :=
  match causes with
  | [cause] => [indentLines "    " "    " cause]
  | causes => causes.zipIdx.map fun (cause, i) =>
    indentLines ("    " ++ toString i ++ ": ") "       " cause

/-- What is written about a failure. -/
def report (failure : String) (causes : List String) : String :=
  String.intercalate "\n" (["Error: " ++ failure, "", "Caused by:"] ++ causeLines causes)

/-- The causes of settings that could not be loaded. -/
def causesOf (e : ConfigError) : List String :=
  e.message :: e.cause?.toList

/-- What is written about settings that could not be loaded. -/
def loadReport (e : ConfigError) : String :=
  report "failed to load configuration" (causesOf e)

/-- What is written about an address that cannot be listened on. -/
def bindReport (address : Net.SocketAddress) (cause : String) : String :=
  report ("failed to bind " ++ address.toText) [cause]

/-! ## The journal of a start -/

/-- The place of the program's own entries. -/
def mainPlace : String := "glider_server"

/-- The place of the entries about settings files. -/
def loaderPlace : String := "glider_config::loader"

/-- An entry of the program itself. -/
def info (text : String) : Entry := ⟨.info, mainPlace, text⟩

/-- The settings file that is read, if one can be, whether it is well-formed or not. -/
def fileRead? (tree : FileTree) (options : LoadOptions) (env : Env) : Option String :=
  match loadEnvFile tree options.envFile env with
  | .error _ => none
  | .ok (env, _) =>
    match findConfigFile tree (options.configPath.or (EnvironmentLayer.ofEnv env).configPath) with
    | .ok (some path) => if ((tree.read? path).bind Bytes.toText?).isSome then some path else none
    | _ => none

/-- The entries about loading. -/
def loadEntries (tree : FileTree) (options : LoadOptions) (env : Env) : List Entry :=
  ((fileRead? tree options env).map fun path =>
    Entry.mk .debug loaderPlace ("loaded config file path=" ++ path)).toList

/-- The entry about a warning. -/
def warningEntry (w : Warning) : Entry :=
  ⟨.warn, mainPlace, "configuration warning " ++ w.message ++ " hint=" ++ w.hint⟩

/-- The entry about the settings in effect. -/
def effectEntry (s : Settings) : Entry :=
  info ("configuration in effect listen_addr=" ++ s.listen.toText ++ " peer_addr=" ++ s.peer
    ++ " executor_url=" ++ s.executorUrl.toText
    ++ " bits.fetch_timeout_ms=" ++ toString s.fetchTimeout
    ++ " bits.pickup_timeout_ms=" ++ toString s.pickupTimeout)

/-- The entries about what has been loaded. -/
def loadedEntries (l : Loaded) : List Entry :=
  (if l.envFileLoaded then [info "loaded .env file"] else [])
    ++ (l.configPath.map fun path => info ("loaded config file path=" ++ path)).toList
    ++ l.warnings.map warningEntry ++ [effectEntry l.settings]

/-- The entry about listening. -/
def listeningEntry (address : String) : Entry :=
  info ("Starting Glider server on " ++ address)

/-- The entries about the end. -/
def endEntries : List Entry :=
  [info "shutdown signal received", info "Glider server stopped"]

/-! ## Starting -/

/-- What a start comes to. -/
structure Startup where
  /-- The entries that are written. -/
  entries : List Entry
  /-- The filter for all further entries. -/
  filter : Filter
  loaded : Except ConfigError Loaded

/-- Starts with options. -/
def startWith (tree : FileTree) (a : Arguments) (env : Env) : Startup :=
  let filter := Filter.read (env.get? filterVariable)
  let loaded := load tree a.options a.overrides env
  let entries := loadEntries tree a.options env ++ match loaded with
    | .ok l => loadedEntries l
    | .error _ => []
  ⟨entries.filter filter.admits, filter, loaded⟩

/-- Starts from the command line. -/
def start (tree : FileTree) (arguments : List String) (env : Env) : Except Refusal Startup :=
  (Arguments.read arguments env).map fun a => startWith tree a env

/-- The settings of the coordinator. -/
def coordinatorSettings (s : Settings) : CoordinatorSettings :=
  ⟨s.peer, s.fetchTimeout, s.pickupTimeout⟩

/-- The exit code after a usage that was refused. -/
def Refusal.exitCode : Refusal → Nat
  | .help => 0
  | _ => 2

/-- The exit code after a failed start. -/
def failureCode : Nat := 1

end BuildBroker.CommandLine
