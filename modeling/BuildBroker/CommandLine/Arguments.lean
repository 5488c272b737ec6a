import BuildBroker.Config.Load

/-!
# Arguments

The options on the command line. Every option takes a value, after an equals sign or as the next
argument, and may be given once. An option that is not given may be given by a variable of the
environment instead, whose text then counts as it stands.
-/

namespace BuildBroker.CommandLine

/-- The options. -/
inductive Flag where
  | listen
  | peer
  | executorUrl
  | config
  | envFile
deriving DecidableEq, Repr

namespace Flag

/-- All options, in the order in which they are shown. -/
def all : List Flag := [listen, peer, executorUrl, config, envFile]

/-- The name of an option, without its dashes. -/
def name : Flag → String
  | listen => "listen-addr"
  | peer => "peer-addr"
  | executorUrl => "executor-url"
  | config => "config"
  | envFile => "env-file"

/-- The name of the value of an option. -/
def valueName : Flag → String
  | listen => "LISTEN_ADDR"
  | peer => "PEER_ADDR"
  | executorUrl => "EXECUTOR_URL"
  | config => "CONFIG"
  | envFile => "ENV_FILE"

/-- How an option is written. -/
def usage (f : Flag) : String :=
  "--" ++ f.name ++ " <" ++ f.valueName ++ ">"

/-- The variable that stands in for an option. -/
def standIn? : Flag → Option String
  | listen => some Config.listenVariable
  | peer => some Config.peerVariable
  | executorUrl => some Config.executorVariable
  | config => some Config.configVariable
  | envFile => none

/-- Whether the value of an option names a file; such a name is not empty. -/
def isPath : Flag → Bool
  | config | envFile => true
  | listen | peer | executorUrl => false

/-- What an option is for. -/
def purpose : Flag → String
  | listen => "Address to listen on (default 0.0.0.0:5637)"
  | peer => "host:port the executor uses to reach this server (required)"
  | executorUrl => "Base URL of the executor service (default http://127.0.0.1:4637)"
  | config => "Path to a TOML config file"
  | envFile => "Path to a .env file loaded before reading the environment"

/-- The option of a name. -/
def ofName? (name : String) : Option Flag :=
  all.find? (·.name = name)

end Flag

/-- Why there is nothing to start. -/
inductive Refusal where
  | unexpected (argument : String)
  | missingValue (f : Flag)
  | repeated (f : Flag)
  /-- The request for help takes no value. -/
  | helpWithValue (value : String)
  /-- Help was asked for. -/
  | help
deriving DecidableEq, Repr

/-- The words for a refusal. -/
def Refusal.message : Refusal → String
  | .unexpected argument => "error: unexpected argument '" ++ argument ++ "' found"
  | .missingValue f => "error: a value is required for '" ++ f.usage ++ "' but none was supplied"
  | .repeated f => "error: the argument '" ++ f.usage ++ "' cannot be used multiple times"
  | .helpWithValue value =>
    "error: unexpected value '" ++ value ++ "' for '--help' found; no more were expected"
  | .help => ""

/-- The options that were given, with their values. -/
abbrev Given := List (Flag × String)

/-- The value of an option. -/
def Given.get? (g : Given) (f : Flag) : Option String :=
  (g.find? (·.1 = f)).map (·.2)

/-- Takes an option in. -/
def Given.add (g : Given) (f : Flag) (value : String) : Except Refusal Given :=
  if (Given.get? g f).isSome then .error (.repeated f)
  else if f.isPath && value = "" then .error (.missingValue f)
  else .ok (g ++ [(f, value)])

/-- An option that has been read and not been taken in; its value may still be missing. -/
abbrev Waiting := Option (Flag × Option String)

/-- Takes in the option that is waiting. -/
def resolve (g : Given) : Waiting → Except Refusal Given
  | none => .ok g
  | some (f, none) => .error (.missingValue f)
  | some (f, some value) => g.add f value

/-- How an argument looks. -/
inductive Shape where
  /-- The mark after which no options follow. -/
  | separator
  /-- An option by its name, with a value if one is attached. -/
  | long (name : String) (value : Option String)
  /-- An option by a letter. -/
  | short (letter : Char)
  | word

/-- How an argument looks. -/
def shapeOf (argument : String) : Shape :=
  match argument.toList with
  | ['-', '-'] => .separator
  | '-' :: '-' :: rest =>
    let name := rest.takeWhile (· ≠ '=')
    match rest.drop name.length with
    | _ :: value => .long (String.ofList name) (some (String.ofList value))
    | [] => .long (String.ofList name) none
  | '-' :: c :: _ => .short c
  | _ => .word

/-- Help is shown once the option that is waiting has been taken in. -/
def askHelp (g : Given) (w : Waiting) : Except Refusal Given := do
  let _ ← resolve g w
  .error .help

/-- Reads arguments. An argument that fits nowhere is refused before the option that is waiting is
looked at. -/
def readArguments (g : Given) (w : Waiting) : List String → Except Refusal Given
  | [] => resolve g w
  | argument :: rest =>
    match shapeOf argument, w with
    | .separator, w =>
      match rest with
      | [] => resolve g w
      | argument :: _ => .error (.unexpected argument)
    | .long "help" none, w => askHelp g w
    | .long "help" (some value), _ => .error (.helpWithValue value)
    | .short 'h', w => askHelp g w
    | .short c, _ => .error (.unexpected (String.ofList ['-', c]))
    | .long name value, w =>
      match Flag.ofName? name, value with
      | none, _ => .error (.unexpected ("--" ++ name))
      | some f, none =>
        match resolve g w with
        | .ok g => readArguments g (some (f, none)) rest
        | .error e => .error e
      | some f, some value =>
        match (resolve g w).bind (·.add f value) with
        | .ok g => readArguments g none rest
        | .error e => .error e
    | .word, some (f, none) => readArguments g (some (f, some argument)) rest
    | .word, _ => .error (.unexpected argument)

/-- Takes the options that are not given from the environment. -/
def addVariables (env : Env) : List Flag → Given → Except Refusal Given
  | [], g => .ok g
  | f :: rest, g =>
    match (Given.get? g f), f.standIn?.bind env.get? with
    | none, some value =>
      match g.add f value with
      | .ok g => addVariables env rest g
      | .error e => .error e
    | _, _ => addVariables env rest g

/-- The options in effect. -/
structure Arguments where
  options : Config.LoadOptions
  overrides : Config.Overrides
deriving DecidableEq

/-- Reads the command line. -/
def Arguments.read (arguments : List String) (env : Env) : Except Refusal Arguments := do
  let g ← readArguments [] none arguments
  let g ← addVariables env Flag.all g
  return {
    options := ⟨g.get? .config, g.get? .envFile⟩
    overrides := ⟨g.get? .listen, g.get? .peer, g.get? .executorUrl⟩ }

/-! ## Help -/

/-- The name of the program. -/
def programName : String := "glider-server"

/-- The line that shows how the program is started. -/
def usageLine : String := "Usage: " ++ programName ++ " [OPTIONS]"

/-- What is shown of an option. -/
def helpLines (env : Env) (f : Flag) : List String :=
  let standIn := match f.standIn? with
    | some v => " [env: " ++ v ++ "=" ++ (env.get? v).getD "" ++ "]"
    | none => ""
  ["      " ++ f.usage, "          " ++ f.purpose ++ standIn]

/-- The help. -/
def help (env : Env) : List String :=
  ["Build-coordination server brokering traffic to an executor", "", usageLine, "", "Options:"]
    ++ Flag.all.flatMap (helpLines env) ++ ["  -h, --help", "          Print help"]

/-- What is written about a refusal. -/
def Refusal.lines (r : Refusal) : List String :=
  [r.message, "", usageLine, "", "For more information, try '--help'."]

end BuildBroker.CommandLine
