import BuildBroker.Dotenv
import BuildBroker.Config.Compose

/-!
# Loading Settings

Where the settings of a broker come from: a `.env` file and the environment, a settings file in a
directory, and the command line. Files are looked up in a tree that is given as a value, so loading
is a function of what is there.
-/

namespace BuildBroker.Config

/-- The files and directories below a directory, by their paths from it. -/
structure FileTree where
  files : List (String × Bytes)
  /-- Directories besides those that hold the files. -/
  directories : List String
deriving Inhabited

namespace FileTree

/-- The parts of a path between its slashes. -/
def parts (path : String) : List String :=
  (Host.splitOn '/' path.toList).map String.ofList

/-- The names along a path, without steps that stay where they are. -/
def names (path : String) : List String :=
  (parts path).filter fun name => name ≠ "" ∧ name ≠ "."

/-- Whether names lead to a directory. -/
def isDirectory (t : FileTree) (steps : List String) : Bool :=
  steps.isEmpty || t.directories.any (fun path => steps.isPrefixOf (names path))
    || t.files.any fun (path, _) => steps.isPrefixOf (names path).dropLast

/-- Goes one name further; only a directory can be left, and not the outermost one. -/
def step? (t : FileTree) (done : List String) (name : String) : Option (List String) :=
  if name ≠ ".." then some (done ++ [name])
  else if !done.isEmpty && t.isDirectory done then some done.dropLast
  else none

/-- The names that lead to what a path names; `none` if the path leads out of the tree or can name
no file. -/
def resolve? (t : FileTree) (path : String) : Option (List String) :=
  let parts := parts path
  if parts.head? = some "" || parts.getLast? = some "" || parts.getLast? = some "." then none
  else (names path).foldlM t.step? []

/-- Whether a path names the file with the given path: it is the same text, or leads there. -/
def leadsTo (t : FileTree) (path file : String) : Bool :=
  path = file || t.resolve? path = some (names file)

/-- The content of a file. -/
def read? (t : FileTree) (path : String) : Option Bytes :=
  (t.files.find? fun file => t.leadsTo path file.1).map (·.2)

/-- Whether a path names a file. -/
def isFile (t : FileTree) (path : String) : Bool :=
  (t.read? path).isSome

end FileTree

/-- What is asked of loading. -/
structure LoadOptions where
  /-- The settings file; it has to be there. -/
  configPath : Option String
  /-- The file of variables; it has to be there and well-formed. -/
  envFile : Option String
deriving DecidableEq, Inhabited

/-- The settings in effect and where they came from. -/
structure Loaded where
  settings : Settings
  warnings : List Warning
  configPath : Option String
  envFileLoaded : Bool

/-- The name of the file of variables where none is asked for. -/
def implicitEnvFile : String := ".env"

/-- The places where a settings file is looked for where none is asked for. -/
def candidates : List String := ["glider.toml", "config/glider.toml"]

/-- Applies the file of variables to an environment. A file that was asked for has to be there and
well-formed. The one that is looked for anyway may be missing or malformed; its assignments before
the malformed line count nevertheless. -/
def loadEnvFile (tree : FileTree) (asked : Option String) (env : Env) :
    Except ConfigError (Env × Bool) :=
  match asked with
  | some path =>
    match (tree.read? path).map (Dotenv.load env) with
    | some (env, true) => .ok (env, true)
    | _ => .error (.malformedEnvFile path)
  | none =>
    match tree.read? implicitEnvFile with
    | some file => .ok (Dotenv.load env file)
    | none => .ok (env, false)

/-- The path of the settings file: one that was asked for has to be there. -/
def findConfigFile (tree : FileTree) (asked : Option String) : Except ConfigError (Option String) :=
  match asked with
  | some path => if tree.isFile path then .ok (some path) else .error (.fileNotFound path)
  | none => .ok (candidates.find? tree.isFile)

/-- The path of the file of variables that loading reads. -/
def envFilePath (options : LoadOptions) : String :=
  options.envFile.getD implicitEnvFile

/-- The paths where loading looks for a settings file, given the file of variables. -/
def configPaths (tree : FileTree) (options : LoadOptions) (env : Env) : List String :=
  match loadEnvFile tree options.envFile env with
  | .error _ => []
  | .ok (env, _) =>
    match options.configPath.or (EnvironmentLayer.ofEnv env).configPath with
    | some path => [path]
    | none => candidates

/-- Reads a settings file. -/
def readConfigFile (tree : FileTree) (path : String) : Except ConfigError FileLayer :=
  match (tree.read? path).bind Bytes.toText? with
  | none => .error (.unreadableFile path)
  | some text =>
    match FileLayer.ofText? text with
    | some layer => .ok layer
    | none => .error (.malformedFile path)

/-- Loads the settings over a given environment layer. -/
def loadOver (tree : FileTree) (options : LoadOptions) (flags : Overrides)
    (layer : EnvironmentLayer) (envFileLoaded : Bool) : Except ConfigError Loaded := do
  let path ← findConfigFile tree (options.configPath.or layer.configPath)
  let file ← match path with
    | some path => readConfigFile tree path
    | none => pure .empty
  let (settings, warnings) ← compose flags layer file
  return { settings, warnings, configPath := path, envFileLoaded }

/-- Loads the settings in an environment. -/
def load (tree : FileTree) (options : LoadOptions) (flags : Overrides) (env : Env) :
    Except ConfigError Loaded := do
  let (env, envFileLoaded) ← loadEnvFile tree options.envFile env
  loadOver tree options flags (.ofEnv env) envFileLoaded

end BuildBroker.Config
