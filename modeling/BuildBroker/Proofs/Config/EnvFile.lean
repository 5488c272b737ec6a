import BuildBroker.Config.Load
import BuildBroker.Proofs.Dotenv.Lines

/-!
# The File of Variables that Nobody Asked For

Where no file of variables is asked for, the one in the directory is applied if it is there. Loading
does not fail when that file is malformed, and says that it was not loaded; the variables that its
lines have set before the malformed one are set nevertheless. This module says what the settings
are then, and when they are those of a run without the file.

Main statements:
- `FileTree.read?_without`: taking one file away leaves the others as they are.
- `loadOver_without`: settings are loaded the same without a file that is not the settings file.
- `unloaded_file_counts`: what a run with the file of variables amounts to.
-/

namespace BuildBroker.Config

/-! ## §1 A tree without one of its files -/

namespace FileTree

variable {t : FileTree} {path name : String}

/-- The tree without the file of a name in the outermost directory. -/
def without (t : FileTree) (name : String) : FileTree :=
  { t with files := t.files.filter fun file => names file.1 ≠ [name] }

/-- Whether a path names the file of a name in the outermost directory. -/
def isNamed (t : FileTree) (path name : String) : Bool :=
  t.files.any fun file => names file.1 = [name] && t.leadsTo path file.1

private theorem isDirectory_without (steps : List String) :
    (t.without name).isDirectory steps = t.isDirectory steps := by
  cases steps with
  | nil => rfl
  | cons step steps =>
    -- the file that is taken away lies in no directory but the outermost
    have hfiles : (t.without name).files.any
          (fun file => (step :: steps).isPrefixOf (names file.1).dropLast) =
        t.files.any fun file => (step :: steps).isPrefixOf (names file.1).dropLast := by
      rw [without, List.any_filter]
      congr 1
      funext file
      by_cases hname : names file.1 = [name] <;> simp [hname]
    simp only [isDirectory, hfiles]
    rfl

private theorem leadsTo_without (path file : String) :
    (t.without name).leadsTo path file = t.leadsTo path file := by
  have hstep : (t.without name).step? = t.step? := by
    funext done next
    simp only [step?, isDirectory_without]
  have hresolve : (t.without name).resolve? path = t.resolve? path := by
    simp only [resolve?, hstep]
  rw [leadsTo, leadsTo, hresolve]

/-- Taking one file away leaves the others as they are. -/
theorem read?_without (h : t.isNamed path name = false) :
    (t.without name).read? path = t.read? path := by
  -- the path leads to none of the files that are taken away
  have hother : ∀ file ∈ t.files, names file.1 = [name] → t.leadsTo path file.1 = false := by
    simpa [isNamed] using h
  have hfound : (t.without name).files.find? (fun file => t.leadsTo path file.1) =
      t.files.find? fun file => t.leadsTo path file.1 := by
    rw [without, List.find?_filter, ← List.head?_filter, ← List.head?_filter]
    congr 1
    apply List.filter_congr
    intro file hfile
    by_cases hname : names file.1 = [name] <;> simp [hname, hother file hfile]
  simp only [read?, leadsTo_without, hfound]

theorem isFile_without (h : t.isNamed path name = false) :
    (t.without name).isFile path = t.isFile path := by
  simp only [isFile, read?_without h]

end FileTree

/-! ## §2 Loading without the file of variables -/

/-- The variables that hold settings. -/
def settingVariables : List String :=
  [configVariable, listenVariable, peerVariable, executorVariable] ++
    ([.executor, .fetch, .pickup] : List Timeout).map Timeout.variableName

/-- Only the variables that hold settings matter to them. -/
theorem EnvironmentLayer.ofLookup_congr {lookup lookup' : String → Option String}
    (h : ∀ n ∈ settingVariables, lookup n = lookup' n) :
    ofLookup lookup = ofLookup lookup' := by
  have hsetting : ∀ n ∈ settingVariables, setting lookup n = setting lookup' n := by
    intro n hn
    rw [setting, setting, h n hn]
  -- every variable that is looked up is one of the list
  have hname : ∀ t : Timeout, t.variableName ∈ settingVariables := by
    intro t
    cases t <;> decide
  have htimeout : timeout lookup = timeout lookup' := by
    funext t
    rw [timeout, timeout, hsetting _ (hname t)]
  have hunparsed : isUnparsed lookup = isUnparsed lookup' := by
    funext t
    rw [isUnparsed, isUnparsed, hsetting _ (hname t), htimeout]
  simp only [ofLookup, htimeout, hunparsed, hsetting configVariable (by decide),
    hsetting listenVariable (by decide), hsetting peerVariable (by decide),
    hsetting executorVariable (by decide)]

section

variable {tree : FileTree} {options : LoadOptions} {env : Env} {layer : EnvironmentLayer}

/-- The settings file that is asked for, on the command line or by the environment, is not the file
of variables itself. -/
def AsksElsewhere (tree : FileTree) (options : LoadOptions) (layer : EnvironmentLayer) : Prop :=
  ∀ path, options.configPath.or layer.configPath = some path →
    tree.isNamed path implicitEnvFile = false

/-- None of the places where a settings file is looked for is the file of variables. -/
private theorem isNamed_candidate {path : String} (h : path ∈ candidates) :
    tree.isNamed path implicitEnvFile = false := by
  have hnames : ∀ path ∈ candidates, FileTree.names path ≠ [implicitEnvFile] := by decide
  have hresolve : tree.resolve? path = some (FileTree.names path) := by
    obtain rfl | rfl : path = "glider.toml" ∨ path = "config/glider.toml" := by
      simpa [candidates] using h
    · rfl
    · rfl
  simp only [FileTree.isNamed, List.any_eq_false, Bool.and_eq_true, decide_eq_true_eq, not_and,
    Bool.not_eq_true]
  intro file _ hfile
  rw [FileTree.leadsTo, hresolve, hfile, Bool.or_eq_false_iff, decide_eq_false_iff_not,
    decide_eq_false_iff_not]
  refine ⟨?_, ?_⟩
  · rintro rfl
    exact hnames _ h hfile
  · exact fun hsame => hnames _ h (Option.some.inj hsame)

/-- The settings file that counts, and what it says. -/
def settingsFile (tree : FileTree) (asked : Option String) :
    Except ConfigError (Option String × FileLayer) :=
  match findConfigFile tree asked with
  | .error e => .error e
  | .ok none => .ok (none, .empty)
  | .ok (some path) => (readConfigFile tree path).map (some path, ·)

theorem loadOver_eq (tree : FileTree) (options : LoadOptions) (flags : Overrides)
    (layer : EnvironmentLayer) (envFileLoaded : Bool) :
    loadOver tree options flags layer envFileLoaded =
      match settingsFile tree (options.configPath.or layer.configPath) with
      | .error e => .error e
      | .ok (path, file) => (compose flags layer file).map fun composed =>
          ⟨composed.1, composed.2, path, envFileLoaded⟩ := by
  unfold loadOver settingsFile
  -- without a settings file an empty one is composed with the rest
  rcases findConfigFile tree (options.configPath.or layer.configPath) with e | _ | path
  · rfl
  · show (compose flags layer .empty >>= _) = (compose flags layer .empty).map _
    cases compose flags layer .empty <;> rfl
  · dsimp only
    show (readConfigFile tree path >>= _) = _
    rcases readConfigFile tree path with e | file
    · rfl
    · show (compose flags layer file >>= _) = (compose flags layer file).map _
      cases compose flags layer file <;> rfl

theorem findConfigFile_without {asked : Option String}
    (h : ∀ path, asked = some path → tree.isNamed path implicitEnvFile = false) :
    findConfigFile (tree.without implicitEnvFile) asked = findConfigFile tree asked := by
  cases asked with
  | some path => simp only [findConfigFile, FileTree.isFile_without (h path rfl)]
  | none =>
    have hfound : candidates.find? (tree.without implicitEnvFile).isFile =
        candidates.find? tree.isFile := by
      rw [← List.head?_filter, ← List.head?_filter]
      congr 1
      exact List.filter_congr fun path hpath => FileTree.isFile_without (isNamed_candidate hpath)
    simp only [findConfigFile, hfound]

/-- A settings file that is found was asked for or is one of the places that are looked at. -/
theorem isNamed_of_findConfigFile {asked : Option String} {path : String}
    (h : ∀ path, asked = some path → tree.isNamed path implicitEnvFile = false)
    (hfound : findConfigFile tree asked = .ok (some path)) :
    tree.isNamed path implicitEnvFile = false := by
  cases asked with
  | some asked =>
    simp only [findConfigFile] at hfound
    split at hfound
    · cases hfound
      exact h path rfl
    · cases hfound
  | none =>
    have hcandidate : candidates.find? tree.isFile = some path := by
      simpa [findConfigFile] using hfound
    exact isNamed_candidate (List.mem_of_find?_eq_some hcandidate)

theorem settingsFile_without {asked : Option String}
    (h : ∀ path, asked = some path → tree.isNamed path implicitEnvFile = false) :
    settingsFile (tree.without implicitEnvFile) asked = settingsFile tree asked := by
  rw [settingsFile, settingsFile, findConfigFile_without h]
  rcases hfound : findConfigFile tree asked with e | _ | path
  · rfl
  · rfl
  · have hread := FileTree.read?_without (isNamed_of_findConfigFile h hfound)
    simp only [readConfigFile, hread]

/-- Settings are loaded the same without a file that is not the settings file. -/
theorem loadOver_without (flags : Overrides) (envFileLoaded : Bool)
    (h : AsksElsewhere tree options layer) :
    loadOver (tree.without implicitEnvFile) options flags layer envFileLoaded =
      loadOver tree options flags layer envFileLoaded := by
  rw [loadOver_eq, loadOver_eq, settingsFile_without h]

/-! ## §3 What the file amounts to -/

/-- The same settings with another word on the file of variables. -/
def Loaded.withEnvFile (l : Loaded) (loaded : Bool) : Loaded :=
  { l with envFileLoaded := loaded }

/-- What is loaded does not depend on what is said about the file of variables. -/
private theorem loadOver_withEnvFile (tree : FileTree) (options : LoadOptions) (flags : Overrides)
    (layer : EnvironmentLayer) (said loaded : Bool) :
    loadOver tree options flags layer loaded =
      (loadOver tree options flags layer said).map (·.withEnvFile loaded) := by
  rw [loadOver_eq, loadOver_eq]
  rcases settingsFile tree (options.configPath.or layer.configPath) with e | ⟨path, file⟩
  · rfl
  · simp only
    cases compose flags layer file <;> rfl

/-- The tree without the file of variables has none. -/
private theorem read?_implicitEnvFile :
    (tree.without implicitEnvFile).read? implicitEnvFile = none := by
  have hnames : FileTree.names implicitEnvFile = [implicitEnvFile] := by decide
  have hresolve : (tree.without implicitEnvFile).resolve? implicitEnvFile =
      some [implicitEnvFile] := rfl
  simp only [FileTree.read?, Option.map_eq_none_iff, List.find?_eq_none]
  intro file hfile hleads
  have hother : FileTree.names file.1 ≠ [implicitEnvFile] := by
    simpa using (List.mem_filter.mp hfile).2
  rw [FileTree.leadsTo, hresolve, Bool.or_eq_true, decide_eq_true_eq, decide_eq_true_eq] at hleads
  obtain hsame | hsame := hleads
  · exact hother (hsame ▸ hnames)
  · exact hother (Option.some.inj hsame).symm

/-- A run without the file of variables. -/
private theorem load_without (flags : Overrides) (hnone : options.envFile = none)
    (hask : AsksElsewhere tree options (.ofEnv env)) (loaded : Bool) :
    loadOver tree options flags (.ofEnv env) loaded =
      (load (tree.without implicitEnvFile) options flags env).map (·.withEnvFile loaded) := by
  rw [loadOver_withEnvFile tree options flags _ false loaded]
  simp only [load, loadEnvFile, hnone, read?_implicitEnvFile]
  rw [← loadOver_without flags false hask]
  rfl

/-- **A file of variables counts even when it is not loaded.** Where none is asked for and the
directory has one, a run is one without the file in an environment in which the lines before the
first malformed line have set the variables that were not set, malformed line or not. The run says
that the file was loaded exactly when no line is malformed. It is the run without the file in the
same environment if no such line assigns to an unset variable that holds a setting. -/
theorem unloaded_file_counts {file : Bytes} (flags : Overrides) (hnone : options.envFile = none)
    (hfile : tree.read? implicitEnvFile = some file)
    (hask : AsksElsewhere tree options (.ofEnv (Dotenv.load env file).1)) :
    (∀ n, (Dotenv.load env file).1.get? n =
      (env.get? n).or
        (Env.firstValue? (Dotenv.assignments ⟨env, []⟩ (Dotenv.linesOf file)) n)) ∧
    load tree options flags env =
      (load (tree.without implicitEnvFile) options flags (Dotenv.load env file).1).map
        (·.withEnvFile (Dotenv.isWellFormed file)) ∧
    ((∀ n ∈ settingVariables, n ∈ Dotenv.assignedNames (Dotenv.linesOf file) →
        (env.get? n).isSome) →
      load tree options flags env =
        (load (tree.without implicitEnvFile) options flags env).map
          (·.withEnvFile (Dotenv.isWellFormed file))) := by
  have hrun : load tree options flags env =
      loadOver tree options flags (.ofEnv (Dotenv.load env file).1)
        (Dotenv.isWellFormed file) := by
    simp only [load, loadEnvFile, hnone, hfile, Dotenv.load_eq]
    rfl
  refine ⟨Dotenv.get?_load env file, hrun.trans (load_without flags hnone hask _), ?_⟩
  intro hset
  -- the settings are read from variables that the file has left as they were
  have hlayer : EnvironmentLayer.ofEnv (Dotenv.load env file).1 = .ofEnv env :=
    EnvironmentLayer.ofLookup_congr fun n hn => Dotenv.get?_load_of_kept (hset n hn)
  rw [hrun, hlayer]
  exact load_without flags hnone (hlayer ▸ hask) _

/-- A directory with nothing in it but a file of variables that cannot be read to its end. -/
def halfFile : FileTree where
  files := [(".env", Bytes.ofText "GLIDER_PEER_ADDR=ci:1\nnot a line\n")]
  directories := []

/-- The broker starts with the peer address of a file that it says it has not loaded; without the
file it would not start. -/
theorem unloaded_file_counts_halfFile :
    (load halfFile ⟨none, none⟩ ⟨none, none, none⟩ .empty).toOption.map
        (fun l => (l.settings.peer, l.envFileLoaded)) = some ("ci:1", false) ∧
      load (halfFile.without implicitEnvFile) ⟨none, none⟩ ⟨none, none, none⟩ .empty =
        .error .missingPeer := by
  have hask : AsksElsewhere halfFile ⟨none, none⟩
      (.ofEnv (Dotenv.load .empty (Bytes.ofText "GLIDER_PEER_ADDR=ci:1\nnot a line\n")).1) := by
    intro path hpath
    have hasked : (EnvironmentLayer.ofEnv (Dotenv.load .empty
        (Bytes.ofText "GLIDER_PEER_ADDR=ci:1\nnot a line\n")).1).configPath = none := by
      decide +kernel
    rw [hasked] at hpath
    cases hpath
  obtain ⟨-, hrun, -⟩ := unloaded_file_counts ⟨none, none, none⟩ rfl (by decide +kernel) hask
  rw [hrun]
  exact ⟨by decide +kernel, rfl⟩

end

end BuildBroker.Config
