import BuildBroker.CommandLine.Startup
import BuildBroker.Proofs.Config.EnvFile
import BuildBroker.Proofs.Config.Layering

/-!
# Variables that Stand In for Options

An option that is not given takes the text of its variable as it stands. Loading reads the same
variable once more, as part of the environment, where a text counts without the blanks around it and
a blank one not at all. This module says when the two readings come to the same: always for the
addresses, whose texts are trimmed in either layer; for the settings file only where its variable is
not set or is its own trimmed form, since the path of an option is looked up untrimmed.

Main statements:
- `addVariables_spec`: what the options are once the variables have been taken in.
- `load_of_restates`: overrides that repeat the environment have no part in what is loaded.
- `trimmed_of_named`: loading by the environment names no settings file with blanks around it.
- `start_of_environment`: what a start without options loads.
-/

namespace BuildBroker

/-! ## §1 Taking the variables in -/

namespace CommandLine

variable {env : Env} {g : Given}

/-- The text that stands in for an option. -/
def Flag.inherited? (env : Env) (f : Flag) : Option String :=
  f.standIn?.bind env.get?

/-- The settings file is not given, and the variable for it names none. -/
def LacksConfig (env : Env) (fs : List Flag) (g : Given) : Prop :=
  .config ∈ fs ∧ g.get? .config = none ∧ env.get? Config.configVariable = some ""

theorem Given.get?_concat (g : Given) (f x : Flag) (value : String) :
    Given.get? (g ++ [(f, value)]) x = (g.get? x).or (if f = x then some value else none) := by
  unfold Given.get?
  rw [List.find?_append]
  by_cases hsame : f = x
  · cases g.find? (·.1 = x) <;> simp [hsame]
  · cases g.find? (·.1 = x) <;> simp [hsame]

/-- Of the options that name a file only the settings file has a variable. -/
theorem Flag.eq_config_of_inherited {f : Flag} {value : String} (hpath : f.isPath)
    (h : f.inherited? env = some value) :
    f = .config ∧ env.get? Config.configVariable = some value := by
  cases f with
  | config => exact ⟨rfl, h⟩
  | envFile => cases h
  | listen => cases hpath
  | peer => cases hpath
  | executorUrl => cases hpath

/-- An option that is given, or that nothing stands in for, is passed over. -/
theorem addVariables_of_passed {f : Flag} (h : g.get? f = none → f.inherited? env = none)
    (fs : List Flag) : addVariables env (f :: fs) g = addVariables env fs g := by
  rw [addVariables]
  cases hgiven : g.get? f with
  | some value => rfl
  | none =>
    have hnone : f.standIn?.bind env.get? = none := h hgiven
    rw [hnone]

/-- An option that is not given takes the text that stands in for it, which has to be a name where
the option names a file. -/
theorem addVariables_of_taken {f : Flag} {value : String} (hgiven : g.get? f = none)
    (h : f.inherited? env = some value) (fs : List Flag) :
    addVariables env (f :: fs) g =
      if f.isPath ∧ value = "" then .error (.missingValue f)
      else addVariables env fs (g ++ [(f, value)]) := by
  have hvalue : f.standIn?.bind env.get? = some value := h
  rw [addVariables, hgiven, hvalue]
  by_cases hempty : f.isPath ∧ value = "" <;> simp [Given.add, hgiven, hempty]

theorem lacksConfig_of_passed {f : Flag} (h : g.get? f = none → f.inherited? env = none)
    (fs : List Flag) : LacksConfig env (f :: fs) g ↔ LacksConfig env fs g := by
  refine ⟨?_, fun hlacks => ⟨List.mem_cons_of_mem _ hlacks.1, hlacks.2⟩⟩
  rintro ⟨hmem, hgiven, hempty⟩
  rcases List.mem_cons.mp hmem with rfl | hmem
  · -- the variable that names no file would stand in for the option
    have hnone : env.get? Config.configVariable = none := h hgiven
    rw [hempty] at hnone
    cases hnone
  · exact ⟨hmem, hgiven, hempty⟩

theorem lacksConfig_of_taken {f : Flag} {value : String} (h : f.inherited? env = some value)
    (hname : ¬(f.isPath ∧ value = "")) (fs : List Flag) :
    LacksConfig env (f :: fs) g ↔ LacksConfig env fs (g ++ [(f, value)]) := by
  unfold LacksConfig
  rw [Given.get?_concat]
  by_cases hf : f = .config
  · subst hf
    have hset : env.get? Config.configVariable = some value := h
    have hne : value ≠ "" := fun hempty => hname ⟨rfl, hempty⟩
    simp [hset, hne]
  · simp [hf, Ne.symm hf]

/-- Taking the variables in leaves the options that are given as they are and gives the others the
texts that stand in for them; it fails only where the settings file lacks a name. -/
theorem addVariables_spec (env : Env) (fs : List Flag) (g : Given) :
    (LacksConfig env fs g → addVariables env fs g = .error (.missingValue .config)) ∧
      (¬LacksConfig env fs g → ∃ g', addVariables env fs g = .ok g' ∧
        ∀ x, g'.get? x = (g.get? x).or (if x ∈ fs then x.inherited? env else none)) := by
  induction fs generalizing g with
  | nil => exact ⟨fun h => absurd h.1 List.not_mem_nil, fun _ => ⟨g, rfl, fun x => by simp⟩⟩
  | cons f fs ih =>
    -- what is taken in now counts as given for the options that follow
    by_cases hpassed : g.get? f = none → f.inherited? env = none
    case pos =>
      rw [addVariables_of_passed hpassed, lacksConfig_of_passed hpassed]
      refine ⟨(ih g).1, fun h => ?_⟩
      obtain ⟨g', hg', hget⟩ := (ih g).2 h
      refine ⟨g', hg', fun x => ?_⟩
      rw [hget]
      by_cases hx : x = f
      · subst hx
        cases hgiven : g.get? x with
        | some value => rfl
        | none => simp [hpassed hgiven]
      · simp [hx]
    case neg =>
      obtain ⟨hgiven, hsome⟩ := Classical.not_imp.mp hpassed
      obtain ⟨value, hvalue⟩ := Option.ne_none_iff_exists'.mp hsome
      rw [addVariables_of_taken hgiven hvalue]
      by_cases hempty : f.isPath ∧ value = ""
      · -- an empty name is refused, and only the settings file can inherit one
        obtain ⟨rfl, hset⟩ := Flag.eq_config_of_inherited hempty.1 hvalue
        rw [if_pos hempty]
        rw [hempty.2] at hset
        exact ⟨fun _ => rfl, fun h => absurd ⟨List.mem_cons_self, hgiven, hset⟩ h⟩
      · rw [if_neg hempty, lacksConfig_of_taken hvalue hempty]
        refine ⟨(ih _).1, fun h => ?_⟩
        obtain ⟨g', hg', hget⟩ := (ih _).2 h
        refine ⟨g', hg', fun x => ?_⟩
        rw [hget, Given.get?_concat]
        by_cases hx : f = x
        · subst hx
          simp [hgiven, hvalue]
        · simp [hx, Ne.symm hx]

/-- **The options of a bare command line.** Without arguments every option that has a variable holds
its text as it stands, and only an empty name of a settings file is refused. -/
theorem read_nil (env : Env) :
    Arguments.read [] env =
      if env.get? Config.configVariable = some "" then .error (.missingValue .config)
      else .ok ⟨⟨env.get? Config.configVariable, none⟩,
        ⟨env.get? Config.listenVariable, env.get? Config.peerVariable,
          env.get? Config.executorVariable⟩⟩ := by
  obtain ⟨hrefused, htaken⟩ := addVariables_spec env Flag.all []
  -- without arguments only the configuration file can be a flag that lacks its value
  have hlacks : LacksConfig env Flag.all [] ↔ env.get? Config.configVariable = some "" := by
    simp [LacksConfig, Flag.all, Given.get?]
  have hread : Arguments.read [] env =
      (addVariables env Flag.all []).map fun g =>
        ⟨⟨g.get? .config, g.get? .envFile⟩, ⟨g.get? .listen, g.get? .peer, g.get? .executorUrl⟩⟩ := by
    show (addVariables env Flag.all [] >>= _) = _
    cases addVariables env Flag.all [] <;> rfl
  rw [hread]
  split
  · rename_i hempty
    rw [hrefused (hlacks.mpr hempty)]
    rfl
  · rename_i hname
    obtain ⟨g, hg, hget⟩ := htaken fun h => hname (hlacks.mp h)
    -- nothing was given, so each flag has what it inherits
    have hvalue : ∀ x, g.get? x = x.inherited? env := by
      intro x
      rw [hget]
      cases x <;> rfl
    rw [hg]
    simp only [Except.map, hvalue]
    rfl

end CommandLine

/-! ## §2 Addresses that repeat the environment -/

namespace Config

variable {tree : FileTree} {options : LoadOptions} {flags : Overrides} {env env' : Env}
  {lookup : String → Option String}

/-- Overrides that say of each address what the environment says of it, or nothing. -/
structure Overrides.Restates (flags : Overrides) (lookup : String → Option String) : Prop where
  listen : flags.listen = none ∨ flags.listen = lookup listenVariable
  peer : flags.peer = none ∨ flags.peer = lookup peerVariable
  executorUrl : flags.executorUrl = none ∨ flags.executorUrl = lookup executorVariable

/-- A text that the environment has as well is chosen in any case. -/
theorem chooseText_of_restated {flag : Option String} {name : String}
    (h : flag = none ∨ flag = lookup name) (file : Option String) :
    chooseText flag (EnvironmentLayer.setting lookup name) file =
      chooseText none (EnvironmentLayer.setting lookup name) file := by
  obtain rfl | rfl := h
  · rfl
  · -- trimmed in its own layer, it is the text that the environment would give
    unfold chooseText EnvironmentLayer.setting
    cases (lookup name).bind Text.nonBlank <;> rfl

theorem compose_of_restates (h : flags.Restates lookup) (file : FileLayer) :
    compose flags (.ofLookup lookup) file = compose ⟨none, none, none⟩ (.ofLookup lookup) file := by
  unfold compose
  simp only [EnvironmentLayer.ofLookup, chooseText_of_restated h.listen,
    chooseText_of_restated h.peer, chooseText_of_restated h.executorUrl]

/-- A file of variables leaves a variable that is set as it is. -/
theorem get?_of_loadEnvFile {asked : Option String} {loaded : Bool} {name value : String}
    (h : loadEnvFile tree asked env = .ok (env', loaded)) (hset : env.get? name = some value) :
    env'.get? name = some value := by
  -- a file never overrides a variable that is set
  have hkept : ∀ file : Bytes, (Dotenv.load env file).1.get? name = some value := by
    intro file
    rw [Dotenv.get?_load, hset]
    rfl
  unfold loadEnvFile at h
  cases asked with
  | none =>
    cases hread : tree.read? implicitEnvFile with
    | none =>
      obtain ⟨rfl, -⟩ : env = env' ∧ false = loaded := by simpa [hread] using h
      exact hset
    | some file =>
      obtain hfile : Dotenv.load env file = (env', loaded) := by simpa [hread] using h
      rw [← hkept file, hfile]
  | some path =>
    cases hread : tree.read? path with
    | none => simp [hread] at h
    | some file =>
      rcases hfile : Dotenv.load env file with ⟨after, _ | _⟩
      -- a file that was asked for has to be read to its end
      · simp [hread, hfile] at h
      · obtain ⟨rfl, -⟩ : after = env' ∧ true = loaded := by simpa [hread, hfile] using h
        rw [← hkept file, hfile]

theorem load_of_envFile_error {e : ConfigError}
    (h : loadEnvFile tree options.envFile env = .error e) (flags : Overrides) :
    load tree options flags env = .error e := by
  unfold load
  rw [h]
  rfl

theorem load_eq_loadOver {env' : Env} {loaded : Bool}
    (h : loadEnvFile tree options.envFile env = .ok (env', loaded)) (flags : Overrides) :
    load tree options flags env = loadOver tree options flags (.ofEnv env') loaded := by
  unfold load
  rw [h]
  rfl

/-- Overrides that repeat the environment have no part in what is loaded. -/
theorem load_of_restates (h : flags.Restates env.get?) :
    load tree options flags env = load tree options ⟨none, none, none⟩ env := by
  rcases henv : loadEnvFile tree options.envFile env with e | ⟨env', loaded⟩
  · rw [load_of_envFile_error henv, load_of_envFile_error henv]
  -- a variable that has been repeated was set, so the file of variables has not changed it
  have hkept : ∀ {flag : Option String} {name : String},
      flag = none ∨ flag = env.get? name → flag = none ∨ flag = env'.get? name := by
    rintro flag name (rfl | rfl)
    · exact .inl rfl
    · cases hset : env.get? name with
      | none => exact .inl rfl
      | some value => exact .inr (get?_of_loadEnvFile henv hset).symm
  have hafter : flags.Restates env'.get? :=
    ⟨hkept h.listen, hkept h.peer, hkept h.executorUrl⟩
  rw [load_eq_loadOver henv, load_eq_loadOver henv, loadOver_eq, loadOver_eq]
  simp only [EnvironmentLayer.ofEnv, compose_of_restates hafter]

/-! ## §3 The settings file that an option names -/

/-- Composing never looks for a file. -/
theorem compose_ne_fileNotFound (flags : Overrides) (lookup : String → Option String)
    (file : FileLayer) (path : String) :
    compose flags (.ofLookup lookup) file ≠ .error (.fileNotFound path) := by
  intro h
  have hrefused := (Sources.outcome_error_iff ⟨flags, lookup, file⟩ _).mp h
  rcases Option.or_eq_some_iff.mp hrefused with htext | ⟨-, hcount⟩
  · obtain ⟨x, -, hx⟩ := List.exists_of_findSome?_eq_some htext
    -- every refusal of a text is about the text
    unfold Sources.refuseText? at hx
    split at hx <;> try split at hx
    all_goals simp at hx
  · obtain ⟨t, -, ht⟩ := List.exists_of_findSome?_eq_some hcount
    simp [Sources.refuseCount?] at ht

/-- Reading a settings file never looks for one. -/
theorem readConfigFile_ne_fileNotFound (tree : FileTree) (found path : String) :
    readConfigFile tree found ≠ .error (.fileNotFound path) := by
  unfold readConfigFile
  split
  · simp
  · split <;> simp

section

variable {asked : Option String}

theorem findConfigFile_of_settingsFile {found : Option String} {file : FileLayer}
    (h : settingsFile tree asked = .ok (found, file)) : findConfigFile tree asked = .ok found := by
  unfold settingsFile at h
  rcases hfound : findConfigFile tree asked with e | _ | path
  · simp [hfound] at h
  · obtain ⟨rfl, -⟩ : none = found ∧ FileLayer.empty = file := by simpa [hfound] using h
    rfl
  · cases hread : readConfigFile tree path with
    | error e => simp [hfound, hread, Except.map] at h
    | ok layer =>
      obtain ⟨rfl, -⟩ : some path = found ∧ _ := by
        simpa [hfound, hread, Except.map] using h
      rfl

/-- The settings file that is missing is one that was looked for. -/
theorem findConfigFile_of_missing {path : String}
    (h : settingsFile tree asked = .error (.fileNotFound path)) :
    findConfigFile tree asked = .error (.fileNotFound path) := by
  unfold settingsFile at h
  rcases hfound : findConfigFile tree asked with e | _ | found
  · simpa [hfound] using h
  · simp [hfound] at h
  · cases hread : readConfigFile tree found with
    | error e =>
      have he : e = .fileNotFound path := by simpa [hfound, hread, Except.map] using h
      exact absurd (he ▸ hread) (readConfigFile_ne_fileNotFound tree found path)
    | ok file => simp [hfound, hread, Except.map] at h

end

/-- What has been loaded says which settings file was found. -/
theorem findConfigFile_of_loadOver {layer : EnvironmentLayer} {loaded : Bool} {l : Loaded}
    (h : loadOver tree options flags layer loaded = .ok l) :
    findConfigFile tree (options.configPath.or layer.configPath) = .ok l.configPath := by
  rw [loadOver_eq] at h
  rcases hfile : settingsFile tree (options.configPath.or layer.configPath) with e | ⟨found, file⟩
  · simp [hfile] at h
  · cases hc : compose flags layer file with
    | error e => simp [hfile, hc, Except.map] at h
    | ok composed =>
      have hl : Loaded.mk composed.1 composed.2 found loaded = l := by
        simpa [hfile, hc, Except.map] using h
      rw [findConfigFile_of_settingsFile hfile, ← hl]

/-- Loading fails for a missing settings file only where one was looked for. -/
theorem findConfigFile_of_loadOver_missing {loaded : Bool} {path : String}
    (h : loadOver tree options flags (.ofLookup lookup) loaded = .error (.fileNotFound path)) :
    findConfigFile tree (options.configPath.or (EnvironmentLayer.ofLookup lookup).configPath) =
      .error (.fileNotFound path) := by
  rw [loadOver_eq] at h
  rcases hfile : settingsFile tree
    (options.configPath.or (EnvironmentLayer.ofLookup lookup).configPath) with e | ⟨found, file⟩
  · have he : e = .fileNotFound path := by simpa [hfile] using h
    exact findConfigFile_of_missing (he ▸ hfile)
  · cases hc : compose flags (.ofLookup lookup) file with
    | error e =>
      have he : e = .fileNotFound path := by simpa [hfile, hc, Except.map] using h
      exact absurd (he ▸ hc) (compose_ne_fileNotFound flags lookup file path)
    | ok composed => simp [hfile, hc, Except.map] at h

/-- A file of variables that nobody has asked for is never an obstacle. -/
theorem loadEnvFile_none (tree : FileTree) (env : Env) :
    ∃ env' loaded, loadEnvFile tree none env = .ok (env', loaded) := by
  unfold loadEnvFile
  cases tree.read? implicitEnvFile with
  | none => exact ⟨env, false, rfl⟩
  | some file => exact ⟨_, _, rfl⟩

/-- A settings file that an option names is missing, or it is the one that is read. -/
theorem load_of_configPath (tree : FileTree) (flags : Overrides) (env : Env) (path : String) :
    (tree.isFile path = false →
        load tree ⟨some path, none⟩ flags env = .error (.fileNotFound path)) ∧
      ∀ l, load tree ⟨some path, none⟩ flags env = .ok l → l.configPath = some path := by
  obtain ⟨env', loaded, henv⟩ := loadEnvFile_none tree env
  rw [load_eq_loadOver henv]
  constructor
  · intro hmissing
    rw [loadOver_eq]
    simp [settingsFile, findConfigFile, hmissing]
  · intro l hl
    have hfound := findConfigFile_of_loadOver hl
    simp only [Option.some_or, findConfigFile] at hfound
    split at hfound
    · simpa using hfound.symm
    · cases hfound

/-- A settings file that the environment names as well is found in any case. -/
theorem load_of_restated_path {path : String} (hset : env.get? configVariable = some path)
    (htrimmed : Text.nonBlank path = some path) (envFile : Option String) :
    load tree ⟨some path, envFile⟩ flags env = load tree ⟨none, envFile⟩ flags env := by
  rcases henv : loadEnvFile tree envFile env with e | ⟨env', loaded⟩
  · rw [load_of_envFile_error henv, load_of_envFile_error henv]
  have hpath : (EnvironmentLayer.ofEnv env').configPath = some path := by
    show (env'.get? configVariable).bind Text.nonBlank = some path
    rw [get?_of_loadEnvFile henv hset, Option.bind_some, htrimmed]
  rw [load_eq_loadOver henv, load_eq_loadOver henv, loadOver_eq, loadOver_eq, hpath]
  rfl

/-! ## §4 The settings file that the environment names -/

/-- Loading of which nothing is asked: what the environment and the files come to. -/
def loadUnasked (tree : FileTree) (env : Env) : Except ConfigError Loaded :=
  load tree ⟨none, none⟩ ⟨none, none, none⟩ env

/-- A result that names a settings file: one that was looked for in vain, or the one in effect. -/
def Names (r : Except ConfigError Loaded) (path : String) : Prop :=
  r = .error (.fileNotFound path) ∨ ∃ l, r = .ok l ∧ l.configPath = some path

/-- What finding a settings file by its variable comes to has no blanks around it. -/
theorem trimmed_of_findConfigFile {name path : String}
    (h : findConfigFile tree (EnvironmentLayer.setting lookup name) = .error (.fileNotFound path) ∨
      findConfigFile tree (EnvironmentLayer.setting lookup name) = .ok (some path)) :
    Text.nonBlank path = some path := by
  cases hasked : EnvironmentLayer.setting lookup name with
  | some asked =>
    obtain ⟨text, -, htext⟩ := Option.bind_eq_some_iff.mp hasked
    have hsame : asked = path := by
      rw [hasked, findConfigFile] at h
      split at h <;> simpa using h
    exact hsame ▸ Text.nonBlank_of_nonBlank htext
  | none =>
    -- nothing is asked for, so the file is one of the places that are looked at
    have hfound : candidates.find? tree.isFile = some path := by
      simpa [hasked, findConfigFile] using h
    have htrimmed : ∀ c ∈ candidates, Text.nonBlank c = some c := by decide
    exact htrimmed path (List.mem_of_find?_eq_some hfound)

/-- Loading by the environment and the files alone names no settings file with blanks around it. -/
theorem trimmed_of_names {path : String} (h : Names (loadUnasked tree env) path) :
    Text.nonBlank path = some path := by
  obtain ⟨env', loaded, henv⟩ := loadEnvFile_none tree env
  rw [loadUnasked, load_eq_loadOver henv] at h
  obtain hmissing | ⟨l, hl, hpath⟩ := h
  · exact trimmed_of_findConfigFile (.inl (findConfigFile_of_loadOver_missing hmissing))
  · exact trimmed_of_findConfigFile (.inr (hpath ▸ findConfigFile_of_loadOver hl))

end Config

/-! ## §5 Starting without options -/

namespace CommandLine

open Config

/-- **Blanks count in the name of the settings file.** A start without options is refused where the
variable of the settings file holds the empty text, and loads otherwise what the environment and the
files come to with the text of that variable as an option. That is what they come to by themselves
if the variable is not set or there is nothing to trim about it. A text that is blank or has blanks
around it names the settings file as it stands: loading fails if there is no such file, and has read
that file if it succeeds; by themselves the environment and the files name another one or none. -/
theorem start_of_environment (tree : FileTree) (env : Env) :
    (env.get? configVariable = some "" → start tree [] env = .error (.missingValue .config)) ∧
    (env.get? configVariable ≠ some "" → ∃ s, start tree [] env = .ok s ∧
      s.loaded = load tree ⟨env.get? configVariable, none⟩ ⟨none, none, none⟩ env ∧
      ((env.get? configVariable).bind Text.nonBlank = env.get? configVariable →
        s.loaded = loadUnasked tree env) ∧
      ∀ path, env.get? configVariable = some path → Text.nonBlank path ≠ some path →
        (tree.isFile path = false → s.loaded = .error (.fileNotFound path)) ∧
        (∀ l, s.loaded = .ok l → l.configPath = some path) ∧
        ¬Names (loadUnasked tree env) path) := by
  constructor
  · intro hempty
    rw [start, read_nil, if_pos hempty]
    rfl
  · intro hname
    rw [start, read_nil, if_neg hname]
    refine ⟨_, rfl, ?_⟩
    -- the addresses are in the environment as well, so only the settings file is left to look at
    have hrestates : (⟨env.get? listenVariable, env.get? peerVariable,
        env.get? executorVariable⟩ : Overrides).Restates env.get? :=
      ⟨.inr rfl, .inr rfl, .inr rfl⟩
    simp only [startWith, load_of_restates hrestates]
    refine ⟨trivial, fun hsame => ?_, fun path hset htrimmed => ?_⟩
    · cases hset : env.get? configVariable with
      | none => rfl
      | some path =>
        rw [hset, Option.bind_some] at hsame
        exact load_of_restated_path hset hsame none
    · rw [hset]
      obtain ⟨hmissing, hread⟩ := load_of_configPath tree ⟨none, none, none⟩ env path
      exact ⟨hmissing, hread, fun hnamed => htrimmed (trimmed_of_names hnamed)⟩

/-- A directory with a settings file where it is looked for. -/
def tidyTree : FileTree where
  files := [("glider.toml", Bytes.ofText "[server]\npeer_addr = 'ci:1'\n")]
  directories := []

/-- An environment that names the file with a blank too many. -/
def paddedEnv : Env :=
  .ofPairs [(configVariable, "glider.toml ")]

/-- The broker does not start, though the environment and the files alone would give it all it
needs. -/
theorem start_of_paddedEnv :
    (∃ s, start tidyTree [] paddedEnv = .ok s ∧
        s.loaded = .error (.fileNotFound "glider.toml ")) ∧
      (loadUnasked tidyTree paddedEnv).toOption.map (fun l => (l.settings.peer, l.configPath)) =
        some ("ci:1", some "glider.toml") := by
  have hset : paddedEnv.get? configVariable = some "glider.toml " := by decide +kernel
  obtain ⟨-, hstarts⟩ := start_of_environment tidyTree paddedEnv
  obtain ⟨s, hs, -, -, hpadded⟩ := hstarts (by rw [hset]; decide)
  obtain ⟨hmissing, -, -⟩ := hpadded "glider.toml " hset (by decide)
  exact ⟨⟨s, hs, hmissing (by decide +kernel)⟩, by decide +kernel⟩

end CommandLine

end BuildBroker
