import Mathlib.Tactic.SplitIfs
import BuildBroker.Dotenv

/-!
# The Lines of a File of Variables

Reading a file of variables stops at the first malformed line, and what the lines before it have set
stays set. Where it stops and which names are set by then depends on the file alone: references
decide what the values are, never whether a line can be read.

Main statements:
- `Env.get?_insertNew`: a variable that is set keeps its value.
- `Line.shape_read`: the environment has no part in what kind of line a line is.
- `applyLines_eq`: the lines before the first malformed one count, and no others.
- `get?_load`: what is set after a file was applied.
-/

namespace BuildBroker

/-! ## §1 Setting variables -/

namespace Env

private theorem find?_insertPair (k v n : String) (l : List (String × String)) :
    (insertPair k v l).find? (·.1 = n) =
      if k = n then some (k, v) else l.find? (·.1 = n) := by
  induction l with
  | nil => by_cases h : k = n <;> simp [insertPair, h]
  | cons head rest ih =>
    obtain ⟨k', v'⟩ := head
    unfold insertPair
    -- the pair goes in front, or takes the place of the one in front, or goes further
    by_cases hbefore : k < k'
    · rw [if_pos hbefore]
      by_cases h : k = n <;> simp [h]
    rw [if_neg hbefore]
    by_cases hsame : k = k'
    · subst hsame
      by_cases h : k = n <;> simp [h]
    rw [if_neg hsame, List.find?_cons, List.find?_cons, ih]
    by_cases hhead : k' = n
    · -- the pair that stays in front is the one asked for
      subst hhead
      simp [hsame]
    · simp [hhead]

theorem get?_insert (e : Env) (k v n : String) :
    (e.insert k v).get? n = if k = n then some v else e.get? n := by
  unfold get? insert
  rw [find?_insertPair]
  split <;> rfl

theorem get?_insertNew (e : Env) (k v n : String) :
    (e.insertNew k v).get? n = (e.get? n).or (if k = n then some v else none) := by
  unfold insertNew
  by_cases hset : (e.get? k).isSome
  · rw [if_pos hset]
    by_cases h : k = n
    · subst h
      obtain ⟨w, hw⟩ := Option.isSome_iff_exists.mp hset
      simp [hw]
    · simp [h]
  · rw [if_neg hset, get?_insert]
    by_cases h : k = n
    · subst h
      simp_all
    · simp [h]

/-- Sets the variables that are not set already, one after the other. -/
def insertAll (e : Env) (ps : List (String × String)) : Env :=
  ps.foldl (fun e p => e.insertNew p.1 p.2) e

/-- The value that a list of pairs gives to a name: the first one. -/
def firstValue? (ps : List (String × String)) (n : String) : Option String :=
  (ps.find? (·.1 = n)).map (·.2)

theorem get?_insertAll (e : Env) (ps : List (String × String)) (n : String) :
    (e.insertAll ps).get? n = (e.get? n).or (firstValue? ps n) := by
  induction ps generalizing e with
  | nil => simp [insertAll, firstValue?]
  | cons p ps ih =>
    -- what the first pair sets, later pairs leave alone
    show ((e.insertNew p.1 p.2).insertAll ps).get? n = _
    rw [ih, get?_insertNew, Option.or_assoc]
    by_cases h : p.1 = n <;> simp [firstValue?, h]

theorem isSome_firstValue? (ps : List (String × String)) (n : String) :
    (firstValue? ps n).isSome ↔ n ∈ ps.map (·.1) := by
  simp [firstValue?, List.find?_isSome]

end Env

namespace Dotenv

/-! ## §2 What kind of line a line is -/

/-- What a line does, apart from the value that it gives. -/
inductive Shape where
  | nothing
  | assigns (name : String)
  | malformed
deriving DecidableEq, Repr

def Line.shape : Line → Shape
  | .nothing => .nothing
  | .assignment name _ => .assigns name
  | .malformed => .malformed

/-- The shape of a line; no variable needs to be set for it. -/
def Shape.ofLine (line : List Char) : Shape :=
  (Line.read ⟨Env.empty, []⟩ line).shape

/-- The state of reading a value, without what has been read of it. -/
def ValueState.shape (s : ValueState) : ValueState :=
  { s with output := [] }

namespace ValueState

variable {s s' : ValueState} (scope scope' : Scope)

theorem shape_stepReference (h : s.shape = s'.shape) (c : Char) :
    (s.stepReference scope c).shape = (s'.stepReference scope' c).shape := by
  obtain ⟨strong, weak, escaped, ending, reference, name, output⟩ := s
  obtain ⟨strong', weak', escaped', ending', reference', name', output'⟩ := s'
  simp only [shape, mk.injEq, and_true] at h
  obtain ⟨rfl, rfl, rfl, rfl, rfl, rfl⟩ := h
  simp only [stepReference, apply, push, shape]
  split_ifs <;> rfl

/-- The values of the variables have no part in how far reading gets. -/
theorem shape_step? (h : s.shape = s'.shape) (c : Char) :
    (s.step? scope c).map shape = (s'.step? scope' c).map shape := by
  have hreference := shape_stepReference scope scope' h c
  obtain ⟨strong, weak, escaped, ending, reference, name, output⟩ := s
  obtain ⟨strong', weak', escaped', ending', reference', name', output'⟩ := s'
  simp only [shape, mk.injEq, and_true] at h
  obtain ⟨rfl, rfl, rfl, rfl, rfl, rfl⟩ := h
  -- no test looks at the output, which is all that the two states may differ in
  simp only [step?]
  split_ifs <;> first | rfl | exact congrArg some hreference

theorem isSome_finish? (h : s.shape = s'.shape) :
    (s.finish? scope).isSome = (s'.finish? scope').isSome := by
  have hreference : s.reference = s'.reference := congrArg (·.reference) h
  have hstrong : s.strong = s'.strong := congrArg (·.strong) h
  have hweak : s.weak = s'.weak := congrArg (·.weak) h
  simp only [finish?, hreference, hstrong, hweak]
  split_ifs <;> rfl

end ValueState

theorem isSome_value? (scope scope' : Scope) {s s' : ValueState} (h : s.shape = s'.shape)
    (cs : List Char) : (value? scope s cs).isSome = (value? scope' s' cs).isSome := by
  induction cs generalizing s s' with
  | nil => exact ValueState.isSome_finish? scope scope' h
  | cons c cs ih =>
    have hending : s.ending = s'.ending := congrArg (·.ending) h
    have hstep := ValueState.shape_step? scope scope' h c
    simp only [value?, hending]
    split_ifs
    · exact ih h
    · exact ValueState.isSome_finish? scope scope' h
    · rfl
    · -- both steps fail, or both go on in states of one shape
      rcases hs : s.step? scope c with _ | t <;> rcases hs' : s'.step? scope' c with _ | t' <;>
        simp only [hs, hs', Option.map_none, Option.map_some, reduceCtorEq, Option.some.injEq]
          at hstep
      · rfl
      · exact ih hstep

/-- The environment has no part in what kind of line a line is. -/
theorem Line.shape_read (scope : Scope) (line : List Char) :
    (Line.read scope line).shape = Shape.ofLine line := by
  simp only [Shape.ofLine, Line.read]
  split_ifs
  · rfl
  · cases target? (Text.trimChars line) with
    | none => rfl
    | some target =>
      obtain ⟨name, rest⟩ := target
      simp only
      split_ifs
      · rfl
      -- whether the value can be read does not depend on the scope
      · have hvalue := isSome_value? scope ⟨Env.empty, []⟩ (Eq.refl ValueState.start.shape)
          (Text.dropBlank rest)
        cases hv : value? scope .start (Text.dropBlank rest) <;>
          cases hv' : value? ⟨Env.empty, []⟩ .start (Text.dropBlank rest) <;>
          simp_all [shape]

/-! ## §3 What the lines set -/

/-- Whether a line can be read. -/
def isReadable : Option (List Char) → Bool
  | none => false
  | some line => Shape.ofLine line ≠ .malformed

/-- The names that lines assign to, up to the first line that cannot be read. -/
def assignedNames (lines : List (Option (List Char))) : List String :=
  (lines.takeWhile isReadable).filterMap fun
    | some line => match Shape.ofLine line with
      | .assigns name => some name
      | _ => none
    | none => none

/-- The assignments of lines, up to the first line that cannot be read. -/
def assignments (scope : Scope) : List (Option (List Char)) → List (String × String)
  | [] => []
  | none :: _ => []
  | some line :: rest =>
    match Line.read scope line with
    | .nothing => assignments scope rest
    | .malformed => []
    | .assignment name v =>
      (name, v) :: assignments ⟨scope.env.insertNew name v, (name, v) :: scope.earlier⟩ rest

theorem map_fst_assignments (scope : Scope) (lines : List (Option (List Char))) :
    (assignments scope lines).map (·.1) = assignedNames lines := by
  -- the scope grows line by line, and no name depends on it
  induction lines generalizing scope with
  | nil => rfl
  | cons line rest ih =>
    cases line with
    | none => rfl
    | some line =>
      have hshape := Line.shape_read scope line
      simp only [assignedNames] at ih ⊢
      cases hread : Line.read scope line <;> rw [hread] at hshape <;>
        simp [assignments, hread, isReadable, ← hshape, Line.shape, ih]

/-- The lines before the first one that cannot be read count, and no others. -/
theorem applyLines_eq (scope : Scope) (lines : List (Option (List Char))) :
    applyLines scope lines =
      (scope.env.insertAll (assignments scope lines), lines.all isReadable) := by
  induction lines generalizing scope with
  | nil => rfl
  | cons line rest ih =>
    cases line with
    | none => rfl
    | some line =>
      have hshape := Line.shape_read scope line
      cases hread : Line.read scope line <;> rw [hread] at hshape <;>
        simp [applyLines, assignments, hread, isReadable, ← hshape, Line.shape, ih, Env.insertAll]

/-! ## §4 Files -/

/-- The logical lines of a file. -/
def linesOf (file : Bytes) : List (Option (List Char)) :=
  logicalLines [] .plain (rawLines [] (if file.take 3 = byteOrderMark then file.drop 3 else file))

/-- Whether every line of a file can be read. -/
def isWellFormed (file : Bytes) : Bool :=
  (linesOf file).all isReadable

theorem load_eq (env : Env) (file : Bytes) :
    load env file =
      (env.insertAll (assignments ⟨env, []⟩ (linesOf file)), isWellFormed file) :=
  applyLines_eq ⟨env, []⟩ (linesOf file)

/-- A variable is set after a file was applied if it was set before or if a line before the first
malformed one assigns to it. -/
theorem get?_load (env : Env) (file : Bytes) (n : String) :
    (load env file).1.get? n =
      (env.get? n).or (Env.firstValue? (assignments ⟨env, []⟩ (linesOf file)) n) := by
  rw [load_eq, Env.get?_insertAll]

/-- A variable that no line before the first malformed one assigns to stays as it is, and so does one
that is set. -/
theorem get?_load_of_kept {env : Env} {file : Bytes} {n : String}
    (h : n ∈ assignedNames (linesOf file) → (env.get? n).isSome) :
    (load env file).1.get? n = env.get? n := by
  rw [get?_load]
  cases hset : env.get? n with
  | some v => rfl
  | none =>
    rw [hset] at h
    have hunassigned : n ∉ (assignments ⟨env, []⟩ (linesOf file)).map (·.1) := by
      rw [map_fst_assignments]
      exact fun hn => Bool.false_ne_true (h hn)
    rw [← Env.isSome_firstValue?, Option.not_isSome_iff_eq_none] at hunassigned
    rw [hunassigned]
    rfl

end Dotenv

end BuildBroker
