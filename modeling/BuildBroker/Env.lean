import BuildBroker.Json.Decode

/-!
# Environments

The variables that a build or a process runs with: a map from names to values, kept in the order of
the names. Setting a name again replaces its value.

Main statement: an environment is determined by its list of pairs, whose names increase, so two
environments are equal when their lists are.
-/

namespace BuildBroker

/-- Variables in the order of their names. -/
structure Env where
  toList : List (String × String)
  sorted : toList.Pairwise (·.1 < ·.1) := by simp
deriving DecidableEq

namespace Env

/-- No variables. -/
def empty : Env := { toList := [] }

instance : Inhabited Env := ⟨empty⟩

/-- Puts a pair in its place; a pair of the same name is replaced. -/
def insertPair (k v : String) : List (String × String) → List (String × String)
  | [] => [(k, v)]
  | (k', v') :: rest =>
    if k < k' then (k, v) :: (k', v') :: rest
    else if k = k' then (k, v) :: rest
    else (k', v') :: insertPair k v rest

/-- A name of the list after an insertion is the inserted one or was there before. -/
theorem fst_of_mem_insertPair {k v : String} {l : List (String × String)} {p : String × String}
    (h : p ∈ insertPair k v l) : p.1 = k ∨ ∃ q ∈ l, p.1 = q.1 := by
  induction l with
  | nil => left; simp_all [insertPair]
  | cons head rest ih =>
    obtain ⟨k', v'⟩ := head
    unfold insertPair at h
    split at h
    · rcases List.mem_cons.1 h with rfl | h
      · exact .inl rfl
      · exact .inr ⟨p, h, rfl⟩
    · split at h
      · rcases List.mem_cons.1 h with rfl | h
        · exact .inl rfl
        · exact .inr ⟨p, List.mem_cons_of_mem _ h, rfl⟩
      · rcases List.mem_cons.1 h with rfl | h
        · exact .inr ⟨(k', v'), List.mem_cons_self, rfl⟩
        · rcases ih h with h | ⟨q, hq, h⟩
          · exact .inl h
          · exact .inr ⟨q, List.mem_cons_of_mem _ hq, h⟩

/-- An insertion keeps the order of the names. -/
theorem sorted_insertPair {k v : String} {l : List (String × String)}
    (h : l.Pairwise (·.1 < ·.1)) : (insertPair k v l).Pairwise (·.1 < ·.1) := by
  induction l with
  | nil => simp [insertPair]
  | cons head rest ih =>
    obtain ⟨k', v'⟩ := head
    have hhead := (List.pairwise_cons.1 h).1
    have hrest := (List.pairwise_cons.1 h).2
    unfold insertPair
    split
    · rename_i hlt
      refine List.pairwise_cons.2 ⟨fun p hp => ?_, h⟩
      rcases List.mem_cons.1 hp with rfl | hp
      · exact hlt
      · exact String.lt_trans hlt (hhead p hp)
    · split
      · rename_i heq
        refine List.pairwise_cons.2 ⟨fun p hp => ?_, hrest⟩
        rw [show k = k' from heq]
        exact hhead p hp
      · rename_i hlt hne
        refine List.pairwise_cons.2 ⟨fun p hp => ?_, ih hrest⟩
        have hk : k' < k := by
          by_cases h : k' < k
          · exact h
          · exact absurd (String.le_antisymm (String.not_lt.1 h) (String.not_lt.1 hlt)) hne
        rcases fst_of_mem_insertPair hp with h | ⟨q, hq, h⟩
        · exact h ▸ hk
        · exact h ▸ hhead q hq

/-- Sets a variable. -/
def insert (e : Env) (k v : String) : Env where
  toList := insertPair k v e.toList
  sorted := sorted_insertPair e.sorted

/-- The variables of a list of pairs; of two pairs with one name the later counts. -/
def ofPairs (ps : List (String × String)) : Env :=
  ps.foldl (fun e p => e.insert p.1 p.2) empty

/-- The value of a variable. -/
def get? (e : Env) (k : String) : Option String :=
  (e.toList.find? (·.1 = k)).map (·.2)

/-- Sets a variable unless it is set already. -/
def insertNew (e : Env) (k v : String) : Env :=
  if (e.get? k).isSome then e else e.insert k v

/-- The environment as a document holds it. -/
def toValue (e : Env) : Json.Value :=
  .object (e.toList.map fun p => (p.1, .string p.2))

/-- Reads an environment from a document. -/
def decode (d : Json.Doc) : Json.Decoded Env :=
  (Json.decodeMap Json.decodeText d).map ofPairs

end Env

end BuildBroker
