import BuildBroker.Registry.Step
import BuildBroker.Proofs.Coordinator.Submissions
import Mathlib.Data.List.Nodup
import Mathlib.Data.List.Pairwise

/-!
# Listing Builds

Every build that was registered is listed once, as it is now, the newest first, and of builds of one
moment the one that was registered last. The order is strict, so a table that keeps its entries in any
order, each with the number of its registration, gives the same list.

Main statements:
- `Registry.after_create`, `Registry.after_change`: what an operation does.
- `Registry.origins_run`: the builds of a registry are those that were registered, in this order.
- `Ordered.unique`: records can be ordered in one way only.
- `Table.ordered_list`, `Registry.ordered_list`: lists are ordered.
- `Registry.listing`: what is listed after any operations.
-/

namespace BuildBroker

/-! ## §1 What Was Registered -/

/-- The name and the time that a record was registered with. -/
def BuildRecord.origin (x : BuildRecord) : BuildId × Time.Instant :=
  (x.id, x.createdAt)

/-- No change of a record touches the origin of its build. -/
theorem Build.sameOrigin_change {b b' : Build} {x : RecordChange} (h : b.change x = .ok b') :
    b.SameOrigin b' := by
  -- a change that is refused leaves no build to compare with
  cases x with
  | status text =>
    cases h
    exact ⟨rfl, rfl, rfl⟩
  | phase p =>
    cases h
    exact b.sameOrigin_setPhase p
  | delegation =>
    simp only [Build.change, Build.beginDelegation] at h
    split at h
    · cases h
      exact ⟨rfl, rfl, rfl⟩
    · cases h
  | session e =>
    simp only [Build.change, Build.setSession] at h
    split at h
    · cases h
    · cases h
      exact ⟨rfl, rfl, rfl⟩
  | result status =>
    simp only [Build.change, Build.complete] at h
    split at h
    · cases h
    · cases h
      exact ⟨rfl, rfl, rfl⟩

/-- The name and the time that an operation registers a build with, if it registers one. -/
def RegistryStep.registration? : RegistryStep → Option (BuildId × Time.Instant)
  | .create id now s =>
    match s.validate with
    | .ok () => some (id, now)
    | .error _ => none
  | .change _ _ => none

/-- All registrations, in their order. -/
def registrations (xs : List RegistryStep) : List (BuildId × Time.Instant) :=
  xs.filterMap RegistryStep.registration?

/-- The registrations that count: where a name is registered again, the last one. -/
def registered (xs : List RegistryStep) : List (BuildId × Time.Instant) :=
  (registrations xs).pwFilter fun p q => p.1 ≠ q.1

/-- A name that is registered once more moves to the end. -/
theorem pwFilter_concat (ps : List (BuildId × Time.Instant)) (p : BuildId × Time.Instant) :
    (ps ++ [p]).pwFilter (fun p q => p.1 ≠ q.1) =
      (ps.pwFilter fun p q => p.1 ≠ q.1).filter (·.1 ≠ p.1) ++ [p] := by
  -- the filter keeps the last of each identifier, so `p` puts out an earlier one of its own
  induction ps with
  | nil => rfl
  | cons q ps ih =>
    by_cases hkept : ∀ x ∈ ps.pwFilter fun p q => p.1 ≠ q.1, q.1 ≠ x.1
    · rw [List.cons_append, List.pwFilter_cons_of_pos hkept, List.filter_cons]
      -- `q` was the last of its identifier, and still is unless `p` has the same
      by_cases hq : q.1 = p.1
      · have hagain : ¬∀ x ∈ (ps ++ [p]).pwFilter fun p q => p.1 ≠ q.1, q.1 ≠ x.1 := by
          intro hnone
          exact hnone p (by simp [ih]) hq
        rw [List.pwFilter_cons_of_neg hagain, ih]
        simp [hq]
      · have hstill : ∀ x ∈ (ps ++ [p]).pwFilter fun p q => p.1 ≠ q.1, q.1 ≠ x.1 := by
          intro x hx
          rw [ih] at hx
          rcases List.mem_append.mp hx with hold | hnew
          · exact hkept x (List.mem_filter.mp hold).1
          · rwa [List.mem_singleton.mp hnew]
        rw [List.pwFilter_cons_of_pos hstill, ih]
        simp [hq]
    -- `q` comes again among `ps`; if that one goes because of `p`, then `q` goes because of `p`
    · have hagain : ¬∀ x ∈ (ps ++ [p]).pwFilter fun p q => p.1 ≠ q.1, q.1 ≠ x.1 := by
        intro hnone
        apply hkept
        intro x hx hq
        by_cases hp : x.1 = p.1
        · exact hnone p (by simp [ih]) (hq.trans hp)
        · exact hnone x (by simp [ih, hx, hp]) hq
      rw [List.cons_append, List.pwFilter_cons_of_neg hagain, List.pwFilter_cons_of_neg hkept, ih]

theorem registrations_concat (xs : List RegistryStep) (x : RegistryStep) :
    registrations (xs ++ [x]) = registrations xs ++ x.registration?.toList := by
  cases hx : x.registration? <;> simp [registrations, hx]

theorem registered_concat_of_none {xs : List RegistryStep} {x : RegistryStep}
    (hx : x.registration? = none) : registered (xs ++ [x]) = registered xs := by
  simp [registered, registrations_concat, hx]

theorem registered_concat_of_some {xs : List RegistryStep} {x : RegistryStep}
    {p : BuildId × Time.Instant} (hx : x.registration? = some p) :
    registered (xs ++ [x]) = (registered xs).filter (·.1 ≠ p.1) ++ [p] := by
  simp only [registered, registrations_concat, hx, Option.toList_some, pwFilter_concat]

/-- No two of the registrations that count have one name. -/
theorem nodup_registered (xs : List RegistryStep) : ((registered xs).map (·.1)).Nodup :=
  List.pairwise_map.mpr (List.pairwise_pwFilter (registrations xs))

theorem registered_sublist (xs : List RegistryStep) : (registered xs).Sublist (registrations xs) :=
  List.pwFilter_sublist _

/-- Every name that was registered counts, with one of its registrations. -/
theorem mem_registered {xs : List RegistryStep} {p : BuildId × Time.Instant}
    (hp : p ∈ registrations xs) : p.1 ∈ (registered xs).map (·.1) := by
  by_contra hnone
  have hother : ∀ q ∈ registered xs, p.1 ≠ q.1 := by
    rintro q hq heq
    exact hnone (List.mem_map.mpr ⟨q, hq, heq.symm⟩)
  have hall := (List.forall_mem_pwFilter (R := fun p q : BuildId × Time.Instant => p.1 ≠ q.1)
    (fun {x y z} hxz => by
      by_cases hxy : x.1 = y.1
      · exact .inr (hxy ▸ hxz)
      · exact .inl hxy) p (registrations xs)).mp hother
  exact hall p hp rfl

namespace Registry

variable {r : Registry} {id : BuildId}

/-! ## §2 What Operations Do -/

/-- A registration puts the build at the end, in the place of one of its name. -/
theorem after_create (r : Registry) (id : BuildId) (now : Time.Instant) (s : Submission) :
    r.after (.create id now s) =
      match s.validate with
      | .ok () => ⟨r.builds.filter (·.id ≠ id) ++ [.fresh (.fresh id now s)]⟩
      | .error _ => r := by
  simp only [after, perform, create]
  cases s.validate <;> rfl

/-- A change puts the changed build in the place of the old one, if there is one that it is allowed
for. -/
theorem after_change (r : Registry) (id : BuildId) (x : RecordChange) :
    r.after (.change id x) =
      match (r.find? id).map (·.change x) with
      | some (.ok b) => r.modify id fun _ => b
      | _ => r := by
  simp only [after, perform, update, get]
  cases hb : r.find? id with
  | none => rfl
  | some b =>
    cases hx : b.change x with
    | error e => simp [hx, bind, Except.bind]
    | ok b' => simp [hx, bind, Except.bind, pure, Except.pure]

/-- Where no two builds have one name, a build is found under its name. -/
theorem find?_eq_some_iff (hnodup : (r.builds.map (·.id)).Nodup) {b : Build} :
    r.find? id = some b ↔ b ∈ r.builds ∧ b.id = id := by
  constructor
  · intro h
    exact ⟨List.mem_of_find?_eq_some h, by simpa using List.find?_some h⟩
  · rintro ⟨hb, rfl⟩
    cases hfind : r.find? b.id with
    | none => simpa using List.find?_eq_none.mp hfind b hb
    | some b' =>
      have hb' : b' ∈ r.builds := List.mem_of_find?_eq_some hfind
      have hid : b'.id = b.id := by simpa using List.find?_some hfind
      rw [List.inj_on_of_nodup_map hnodup hb' hb hid]

theorem run_concat (r : Registry) (xs : List RegistryStep) (x : RegistryStep) :
    r.run (xs ++ [x]) = (r.run xs).after x := by
  simp [run]

/-- A changed build keeps its place and its origin. -/
theorem origins_modify {b b' : Build} (hnodup : (r.builds.map (·.id)).Nodup)
    (hb : r.find? id = some b) (hsame : b.SameOrigin b') :
    (r.modify id fun _ => b').builds.map (·.record.origin) = r.builds.map (·.record.origin) := by
  rw [modify, List.map_map]
  apply List.map_congr_left
  intro x hx
  by_cases hid : x.id = id
  · have hxb : x = b := by
      have hfind := (find?_eq_some_iff hnodup).mpr ⟨hx, hid⟩
      rw [hb] at hfind
      exact (Option.some.inj hfind).symm
    subst hxb
    simp [hid, BuildRecord.origin, hsame.id, hsame.createdAt]
  · simp [hid]

/-- The builds of a registry are those that were registered, in this order. -/
theorem origins_run (xs : List RegistryStep) :
    (empty.run xs).builds.map (·.record.origin) = registered xs := by
  induction xs using List.reverseRecOn with
  | nil => rfl
  | append_singleton xs x ih =>
    -- no identifier is registered twice, so a change meets one build
    have hnodup : ((empty.run xs).builds.map (·.id)).Nodup := by
      have h := nodup_registered xs
      rwa [← ih, List.map_map] at h
    rw [run_concat]
    cases x with
    | create id now s =>
      rw [after_create]
      -- a refused submission registers nothing; another replaces a build of its identifier
      cases hvalid : s.validate with
      | error e => rw [registered_concat_of_none (by simp [RegistryStep.registration?, hvalid]), ih]
      | ok u =>
        have hsome : (RegistryStep.create id now s).registration? = some (id, now) := by
          simp [RegistryStep.registration?, hvalid]
        rw [registered_concat_of_some hsome, ← ih, List.filter_map, List.map_append]
        rfl
    | change id x =>
      rw [registered_concat_of_none rfl, after_change]
      cases hb : (empty.run xs).find? id with
      | none => exact ih
      | some b =>
        cases hx : b.change x with
        | error e => simpa [hx] using ih
        | ok b' => simpa [hx] using (origins_modify hnodup hb (b.sameOrigin_change hx)).trans ih

theorem nodup_run (xs : List RegistryStep) : ((empty.run xs).builds.map (·.id)).Nodup := by
  have h := nodup_registered xs
  rwa [← origins_run, List.map_map] at h

end Registry

/-! ## §3 The Order of a List -/

/-- Whether a record is listed before another one, where the names were registered in this order. -/
def Precedes (names : List BuildId) (x y : BuildRecord) : Prop :=
  y.createdAt.key < x.createdAt.key ∨
    x.createdAt.key = y.createdAt.key ∧ names.idxOf y.id < names.idxOf x.id

/-- All of the records, each one listed before those that follow it. -/
structure Ordered (records list : List BuildRecord) : Prop where
  perm : list.Perm records
  pairwise : list.Pairwise (Precedes (records.map (·.id)))

theorem Precedes.asymm {names : List BuildId} {x y : BuildRecord} (h : Precedes names x y) :
    ¬Precedes names y x := by
  simp only [Precedes] at h ⊢
  omega

/-- Records can be ordered in one way only. -/
theorem Ordered.unique {records l l' : List BuildRecord} (h : Ordered records l)
    (h' : Ordered records l') : l = l' :=
  List.Perm.eq_of_pairwise (fun _ _ _ _ hx hy => absurd hy hx.asymm) h.pairwise h'.pairwise
    (h.perm.trans h'.perm.symm)

/-- Names stand in a list in the order of their positions. -/
theorem idxOf_lt_iff {names : List BuildId} (hnodup : names.Nodup) {i j : Nat}
    (hi : i < names.length) (hj : j < names.length) :
    names.idxOf names[i] < names.idxOf names[j] ↔ i < j := by
  rw [hnodup.idxOf_getElem i hi, hnodup.idxOf_getElem j hj]

/-- Where times never decrease, the list is the order of registration reversed. -/
theorem ordered_reverse {records : List BuildRecord} (hnodup : (records.map (·.id)).Nodup)
    (htimes : records.Pairwise fun x y => x.createdAt.key ≤ y.createdAt.key) :
    Ordered records records.reverse where
  perm := List.reverse_perm records
  pairwise := by
    rw [List.pairwise_reverse, List.pairwise_iff_getElem]
    intro i j hi hj hij
    have hplace := (idxOf_lt_iff hnodup (i := i) (j := j) (by simpa) (by simpa)).mpr hij
    simp only [List.getElem_map] at hplace
    rcases Int.lt_or_eq_of_le (List.pairwise_iff_getElem.mp htimes i j hi hj hij) with hlt | heq
    · exact .inl hlt
    · exact .inr ⟨heq.symm, hplace⟩

/-! ## §4 Numbered Entries -/

/-- The builds in the order of their registration, with numbers that grow and stay below the next
one. -/
structure Numbered (builds : List Build) (next : Nat) (entries : List (Build × Nat)) : Prop where
  builds : entries.map (·.1) = builds
  increasing : entries.Pairwise fun e e' => e.2 < e'.2
  below : ∀ e ∈ entries, e.2 < next

/-- An entry comes before another one if it is newer, or as new and of a greater number. -/
theorem listedBefore_iff {e e' : Build × Nat} : Registry.listedBefore e e' = true ↔
    e'.1.record.createdAt.key < e.1.record.createdAt.key ∨
      e.1.record.createdAt.key = e'.1.record.createdAt.key ∧ e'.2 ≤ e.2 := by
  simp [Registry.listedBefore]

theorem sorted_mergeSort (entries : List (Build × Nat)) :
    (entries.mergeSort Registry.listedBefore).Pairwise
      fun e e' => Registry.listedBefore e e' = true := by
  apply List.pairwise_mergeSort
  · simp only [listedBefore_iff]
    omega
  · intro e e'
    simp only [Bool.or_eq_true, listedBefore_iff]
    omega

/-- Whatever the order in which the entries are kept, sorting them orders their records. -/
theorem Numbered.ordered {builds : List Build} {next : Nat} {entries shuffled : List (Build × Nat)}
    (h : Numbered builds next entries) (hnodup : (builds.map (·.id)).Nodup)
    (hperm : shuffled.Perm entries) :
    Ordered (builds.map (·.record))
      ((shuffled.mergeSort Registry.listedBefore).map (·.1.record)) := by
  obtain ⟨rfl, hincreasing, -⟩ := h
  have hentries := (List.mergeSort_perm shuffled Registry.listedBefore).trans hperm
  have hrecords : (entries.map (·.1)).map (·.record) = entries.map (·.1.record) := by
    rw [List.map_map]
    rfl
  have hnames : ((entries.map (·.1)).map (·.record)).map (·.id) = (entries.map (·.1)).map (·.id) := by
    rw [List.map_map]
    rfl
  refine ⟨hrecords ▸ hentries.map _, ?_⟩
  -- no number occurs twice, so of two entries one has the smaller number
  have hnumbers : ((shuffled.mergeSort Registry.listedBefore).map (·.2)).Nodup :=
    (hentries.map (·.2)).nodup_iff.mpr (List.pairwise_map.mpr (hincreasing.imp Nat.ne_of_lt))
  have hdistinct : (shuffled.mergeSort Registry.listedBefore).Pairwise fun e e' => e.2 ≠ e'.2 :=
    List.pairwise_map.mp hnumbers
  rw [List.pairwise_map, hnames]
  refine ((sorted_mergeSort shuffled).and hdistinct).imp_of_mem ?_
  rintro e e' he he' ⟨hbefore, hne⟩
  obtain ⟨i, hi, rfl⟩ := List.mem_iff_getElem.mp (hentries.mem_iff.mp he)
  obtain ⟨j, hj, rfl⟩ := List.mem_iff_getElem.mp (hentries.mem_iff.mp he')
  rcases listedBefore_iff.mp hbefore with hnewer | ⟨hsame, hnumber⟩
  · exact .inl hnewer
  · refine .inr ⟨hsame, ?_⟩
    have hji : j < i := by
      rcases Nat.lt_trichotomy j i with hlt | rfl | hgt
      · exact hlt
      · exact absurd rfl hne
      · have hgrows := List.pairwise_iff_getElem.mp hincreasing i j hi hj hgt
        omega
    have hplace := (idxOf_lt_iff hnodup (i := j) (j := i) (by simpa) (by simpa)).mpr hji
    simp only [List.getElem_map] at hplace
    exact hplace

namespace Registry

/-- The place in the order of registration serves as the number. -/
theorem numbered_zipIdx (builds : List Build) :
    Numbered builds builds.length builds.zipIdx where
  builds := List.zipIdx_map_fst 0 builds
  increasing := by
    rw [List.pairwise_iff_getElem]
    intro i j hi hj hij
    simpa using hij
  below := by
    intro e he
    simpa using (List.mem_zipIdx' he).1

/-- The list of a registry is ordered. -/
theorem ordered_list {r : Registry} (hnodup : (r.builds.map (·.id)).Nodup) :
    Ordered (r.builds.map (·.record)) r.list :=
  (numbered_zipIdx r.builds).ordered hnodup (.refl _)

end Registry

/-! ## §5 Tables -/

/-- The builds as a table keeps them, each with the number of its registration: the order of the
entries says nothing. -/
structure Table where
  entries : List (Build × Nat)
  /-- The number of the next registration. -/
  next : Nat

namespace Table

/-- The build of a name. -/
def find? (t : Table) (id : BuildId) : Option Build :=
  (t.entries.find? (·.1.id = id)).map (·.1)

/-- What an operation leaves behind. A registration takes the next number, and a changed build keeps
its own. -/
def after (t : Table) : RegistryStep → Table
  | .create id now s =>
    match s.validate with
    | .ok () =>
      ⟨(.fresh (.fresh id now s), t.next) :: t.entries.filter (·.1.id ≠ id), t.next + 1⟩
    | .error _ => t
  | .change id x =>
    match (t.find? id).map (Build.change · x) with
    | some (.ok b) =>
      { t with entries := t.entries.map fun e => if e.1.id = id then (b, e.2) else e }
    | _ => t

/-- The records of all builds, the newest first. -/
def list (t : Table) : List BuildRecord :=
  (t.entries.mergeSort Registry.listedBefore).map (·.1.record)

/-- A table after operations. At any time its entries may come into any order. -/
inductive After : List RegistryStep → Table → Prop where
  | start : After [] ⟨[], 0⟩
  | step {xs : List RegistryStep} {t : Table} (x : RegistryStep) :
      After xs t → After (xs ++ [x]) (t.after x)
  | shuffle {xs : List RegistryStep} {t : Table} {entries : List (Build × Nat)} :
      After xs t → entries.Perm t.entries → After xs { t with entries }

/-- A table that has the builds of a registry, with numbers that grow in the order of their
registration. -/
def Keeps (t : Table) (r : Registry) : Prop :=
  ∃ entries, Numbered r.builds t.next entries ∧ t.entries.Perm entries

variable {t : Table} {r : Registry}

/-- The table and the registry find the same builds. -/
theorem Keeps.find?_eq (h : t.Keeps r) (hnodup : (r.builds.map (·.id)).Nodup) (id : BuildId) :
    t.find? id = r.find? id := by
  obtain ⟨entries, hnumbered, hperm⟩ := h
  -- the entries are the builds in another order, and identifiers are distinct
  have hbuilds : ∀ {b}, b ∈ r.builds ↔ ∃ e ∈ t.entries, e.1 = b := by
    intro b
    rw [← hnumbered.builds, List.mem_map]
    simp only [hperm.mem_iff]
  cases hfind : t.entries.find? fun e => decide (e.1.id = id) with
  | none =>
    rw [find?, hfind, eq_comm]
    apply List.find?_eq_none.mpr
    intro b hb
    obtain ⟨e, he, rfl⟩ := hbuilds.mp hb
    exact List.find?_eq_none.mp hfind e he
  | some e =>
    rw [find?, hfind, eq_comm]
    apply (Registry.find?_eq_some_iff hnodup).mpr
    exact ⟨hbuilds.mpr ⟨e, List.mem_of_find?_eq_some hfind, rfl⟩,
      by simpa using List.find?_some hfind⟩

/-- A registration takes a number above all others. -/
theorem Keeps.register (h : t.Keeps r) (id : BuildId) (b : Build) :
    Keeps ⟨(b, t.next) :: t.entries.filter (·.1.id ≠ id), t.next + 1⟩
      ⟨r.builds.filter (·.id ≠ id) ++ [b]⟩ := by
  obtain ⟨entries, ⟨hbuilds, hincreasing, hbelow⟩, hperm⟩ := h
  refine ⟨entries.filter (·.1.id ≠ id) ++ [(b, t.next)], ⟨?_, ?_, ?_⟩, ?_⟩
  · rw [← hbuilds, List.map_append, List.filter_map]
    rfl
  · refine List.pairwise_append.mpr ⟨hincreasing.filter _, List.pairwise_singleton _ _, ?_⟩
    intro e he e' he'
    rw [List.mem_singleton.mp he']
    exact hbelow e (List.mem_filter.mp he).1
  · intro e he
    rcases List.mem_append.mp he with hold | hnew
    · exact Nat.lt_succ_of_lt (hbelow e (List.mem_filter.mp hold).1)
    · rw [List.mem_singleton.mp hnew]
      exact Nat.lt_succ_self t.next
  · exact ((hperm.filter _).cons _).trans (List.perm_append_singleton _ _).symm

/-- A changed build keeps its number. -/
theorem Keeps.put (h : t.Keeps r) (id : BuildId) (b : Build) :
    Keeps { t with entries := t.entries.map fun e => if e.1.id = id then (b, e.2) else e }
      (r.modify id fun _ => b) := by
  obtain ⟨entries, ⟨hbuilds, hincreasing, hbelow⟩, hperm⟩ := h
  -- an entry that is replaced keeps its number
  have hnumber : ∀ e : Build × Nat, (if e.1.id = id then (b, e.2) else e).2 = e.2 := by
    intro e
    split <;> rfl
  refine ⟨_, ⟨?_, ?_, ?_⟩, hperm.map _⟩
  · rw [Registry.modify, ← hbuilds, List.map_map, List.map_map]
    apply List.map_congr_left
    intro e _
    simp only [Function.comp_apply]
    split <;> rfl
  · rw [List.pairwise_map]
    simpa only [hnumber] using hincreasing
  · intro e he
    obtain ⟨old, hold, rfl⟩ := List.mem_map.mp he
    rw [hnumber]
    exact hbelow old hold

/-- An operation does the same to the table and to the registry. -/
theorem Keeps.after (h : t.Keeps r) (hnodup : (r.builds.map (·.id)).Nodup) (x : RegistryStep) :
    (t.after x).Keeps (r.after x) := by
  cases x with
  | create id now s =>
    rw [Registry.after_create, Table.after]
    cases s.validate with
    | error e => exact h
    | ok u => exact h.register id _
  | change id x =>
    rw [Registry.after_change, Table.after, h.find?_eq hnodup]
    cases (r.find? id).map (·.change x) with
    | none => exact h
    | some result =>
      cases result with
      | error e => exact h
      | ok b => exact h.put id b

theorem keeps_of_after {xs : List RegistryStep} (h : After xs t) :
    t.Keeps (Registry.empty.run xs) := by
  induction h with
  | start => exact ⟨[], ⟨rfl, .nil, by simp⟩, .refl _⟩
  | @step xs t x _ ih =>
    rw [Registry.run_concat]
    exact ih.after (Registry.nodup_run xs) x
  | shuffle _ hshuffled ih =>
    obtain ⟨entries, hnumbered, hperm⟩ := ih
    exact ⟨entries, hnumbered, hshuffled.trans hperm⟩

/-- The list of a table is ordered like the list of the registry. -/
theorem ordered_list {xs : List RegistryStep} (h : After xs t) :
    Ordered ((Registry.empty.run xs).builds.map (·.record)) t.list := by
  obtain ⟨entries, hnumbered, hperm⟩ := keeps_of_after h
  exact hnumbered.ordered (Registry.nodup_run xs) hperm

end Table

/-! ## §6 What Is Listed -/

namespace Registry

/-- What is listed is what is found under its own name. -/
theorem mem_list_iff {r : Registry} (hnodup : (r.builds.map (·.id)).Nodup) {x : BuildRecord} :
    x ∈ r.list ↔ ∃ b, r.get x.id = .ok b ∧ b.record = x := by
  rw [(ordered_list hnodup).perm.mem_iff, List.mem_map]
  constructor
  · rintro ⟨b, hb, rfl⟩
    have hfind : r.find? b.record.id = some b := (find?_eq_some_iff hnodup).mpr ⟨hb, rfl⟩
    exact ⟨b, by rw [get, hfind], rfl⟩
  · rintro ⟨b, hb, rfl⟩
    refine ⟨b, ?_, rfl⟩
    rw [get] at hb
    split at hb
    · rename_i hfind
      cases hb
      exact List.mem_of_find?_eq_some hfind
    · cases hb

theorem origins_list (xs : List RegistryStep) :
    ((empty.run xs).list.map BuildRecord.origin).Perm (registered xs) := by
  have hperm := (ordered_list (nodup_run xs)).perm.map BuildRecord.origin
  rwa [List.map_map, show (BuildRecord.origin ∘ fun b : Build => b.record) =
    fun b => b.record.origin from rfl, origins_run] at hperm

/-- **Listing.** After any operations the list has every name that was registered exactly once, with
the time of its last registration, and shows each record as it is found under its name. It goes
strictly from newer to older records and, among records of one moment, against the order of
registration. A table that keeps the builds in any order, with the numbers of their registrations,
gives the same list. Where times never decrease, the list is the order of registration reversed. -/
theorem listing (xs : List RegistryStep) :
    ((empty.run xs).list.map BuildRecord.origin).Perm (registered xs) ∧
    ((registered xs).map (·.1)).Nodup ∧
    (∀ p ∈ registrations xs, p.1 ∈ (empty.run xs).list.map (·.id)) ∧
    (∀ x, x ∈ (empty.run xs).list ↔ ∃ b, (empty.run xs).get x.id = .ok b ∧ b.record = x) ∧
    (empty.run xs).list.Pairwise (Precedes ((registered xs).map (·.1))) ∧
    (∀ t, Table.After xs t → t.list = (empty.run xs).list) ∧
    (((registrations xs).map (·.2.key)).Pairwise (· ≤ ·) →
      (empty.run xs).list.map BuildRecord.origin = (registered xs).reverse) := by
  have hnodup := nodup_run xs
  have hordered := ordered_list hnodup
  have hnames : ((empty.run xs).builds.map (·.record)).map (·.id) = (registered xs).map (·.1) := by
    rw [← origins_run, List.map_map, List.map_map]
    rfl
  have hlisted : ((empty.run xs).list.map (·.id)).Perm ((registered xs).map (·.1)) :=
    hnames ▸ hordered.perm.map (·.id)
  refine ⟨origins_list xs, nodup_registered xs, ?_, fun _ => mem_list_iff hnodup, ?_, ?_, ?_⟩
  · intro p hp
    rw [hlisted.mem_iff]
    exact mem_registered hp
  -- the last three: the order, that it decides the listing, and what it is when time goes on
  · exact hnames ▸ hordered.pairwise
  · intro t ht
    exact (Table.ordered_list ht).unique hordered
  · intro htimes
    have hrecords : ((empty.run xs).builds.map (·.record)).Pairwise
        fun x y => x.createdAt.key ≤ y.createdAt.key := by
      have hkept := (List.pairwise_map.mp htimes).sublist (registered_sublist xs)
      rw [← origins_run, List.pairwise_map] at hkept
      exact List.pairwise_map.mpr hkept
    have hreverse := ordered_reverse (hnames ▸ nodup_registered xs) hrecords
    rw [hordered.unique hreverse, List.map_reverse, List.map_map, ← origins_run]
    rfl

end Registry

end BuildBroker
