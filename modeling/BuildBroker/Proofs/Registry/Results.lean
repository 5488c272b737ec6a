import BuildBroker.Proofs.Coordinator.Completion
import BuildBroker.Proofs.Registry.Listing

/-!
# Recorded Results

What the registry shows of a build once its result has been recorded. The build stays completed, its
log stays closed and no other result is accepted; but a status can still be set, and whoever sets one
puts it in the place of the result.

Main statements:
- `Build.Finished`, `Build.Finished.change`: what a completed build keeps of its result.
- `Registry.find?_after_of_other`: operations on other builds do not matter.
- `Registry.finished_run`: the status that is shown is the one set last.
- `Registry.shown_after_result`: what is shown at any later time, and when it is the result.
-/

namespace BuildBroker

/-! ## §1 One Build -/

/-- The text that a change sets as the status, if it does nothing but that. -/
def RecordChange.text? : RecordChange → Option String
  | .status text => some text
  | .phase _ | .delegation | .session _ | .result _ => none

namespace Build

/-- A build that is completed and shows a status. -/
structure Finished (status : String) (b : Build) : Prop where
  phase : b.record.phase = .completed
  status : b.record.status = some status
  closed : b.log.closed = true

variable {b b' : Build} {status : String}

/-- A result that is accepted completes the build. -/
theorem finished_of_complete (h : b.complete status = .ok b') : b'.Finished status := by
  unfold complete at h
  split at h
  · cases h
  · rename_i log hclose
    cases h
    exact ⟨rfl, rfl, (closed_of_close? hclose).2.1⟩

namespace Finished

theorem complete (h : b.Finished status) (other : String) :
    b.complete other = .error (.alreadyCompleted b.id) := by
  simp only [Build.complete, Log.Channel.close?, h.closed, if_true]

theorem beginDelegation (h : b.Finished status) :
    b.beginDelegation = .error (.alreadyDelegated b.id) := by
  simp [Build.beginDelegation, h.phase, Phase.isClaimable]

/-- A completed build keeps what it shows, unless a status is set. -/
theorem change {x : RecordChange} (h : b.Finished status) (hx : b.change x = .ok b') :
    b'.Finished (x.text?.getD status) := by
  cases x with
  | status text =>
    cases hx
    exact ⟨h.phase, rfl, h.closed⟩
  | phase p =>
    cases hx
    rw [setPhase, if_pos h.phase]
    exact h
  -- a completed build refuses to be delegated, and refuses another result
  | delegation =>
    rw [Build.change, h.beginDelegation] at hx
    cases hx
  | session e =>
    simp only [Build.change, setSession] at hx
    split at hx
    · cases hx
    · cases hx
      exact ⟨h.phase, h.status, h.closed⟩
  | result other =>
    rw [Build.change, h.complete] at hx
    cases hx

/-- A change that is refused sets no status. -/
theorem text?_of_error {x : RecordChange} {e : RegistryError} (hx : b.change x = .error e) :
    x.text? = none := by
  cases x with
  | status text => cases hx
  | phase | delegation | session | result => rfl

end Finished

end Build

/-! ## §2 All Builds -/

/-- The text that an operation sets as the status of a build, if it does nothing but that. -/
def RegistryStep.text? (id : BuildId) : RegistryStep → Option String
  | .change id' x => if id' = id then x.text? else none
  | .create _ _ _ => none

/-- The last text that operations set as the status of a build. -/
def lastText? (id : BuildId) (xs : List RegistryStep) : Option String :=
  (xs.filterMap (RegistryStep.text? id)).getLast?

theorem lastText?_concat (id : BuildId) (xs : List RegistryStep) (x : RegistryStep) :
    lastText? id (xs ++ [x]) = (x.text? id).or (lastText? id xs) := by
  cases hx : x.text? id <;> simp [lastText?, List.filterMap_append, hx]

theorem RegistryStep.text?_eq_some_iff {id : BuildId} {x : RegistryStep} {text : String} :
    x.text? id = some text ↔ x = .change id (.status text) := by
  constructor
  · intro h
    cases x with
    | create => cases h
    | change id' x =>
      simp only [text?] at h
      split at h
      · rename_i hid
        subst hid
        cases x with
        | status text' => cases h; rfl
        | phase | delegation | session | result => cases h
      · cases h
  · rintro rfl
    exact if_pos rfl

/-- The text that was set last is one of those that were set. -/
theorem mem_of_lastText? {id : BuildId} {xs : List RegistryStep} {text : String}
    (h : lastText? id xs = some text) : .change id (.status text) ∈ xs := by
  obtain ⟨x, hx, htext⟩ := List.mem_filterMap.mp (List.mem_of_getLast? h)
  rwa [← RegistryStep.text?_eq_some_iff.mp htext]

/-- The build that an operation is about. -/
def RegistryStep.about : RegistryStep → BuildId
  | .create id _ _ => id
  | .change id _ => id

namespace Registry

variable {r : Registry} {id : BuildId} {b : Build} {status : String}

theorem get_of_find? (hb : r.find? id = some b) : r.get id = .ok b := by
  rw [get, hb]

/-- A change of a build that is there is made if it is allowed, and refused otherwise. -/
theorem perform_change_of_find? (hb : r.find? id = some b) (x : RecordChange) :
    r.perform (.change id x) =
      (b.change x).map fun b' => (r.modify id fun _ => b', b'.record) := by
  simp only [perform, update, get_of_find? hb]
  cases hx : b.change x <;> simp [hx, bind, Except.bind, pure, Except.pure, Except.map]

/-- A change that is allowed puts the changed build in the place of the old one, and of no other. -/
theorem find?_after_change (hb : r.find? id = some b) {x : RecordChange} {b' : Build}
    (hx : b.change x = .ok b') (id' : BuildId) :
    (r.after (.change id x)).find? id' = if id' = id then some b' else r.find? id' := by
  have hid : b.id = id := by simpa using List.find?_some hb
  have hid' : b'.id = id := (b.sameOrigin_change hx).id.trans hid
  simp only [after_change, hb, Option.map_some, hx]
  rw [r.find?_modify id id' fun _ _ => hid', hb, Option.map_some]

/-- An operation on one build leaves the others as they are. -/
theorem find?_after_of_other (r : Registry) {y : RegistryStep} (hy : y.about ≠ id) :
    (r.after y).find? id = r.find? id := by
  cases y with
  | create id' now s =>
    have hne : id' ≠ id := hy
    rw [after_create]
    cases s.validate with
    | error e => rfl
    | ok u =>
      have hnew : (Build.fresh (.fresh id' now s)).id ≠ id := hne
      simp only [find?, List.find?_append, List.find?_filter, List.find?_singleton, hnew,
        decide_false, Bool.false_eq_true, if_false, Option.or_none]
      -- the build that is replaced is not the one looked for, and the new one is not either
      congr 1
      funext x
      by_cases hx : x.id = id
      · have hkept : id ≠ id' := hne.symm
        simp [hx, hkept]
      · simp [hx]
  | change id' x =>
    have hne : id' ≠ id := hy
    cases hb : r.find? id' with
    | none => simp [after_change, hb]
    | some b =>
      cases hx : b.change x with
      | error e => simp [after_change, hb, hx]
      | ok b' => rw [find?_after_change hb hx, if_neg hne.symm]

/-- A completed build keeps what it shows in every operation that does not register its name anew,
unless it is a status that is set. -/
theorem finished_after (hb : r.find? id = some b) (h : b.Finished status) {y : RegistryStep}
    (hy : ∀ p, y.registration? = some p → p.1 ≠ id) :
    ∃ b', (r.after y).find? id = some b' ∧ b'.Finished ((y.text? id).getD status) := by
  by_cases habout : y.about = id
  · cases y with
    | create id' now s =>
      obtain rfl : id' = id := habout
      -- the name is not registered anew, so the submission was refused
      rw [after_create]
      cases hvalid : s.validate with
      | error e => exact ⟨b, hb, h⟩
      | ok u => exact absurd rfl (hy (id', now) (by simp [RegistryStep.registration?, hvalid]))
    | change id' x =>
      obtain rfl : id' = id := habout
      rw [RegistryStep.text?, if_pos rfl]
      cases hx : b.change x with
      | error e =>
        -- what is refused is not the setting of a status
        refine ⟨b, by simp only [after_change, hb, Option.map_some, hx], ?_⟩
        rw [Build.Finished.text?_of_error hx]
        exact h
      | ok b' => exact ⟨b', by rw [find?_after_change hb hx, if_pos rfl], h.change hx⟩
  · have hnone : y.text? id = none := by
      cases y with
      | create => rfl
      | change id' x => exact if_neg habout
    rw [find?_after_of_other r habout, hnone]
    exact ⟨b, hb, h⟩

/-- As long as its name is not registered anew, a completed build shows the status that was set
last. -/
theorem finished_run (hb : r.find? id = some b) (h : b.Finished status) {xs : List RegistryStep}
    (hnew : ∀ p ∈ registrations xs, p.1 ≠ id) :
    ∃ b', (r.run xs).find? id = some b' ∧ b'.Finished ((lastText? id xs).getD status) := by
  induction xs using List.reverseRecOn with
  | nil => exact ⟨b, hb, h⟩
  | append_singleton xs y ih =>
    rw [registrations_concat] at hnew
    obtain ⟨b₁, hb₁, h₁⟩ := ih fun p hp => hnew p (List.mem_append_left _ hp)
    obtain ⟨b₂, hb₂, h₂⟩ := finished_after hb₁ h₁ (y := y)
      fun p hp => hnew p (List.mem_append_right _ (by simp [hp]))
    refine ⟨b₂, by rwa [run_concat], ?_⟩
    rw [lastText?_concat]
    cases htext : y.text? id <;> simpa [htext] using h₂

/-! ## §3 Later Looks -/

/-- Who records a result that is accepted is shown a completed build, as is everyone after that. -/
theorem finished_of_result {x : BuildRecord} {r' : Registry}
    (h : r.perform (.change id (.result status)) = .ok (r', x)) :
    ∃ b, r'.find? id = some b ∧ b.record = x ∧ b.Finished status := by
  have hafter : r.after (.change id (.result status)) = r' := by rw [after, h]
  cases hb : r.find? id with
  | none =>
    simp only [perform, update, get, hb] at h
    cases h
  | some b =>
    rw [perform_change_of_find? hb] at h
    cases hx : b.change (.result status) with
    | error e =>
      rw [hx] at h
      cases h
    | ok b' =>
      rw [hx] at h
      cases h
      exact ⟨b', by rw [← hafter, find?_after_change hb hx, if_pos rfl], rfl,
        Build.finished_of_complete hx⟩

/-- What a look at a completed build shows at any time, as long as its name is not registered anew. -/
theorem look_of_finished (hb : r.find? id = some b) (h : b.Finished status)
    {later : List RegistryStep} (hnew : ∀ p ∈ registrations later, p.1 ≠ id) (n : Nat) :
    ∃ b', (r.run (later.take n)).get id = .ok b' ∧
      b'.Finished ((lastText? id (later.take n)).getD status) := by
  have hprefix : ∀ p ∈ registrations (later.take n), p.1 ≠ id := by
    intro p hp
    obtain ⟨y, hy, hreg⟩ := List.mem_filterMap.mp hp
    exact hnew p (List.mem_filterMap.mpr ⟨y, List.mem_of_mem_take hy, hreg⟩)
  obtain ⟨b', hb', h'⟩ := finished_run hb h hprefix
  exact ⟨b', get_of_find? hb', h'⟩

/-- All looks at a completed build show the same if and only if no other text is ever set. -/
theorem shown_iff (hb : r.find? id = some b) (h : b.Finished status)
    {later : List RegistryStep} (hnew : ∀ p ∈ registrations later, p.1 ≠ id) :
    (∀ n, ∃ b', (r.run (later.take n)).get id = .ok b' ∧ b'.record.phase = .completed ∧
        b'.record.status = some status) ↔
      ∀ text, .change id (.status text) ∈ later → text = status := by
  constructor
  · intro hshown text hmem
    -- the look right after the text was set shows it
    obtain ⟨first, rest, rfl⟩ := List.append_of_mem hmem
    have htake : (first ++ .change id (.status text) :: rest).take (first.length + 1) =
        first ++ [.change id (.status text)] := by
      rw [List.append_cons]
      exact List.take_left' (by simp)
    obtain ⟨b₁, hb₁, h₁⟩ := look_of_finished hb h hnew (first.length + 1)
    obtain ⟨b₂, hb₂, -, hstatus⟩ := hshown (first.length + 1)
    obtain rfl : b₁ = b₂ := Except.ok.inj (hb₁.symm.trans hb₂)
    have hlast := h₁.status
    rw [htake, lastText?_concat, RegistryStep.text?_eq_some_iff.mpr rfl, hstatus] at hlast
    exact (Option.some.inj hlast).symm
  · intro honly n
    obtain ⟨b₁, hb₁, h₁⟩ := look_of_finished hb h hnew n
    refine ⟨b₁, hb₁, h₁.phase, ?_⟩
    rw [h₁.status]
    cases hlast : lastText? id (later.take n) with
    | none => rfl
    | some text =>
      rw [Option.getD_some, honly text (List.mem_of_mem_take (mem_of_lastText? hlast))]

/-- Whoever sets a status has it shown from then on, on a completed build too. -/
theorem perform_status_of_find? (hb : r.find? id = some b) (text : String) :
    ∃ r' b', r.perform (.change id (.status text)) = .ok (r', b'.record) ∧
      r'.get id = .ok b' ∧ b'.record.status = some text := by
  have hset : b.change (.status text) = .ok (b.setStatus text) := rfl
  have hperform := perform_change_of_find? hb (.status text)
  rw [hset] at hperform
  have hfind := find?_after_change hb hset id
  rw [after, hperform, if_pos rfl] at hfind
  exact ⟨_, _, hperform, get_of_find? hfind, rfl⟩

/-- **Recorded results.** After a result has been accepted, and as long as its name is not registered
anew, a build is completed at any later time and accepts no other result. The status that it shows is
the one that was set last; to set one is never refused. So every later look shows the result if and
only if no other text is ever set. -/
theorem shown_after_result {before later : List RegistryStep} {x : BuildRecord}
    (h : (empty.run before).perform (.change id (.result status)) = .ok (r, x))
    (hnew : ∀ p ∈ registrations later, p.1 ≠ id) :
    (x.phase = .completed ∧ x.status = some status) ∧
    (∃ b, (r.run later).get id = .ok b ∧ b.record.phase = .completed ∧
      b.record.status = some ((lastText? id later).getD status)) ∧
    (∀ other, (r.run later).perform (.change id (.result other)) =
      .error (.alreadyCompleted id)) ∧
    (∀ text, ∃ r' b', (r.run later).perform (.change id (.status text)) = .ok (r', b'.record) ∧
      r'.get id = .ok b' ∧ b'.record.status = some text) ∧
    ((∀ n, ∃ b, (r.run (later.take n)).get id = .ok b ∧ b.record.phase = .completed ∧
        b.record.status = some status) ↔
      ∀ text, .change id (.status text) ∈ later → text = status) := by
  obtain ⟨b₀, hb₀, rfl, h₀⟩ := finished_of_result h
  obtain ⟨b, hb, hfinished⟩ := finished_run hb₀ h₀ hnew
  have hid : b.id = id := by simpa using List.find?_some hb
  refine ⟨⟨h₀.phase, h₀.status⟩, ⟨b, get_of_find? hb, hfinished.phase, hfinished.status⟩, ?_,
    perform_status_of_find? hb, shown_iff hb₀ h₀ hnew⟩
  intro other
  rw [perform_change_of_find? hb, Build.change, hfinished.complete, hid]
  rfl

/-- A build is registered and claimed. -/
def claimedBuild : List RegistryStep :=
  [.create ⟨7⟩ ⟨⟨2026, 1, 1⟩, 0, 0⟩ ⟨"image", "", "", .empty⟩, .change ⟨7⟩ .delegation]

/-- The upload goes on, another build is registered, and a status is set. -/
def afterthought : List RegistryStep :=
  [.change ⟨7⟩ (.phase .running), .create ⟨8⟩ ⟨⟨2026, 1, 2⟩, 0, 0⟩ ⟨"image", "", "", .empty⟩,
    .change ⟨7⟩ (.status "failed")]

/-- The status stands in the place of the result, and the build is completed still. -/
theorem shown_after_result_afterthought :
    ∃ r x, (empty.run claimedBuild).perform (.change ⟨7⟩ (.result "succeeded")) = .ok (r, x) ∧
      (x.phase = .completed ∧ x.status = some "succeeded") ∧
      (∃ b, (r.run afterthought).get ⟨7⟩ = .ok b ∧ b.record.phase = .completed ∧
        b.record.status = some "failed") ∧
      ¬∀ n, ∃ b, (r.run (afterthought.take n)).get ⟨7⟩ = .ok b ∧ b.record.phase = .completed ∧
        b.record.status = some "succeeded" := by
  have hresult : ∃ p, (empty.run claimedBuild).perform (.change ⟨7⟩ (.result "succeeded")) =
      .ok p := ⟨_, rfl⟩
  obtain ⟨⟨r, x⟩, hresult⟩ := hresult
  have hnew : ∀ p ∈ registrations afterthought, p.1 ≠ ⟨7⟩ := by decide
  obtain ⟨hrecord, hshown, -, -, hiff⟩ := shown_after_result hresult hnew
  refine ⟨r, x, hresult, hrecord, hshown, ?_⟩
  rw [hiff]
  intro honly
  exact absurd (honly "failed" (by simp [afterthought])) (by decide)

end Registry

end BuildBroker
