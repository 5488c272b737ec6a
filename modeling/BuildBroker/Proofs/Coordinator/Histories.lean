import BuildBroker.Proofs.Coordinator.Moves

/-!
# Histories of Builds

Someone who watches one build during a run notes something of every step at it: what, may depend on
the step and on the build as it was before.

Main statements:
- `Coordinator.history`: what has been noted of a build in a run.
- `Coordinator.history_induction`: what holds of a registered build and of nothing noted, and is kept
  by every step at the build with what is noted of it, holds of the build and its history in every run.
-/

namespace BuildBroker.Coordinator

variable {ω : Type}

/-- What is noted of one build at a step of the coordinator; nothing if the build is not there. -/
def noted (note : Build → BuildStep → List ω) (id : BuildId) (c : Coordinator) :
    CoordinatorStep → List ω
  | .create _ _ _ => []
  | .build id' y =>
    if id' = id then ((c.registry.find? id).map (note · y)).getD [] else []

/-- What has been noted of one build by the end of a run. -/
def history (note : Build → BuildStep → List ω) (c : Coordinator) (id : BuildId)
    (steps : List CoordinatorStep) : List ω :=
  Runs.seen step? (noted note id) c steps

variable {note : Build → BuildStep → List ω} {settings : CoordinatorSettings}
variable {steps : List CoordinatorStep} {c c' : Coordinator} {id : BuildId} {b b' : Build}

theorem noted_of_not_found {x : CoordinatorStep} (hnone : c.registry.find? id = none) :
    noted note id c x = [] := by
  cases x with
  | create => rfl
  | build id' y => simp [noted, hnone]

theorem noted_of_found {y : BuildStep} (hb : c.registry.find? id = some b) :
    noted note id c (.build id y) = note b y := by
  simp [noted, hb]

/-- A step that is not about a build leaves it as it is, and nothing is noted of it. -/
theorem eq_of_not_about {x : CoordinatorStep} (h : c.step? x = some c')
    (hx : ∀ y, x ≠ .build id y) (hb : c.registry.find? id = some b)
    (hb' : c'.registry.find? id = some b') : b' = b ∧ noted note id c x = [] := by
  rcases moves_between h hb hb' with ⟨heq, _⟩ | ⟨y, rfl, _⟩
  · refine ⟨heq, ?_⟩
    cases x with
    | create => rfl
    | build id' y =>
      have hne : id' ≠ id := by
        rintro rfl
        exact hx y rfl
      simp [noted, hne]
  · exact absurd rfl (hx y)

/-- Induction on what happens to one build: it is registered, and then steps are taken at it. -/
theorem history_induction {motive : Build → List ω → Prop}
    (born : ∀ now sub, motive (.fresh (.fresh id now sub)) [])
    (moved : ∀ xs c y c' b b' h, (Coordinator.mk settings .empty).play xs = some c →
      c.registry.find? id = some b → c.step? (.build id y) = some c' →
      c'.registry.find? id = some b' → motive b h → motive b' (h ++ note b y))
    (h : (Coordinator.mk settings .empty).play steps = some c)
    (hb : c.registry.find? id = some b) :
    motive b (history note ⟨settings, .empty⟩ id steps) := by
  let c₀ : Coordinator := ⟨settings, .empty⟩
  have hrun : c₀.play steps = some c ∧
      (c.registry.find? id = none → history note c₀ id steps = []) ∧
      ∀ b, c.registry.find? id = some b → motive b (history note c₀ id steps) := by
    refine Runs.run_induction (motive := fun xs mid => c₀.play xs = some mid ∧
      (mid.registry.find? id = none → history note c₀ id xs = []) ∧
      ∀ b, mid.registry.find? id = some b → motive b (history note c₀ id xs))
      ⟨rfl, fun _ => rfl, fun b hb => by cases hb⟩ ?_ h
    rintro xs mid x mid' ⟨hplay, hnothing, hmotive⟩ hstep
    have hmore : history note c₀ id (xs ++ [x]) = history note c₀ id xs ++ noted note id mid x :=
      Runs.seen_concat hplay
    refine ⟨Runs.run_concat.mpr ⟨mid, hplay, hstep⟩, ?_, ?_⟩
    · intro hnone
      cases hfind : mid.registry.find? id with
      | none => rw [hmore, hnothing hfind, noted_of_not_found hfind, List.append_nil]
      | some b =>
        -- a build is never lost
        obtain ⟨b', hb', _⟩ := moves_of_step? hstep hfind
        rw [hnone] at hb'
        cases hb'
    · intro b' hb'
      rw [hmore]
      cases hfind : mid.registry.find? id with
      | none =>
        rw [hnothing hfind, noted_of_not_found hfind]
        rcases born_of_step? hstep hb' with ⟨b, hb, _⟩ | ⟨now, sub, rfl⟩
        · rw [hfind] at hb
          cases hb
        · exact born now sub
      | some b =>
        by_cases hx : ∃ y, x = .build id y
        · obtain ⟨y, rfl⟩ := hx
          rw [noted_of_found hfind]
          exact moved xs mid y mid' b b' _ hplay hfind hstep hb' (hmotive b hfind)
        · have haside : b' = b ∧ noted note id mid x = [] :=
            eq_of_not_about hstep (fun y heq => hx ⟨y, heq⟩) hfind hb'
          obtain ⟨rfl, hnone⟩ := haside
          rw [hnone, List.append_nil]
          exact hmotive b' hfind
  exact hrun.2.2 b hb

end BuildBroker.Coordinator
