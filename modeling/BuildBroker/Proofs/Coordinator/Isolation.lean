import BuildBroker.Proofs.Coordinator.Submissions

/-!
# Builds Keep to Themselves

What is done with one build neither depends on the others nor shows in them. The steps at other
builds can be taken out of a run, wherever they stand in it: the build that is left comes out the
same, and everybody who works with it gets the same answers.

Main statements:
- `Coordinator.answer`: what a step tells the one who takes it.
- `Coordinator.Alike`: two coordinators that look the same to who works with one build.
- `Coordinator.answer_alike`, `Coordinator.step?_alike`: such coordinators give the same answers,
  and stay alike.
- `Coordinator.isolated`: builds are isolated, none is lost, and each runs what was submitted.
-/

namespace BuildBroker

/-! ## §1 Answers -/

/-- What a step tells the one who takes it. -/
inductive StepAnswer where
  | created (r : Except CoordinatorError BuildRecord)
  /-- An upload or a fetch has been started under a number. -/
  | started (r : Except CoordinatorError Nat)
  /-- What an upload has come to, if to anything. -/
  | upload (e : Option UploadEvent)
  /-- What a fetch has come to, if to anything. -/
  | fetch (e : Option FetchEvent)
  | polled (p : Option Poll)
  | recorded (r : Except CoordinatorError BuildResult)
  | address (r : Except CoordinatorError Url)
  /-- Whether a chunk of a log has been accepted. -/
  | accepted (a : Option Bool)
  | observes (number : Option Nat)
  | received (r : Option Log.Received)
  /-- There is nothing to be told. -/
  | done

namespace Progress

/-- What a call has come to, if to anything. -/
def event? {α : Type} : Progress α → Option α
  | .reached a => some a
  | .moved _ | .waits => none

end Progress

/-- Whether a step is about the build of a name. -/
def CoordinatorStep.isAbout (id : BuildId) : CoordinatorStep → Bool
  | .create id' _ _ => id' = id
  | .build id' _ => id' = id

namespace Coordinator

/-- What a step at a build tells. A turn tells what the upload or the fetch has come to by it. -/
def answerAt (c : Coordinator) (id : BuildId) : BuildStep → StepAnswer
  | .upload p => .started ((c.startUpload id p).map (·.2))
  | .uploadTurn now u =>
    .upload ((c.uploadTurn? now id u).bind fun c' => (c'.uploadProgress now id u).event?)
  | .fetch now => .started ((c.startFetch id now).map (·.2))
  | .fetchTurn now f =>
    .fetch ((c.fetchTurn? now id f).bind fun c' => (c'.fetchProgress now id f).event?)
  | .pollBits t => .polled ((c.registry.find? id).map fun b => (b.pollBits t).2)
  | .recordResult r => .recorded ((c.recordResult id r).map (·.2))
  | .abort => .address (c.endpoint id .abort)
  | .append chunk => .accepted ((c.registry.find? id).map fun b => (b.append chunk).2)
  | .observe capacity reading =>
    .observes ((c.registry.find? id).map fun b => (b.log.join capacity reading).2)
  | .receive i limit => .received ((c.registry.find? id).map fun b => (b.log.receive i limit).2)
  | .answer _ _ | .dropUpload _ | .dropFetch _ | .leaveBits _ | .markDelivery _ _ | .markFetch _ _
  | .unobserve _ => .done

/-- What a step tells. -/
def answer (c : Coordinator) : CoordinatorStep → StepAnswer
  | .create id now s => .created ((c.create id now s).map (·.2))
  | .build id y => c.answerAt id y

/-- The answers that are given in a run to who works with one build. -/
def answers (c : Coordinator) (id : BuildId) (steps : List CoordinatorStep) : List StepAnswer :=
  Runs.seen step? (fun c x => if x.isAbout id then [c.answer x] else []) c steps

/-! ## §2 What a step looks at -/

/-- Two coordinators that look the same to who works with one build. -/
structure Alike (id : BuildId) (c d : Coordinator) : Prop where
  settings : d.settings = c.settings
  find : d.registry.find? id = c.registry.find? id

end Coordinator

/-- Where a build is put in the place of another, it is found there if it has its name. -/
theorem Registry.find?_put (r : Registry) (id : BuildId) (b : Build) :
    (r.modify id fun _ => b).find? id =
      if b.id = id then (r.find? id).map fun _ => b else none := by
  split
  · rename_i hid
    have hfind := r.find?_modify id id (f := fun _ => b) fun _ _ => hid
    rwa [if_pos rfl] at hfind
  · rename_i hid
    apply List.find?_eq_none.mpr
    intro x hx
    obtain ⟨y, -, rfl⟩ := List.mem_map.mp hx
    split
    · simpa using hid
    · simpa using ‹_›

namespace Coordinator

section Alike

variable {id : BuildId} {c d c' : Coordinator}

theorem Alike.get (h : Alike id c d) : d.registry.get id = c.registry.get id := by
  simp [Registry.get, h.find]

/-- Putting the same build in the place of another keeps coordinators alike. -/
theorem Alike.put (h : Alike id c d) (b : Build) :
    Alike id (c.modify id fun _ => b) (d.modify id fun _ => b) := by
  refine ⟨h.settings, ?_⟩
  have hc := c.registry.find?_put id b
  have hd := d.registry.find?_put id b
  rw [h.find, ← hc] at hd
  exact hd

/-- So does the same change that keeps the name. -/
theorem Alike.modify (h : Alike id c d) {f : Build → Build}
    (hid : ∀ b : Build, b.id = id → (f b).id = id) :
    Alike id (c.modify id f) (d.modify id f) := by
  refine ⟨h.settings, ?_⟩
  have hc := c.registry.find?_modify id id hid
  have hd := d.registry.find?_modify id id hid
  rw [h.find, ← hc] at hd
  exact hd

theorem Alike.modify? (h : Alike id c d) {f : Build → Option Build}
    (hc : c.modify? id f = some c') : ∃ d', d.modify? id f = some d' ∧ Alike id c' d' := by
  obtain ⟨b, b', hb, hb', rfl⟩ := of_modify? hc
  refine ⟨d.modify id fun _ => b', ?_, h.put b'⟩
  simp [Coordinator.modify?, h.find, hb, hb']

theorem Alike.startUpload (h : Alike id c d) (p : Payload) :
    (d.startUpload id p).map (·.2) = (c.startUpload id p).map (·.2) ∧
      Alike id (c.after (c.startUpload id p)) (d.after (d.startUpload id p)) := by
  unfold Coordinator.startUpload
  rw [h.get]
  cases ofRegistry (c.registry.get id) with
  | error e => exact ⟨rfl, h⟩
  | ok b => exact ⟨rfl, h.modify fun _ hid => hid⟩

theorem Alike.startFetch (h : Alike id c d) (now : Nat) :
    (d.startFetch id now).map (·.2) = (c.startFetch id now).map (·.2) ∧
      Alike id (c.after (c.startFetch id now)) (d.after (d.startFetch id now)) := by
  unfold Coordinator.startFetch
  rw [h.get, h.settings]
  cases ofRegistry (c.registry.get id) with
  | error e => exact ⟨rfl, h⟩
  | ok b => exact ⟨rfl, h.modify fun _ hid => hid⟩

theorem Alike.recordResult (h : Alike id c d) (r : BuildResult) :
    (d.recordResult id r).map (·.2) = (c.recordResult id r).map (·.2) ∧
      Alike id (c.after (c.recordResult id r)) (d.after (d.recordResult id r)) := by
  unfold Coordinator.recordResult Registry.update
  rw [h.get]
  cases r.validate with
  | error e => exact ⟨rfl, h⟩
  | ok =>
    cases c.registry.get id with
    | error e => exact ⟨rfl, h⟩
    | ok b =>
      cases hcomplete : b.complete r.status with
      | error e =>
        simp only [bind, Except.bind, hcomplete]
        exact ⟨rfl, h⟩
      | ok b' =>
        simp only [bind, Except.bind, hcomplete]
        exact ⟨rfl, h.put b'⟩

theorem Alike.endpoint (h : Alike id c d) (kind : EndpointKind) :
    d.endpoint id kind = c.endpoint id kind := by
  simp only [Coordinator.endpoint, Coordinator.get, h.get]

/-- An abort changes nothing, whatever it finds. -/
theorem after_abort (c : Coordinator) (id : BuildId) :
    c.after ((c.endpoint id .abort).map fun url => (c, url)) = c := by
  cases c.endpoint id .abort <;> rfl

/-- A step at a build that is possible is possible where the build is the same, and does the same to
it. -/
theorem Alike.stepAt? (h : Alike id c d) {y : BuildStep} (hc : c.stepAt? id y = some c') :
    ∃ d', d.stepAt? id y = some d' ∧ Alike id c' d' := by
  cases y with
  | upload p =>
    cases hc
    exact ⟨_, rfl, (h.startUpload p).2⟩
  | fetch now =>
    cases hc
    exact ⟨_, rfl, (h.startFetch now).2⟩
  | recordResult r =>
    cases hc
    exact ⟨_, rfl, (h.recordResult r).2⟩
  | abort =>
    cases hc
    rw [after_abort]
    exact ⟨_, rfl, by rw [after_abort]; exact h⟩
  | uploadTurn now u =>
    -- this turn reads the settings beside the build
    have hd := Alike.modify? h
      (f := (·.uploadTurn? c.settings.peer c.settings.pickupTimeout now u)) hc
    rw [← h.settings] at hd
    exact hd
  | fetchTurn now f => exact Alike.modify? h (f := (·.fetchTurn? now f)) hc
  | answer | dropUpload | dropFetch | pollBits | leaveBits | markDelivery | markFetch | append
  | observe | receive | unobserve => exact Alike.modify? h hc

/-- What registering tells does not depend on what is there. -/
theorem create_answer (c d : Coordinator) (id : BuildId) (now : Time.Instant) (sub : Submission) :
    (d.create id now sub).map (·.2) = (c.create id now sub).map (·.2) := by
  unfold create Registry.create
  cases sub.validate <;> rfl

theorem Alike.create (h : Alike id c d) {now : Time.Instant} {sub : Submission}
    (hc : c.step? (.create id now sub) = some c') :
    ∃ d', d.step? (.create id now sub) = some d' ∧ Alike id c' d' := by
  have hd : ∃ d', d.step? (.create id now sub) = some d' := by
    simp only [step?, h.find]
    simp only [step?] at hc
    split at hc
    · cases hc
    · rename_i hnew
      exact ⟨_, if_neg hnew⟩
  obtain ⟨d', hd⟩ := hd
  -- a name is free on one side exactly if it is on the other, and then gets the same fresh build
  refine ⟨d', hd, ?_, ?_⟩
  · rw [settings_of_step? hd, settings_of_step? hc, h.settings]
  · cases hvalid : sub.validate with
    | ok => rw [registered_of_step? hd hvalid, registered_of_step? hc hvalid]
    | error e =>
      -- a submission that is turned down leaves everything as it is
      have hsame : ∀ {c c' : Coordinator}, c.step? (.create id now sub) = some c' → c' = c := by
        intro c c' hstep
        simp only [step?] at hstep
        split at hstep
        · cases hstep
        · cases hstep
          simp only [Coordinator.create, Registry.create, hvalid]
          rfl
      rw [hsame hd, hsame hc, h.find]

/-- A step about a build is possible where the build is the same, and does the same there. -/
theorem step?_alike (h : Alike id c d) {x : CoordinatorStep} (hx : x.isAbout id = true)
    (hc : c.step? x = some c') : ∃ d', d.step? x = some d' ∧ Alike id c' d' := by
  cases x with
  | create id' now sub =>
    obtain rfl : id' = id := by simpa [CoordinatorStep.isAbout] using hx
    exact h.create hc
  | build id' y =>
    obtain rfl : id' = id := by simpa [CoordinatorStep.isAbout] using hx
    exact h.stepAt? hc

/-- A step that is not about a build leaves it as it is, and there or not there. -/
theorem find?_of_not_about {x : CoordinatorStep} (hx : x.isAbout id = false)
    (hc : c.step? x = some c') : c'.registry.find? id = c.registry.find? id := by
  rcases step?_cases hc with ⟨rfl, -⟩ | ⟨id', now, sub, rfl, -, hputs⟩ |
    ⟨id', y, rfl, b, b', hb, hm, hputs⟩
  · rfl
  · have hne : id ≠ id' := by
      rintro rfl
      simp [CoordinatorStep.isAbout] at hx
    exact (hputs.find id).trans (if_neg hne)
  · have hne : id ≠ b'.id := by
      rintro rfl
      simp [CoordinatorStep.isAbout, hm.id_eq, id_of_find? hb] at hx
    exact (hputs.find id).trans (if_neg hne)

end Alike

/-! ## §3 What is told -/

section Answers

variable {id : BuildId} {c d : Coordinator}

theorem Alike.symm (h : Alike id c d) : Alike id d c := ⟨h.settings.symm, h.find.symm⟩

/-- Who waits or takes a turn has come to nothing yet. -/
@[simp] theorem event?_ofTurn {α : Type} (c : Option Coordinator) :
    (Progress.ofTurn c : Progress α).event? = none := by
  cases c <;> rfl

theorem Alike.uploadEvent (h : Alike id c d) (now u : Nat) :
    (d.uploadProgress now id u).event? = (c.uploadProgress now id u).event? := by
  unfold uploadProgress
  rw [h.find]
  split <;> simp

theorem Alike.fetchEvent (h : Alike id c d) (now f : Nat) :
    (d.fetchProgress now id f).event? = (c.fetchProgress now id f).event? := by
  unfold fetchProgress
  rw [h.find]
  dsimp only
  split <;> simp

/-- What a call comes to by a turn is the same if the turn does the same. -/
theorem Alike.turn (h : Alike id c d) {α : Type} (y : BuildStep) (event : Coordinator → Option α)
    (hevent : ∀ c d, Alike id c d → event d = event c) :
    (d.stepAt? id y).bind event = (c.stepAt? id y).bind event := by
  cases hc : c.stepAt? id y with
  | some c' =>
    obtain ⟨d', hd, h'⟩ := h.stepAt? hc
    rw [hd]
    exact hevent c' d' h'
  | none =>
    cases hd : d.stepAt? id y with
    | none => rfl
    | some d' =>
      obtain ⟨c', hc', -⟩ := h.symm.stepAt? hd
      rw [hc] at hc'
      cases hc'

theorem Alike.answerAt (h : Alike id c d) (y : BuildStep) : d.answerAt id y = c.answerAt id y := by
  cases y with
  | upload p => exact congrArg StepAnswer.started (h.startUpload p).1
  | fetch now => exact congrArg StepAnswer.started (h.startFetch now).1
  | recordResult r => exact congrArg StepAnswer.recorded (h.recordResult r).1
  | abort => exact congrArg StepAnswer.address (h.endpoint .abort)
  | uploadTurn now u =>
    exact congrArg StepAnswer.upload (h.turn (.uploadTurn now u) _ fun _ _ h => h.uploadEvent now u)
  | fetchTurn now f =>
    exact congrArg StepAnswer.fetch (h.turn (.fetchTurn now f) _ fun _ _ h => h.fetchEvent now f)
  | _ => simp only [Coordinator.answerAt, h.find]

/-- Who works with a build is told the same where it is the same. -/
theorem answer_alike (h : Alike id c d) {x : CoordinatorStep} (hx : x.isAbout id = true) :
    d.answer x = c.answer x := by
  cases x with
  | create id' now sub => exact congrArg StepAnswer.created (create_answer c d id' now sub)
  | build id' y =>
    obtain rfl : id' = id := by simpa [CoordinatorStep.isAbout] using hx
    exact h.answerAt y

end Answers

/-! ## §4 Runs -/

variable {settings : CoordinatorSettings} {steps : List CoordinatorStep} {c : Coordinator}

/-- A run without the steps at other builds. -/
theorem alike_of_play {c₀ : Coordinator} (h : c₀.play steps = some c) (id : BuildId) :
    ∃ d, c₀.play (steps.filter (·.isAbout id)) = some d ∧ Alike id c d ∧
      c₀.answers id (steps.filter (·.isAbout id)) = c₀.answers id steps := by
  refine Runs.run_filter ⟨rfl, rfl⟩ ?_ ?_ ?_ ?_ h
  · -- a step at another build leaves this one as it is, and is left out on the other side
    intro c d x c' halike hx hstep
    refine ⟨halike.settings.trans (settings_of_step? hstep).symm, ?_⟩
    rw [halike.find, find?_of_not_about hx hstep]
  · intro c d x c' halike hx hstep
    exact step?_alike halike hx hstep
  · intro c d x halike hx
    simp only [hx, if_true, answer_alike halike hx]
  · intro c x hx
    simp [hx]

/-- **Builds are isolated, and run what was submitted.** Take the steps at all other builds out of a
run: the run is still possible, it ends with the build in the same state, and with the same further
steps and questions open and answered in the same way; and the answers given on the way are the
same. A build that was registered is there for good, under its name and with its time and
submission, and whenever the executor is asked to take it, it is asked for its name and exactly this
submission. -/
theorem isolated (h : (Coordinator.mk settings .empty).play steps = some c) (id : BuildId) :
    (∃ d, (Coordinator.mk settings .empty).play (steps.filter (·.isAbout id)) = some d ∧
      d.registry.find? id = c.registry.find? id ∧
      (Coordinator.mk settings .empty).answers id (steps.filter (·.isAbout id)) =
        (Coordinator.mk settings .empty).answers id steps ∧
      (∀ x, x.isAbout id = true →
        (d.step? x).isSome = (c.step? x).isSome ∧ d.answer x = c.answer x) ∧
      d.get id = c.get id ∧ d.result id = c.result id ∧
      ∀ kind, d.endpoint id kind = c.endpoint id kind) ∧
    ∀ before now sub after, steps = before ++ .create id now sub :: after →
      sub.validate = .ok () →
      ∃ b, c.registry.find? id = some b ∧ b.record ∈ c.registry.list ∧ b.record.id = id ∧
        b.record.createdAt = now ∧ b.record.submission = sub ∧
        ∀ time u d, c.uploadProgress time id u = .reached (.asks d) →
          d.id = id ∧ d.config = ⟨sub.image, sub.script, sub.env⟩ ∧
            d.inputs.map (·.destination) = [sub.path] := by
  constructor
  · obtain ⟨d, hd, halike, hanswers⟩ := alike_of_play h id
    have hget : d.get id = c.get id := by simp only [get, halike.get]
    refine ⟨d, hd, halike.find, hanswers, ?_, hget, by simp only [result, hget], halike.endpoint⟩
    intro x hx
    refine ⟨?_, answer_alike halike hx⟩
    -- being alike goes both ways, so a step is possible after one run exactly if after the other
    apply Bool.eq_iff_iff.mpr
    simp only [Option.isSome_iff_exists]
    constructor
    · rintro ⟨d', hstep⟩
      obtain ⟨c', hc', -⟩ := step?_alike halike.symm hx hstep
      exact ⟨c', hc'⟩
    · rintro ⟨c', hstep⟩
      obtain ⟨d', hd', -⟩ := step?_alike halike hx hstep
      exact ⟨d', hd'⟩
  · intro before now sub after hsteps hvalid
    obtain ⟨b, hb, horigin⟩ := registered_of_play h hsteps hvalid
    refine ⟨b, hb, Registry.mem_list hb, horigin.id, horigin.createdAt, horigin.submission, ?_⟩
    intro time u d hasks
    obtain ⟨b', hb', hu⟩ := asks_of_uploadProgress hasks
    obtain rfl : b = b' := Option.some.inj (hb.symm.trans hb')
    obtain ⟨urls, -, rfl⟩ := asksFor_of_play h hb u d hu
    have hsub : b.record.submission = sub := horigin.submission
    rw [hsub]
    exact ⟨horigin.id, rfl, rfl⟩

/-- Two builds whose uploads go on in turns; one of them has its result before the other's upload
has asked the executor. -/
def twoBuilds : List CoordinatorStep :=
  [.create ⟨7⟩ ⟨⟨2026, 1, 1⟩, 0, 0⟩ ⟨"image", "/in", "make", .empty⟩,
    .build ⟨7⟩ (.upload ⟨none, .ofBytes [1]⟩),
    .create ⟨8⟩ ⟨⟨2026, 1, 1⟩, 0, 0⟩ ⟨"other", "", "", .empty⟩,
    .build ⟨8⟩ (.upload ⟨none, .ofBytes [2]⟩), .build ⟨7⟩ (.uploadTurn 0 0),
    .build ⟨8⟩ (.uploadTurn 0 0), .build ⟨8⟩ (.recordResult ⟨"passed"⟩),
    .build ⟨8⟩ (.append [98]), .build ⟨7⟩ (.append [97]), .build ⟨7⟩ (.uploadTurn 5 0)]

/-- The first of two builds does not notice the second one, and asks for its own image. -/
theorem isolated_twoBuilds :
    ∃ c d, (Coordinator.mk ⟨"h:1", 1000, 60000⟩ .empty).play twoBuilds = some c ∧
      (Coordinator.mk ⟨"h:1", 1000, 60000⟩ .empty).play (twoBuilds.filter (·.isAbout ⟨7⟩)) =
        some d ∧
      c.registry.size = 2 ∧ d.registry.size = 1 ∧ d.registry.find? ⟨7⟩ = c.registry.find? ⟨7⟩ ∧
      ∃ asked, c.uploadProgress 5 ⟨7⟩ 0 = .reached (.asks asked) ∧
        asked.config.image = "image" := by
  have hsizes : ((Coordinator.mk ⟨"h:1", 1000, 60000⟩ .empty).play twoBuilds).map
        (·.registry.size) = some 2 ∧
      ((Coordinator.mk ⟨"h:1", 1000, 60000⟩ .empty).play (twoBuilds.filter (·.isAbout ⟨7⟩))).map
        (·.registry.size) = some 1 := by decide +kernel
  obtain ⟨c, hc, hsize⟩ := Option.map_eq_some_iff.mp hsizes.1
  obtain ⟨⟨d, hd, hsame, -⟩, hkept⟩ := isolated hc ⟨7⟩
  obtain ⟨b, -, -, -, -, -, hasked⟩ := hkept [] _ _ _ rfl (by rfl)
  -- the projected run knows only the one build
  have hfewer := hsizes.2
  rw [hd, Option.map_some, Option.some.injEq] at hfewer
  refine ⟨c, d, hc, hd, hsize, hfewer, hsame, ?_⟩
  -- an upload for it would ask the executor, with the image as submitted
  have hasks : ((Coordinator.mk ⟨"h:1", 1000, 60000⟩ .empty).play twoBuilds).map (fun c =>
      match c.uploadProgress 5 ⟨7⟩ 0 with
      | .reached (.asks _) => true
      | _ => false) = some true := by decide +kernel
  rw [hc, Option.map_some, Option.some.injEq] at hasks
  split at hasks
  · rename_i asked hevent
    refine ⟨asked, hevent, ?_⟩
    rw [(hasked 5 0 asked hevent).2.1]
  · cases hasks

end Coordinator

end BuildBroker
