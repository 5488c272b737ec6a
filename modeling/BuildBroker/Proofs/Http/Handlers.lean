import BuildBroker.Http.Handler

/-!
# What Handlers Do

Each handler either answers at once or starts something that the answer waits for. What it may do is
said here once, with the conditions under which it does more than answer; who wants to know something
of all handlers has only these cases to look at.
-/

namespace BuildBroker.Http

variable (x : Context) (c : Coordinator) (r : Request) (raw : String)

theorem showBuild_cases : ∃ a, showBuild c raw = answer c a := by
  unfold showBuild
  split
  · exact ⟨_, rfl⟩
  · split
    · exact ⟨_, rfl⟩
    · exact ⟨_, rfl⟩

theorem showResult_cases : ∃ a, showResult c raw = answer c a := by
  unfold showResult
  split
  · exact ⟨_, rfl⟩
  · split
    · exact ⟨_, rfl⟩
    · exact ⟨_, rfl⟩

/-- A build is made of the body, which is waited for. -/
theorem createBuild_cases :
    createBuild x c r = (c, .stuck) ∨ ∃ c' a, createBuild x c r = answer c' a := by
  unfold createBuild
  split
  · exact .inl rfl
  · exact .inr ⟨c, _, rfl⟩
  · split
    · exact .inr ⟨_, _, rfl⟩
    · exact .inr ⟨c, _, rfl⟩

/-- A result is read from the body, which is waited for before the build is looked for. -/
theorem putResult_cases :
    putResult c raw r = (c, .stuck) ∨ ∃ c' a, putResult c raw r = answer c' a := by
  unfold putResult
  cases readJson BuildResult.decode r with
  | never => exact .inl rfl
  | refused m =>
    -- what is wrong with the body is said only if the build is there
    dsimp only
    split
    · exact .inr ⟨c, _, rfl⟩
    · split
      · exact .inr ⟨c, _, rfl⟩
      · exact .inr ⟨c, _, rfl⟩
  | value res =>
    dsimp only
    split
    · exact .inr ⟨c, _, rfl⟩
    · split
      · exact .inr ⟨c, _, rfl⟩
      · split
        · exact .inr ⟨_, _, rfl⟩
        · exact .inr ⟨c, _, rfl⟩

theorem uploadBits_cases :
    (∃ a, uploadBits c raw r = answer c a) ∨
      ∃ id c' u, parseId raw = .ok id ∧ c.startUpload id ⟨uploadType? r, r.body⟩ = .ok (c', u) ∧
        uploadBits c raw r = (c', .upload id u) := by
  unfold uploadBits
  split
  · exact .inl ⟨_, rfl⟩
  · rename_i id hid
    split
    · rename_i c' u hstart
      exact .inr ⟨id, c', u, hid, hstart, rfl⟩
    · exact .inl ⟨_, rfl⟩

theorem fetchBits_cases :
    (∃ a, fetchBits x c raw = answer c a) ∨
      ∃ id c' f, parseId raw = .ok id ∧ c.startFetch id x.now = .ok (c', f) ∧
        fetchBits x c raw = (c', .fetch id f) := by
  unfold fetchBits
  split
  · exact .inl ⟨_, rfl⟩
  · rename_i id hid
    split
    · rename_i c' f hstart
      exact .inr ⟨id, c', f, hid, hstart, rfl⟩
    · exact .inl ⟨_, rfl⟩

/-- An abort is passed on once its body has been collected. -/
theorem abortBuild_cases :
    abortBuild c raw r = (c, .stuck) ∨ (∃ a, abortBuild c raw r = answer c a) ∨
      ∃ id url body, parseId raw = .ok id ∧ collect r.body = .whole body ∧
        c.endpoint id .abort = .ok url ∧
        abortBuild c raw r = (c, .relay ⟨url, r.method, uploadType? r, body⟩) := by
  unfold abortBuild
  split
  · exact .inl rfl
  · exact .inr (.inl ⟨_, rfl⟩)
  · exact .inr (.inl ⟨_, rfl⟩)
  · rename_i body hbody
    split
    · exact .inr (.inl ⟨_, rfl⟩)
    · rename_i id hid
      split
      · exact .inr (.inl ⟨_, rfl⟩)
      · rename_i url hurl
        exact .inr (.inr ⟨id, url, body, hid, hbody, hurl, rfl⟩)

theorem hijackBuild_cases :
    (∃ a, hijackBuild c raw = answer c a) ∨
      ∃ id url, parseId raw = .ok id ∧ c.endpoint id .hijack = .ok url ∧
        hijackBuild c raw = (c, .tunnel url) := by
  unfold hijackBuild
  split
  · exact .inl ⟨_, rfl⟩
  · rename_i id hid
    split
    · exact .inl ⟨_, rfl⟩
    · rename_i url hurl
      exact .inr ⟨id, url, hid, hurl, rfl⟩

theorem openLog_cases (side : LogSide) :
    (∃ a, openLog c raw side = answer c a) ∨ ∃ id, openLog c raw side = (c, .socket id side) := by
  unfold openLog
  split
  · exact .inl ⟨_, rfl⟩
  · rename_i id hid
    split
    · exact .inl ⟨_, rfl⟩
    · exact .inr ⟨id, rfl⟩

end BuildBroker.Http
