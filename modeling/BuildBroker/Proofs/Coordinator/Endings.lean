import BuildBroker.Proofs.Coordinator.Lifecycle

/-!
# How Uploads End

What an upload tells its caller in the end is decided by what it has been through: the phase in which
it found the build, whether the executor can call back, what the executor said, and how its bits were
read.

Main statements:
- `BitsEnd`, `UploadEnd`: the ways in which offered bits and uploads end, and what callers are told.
- `BitsEnd.unique`, `UploadEnd.unique`: there is one way for each.
- `Build.bitsEnd_of_result`: a delivery tells its upload how its bits ended.
- `Coordinator.upload_ends`: an upload that ends tells its caller just that.
-/

namespace BuildBroker

/-! ## §1 The Ways to End -/

/-- How bits end that were offered under a ticket at a time, by what has happened to the build. -/
inductive BitsEnd (s : CoordinatorSettings) (b : Build) (h : List BuildEvent) (t offered : Nat) :
    Except CoordinatorError Unit → Prop where
  /-- No fetch has taken them, and the upload has looked after the pickup deadline. -/
  | notFetched {now : Nat} : (∀ f, b.bits.fetchStage? f ≠ some (.took t)) → .looks t now ∈ h →
      offered + s.pickupTimeout ≤ now → BitsEnd s b h t offered (.error .bitsNotFetched)
  /-- The fetch that has taken them has met a failure, or has left them, before their end. -/
  | interrupted {f : Nat} : b.bits.fetchStage? f = some (.took t) →
      ending? (readings t h) = some .interrupted →
      BitsEnd s b h t offered (.error .bitsInterrupted)
  /-- One fetch has taken them, and has read them to their end. -/
  | drained {f : Nat} : (∀ g, b.bits.fetchStage? g = some (.took t) ↔ g = f) →
      ending? (readings t h) = some .completed → BitsEnd s b h t offered (.ok ())

/-- How an upload ends, by what has happened to the build. -/
inductive UploadEnd (s : CoordinatorSettings) (b : Build) (h : List BuildEvent) (u : Nat) :
    Except CoordinatorError Unit → Prop where
  | refused {q : Phase} : .finds u q ∈ h → q.isClaimable = false →
      UploadEnd s b h u (.error (.registry (.alreadyDelegated b.id)))
  /-- The addresses that the executor would have to call back cannot be made. -/
  | unprepared {q : Phase} {e : BuildError} : .finds u q ∈ h → q.isClaimable = true →
      CallbackUrls.forBuild s.peer b.id = .error e →
      UploadEnd s b h u (.error (.internal e.message))
  | turnedDown {q : Phase} {e : ExecutorError} : .finds u q ∈ h → Prepared s b.id q →
      .hears u (.error e) ∈ h → UploadEnd s b h u (.error (.executor e))
  | handedOver {q : Phase} {e : SessionEndpoints} {t offered : Nat}
      {x : Except CoordinatorError Unit} : .finds u q ∈ h → Prepared s b.id q →
      .hears u (.ok e) ∈ h → .offers u t offered ∈ h → BitsEnd s b h t offered x →
      UploadEnd s b h u x

/-! ## §2 There Is One End -/

section Unique

variable {s : CoordinatorSettings} {b : Build} {h : List BuildEvent} {u t offered : Nat}
variable {x y : Except CoordinatorError Unit}

/-- Offered bits end in one way. -/
theorem BitsEnd.unique (hx : BitsEnd s b h t offered x) (hy : BitsEnd s b h t offered y) : x = y := by
  -- two of the ways exclude each other by whether a fetch took the bits, or by how its reading
  -- ended
  cases hx with
  | notFetched hnever =>
    cases hy with
    | notFetched => rfl
    | interrupted htook => exact absurd htook (hnever _)
    | drained hone => exact absurd ((hone _).mpr rfl) (hnever _)
  | interrupted htook hend =>
    cases hy with
    | notFetched hnever => exact absurd htook (hnever _)
    | interrupted => rfl
    | drained _ hend' =>
      rw [hend] at hend'
      cases hend'
  | drained hone hend =>
    cases hy with
    | notFetched hnever => exact absurd ((hone _).mpr rfl) (hnever _)
    | interrupted _ hend' =>
      rw [hend] at hend'
      cases hend'
    | drained => rfl

/-- Of an upload a chronicle says once at most how it found the build, what it heard, and when it
offered its bits. -/
structure ToldOnce (h : List BuildEvent) (u : Nat) : Prop where
  finds : ∀ {p q}, .finds u p ∈ h → .finds u q ∈ h → p = q
  hears : ∀ {v w}, .hears u v ∈ h → .hears u w ∈ h → v = w
  offers : ∀ {t m t' n}, .offers u t m ∈ h → .offers u t' n ∈ h → t = t' ∧ m = n

/-- At every stage the chronicle of an upload holds each of these events once at most. -/
theorem UploadStage.Past.toldOnce {a : UploadStage} (hpast : a.Past s b u (story u h)) :
    ToldOnce h u := by
  generalize hstory : story u h = l at hpast
  have hmem : ∀ {e : BuildEvent}, e.upload? = some u → e ∈ h → e ∈ l := by
    intro e he hin
    rwa [← hstory, mem_story he]
  refine ⟨?_, ?_, ?_⟩
  · intro p q hp hq
    replace hp := hmem rfl hp
    replace hq := hmem rfl hq
    -- the story of a stage holds each of these events once at most, so going through it decides
    cases hpast <;> simp_all
  · intro v w hv hw
    replace hv := hmem rfl hv
    replace hw := hmem rfl hw
    cases hpast <;> simp_all
  · intro t m t' n ht ht'
    replace ht := hmem rfl ht
    replace ht' := hmem rfl ht'
    cases hpast <;> simp_all

/-- An upload ends in one way. -/
theorem UploadEnd.unique (honce : ToldOnce h u) (hx : UploadEnd s b h u x)
    (hy : UploadEnd s b h u y) : x = y := by
  -- an upload that was refused, or had no addresses, has never asked the executor
  have hrefused : ∀ {p q}, .finds u p ∈ h → p.isClaimable = false → .finds u q ∈ h →
      q.isClaimable = true → False := by
    intro p q hp hclosed hq hopen
    rw [honce.finds hp hq, hopen] at hclosed
    cases hclosed
  have hunprepared : ∀ {e q}, CallbackUrls.forBuild s.peer b.id = .error e →
      Prepared s b.id q → False := by
    rintro e q herror ⟨_, urls, hok⟩
    rw [herror] at hok
    cases hok
  cases hx with
  | refused hp hclosed =>
    cases hy with
    | refused => rfl
    | unprepared hq hopen => exact (hrefused hp hclosed hq hopen).elim
    | turnedDown hq hready | handedOver hq hready =>
      exact (hrefused hp hclosed hq hready.claimable).elim
  | unprepared hp hopen herror =>
    cases hy with
    | refused hq hclosed => exact (hrefused hq hclosed hp hopen).elim
    | unprepared _ _ herror' =>
      rw [herror] at herror'
      cases herror'
      rfl
    | turnedDown _ hready | handedOver _ hready => exact (hunprepared herror hready).elim
  | turnedDown hp hready hheard =>
    cases hy with
    | refused hq hclosed => exact (hrefused hq hclosed hp hready.claimable).elim
    | unprepared _ _ herror => exact (hunprepared herror hready).elim
    | turnedDown _ _ hheard' =>
      cases honce.hears hheard hheard'
      rfl
    | handedOver _ _ hheard' => cases honce.hears hheard hheard'
  | handedOver hp hready hheard hoffer hend =>
    cases hy with
    | refused hq hclosed => exact (hrefused hq hclosed hp hready.claimable).elim
    | unprepared _ _ herror => exact (hunprepared herror hready).elim
    | turnedDown _ _ hheard' => cases honce.hears hheard hheard'
    | handedOver _ _ _ hoffer' hend' =>
      obtain ⟨rfl, rfl⟩ := honce.offers hoffer hoffer'
      exact hend.unique hend'

end Unique

/-! ## §3 Where Uploads Have Ended -/

/-- What a delivery that is over tells its upload. -/
def Rendezvous.DeliverResult.told : Rendezvous.DeliverResult → Except CoordinatorError Unit
  | .drained .completed => .ok ()
  | .drained .interrupted => .error .bitsInterrupted
  | .notFetched => .error .bitsNotFetched

namespace Build

variable {s : CoordinatorSettings} {b : Build} {h : List BuildEvent} {u t offered : Nat}

/-- The bits of a delivery that ended as not fetched have not been taken, and its deadline is over. -/
private theorem bitsEnd_of_notFetched (ho : b.Offered s h) (hsound : b.bits.Sound)
    (hoffer : .offers u t offered ∈ h) (hres : b.bits.result? t = some .notFetched) :
    BitsEnd s b h t offered (.error .bitsNotFetched) := by
  have hs := Rendezvous.deliveryStage?_of_result? hres
  obtain ⟨_, d, _, hd, _, hdeadline⟩ := ho.offers u t offered hoffer
  obtain ⟨d', hd', hstage⟩ := Rendezvous.delivery_of_stage hs
  obtain rfl : d' = d := Option.some.inj (hd'.symm.trans hd)
  obtain ⟨now, hlooks, hover⟩ := ho.looked t d' ⟨_, hs, trivial⟩ hd
  refine .notFetched ?_ hlooks (hdeadline ▸ hover)
  intro f hf
  have htaken := (hsound.taken t).mpr ⟨f, hf⟩
  rw [Rendezvous.pickup?_of_delivery hd] at htaken
  have hconsistent := (hsound.consistent t d' hd).2
  simp only [hstage] at hconsistent
  exact hconsistent.2 (Option.some.inj htaken)

/-- A delivery that is over tells its upload how its bits ended. -/
theorem bitsEnd_of_result (hf : b.Followed h) (ho : b.Offered s h) (hsound : b.bits.Sound)
    (hoffer : .offers u t offered ∈ h) {res : Rendezvous.DeliverResult}
    (hres : b.bits.result? t = some res) : BitsEnd s b h t offered res.told := by
  cases res with
  | notFetched => exact bitsEnd_of_notFetched ho hsound hoffer hres
  | drained o =>
    obtain ⟨⟨f, htook⟩, hend⟩ := hf.drained hsound hres
    cases o with
    | completed =>
      -- a fetch that took the bits is the only one
      have hone : ∀ g, b.bits.fetchStage? g = some (.took t) ↔ g = f := by
        intro g
        constructor
        · exact fun hg => hsound.once g f t hg htook
        · rintro rfl
          exact htook
      exact .drained hone hend
    | interrupted => exact .interrupted htook hend

/-- An upload that has ended tells its caller what it has been through. -/
theorem uploadEnd_of_ended (hf : b.Followed h) (ho : b.Offered s h) (hsound : b.bits.Sound)
    {r : Except CoordinatorError BuildRecord} (hpast : (UploadStage.ended r).Past s b u (story u h)) :
    UploadEnd s b h u (r.map fun _ => ()) := by
  generalize hstory : story u h = l at hpast
  have hmem : ∀ {e : BuildEvent}, e ∈ l → e ∈ h := mem_of_story hstory
  cases hpast with
  | refused hclosed => exact .refused (hmem (.head _)) hclosed
  | unprepared hopen herror => exact .unprepared (hmem (.head _)) hopen herror
  | turnedDown hready => exact .turnedDown (hmem (.head _)) hready (hmem (.tail _ (.head _)))
  | finished hready hres _ | interrupted hready hres | notFetched hready hres =>
    have hheard := hmem (.tail _ (.head _))
    have hoffer := hmem (.tail _ (.tail _ (.head _)))
    exact .handedOver (hmem (.head _)) hready hheard hoffer
      (bitsEnd_of_result hf ho hsound hoffer hres)

/-- An upload that has ended tells its caller what it has been through, and nothing else. -/
theorem uploadEnd_iff (hf : b.Followed h) (ho : b.Offered s h) (hsound : b.bits.Sound)
    {r : Except CoordinatorError BuildRecord} (hpast : (UploadStage.ended r).Past s b u (story u h))
    (x : Except CoordinatorError Unit) : UploadEnd s b h u x ↔ x = r.map fun _ => () := by
  have hend := uploadEnd_of_ended hf ho hsound hpast
  constructor
  · intro hx
    exact hx.unique hpast.toldOnce hend
  · rintro rfl
    exact hend

/-- The one delivery of a build is the only one that fetches take anything of. -/
private theorem took_unique (hsingle : b.bits.Single) {f g t t' : Nat}
    (hf : b.bits.fetchStage? f = some (.took t)) (hg : b.bits.fetchStage? g = some (.took t')) :
    g = f ∧ t' = t := by
  have hfirst : ∀ {g t'}, b.bits.fetchStage? g = some (.took t') → t' = 0 := by
    intro g t' hg
    obtain ⟨d, hd, _⟩ := Option.map_eq_some_iff.mp ((hsingle.sound.taken t').mpr ⟨g, hg⟩)
    have hlt : t' < b.bits.deliveries.length := (List.getElem?_eq_some_iff.mp hd).1
    have hone := hsingle.atMostOne
    omega
  obtain rfl : t' = t := (hfirst hg).trans (hfirst hf).symm
  exact ⟨hsingle.sound.once g f t' hg hf, rfl⟩

end Build

namespace Coordinator

variable {settings : CoordinatorSettings} {steps : List CoordinatorStep} {c : Coordinator}
variable {id : BuildId} {b : Build}

/-- **Uploads from end to end.** When an upload has ended, in whatever run, its caller is told what the
upload has been through: that it found the build taken, that the executor could not be told where to
call back, what the executor answered, or how its bits ended; and there is no other way to end. If the
caller is told that all went well, the record shows that the build runs, or the result that was
recorded before; one fetch has taken the bits and was told the type that was uploaded, it has found
exactly the pieces that were uploaded, among which is no failure, and no other fetch has found
anything. -/
theorem upload_ends (h : (Coordinator.mk settings .empty).play steps = some c)
    (hb : c.registry.find? id = some b) {events : List BuildEvent}
    (hevents : (Coordinator.mk settings .empty).chronicle id steps = events)
    {u : Nat} {p : Payload} {r : Except CoordinatorError BuildRecord}
    (hu : b.uploads[u]? = some ⟨p, .ended r⟩) :
    (∀ x, UploadEnd settings b events u x ↔ x = r.map fun _ => ()) ∧
    ∀ record, r = .ok record →
      record.Shows b ∧
      ∃ t f reader, (∃ offered, .offers u t offered ∈ events) ∧
        (∀ g t', b.bits.fetchStage? g = some (.took t') ↔ g = f ∧ t' = t) ∧
        b.reader? t = some reader ∧ reader.contentType = p.contentType ∧
        piecesRead (readings t events) = p.body.pieces ∧
        (∀ reason, .failure reason ∉ p.body.items) ∧
        ∀ t', t' ≠ t → readings t' events = [] := by
  subst hevents
  have hsingle := (delegated_of_play h hb).single
  have hfollowed := followed_of_play h hb
  have hoffered := offered_of_play h hb
  have hpast := (recalled_of_play h hb).past u _ (Build.stage?_of_upload hu rfl)
  refine ⟨Build.uploadEnd_iff hfollowed hoffered hsingle.sound hpast, ?_⟩
  rintro record rfl
  generalize hstory : story u _ = l at hpast
  cases hpast with
  | @finished q e t now _ _ hres hshows =>
    have hoffer := mem_of_story hstory (.tail _ (.tail _ (.head _)))
    obtain ⟨⟨f, htook⟩, hend⟩ := hfollowed.drained hsingle.sound hres
    obtain ⟨reader, hreader, htype, hpieces, hfailure⟩ :=
      hoffered.read_whole hfollowed hoffer hu htook hend
    have hone : ∀ g t', b.bits.fetchStage? g = some (.took t') ↔ g = f ∧ t' = t := by
      intro g t'
      constructor
      · exact Build.took_unique hsingle htook
      · rintro ⟨rfl, rfl⟩
        exact htook
    refine ⟨hshows, t, f, reader, ⟨now, hoffer⟩, hone, hreader, htype, hpieces, hfailure, ?_⟩
    -- bits that no fetch has taken have no reader
    intro t' hne
    refine hfollowed.unread t' ?_
    by_contra hsome
    obtain ⟨g, hg⟩ := (hfollowed.taken t').mp (Option.isSome_iff_ne_none.mpr hsome)
    exact hne ((hone g t').mp hg).2

/-- The record that an upload has ended with, if all went well, and what it has uploaded. -/
private def finishedWell? (x : Upload) : Option (Payload × BuildRecord) :=
  match x.stage with
  | .ended (.ok r) => some (x.payload, r)
  | _ => none

/-- `readUpload`, and the turn in which the upload ends. -/
def finishedUpload : List CoordinatorStep :=
  readUpload ++ [.build ⟨7⟩ (.uploadTurn 4 0)]

/-- The upload ends well and in no other way, the build runs, and the fetch has been told the type of
the bits and has found their one piece. -/
theorem upload_ends_finishedUpload :
    ∃ c b record t reader, smallShop.play finishedUpload = some c ∧
      c.registry.find? ⟨7⟩ = some b ∧
      b.uploads[0]? = some ⟨⟨some "text/plain", .ofBytes [1]⟩, .ended (.ok record)⟩ ∧
      (∀ x, UploadEnd ⟨"h:1", 1000, 60000⟩ b (smallShop.chronicle ⟨7⟩ finishedUpload) 0 x ↔
        x = .ok ()) ∧
      record.phase = .running ∧ record.Shows b ∧ b.reader? t = some reader ∧
      reader.contentType = some "text/plain" ∧
      piecesRead (readings t (smallShop.chronicle ⟨7⟩ finishedUpload)) = [.chunk [1]] := by
  have hlast : ((((smallShop.play finishedUpload).bind (·.registry.find? ⟨7⟩)).bind
      (·.uploads[0]?)).bind finishedWell?).map (fun x => (x.1, x.2.phase)) =
        some (⟨some "text/plain", .ofBytes [1]⟩, .running) := by decide +kernel
  obtain ⟨⟨payload, record⟩, hwell', heq⟩ := Option.map_eq_some_iff.mp hlast
  obtain ⟨rfl, hrunning⟩ := Prod.mk.inj heq
  obtain ⟨⟨payload', stage⟩, hx', hwell⟩ := Option.bind_eq_some_iff.mp hwell'
  obtain ⟨b, hb', hx⟩ := Option.bind_eq_some_iff.mp hx'
  obtain ⟨c, hc, hb⟩ := Option.bind_eq_some_iff.mp hb'
  -- the upload has ended well, and with its own payload
  have hupload : b.uploads[0]? =
      some ⟨⟨some "text/plain", .ofBytes [1]⟩, .ended (.ok record)⟩ := by
    unfold finishedWell? at hwell
    split at hwell
    · rename_i hstage
      cases hwell
      cases hstage
      exact hx
    · cases hwell
  obtain ⟨hends, hwhole⟩ := upload_ends hc hb rfl hupload
  obtain ⟨hshows, t, _, reader, _, _, hreader, htype, hpieces, _⟩ := hwhole record rfl
  exact ⟨c, b, record, t, reader, hc, hb, hupload, hends, hrunning, hshows, hreader, htype, hpieces⟩

end Coordinator

end BuildBroker
