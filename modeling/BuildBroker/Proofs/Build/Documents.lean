import BuildBroker.Build.Record
import BuildBroker.Build.Delegation
import BuildBroker.Proofs.Json.Written
import BuildBroker.Proofs.Outcomes

/-!
# Documents Are Read Back

A record's document holds the members of its submission beside its own, shows an unset status as the
empty text and leaves the session out. Reading it has to part the members again, put the defaults
where they were, and may not take anything from members that are not its own.

Main statements:
- `Json.fillMembers_cons`, `Json.decode_object`: an object is read member by member.
- `Env.ofPairs_toList`: an environment is made up again of its pairs.
- `Submission.decode_toValue`, `Delegation.decode_toValue` and their like: reading undoes writing.
- `BuildRecord.decode_toValue`: what is read back of a record.
- `BuildRecord.of_decode`: what no document can bring into a record.
- `documents_read_back`: all of it, from octets to values.
-/

namespace BuildBroker

/-! ## §1 Members That Fill Fields -/

namespace Json

section Members

variable {σ α β : Type} {shape : RecordShape σ α} {name : String} {positional : Bool}
  {get : σ → Option β} {set : σ → β → σ} {decode : Doc → Decoded β} {acc acc' : σ} {x : β}
  {v : Value} {ms : List (String × Value)}

/-- A member fills the open field of its name with what its value is read as. -/
theorem fillMembers_cons
    (hfind : shape.fields.find? (·.name = name) = some (.storing name positional get set decode))
    (hopen : get acc = none) (hread : decode v.toDoc = .ok x)
    (hrest : shape.fillMembers (set acc x) (.ofPairs ms) = .ok acc') :
    shape.fillMembers acc (.ofPairs ((name, v) :: ms)) = .ok acc' := by
  rw [Members.ofPairs, RecordShape.fillMembers, hfind]
  simp only [Field.storing, hopen, hread]
  exact hrest

theorem fillMembers_nil : shape.fillMembers acc (.ofPairs []) = .ok acc := rfl

/-- An object is read as what is made of the fields that its members fill. -/
theorem decode_object {a : α} (filled : σ)
    (hfill : shape.fillMembers shape.start (.ofPairs ms) = .ok filled)
    (hfinish : shape.finish filled = .ok a) : shape.decode (Value.object ms).toDoc = .ok a := by
  rw [Value.toDoc, RecordShape.decode, hfill]
  exact hfinish

end Members

end Json

open Json

/-! ## §2 Environments -/

namespace Env

theorem decodePairs_texts (ps : List (String × String)) :
    decodePairs decodeText (.ofPairs (ps.map fun p => (p.1, Value.string p.2))) = .ok ps := by
  induction ps with
  | nil => rfl
  | cons p ps ih =>
    rw [List.map_cons, Members.ofPairs, decodePairs, ih]
    rfl

/-- A name behind all others is put at the end. -/
theorem insertPair_of_last {k v : String} {l : List (String × String)} (h : ∀ p ∈ l, p.1 < k) :
    insertPair k v l = l ++ [(k, v)] := by
  induction l with
  | nil => rfl
  | cons p l ih =>
    obtain ⟨k', v'⟩ := p
    have hlt : k' < k := h (k', v') List.mem_cons_self
    have hne : k ≠ k' := by
      rintro rfl
      exact String.lt_irrefl k hlt
    rw [insertPair, if_neg (String.lt_asymm hlt), if_neg hne,
      ih fun p hp => h p (List.mem_cons_of_mem _ hp)]
    rfl

/-- Pairs that come in the order of their names are put one behind the other. -/
theorem toList_foldl_insert (e : Env) (ps : List (String × String))
    (hsorted : (e.toList ++ ps).Pairwise (·.1 < ·.1)) :
    (ps.foldl (fun e p => e.insert p.1 p.2) e).toList = e.toList ++ ps := by
  induction ps generalizing e with
  | nil => simp
  | cons p ps ih =>
    have hlast : ∀ q ∈ e.toList, q.1 < p.1 := by
      intro q hq
      exact (List.pairwise_append.mp hsorted).2.2 q hq p List.mem_cons_self
    have hinsert : (e.insert p.1 p.2).toList = e.toList ++ [p] := insertPair_of_last hlast
    have hsorted' : ((e.insert p.1 p.2).toList ++ ps).Pairwise (·.1 < ·.1) := by
      rw [hinsert, List.append_assoc]
      exact hsorted
    rw [List.foldl_cons, ih _ hsorted', hinsert, List.append_assoc]
    rfl

/-- An environment is made up again of its pairs. -/
theorem ofPairs_toList (e : Env) : ofPairs e.toList = e := by
  have hlist : (ofPairs e.toList).toList = e.toList := toList_foldl_insert .empty e.toList e.sorted
  generalize ofPairs e.toList = e' at hlist
  cases e
  cases e'
  cases hlist
  rfl

theorem decode_toValue (e : Env) : decode e.toValue.toDoc = .ok e := by
  rw [toValue, Value.toDoc, decode, decodeMap, decodePairs_texts]
  exact congrArg Except.ok e.ofPairs_toList

end Env

/-! ## §3 Submissions and Results -/

namespace Submission

theorem decode_toValue (s : Submission) : decode s.toValue.toDoc = .ok s := by
  apply decode_object ⟨some s.image, some s.path, some s.script, some s.env⟩ ?_ rfl
  exact fillMembers_cons rfl rfl rfl <| fillMembers_cons rfl rfl rfl <|
    fillMembers_cons rfl rfl rfl <| fillMembers_cons rfl rfl s.env.decode_toValue fillMembers_nil

end Submission

theorem BuildResult.decode_toValue (r : BuildResult) : decode r.toValue.toDoc = .ok r := by
  apply decode_object (some r.status) ?_ rfl
  exact fillMembers_cons rfl rfl rfl fillMembers_nil

/-! ## §4 Addresses -/

namespace Url

/-- An address whose written form is read as the address itself. -/
def ReadsBack (u : Url) : Prop :=
  Url.parse u.toText = .ok u

theorem decode_toValue {u : Url} (h : u.ReadsBack) : decode u.toValue.toDoc = .ok u := by
  have hparse : Url.parse u.toText = .ok u := h
  rw [toValue, Value.toDoc, decode, decodeTextAs]
  simp only [bind, Except.bind, hparse]

/-- An address that may be missing is read back. -/
theorem decodeNullable_toValue {u : Option Url} (h : ∀ x ∈ u, x.ReadsBack) :
    decodeNullable decode ((u.map toValue).getD .null).toDoc = .ok u := by
  cases u with
  | none => rfl
  | some u =>
    have hread := decode_toValue (h u rfl)
    rw [toValue, Value.toDoc] at hread
    rw [Option.map_some, Option.getD_some, toValue, Value.toDoc, decodeNullable, hread]
    · rfl
    · exact nofun

end Url

namespace SessionEndpoints

/-- Endpoints are read back, by whatever name and whether or not both have to be there. -/
theorem decode_shape_toValue (name : String) (positional : Bool) {e : SessionEndpoints}
    (habort : ∀ u ∈ e.abortUrl, u.ReadsBack) (hhijack : ∀ u ∈ e.hijackUrl, u.ReadsBack) :
    (shape name positional).decode e.toValue.toDoc = .ok e := by
  apply decode_object ⟨some e.abortUrl, some e.hijackUrl⟩ ?_ rfl
  exact fillMembers_cons rfl rfl (Url.decodeNullable_toValue habort) <|
    fillMembers_cons rfl rfl (Url.decodeNullable_toValue hhijack) fillMembers_nil

end SessionEndpoints

/-! ## §5 Delegations -/

theorem DelegationConfig.decode_toValue (c : DelegationConfig) :
    shape.decode c.toValue.toDoc = .ok c := by
  apply decode_object ⟨some c.image, some c.script, some c.env⟩ ?_ rfl
  exact fillMembers_cons rfl rfl rfl <| fillMembers_cons rfl rfl rfl <|
    fillMembers_cons rfl rfl c.env.decode_toValue fillMembers_nil

theorem DelegationInput.decode_toValue {i : DelegationInput} (h : i.source.ReadsBack) :
    shape.decode i.toValue.toDoc = .ok i := by
  have hsource : sourceShape.decode (Value.object [("uri", i.source.toValue)]).toDoc =
      .ok i.source := by
    apply decode_object (some i.source) ?_ rfl
    exact fillMembers_cons rfl rfl (Url.decode_toValue h) fillMembers_nil
  apply decode_object ⟨some i.kind, some i.source, some i.destination⟩ ?_ rfl
  exact fillMembers_cons rfl rfl rfl <| fillMembers_cons rfl rfl hsource <|
    fillMembers_cons rfl rfl rfl fillMembers_nil

/-- Items that are read one by one are read together. -/
theorem decodeItems_map {α : Type} {decode : Doc → Decoded α} {toValue : α → Value} {xs : List α}
    (h : ∀ x ∈ xs, decode (toValue x).toDoc = .ok x) (i : Nat) :
    decodeItems decode i (.ofValues (xs.map toValue)) = .ok xs := by
  induction xs generalizing i with
  | nil => rfl
  | cons x xs ih =>
    rw [List.map_cons, Items.ofValues, decodeItems, h x List.mem_cons_self,
      ih fun y hy => h y (List.mem_cons_of_mem _ hy)]
    rfl

theorem BuildId.decode_toValue (id : BuildId) : decode id.toValue.toDoc = .ok id := by
  rw [toValue, Value.toDoc, decode, decodeTextAs]
  simp only [bind, Except.bind, Uuid.ofText?_toText]

namespace Delegation

/-- A delegation whose addresses are all read back. -/
structure ReadsBack (d : Delegation) : Prop where
  logs : d.logsUrl.ReadsBack
  callback : d.callback.ReadsBack
  inputs : ∀ i ∈ d.inputs, i.source.ReadsBack

theorem decode_toValue {d : Delegation} (h : d.ReadsBack) : decode d.toValue.toDoc = .ok d := by
  have hinputs : decodeList DelegationInput.shape.decode
      (Value.array (d.inputs.map DelegationInput.toValue)).toDoc = .ok d.inputs :=
    decodeItems_map (fun i hi => DelegationInput.decode_toValue (h.inputs i hi)) 0
  apply decode_object ⟨some d.id, some d.logsUrl, some d.callback, some d.config, some d.inputs⟩ ?_
    rfl
  exact fillMembers_cons rfl rfl (BuildId.decode_toValue d.id) <|
    fillMembers_cons rfl rfl (Url.decode_toValue h.logs) <|
    fillMembers_cons rfl rfl (Url.decode_toValue h.callback) <|
    fillMembers_cons rfl rfl d.config.decode_toValue <|
    fillMembers_cons rfl rfl hinputs fillMembers_nil

end Delegation

/-! ## §6 Records -/

/-- A moment whose written form is read as the moment itself. -/
def Time.Instant.ReadsBack (i : Time.Instant) : Prop :=
  Time.Instant.ofText i.toText = .ok i

namespace Phase

theorem decode_toText (p : Phase) : decode (.string (some p.toText)) = .ok p := by
  rw [decode, decodeName, ofText?_toText]

end Phase

namespace BuildRecord

/-- What a document tells of a record: the session is not shown, and an empty status is none. -/
def onWire (r : BuildRecord) : BuildRecord :=
  { r with status := r.status.filter (· ≠ ""), session := none }

section Members

variable {name : String} {positional : Bool} {β : Type} {get : Draft → Option β}
  {set : Draft → β → Draft} {decode : Doc → Decoded β} {acc acc' : Draft} {x : β} {v : Value}
  {ms others : List (String × Value)}

/-- A member fills the record's own field of its name. -/
theorem fillOwn_own {filled : Draft × Members}
    (hfind : ownFields.find? (·.name = name) = some (.storing name positional get set decode))
    (hopen : get acc = none) (hread : decode v.toDoc = .ok x)
    (hrest : fillOwn (set acc x) (.ofPairs ms) = .ok filled) :
    fillOwn acc (.ofPairs ((name, v) :: ms)) = .ok filled := by
  rw [Members.ofPairs, fillOwn, hfind]
  simp only [Field.storing, hopen, hread]
  exact hrest

/-- A member that is no field of the record itself is set aside as it is. -/
theorem fillOwn_other (hfind : ownFields.find? (·.name = name) = none)
    (hkept : (v.toDoc.value? otherDepth).isSome = true)
    (hrest : fillOwn acc (.ofPairs ms) = .ok (acc', .ofPairs others)) :
    fillOwn acc (.ofPairs ((name, v) :: ms)) = .ok (acc', .ofPairs ((name, v) :: others)) := by
  have hsome : (v.toDoc.value? otherDepth).isNone = false := by
    rw [Option.isNone_eq_false_iff]
    exact hkept
  rw [Members.ofPairs, fillOwn, hfind]
  simp only [hsome, hrest]
  rfl

end Members

theorem decodeTime_toText {i : Time.Instant} (h : i.ReadsBack) :
    decodeTime (.string (some i.toText)) = .ok i := by
  have hparse : Time.Instant.ofText i.toText = .ok i := h
  rw [decodeTime, decodeTextAs]
  simp only [bind, Except.bind, hparse]

theorem decodeStatus_getD (status : Option String) :
    decodeStatus (.string (some (status.getD ""))) = .ok (status.filter (· ≠ "")) := by
  cases status <;> rfl

/-- The variables of an environment are set aside as they are. -/
theorem values?_texts (room : Nat) (ps : List (String × String)) :
    Members.values? room (.ofPairs (ps.map fun p => (p.1, Value.string p.2))) =
      some (ps.map fun p => (p.1, .string p.2)) := by
  induction ps with
  | nil => rfl
  | cons p ps ih =>
    rw [List.map_cons, Members.ofPairs, Members.values?, ih]
    rfl

theorem value?_env (e : Env) : (e.toValue.toDoc.value? otherDepth).isSome = true := by
  show ((Members.values? 125 (.ofPairs (e.toList.map fun p => (p.1, Value.string p.2)))).map
    Value.object).isSome = true
  rw [values?_texts]
  rfl

/-- A record is read back as far as its document tells of it. -/
theorem decode_toValue {r : BuildRecord} (h : r.createdAt.ReadsBack) :
    decode r.toValue.toDoc = .ok r.onWire := by
  have hfill : fillOwn ⟨none, none, none, none⟩ (.ofPairs
        ([("guid", r.id.toValue), ("created_at", .string r.createdAt.toText)]
          ++ r.submission.members
          ++ [("status", .string (r.status.getD "")), ("phase", .string r.phase.toText)])) =
      .ok (⟨some r.id, some r.createdAt, some (r.status.filter (· ≠ "")), some r.phase⟩,
        .ofPairs r.submission.members) :=
    fillOwn_own rfl rfl (BuildId.decode_toValue r.id) <|
      fillOwn_own rfl rfl (decodeTime_toText h) <|
      fillOwn_other rfl rfl <| fillOwn_other rfl rfl <| fillOwn_other rfl rfl <|
      fillOwn_other rfl (value?_env r.submission.env) <|
      fillOwn_own rfl rfl (decodeStatus_getD r.status) <|
      fillOwn_own rfl rfl (Phase.decode_toText r.phase) rfl
  have hsubmission : Submission.decode (.object (.ofPairs r.submission.members)) =
      .ok r.submission := Submission.decode_toValue r.submission
  rw [toValue, Value.toDoc, decode, hfill]
  simp only [bind, Except.bind, required, hsubmission]
  rfl

/-- No empty status is ever read. -/
theorem decodeStatus_ne_empty {d : Doc} {status : Option String}
    (h : decodeStatus d = .ok status) : status ≠ some "" := by
  obtain ⟨read, -, rfl⟩ := Outcome.of_map_eq_ok h
  cases read with
  | none => exact nofun
  | some s => simp [Option.filter]

/-- Whatever a field of the record's own reads, no empty status is kept. -/
theorem status_of_fill {f : Json.Field Draft} (hf : f ∈ ownFields) {acc acc' : Draft} {d : Doc}
    (hacc : acc.status ≠ some (some "")) (h : f.fill acc d = .ok acc') :
    acc'.status ≠ some (some "") := by
  simp only [ownFields, List.mem_cons, List.not_mem_nil, or_false] at hf
  -- only the field of the status changes what is kept of it
  rcases hf with rfl | rfl | rfl | rfl
  all_goals obtain ⟨x, hx, rfl⟩ := Outcome.of_map_eq_ok h
  · exact hacc
  · exact hacc
  · intro hempty
    exact decodeStatus_ne_empty hx (Option.some.inj hempty)
  · exact hacc

/-- Reading all members keeps no empty status either. -/
theorem status_of_fillOwn {acc : Draft} {ms : Members} {filled : Draft × Members}
    (hacc : acc.status ≠ some (some "")) (h : fillOwn acc ms = .ok filled) :
    filled.1.status ≠ some (some "") := by
  -- by the members in their order; where reading stops with an error nothing is claimed
  induction acc, ms using fillOwn.induct generalizing filled with
  | case1 acc =>
    cases h
    exact hacc
  | case2 => cases h
  | case3 => cases h
  | case4 acc k d rest hfind hnone ih =>
    rw [fillOwn, hfind] at h
    simp only [hnone] at h
    cases h
  -- a member of the submission is put aside
  | case5 acc k d rest hfind hsome ih =>
    rw [fillOwn, hfind] at h
    simp only [hsome] at h
    obtain ⟨⟨acc', others⟩, hrest, h⟩ := Outcome.of_bind_eq_ok h
    cases h
    show acc'.status ≠ some (some "")
    exact ih hacc hrest
  | case6 acc k d rest f hfind hfilled =>
    rw [fillOwn, hfind] at h
    simp only [hfilled] at h
    cases h
  -- a member of the record itself: its field does not let an empty status in
  | case7 acc k d rest f hfind hopen ih =>
    rw [fillOwn, hfind] at h
    simp only [hopen] at h
    obtain ⟨acc', hfill, hrest⟩ := Outcome.of_bind_eq_ok h
    exact ih acc' (status_of_fill (List.mem_of_find?_eq_some hfind) hacc (within_eq_ok.mp hfill))
      hrest

/-- A record that is read has no session and no empty status. -/
theorem of_decode {d : Doc} {r : BuildRecord} (h : decode d = .ok r) :
    r.session = none ∧ r.status ≠ some "" := by
  -- only an object is read as a record, and none of its fields is a session
  cases d with
  | object members =>
    obtain ⟨⟨own, others⟩, hown, h⟩ := Outcome.of_bind_eq_ok h
    obtain ⟨id, -, h⟩ := Outcome.of_bind_eq_ok h
    obtain ⟨createdAt, -, h⟩ := Outcome.of_bind_eq_ok h
    obtain ⟨submission, -, h⟩ := Outcome.of_bind_eq_ok h
    cases h
    have hstart : (⟨none, none, none, none⟩ : Draft).status ≠ some (some "") := nofun
    have hstatus : own.status ≠ some (some "") := status_of_fillOwn hstart hown
    refine ⟨rfl, ?_⟩
    intro hempty
    exact hstatus (Option.join_eq_some_iff.mp hempty)
  | _ =>
    obtain ⟨found, -, h⟩ := Outcome.of_bind_eq_ok h
    cases h

/-- A record that was read is all that its own document tells. -/
theorem onWire_of_read {r : BuildRecord} (hsession : r.session = none)
    (hstatus : r.status ≠ some "") : r.onWire = r := by
  obtain ⟨id, createdAt, submission, status, phase, session⟩ := r
  cases hsession
  cases status with
  | none => rfl
  | some s =>
    have hs : s ≠ "" := fun h => hstatus (congrArg some h)
    simp [onWire, Option.filter, hs]

end BuildRecord

/-! ## §7 From Octets to Values -/

theorem membersNumberless_texts (ps : List (String × String)) :
    Value.membersNumberless (ps.map fun p => (p.1, Value.string p.2)) = true := by
  induction ps with
  | nil => rfl
  | cons p ps ih => exact ih

theorem Url.numberless_toValue (u : Option Url) :
    ((u.map Url.toValue).getD .null).numberless = true := by
  cases u <;> rfl

/-- The names and values of an environment end every document of a submission. -/
theorem Submission.numberless_members (s : Submission) (ms : List (String × Value))
    (h : Value.membersNumberless ms = true) :
    Value.membersNumberless (s.members ++ ms) = true := by
  simp [members, Env.toValue, Value.membersNumberless, Value.numberless, membersNumberless_texts, h]

theorem Submission.numberless_toValue (s : Submission) : s.toValue.numberless = true := by
  have hmembers := s.numberless_members [] rfl
  rw [List.append_nil] at hmembers
  exact hmembers

theorem BuildRecord.numberless_toValue (r : BuildRecord) : r.toValue.numberless = true := by
  have hmembers := r.submission.numberless_members
    [("status", .string (r.status.getD "")), ("phase", .string r.phase.toText)] rfl
  simpa [toValue, Value.numberless, Value.membersNumberless, BuildId.toValue] using hmembers

theorem SessionEndpoints.numberless_toValue (e : SessionEndpoints) :
    e.toValue.numberless = true := by
  simp [toValue, Value.numberless, Value.membersNumberless, Url.numberless_toValue]

theorem Delegation.numberless_toValue (d : Delegation) : d.toValue.numberless = true := by
  have hinputs : Value.allNumberless (d.inputs.map DelegationInput.toValue) = true := by
    induction d.inputs with
    | nil => rfl
    | cons i is ih => exact ih
  have hconfig : d.config.toValue.numberless = true := by
    simp [DelegationConfig.toValue, Env.toValue, Value.membersNumberless, Value.numberless,
      membersNumberless_texts]
  simp [toValue, Value.numberless, Value.membersNumberless, hinputs, hconfig, BuildId.toValue,
    Url.toValue]

/-- Endpoints whose addresses are read back. -/
structure SessionEndpoints.ReadsBack (e : SessionEndpoints) : Prop where
  abort : ∀ u ∈ e.abortUrl, u.ReadsBack
  hijack : ∀ u ∈ e.hijackUrl, u.ReadsBack

/-- **Documents are read back.** Every record is read back from the octets of its document without
its session, and without a status that is empty. Submissions, results, delegations and session
endpoints, as they are kept and as an executor sends them, are read back as they are. Of addresses
and times it is asked that their own written forms are read back; ids always are. Whatever octets are
read as a record, with whatever other members, give one that has no session and no empty status, and
that is read back from its own document as it is. -/
theorem documents_read_back :
    (∀ r : BuildRecord, r.createdAt.ReadsBack →
      decodeBytes BuildRecord.decode r.toValue.toBytes = .ok r.onWire) ∧
    (∀ s : Submission, decodeBytes Submission.decode s.toValue.toBytes = .ok s) ∧
    (∀ r : BuildResult, decodeBytes BuildResult.decode r.toValue.toBytes = .ok r) ∧
    (∀ d : Delegation, d.ReadsBack → decodeBytes Delegation.decode d.toValue.toBytes = .ok d) ∧
    (∀ e : SessionEndpoints, e.ReadsBack →
      decodeBytes SessionEndpoints.decode e.toValue.toBytes = .ok e ∧
      decodeBytes SessionEndpoints.decodeAcceptance e.toValue.toBytes = .ok e) ∧
    ∀ (b : Bytes) (r : BuildRecord), decodeBytes BuildRecord.decode b = .ok r →
      r.session = none ∧ r.status ≠ some "" ∧
      (r.createdAt.ReadsBack → decodeBytes BuildRecord.decode r.toValue.toBytes = .ok r) := by
  -- what is written in octets is read as the same tree, so the trees are what matters
  have hrecord : ∀ r : BuildRecord, r.createdAt.ReadsBack →
      decodeBytes BuildRecord.decode r.toValue.toBytes = .ok r.onWire := by
    intro r htime
    rw [decodeBytes_toBytes _ r.numberless_toValue]
    exact BuildRecord.decode_toValue htime
  refine ⟨hrecord, ?_, ?_, ?_, ?_, ?_⟩
  · intro s
    rw [decodeBytes_toBytes _ s.numberless_toValue]
    exact s.decode_toValue
  · intro r
    rw [decodeBytes_toBytes _ rfl]
    exact r.decode_toValue
  · intro d hd
    rw [decodeBytes_toBytes _ d.numberless_toValue]
    exact Delegation.decode_toValue hd
  · intro e he
    rw [decodeBytes_toBytes _ e.numberless_toValue, decodeBytes_toBytes _ e.numberless_toValue]
    exact ⟨SessionEndpoints.decode_shape_toValue _ _ he.abort he.hijack,
      SessionEndpoints.decode_shape_toValue _ _ he.abort he.hijack⟩
  · intro b r h
    obtain ⟨read, hread, h⟩ := Outcome.of_bind_eq_ok h
    have hr : read = r := by
      split at h
      · exact Except.ok.inj h
      · cases h
    rw [hr] at hread
    -- what was read has nothing that its document would leave out
    obtain ⟨hsession, hstatus⟩ := BuildRecord.of_decode hread
    refine ⟨hsession, hstatus, fun htime => ?_⟩
    rw [hrecord r htime, BuildRecord.onWire_of_read hsession hstatus]

/-- A record with an open session, an empty status and a script that needs escapes. -/
def BuildRecord.withSession : BuildRecord where
  id := ⟨7⟩
  createdAt := .ofEpoch 1700000000 120000000
  submission := ⟨"ubuntu", "/tmp", "echo \"a\\b\"\n\u0001é😀", .ofPairs [("B", ""), ("A", "1")]⟩
  status := some ""
  phase := .running
  session := some ⟨some ⟨"http", some ⟨"", "", .domain "executor", none⟩, .segments ["abort"],
    none, none⟩, none⟩

/-- Its document is read back, and so are the endpoints of its session and a delegation to where one
of them points. -/
theorem documents_read_back_withSession :
    decodeBytes BuildRecord.decode BuildRecord.withSession.toValue.toBytes =
      .ok { BuildRecord.withSession with status := none, session := none } ∧
    ∃ e u d, BuildRecord.withSession.session = some e ∧ e.abortUrl = some u ∧
      decodeBytes SessionEndpoints.decode e.toValue.toBytes = .ok e ∧
      d = Delegation.ofSubmission ⟨7⟩ BuildRecord.withSession.submission ⟨u, u, u⟩ ∧
      decodeBytes Delegation.decode d.toValue.toBytes = .ok d := by
  have htime : BuildRecord.withSession.createdAt.ReadsBack := by rfl
  refine ⟨documents_read_back.1 _ htime, _, _, _, rfl, rfl, ?_, rfl, ?_⟩
  · refine (documents_read_back.2.2.2.2.1 _ ⟨?_, ?_⟩).1
    · rintro u ⟨⟩
      rfl
    · rintro u ⟨⟩
  · refine documents_read_back.2.2.2.1 _ ⟨rfl, rfl, ?_⟩
    intro i hi
    rw [List.mem_singleton.mp hi]
    rfl

end BuildBroker
