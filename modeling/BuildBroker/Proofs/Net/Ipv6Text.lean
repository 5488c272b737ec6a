import BuildBroker.Proofs.Net.Addresses

/-!
# IPv6 Addresses Are Read Back

An IPv6 address is written as eight groups of hexadecimal digits, or with its first longest run of
zero groups left out. Either way the address is read back from what is written. In the brackets that
a URL puts around it, it is read as no address at all.

Main statements:
- `Text.readDigits?_toDigits`: a number is read back from its hexadecimal digits.
- `Ipv6.readGroups_written`: groups are read back from the front of a text.
- `Ipv6.isRun_longestRun`: the longest run of zeros is one.
- `Ipv6.ofChars?_renderGroups`: an address is read back from its groups.
- `Ip.ofChars?_renderGroups`, `Ip.ofChars?_bracketed`: an address without and with brackets.
-/

namespace BuildBroker

/-! ## §1 Hexadecimal Numbers -/

namespace Text

theorem digitChar_eq_hexDigit : ∀ d < 16, Nat.digitChar d = hexDigit d := by
  decide

/-- The digits of a number. -/
theorem toDigits_spec (n : Nat) :
    ∃ ds, Nat.toDigits 16 n = ds.map hexDigit ∧ (∀ d ∈ ds, d < 16) ∧ ofDigits 16 ds = n := by
  induction n using Nat.strong_induction_on with
  | _ n ih =>
    by_cases hsmall : n < 16
    · refine ⟨[n], ?_, ?_, ?_⟩
      · rw [Nat.toDigits_of_lt_base hsmall, digitChar_eq_hexDigit n hsmall]
        rfl
      · simpa using hsmall
      · simp [ofDigits]
    · -- the last digit is the remainder, and the quotient is smaller
      have hlarge : 16 ≤ n := Nat.le_of_not_lt hsmall
      have hlast : n % 16 < 16 := Nat.mod_lt n (by decide)
      obtain ⟨ds, htext, hdigits, hvalue⟩ := ih (n / 16) (by omega)
      refine ⟨ds ++ [n % 16], ?_, ?_, ?_⟩
      · rw [Nat.toDigits_of_base_le (by decide) hlarge, htext, digitChar_eq_hexDigit _ hlast]
        simp
      · intro d hd
        rcases List.mem_append.mp hd with hfront | hd
        · exact hdigits d hfront
        · rwa [List.mem_singleton.mp hd]
      · rw [ofDigits_concat, hvalue]
        omega

theorem toDigits_ne_nil (n : Nat) : Nat.toDigits 16 n ≠ [] := by
  by_cases hsmall : n < 16
  · simp [Nat.toDigits_of_lt_base hsmall]
  · simp [Nat.toDigits_of_base_le (by decide) (Nat.le_of_not_lt hsmall)]

/-- A number is read back from its hexadecimal digits. -/
theorem readDigits?_toDigits (n : Nat) : readDigits? 16 (Nat.toDigits 16 n) = some n := by
  obtain ⟨ds, htext, hdigits, hvalue⟩ := toDigits_spec n
  have hread : (Nat.toDigits 16 n).mapM digitValue? = some ds := by
    rw [htext, mapM_digitValue? hdigits]
  unfold readDigits?
  split
  · rename_i hnil
    exact absurd hnil (toDigits_ne_nil n)
  · rw [hread, Option.bind_eq_bind, Option.bind_some, if_pos (by simpa using hdigits), hvalue]

theorem isHexDigit_of_mem_toDigits {n : Nat} {c : Char} (hc : c ∈ Nat.toDigits 16 n) :
    isHexDigit c = true := by
  obtain ⟨ds, htext, hdigits, -⟩ := toDigits_spec n
  rw [htext] at hc
  obtain ⟨d, hd, rfl⟩ := List.mem_map.mp hc
  rw [isHexDigit, (hexDigit_spec d (hdigits d hd)).2.2]
  rfl

end Text

namespace Net

/-! ## §2 Groups -/

/-- There are full stops in whatever is read as an IPv4 address. -/
theorem Ipv4.read?_of_no_stop {cs : List Char} (h : '.' ∉ cs) : Ipv4.read? cs = none := by
  cases hread : Ipv4.read? cs with
  | none => rfl
  | some found =>
    obtain ⟨ds₁, n₁, ds₂, n₂, ds₃, n₃, ds₄, n₄, -, -, -, -, htext, -⟩ := Ipv4.read?_parts hread
    exact absurd (by simp [htext]) h

namespace Ipv6

/-- The groups as they are written, with a colon before each but the first of a text. -/
def groupChars (first : Bool) : List Nat → List Char
  | [] => []
  | g :: gs => (if first then [] else [':']) ++ Nat.toDigits 16 g ++ groupChars false gs

theorem toList_intercalate_renderGroup (gs : List Nat) :
    (":".intercalate (gs.map renderGroup)).toList = groupChars true gs := by
  -- with a group before them, the groups have a colon each
  have hmore : ∀ g gs, [':'].intercalate ((g :: gs).map fun g => Nat.toDigits 16 g) =
      groupChars true (g :: gs) := by
    intro g gs
    induction gs generalizing g with
    | nil => simp [groupChars]
    | cons next gs ih =>
      rw [List.map_cons, List.map_cons, List.intercalate_cons_cons, ← List.map_cons, ih next]
      simp [groupChars]
  have hchars : (gs.map renderGroup).map String.toList = gs.map fun g => Nat.toDigits 16 g := by
    simp [renderGroup]
  rw [String.toList_intercalate, hchars]
  cases gs with
  | nil => rfl
  | cons g gs => exact hmore g gs

/-- There is no full stop in a text of groups. -/
theorem no_stop_groupChars (first : Bool) (gs : List Nat) : '.' ∉ groupChars first gs := by
  induction gs generalizing first with
  | nil => exact List.not_mem_nil
  | cons g gs ih =>
    have hdigits : '.' ∉ Nat.toDigits 16 g := fun h =>
      absurd (Text.isHexDigit_of_mem_toDigits h) (by decide)
    cases first <;> simp [groupChars, hdigits, ih]

/-- A group is read back from the front of a text that goes on with something else. -/
theorem group?_written {g : Nat} (hg : g < 65536) {rest : List Char}
    (hrest : ∀ c ∈ rest.head?, Text.isHexDigit c = false) :
    group? (Nat.toDigits 16 g ++ rest) = some (g, rest) := by
  have hlength : (Nat.toDigits 16 g).length ≤ 4 :=
    (Nat.length_toDigits_le_iff (by decide) (by decide)).mpr hg
  have hstop : rest.takeWhile Text.isHexDigit = [] := by
    cases rest with
    | nil => rfl
    | cons c rest => simp [hrest c rfl]
  have htaken : ((Nat.toDigits 16 g ++ rest).takeWhile Text.isHexDigit).take 4 =
      Nat.toDigits 16 g := by
    rw [List.takeWhile_append_of_pos fun c hc => Text.isHexDigit_of_mem_toDigits hc, hstop,
      List.append_nil, List.take_of_length_le hlength]
  simp only [group?, htaken, Text.readDigits?_toDigits, Option.map_some, List.drop_left]

/-- A text that goes on with no group: it is at its end, or at the mark for the groups left out. -/
def IsPause (rest : List Char) : Prop :=
  rest = [] ∨ ∃ cs, rest = ':' :: ':' :: cs

theorem IsPause.no_group {rest : List Char} (h : IsPause rest) (first : Bool) :
    (afterColon? first rest).bind group? = none := by
  obtain rfl | ⟨cs, rfl⟩ := h
  · cases first <;> rfl
  · cases first <;> rfl

theorem IsPause.no_digit {rest : List Char} (h : IsPause rest) (gs : List Nat) :
    ∀ c ∈ (groupChars false gs ++ rest).head?, Text.isHexDigit c = false := by
  intro c hc
  cases gs with
  | nil =>
    obtain rfl | ⟨cs, rfl⟩ := h
    · cases hc
    · cases hc
      decide
  | cons g gs =>
    cases hc
    decide

/-- Without a full stop only groups are read. -/
theorem readGroups_of_no_stop {first : Bool} {room : Nat} {cs : List Char} (h : '.' ∉ cs) :
    readGroups first (room + 1) cs = ((afterColon? first cs).bind group?).elim ([], false, cs)
      fun x => (x.1 :: (readGroups false room x.2).1, (readGroups false room x.2).2) := by
  have hembedded : (afterColon? first cs).bind Ipv4.read? = none := by
    rw [Option.bind_eq_none_iff]
    intro rest hrest
    refine Ipv4.read?_of_no_stop fun hmem => h ?_
    rw [afterColon?_parts hrest]
    exact List.mem_append_right _ hmem
  rw [readGroups]
  simp only [Option.bind_eq_bind, hembedded, ite_self]
  cases (afterColon? first cs).bind group? with
  | none => rfl
  | some x => rfl

/-- Groups are read back from the front of a text, and no further. -/
theorem readGroups_written {gs : List Nat} (hgs : ∀ g ∈ gs, g < 65536) {rest : List Char}
    (hpause : IsPause rest) (hstop : '.' ∉ rest) (first : Bool) {room : Nat}
    (hroom : gs.length ≤ room) :
    readGroups first room (groupChars first gs ++ rest) = (gs, false, rest) := by
  induction gs generalizing first room with
  | nil =>
    cases room with
    | zero => rfl
    | succ room =>
      rw [groupChars, List.nil_append, readGroups_of_no_stop hstop, hpause.no_group first,
        Option.elim_none]
  | cons g gs ih =>
    obtain ⟨room, rfl⟩ : ∃ more, room = more + 1 := ⟨room - 1, by simp at hroom; omega⟩
    have hgroup : (afterColon? first (groupChars first (g :: gs) ++ rest)).bind group? =
        some (g, groupChars false gs ++ rest) := by
      have hread := group?_written (hgs g (by simp)) (hpause.no_digit gs)
      cases first <;> simpa [groupChars, afterColon?] using hread
    have hmore : readGroups false room (groupChars false gs ++ rest) = (gs, false, rest) :=
      ih (fun x hx => hgs x (by simp [hx])) false (by simpa using hroom)
    rw [readGroups_of_no_stop (by simp [no_stop_groupChars, hstop]), hgroup, Option.elim_some, hmore]

/-! ## §3 The Groups Left Out -/

/-- The groups of the run are zeros. -/
def IsRun (gs : List Nat) (run : Run) : Prop :=
  ∃ front back, gs = front ++ (List.replicate run.length 0 ++ back) ∧ front.length = run.start

theorem isRun_longestRun {seen gs : List Nat} {current best : Run}
    (hcurrent : current.length ≠ 0 →
      ∃ front, seen = front ++ List.replicate current.length 0 ∧ front.length = current.start)
    (hbest : IsRun (seen ++ gs) best) :
    IsRun (seen ++ gs) (longestRun seen.length current best gs) := by
  -- the current run ends what has been seen, and is lengthened by a zero
  induction gs generalizing seen current best with
  | nil => exact hbest
  | cons g gs ih =>
    have hsplit : seen ++ g :: gs = (seen ++ [g]) ++ gs := by simp
    have hcount : (seen ++ [g]).length = seen.length + 1 := by simp
    rw [longestRun, hsplit, ← hcount]
    rw [hsplit] at hbest
    split
    · rename_i hzero
      obtain ⟨front, hfront, hstart⟩ : ∃ front,
          seen = front ++ List.replicate current.length 0 ∧
            front.length = if current.length = 0 then seen.length else current.start := by
        by_cases hnone : current.length = 0
        · exact ⟨seen, by simp [hnone], by simp [hnone]⟩
        · rw [if_neg hnone]
          exact hcurrent hnone
      have hlonger : seen ++ [g] = front ++ List.replicate (current.length + 1) 0 := by
        rw [hzero, hfront, List.replicate_succ', List.append_assoc]
      refine ih (fun _ => ⟨front, hlonger, hstart⟩) ?_
      by_cases hbetter : best.length < current.length + 1
      · rw [if_pos hbetter]
        exact ⟨front, gs, by rw [hlonger, List.append_assoc], hstart⟩
      · rw [if_neg hbetter]
        exact hbest
    · exact ih (fun h => absurd rfl h) hbest

/-- The longest run of zeros is one. -/
theorem isRun_leftOut (gs : List Nat) : IsRun gs (longestRun 0 ⟨0, 0⟩ ⟨0, 0⟩ gs) := by
  have hnone : IsRun ([] ++ gs) ⟨0, 0⟩ := ⟨[], gs, rfl, rfl⟩
  exact isRun_longestRun (fun h => absurd rfl h) hnone

/-! ## §4 Addresses -/

/-- Eight groups are written in full, or around a mark for at least two zeros. -/
theorem toList_renderGroups (gs : List Nat) :
    (renderGroups gs).toList = groupChars true gs ∨
      ∃ front k back, gs = front ++ (List.replicate (k + 2) 0 ++ back) ∧
        (renderGroups gs).toList =
          groupChars true front ++ ':' :: ':' :: groupChars true back := by
  obtain ⟨front, back, hgs, hfront⟩ := isRun_leftOut gs
  unfold renderGroups
  dsimp only
  split
  · rename_i hlong
    obtain ⟨k, hk⟩ := Nat.exists_eq_add_of_le' hlong
    rw [hk] at hgs
    have htake : gs.take (longestRun 0 ⟨0, 0⟩ ⟨0, 0⟩ gs).start = front := by
      rw [← hfront, hgs, List.take_left]
    have hdrop : gs.drop ((longestRun 0 ⟨0, 0⟩ ⟨0, 0⟩ gs).start + (k + 2)) = back := by
      rw [← hfront, ← List.drop_drop, hgs, List.drop_left]
      simp
    refine .inr ⟨front, k, back, hgs, ?_⟩
    rw [hk, htake, hdrop, String.toList_append, String.toList_append,
      toList_intercalate_renderGroup, toList_intercalate_renderGroup]
    simp
  · exact .inl (toList_intercalate_renderGroup gs)

theorem ofGroups_groups (a : Ipv6) : ofGroups a.groups = a := by
  have hsize : a.bits.toNat < 65536 ^ 8 := a.bits.isLt
  rw [ofGroups, groups, Text.ofDigits_fixedDigits, Nat.mod_eq_of_lt hsize, BitVec.ofNat_toNat,
    BitVec.setWidth_eq]

theorem no_stop_renderGroups (gs : List Nat) : '.' ∉ (renderGroups gs).toList := by
  obtain htext | ⟨front, k, back, -, htext⟩ := toList_renderGroups gs
  · rw [htext]
    exact no_stop_groupChars true gs
  · simp [htext, no_stop_groupChars]

/-- An address is read back from its groups. -/
theorem ofChars?_renderGroups (a : Ipv6) : ofChars? (renderGroups a.groups).toList = some a := by
  have hlength : a.groups.length = 8 := Text.length_fixedDigits _ _ _
  have hsmall : ∀ g ∈ a.groups, g < 65536 := fun g hg =>
    Text.lt_of_mem_fixedDigits (by decide) hg
  -- reading has to come to the end of the text
  suffices hread : read? (renderGroups a.groups).toList = some (a, []) by
    simp only [ofChars?, hread]
  obtain htext | ⟨front, k, back, hgroups, htext⟩ := toList_renderGroups a.groups
  · have hall : readGroups true 8 (groupChars true a.groups) = (a.groups, false, []) := by
      have hread := readGroups_written hsmall (.inl rfl) List.not_mem_nil true hlength.le
      rwa [List.append_nil] at hread
    rw [htext, read?, hall]
    simp only [hlength, if_true, ofGroups_groups]
  · -- the mark stands for the zeros that the two sides leave out of eight
    rw [hgroups] at hlength hsmall
    have hcount : front.length + (k + 2) + back.length = 8 := by simpa [Nat.add_assoc] using hlength
    have hfront : ∀ g ∈ front, g < 65536 := fun g hg => hsmall g (by simp [hg])
    have hback : ∀ g ∈ back, g < 65536 := fun g hg => hsmall g (by simp [hg])
    have hhead : readGroups true 8 (groupChars true front ++ ':' :: ':' :: groupChars true back) =
        (front, false, ':' :: ':' :: groupChars true back) :=
      readGroups_written hfront (.inr ⟨_, rfl⟩) (by simp [no_stop_groupChars]) true (by omega)
    have htail : readGroups true (8 - (front.length + 1)) (groupChars true back) =
        (back, false, []) := by
      have hread : readGroups true (8 - (front.length + 1)) (groupChars true back ++ []) =
          (back, false, []) :=
        readGroups_written hback (.inl rfl) List.not_mem_nil true (by omega)
      rwa [List.append_nil] at hread
    have hzeros : 8 - front.length - back.length = k + 2 := by omega
    rw [htext, read?, hhead]
    simp only [htail, hzeros, if_neg (show front.length ≠ 8 by omega)]
    rw [List.append_assoc, ← hgroups, ofGroups_groups]
    rfl

end Ipv6

namespace Ip

/-- An IPv6 address is read back from its groups. -/
theorem ofChars?_renderGroups (a : Ipv6) :
    ofChars? (Ipv6.renderGroups a.groups).toList = some (.v6 a) := by
  have hnone : Ipv4.ofChars? (Ipv6.renderGroups a.groups).toList = none := by
    rw [Ipv4.ofChars?, Ipv4.read?_of_no_stop (Ipv6.no_stop_renderGroups a.groups)]
  simp only [ofChars?, hnone, Ipv6.ofChars?_renderGroups, Option.map_some]

/-- What stands in brackets is read as no address. -/
theorem ofChars?_bracketed (text : String) : ofChars? ("[" ++ text ++ "]").toList = none := by
  have hbracket : '[' ∈ ("[" ++ text ++ "]").toList := by simp
  cases hread : ofChars? ("[" ++ text ++ "]").toList with
  | none => rfl
  | some ip =>
    obtain ⟨a, ha, -⟩ | ⟨a, ha, -⟩ := ofChars?_cases hread
    · exact absurd (Ipv4.chars_of_ofChars? ha _ hbracket) (by decide)
    · exact absurd ((Ipv6.parts_of_ofChars? ha).1 _ hbracket) (by decide)

end Ip

end Net

end BuildBroker
