import BuildBroker.Json.Decode
import BuildBroker.Proofs.Text.Octets

/-!
# Written Documents Are Read Back

A document that is written is read as the tree of its value, wherever its text stands. Numbers are
left out: no document whose reading matters here holds one.

Main statements:
- `readPart_escapeChar`, `readString_renderString`: a string is read back from its escaped text.
- `Value.readBack`: a value is read back from its text, and the rest is left.
- `decodeBytes_toBytes`: decoding the octets of a value is decoding its tree.
-/

namespace BuildBroker.Json

/-! ## §1 The Tree of a Value -/

mutual

/-- The tree that a value's text is read as. -/
def Value.toDoc : Value → Doc
  | .null => .null
  | .bool b => .bool b
  | .number n => .number n
  | .string s => .string (some s)
  | .array vs => .array (Items.ofValues vs)
  | .object ms => .object (Members.ofPairs ms)

/-- The items of an array of values. -/
def Items.ofValues : List Value → Items
  | [] => .done
  | v :: vs => .item v.toDoc (Items.ofValues vs)

/-- The members of an object of values. -/
def Members.ofPairs : List (String × Value) → Members
  | [] => .done
  | (k, v) :: ms => .member (some k) v.toDoc (Members.ofPairs ms)

end

mutual

/-- Whether a value holds no number. -/
def Value.numberless : Value → Bool
  | .number _ => false
  | .array vs => Value.allNumberless vs
  | .object ms => Value.membersNumberless ms
  | _ => true

/-- Whether no item holds a number. -/
def Value.allNumberless : List Value → Bool
  | [] => true
  | v :: vs => v.numberless && Value.allNumberless vs

/-- Whether no member holds a number. -/
def Value.membersNumberless : List (String × Value) → Bool
  | [] => true
  | (_, v) :: ms => v.numberless && Value.membersNumberless ms

end

/-- A value's text is complete. -/
theorem Value.toDoc_ne_broken (v : Value) : v.toDoc ≠ .broken := by
  cases v <;> exact nofun

/-! ## §2 Strings -/

/-- The four digits of the escape of a control character. -/
theorem readDigits?_control :
    ∀ n < 0x20, Text.readDigits? 16 (['0', '0'] ++ Text.fixedHex 2 n) = some n := by
  decide +kernel

/-- The escape of a control character is read back. -/
theorem readPart_control {c : Char} (h : c.toNat < 0x20) (rest : Symbols) :
    readPart ((['\\', 'u', '0', '0'] ++ Text.fixedHex 2 c.toNat).map some ++ rest) =
      (.char c, rest) := by
  have hread := readDigits?_control c.toNat h
  have htwo : Text.fixedHex 2 c.toNat =
      [Text.hexDigit (c.toNat / 16 % 16), Text.hexDigit (c.toNat % 16)] := rfl
  rw [htwo] at hread ⊢
  have hquad : hexQuad? (some '0' :: some '0' :: some (Text.hexDigit (c.toNat / 16 % 16)) ::
      some (Text.hexDigit (c.toNat % 16)) :: rest) = some (c.toNat, rest) := by
    rw [hexQuad?]
    exact congrArg (Option.bind · fun n => some (n, rest)) hread
  have htrailing : isTrailingHalf c.toNat = false := by simp [isTrailingHalf]; omega
  have hleading : isLeadingHalf c.toNat = false := by simp [isLeadingHalf]; omega
  have hback : Char.ofNat c.toNat = c := Char.ofNat_toNat c
  simp only [List.cons_append, List.nil_append, List.map_cons, List.map_nil, readPart, hquad,
    htrailing, hleading, hback]
  rfl

/-- A character is read back from its escape. -/
theorem readPart_escapeChar (c : Char) (rest : Symbols) :
    readPart ((Value.escapeChar c).map some ++ rest) = (.char c, rest) := by
  unfold Value.escapeChar
  split
  · subst c; rfl
  split
  · subst c; rfl
  split
  · subst c; rfl
  split
  · subst c; rfl
  split
  · subst c; rfl
  split
  · subst c; rfl
  split
  · subst c; rfl
  split
  · rename_i hcontrol
    exact readPart_control hcontrol rest
  · rename_i hquote hslash _ _ _ _ _ hplain
    simp [readPart, hquote, hslash, hplain]

/-- The escape of a character is never empty. -/
theorem escapeChar_ne_nil (c : Char) : 0 < (Value.escapeChar c).length := by
  unfold Value.escapeChar
  repeat' split
  all_goals simp

/-- A string is no longer than its escaped text. -/
theorem length_le_escaped (cs : List Char) :
    cs.length ≤ (cs.flatMap Value.escapeChar).length := by
  induction cs with
  | nil => simp
  | cons c cs ih =>
    have hc := escapeChar_ne_nil c
    simp only [List.flatMap_cons, List.length_append, List.length_cons]
    omega

/-- Escaped characters are read one by one, up to the closing quote. -/
theorem readString_escaped {fuel : Nat} (read cs : List Char) (rest : Symbols)
    (hfuel : cs.length < fuel) :
    readString fuel (some read) ((cs.flatMap Value.escapeChar).map some ++ some '\x22' :: rest) =
      some (some (String.ofList (read.reverse ++ cs)), rest) := by
  induction cs generalizing fuel read with
  | nil =>
    obtain ⟨fuel, rfl⟩ : ∃ n, fuel = n + 1 := ⟨fuel - 1, by simp at hfuel; omega⟩
    simp [readString, readPart]
  | cons c cs ih =>
    obtain ⟨fuel, rfl⟩ : ∃ n, fuel = n + 1 := ⟨fuel - 1, by simp at hfuel; omega⟩
    have hrest := @ih fuel (c :: read) (by simpa using hfuel)
    rw [List.flatMap_cons, List.map_append, List.append_assoc, readString, readPart_escapeChar]
    simpa using hrest

/-- A string is read back from what follows its opening quote. -/
theorem readString_renderString (s : String) (rest : Symbols) :
    let text := (s.toList.flatMap Value.escapeChar ++ ['\x22']).map some ++ rest
    readString (text.length + 1) (some []) text = some (some s, rest) := by
  intro text
  have htext : text = (s.toList.flatMap Value.escapeChar).map some ++ some '\x22' :: rest := by
    simp [text]
  have hlength := length_le_escaped s.toList
  have hfuel : s.toList.length < text.length + 1 := by
    rw [htext, List.length_append, List.length_map]
    omega
  rw [htext] at hfuel ⊢
  rw [readString_escaped [] s.toList rest hfuel]
  simp

/-! ## §3 Values -/

/-- What a value's text can begin with. -/
def openings : List Char := ['n', 't', 'f', '\x22', '[', '\x7b']

/-- A value's text begins neither with a blank nor with the end of an array. -/
theorem opening_spec : ∀ c ∈ openings, isBlank c = false ∧ c ≠ ']' :=
  Text.forall_of_all (by decide)

theorem chars_opening {v : Value} (h : v.numberless = true) :
    ∃ c ∈ openings, ∃ cs, v.chars = c :: cs := by
  cases v with
  | null => exact ⟨'n', by decide, _, rfl⟩
  | bool b => cases b with
    | true => exact ⟨'t', by decide, _, rfl⟩
    | false => exact ⟨'f', by decide, _, rfl⟩
  | number n => cases h
  | string s => exact ⟨'\x22', by decide, _, rfl⟩
  | array vs => cases vs with
    | nil => exact ⟨'[', by decide, _, rfl⟩
    | cons v vs => exact ⟨'[', by decide, _, by rw [Value.chars]; rfl⟩
  | object ms => cases ms with
    | nil => exact ⟨'\x7b', by decide, _, rfl⟩
    | cons m ms => exact ⟨'\x7b', by decide, _, by rw [Value.chars]; rfl⟩

/-- No blank is skipped where there is none. -/
theorem skipBlanks_of_head {c : Char} (h : isBlank c = false) (rest : Symbols) :
    skipBlanks (some c :: rest) = some c :: rest := by
  simp [skipBlanks, h]

/-- Whether a value is read back from its text, whatever follows: as much fuel as the text is long
is enough. -/
def Value.ReadBack (v : Value) : Prop :=
  ∀ (fuel : Nat) (rest : Symbols), v.chars.length ≤ fuel →
    readValue fuel (v.chars.map some ++ rest) = (v.toDoc, rest)

/-- An item that is read is followed by the items after a comma, or by the end. -/
theorem readItems_step {fuel : Nat} {s rest : Symbols} {d : Doc}
    (hread : readValue fuel s = (d, rest)) (hd : d ≠ .broken) :
    readItems (fuel + 1) s =
      match skipBlanks rest with
      | some ',' :: rest => (.item d (readItems fuel rest).1, (readItems fuel rest).2)
      | some ']' :: rest => (.item d .done, rest)
      | _ => (.item d .cut, []) := by
  rw [readItems, hread]
  cases d <;> first | exact absurd rfl hd | rfl

/-- Items that are read back one by one are read back together. -/
theorem readItems_of_readBack {v : Value} {vs : List Value} (h : ∀ w ∈ v :: vs, w.ReadBack)
    {fuel : Nat} (rest : Symbols) (hfuel : (v.chars ++ Value.itemChars vs).length ≤ fuel) :
    readItems fuel ((v.chars ++ Value.itemChars vs).map some ++ rest) =
      (Items.ofValues (v :: vs), rest) := by
  induction vs generalizing v fuel with
  -- the last item is followed by the bracket that closes the list
  | nil =>
    simp only [Value.itemChars, List.length_append, List.length_singleton] at hfuel
    obtain ⟨fuel, rfl⟩ : ∃ n, fuel = n + 1 := ⟨fuel - 1, by omega⟩
    have hfirst := h v (by simp) fuel (some ']' :: rest) (by omega)
    rw [Value.itemChars, List.map_append, List.append_assoc, List.map_singleton,
      List.singleton_append, readItems_step hfirst v.toDoc_ne_broken]
    rfl
  -- an item is followed by a comma, and behind it the others are read back with less fuel
  | cons w vs ih =>
    rw [Value.itemChars] at hfuel ⊢
    simp only [List.length_append, List.length_cons] at hfuel
    obtain ⟨fuel, rfl⟩ : ∃ n, fuel = n + 1 := ⟨fuel - 1, by omega⟩
    have hrest := @ih w (fun x hx => h x (List.mem_cons_of_mem v hx)) fuel
      (by simp only [List.length_append]; omega)
    have hfirst := h v (by simp) fuel
      (some ',' :: ((w.chars ++ Value.itemChars vs).map some ++ rest)) (by omega)
    rw [List.map_append, List.append_assoc]
    rw [List.cons_append, List.map_cons, List.cons_append]
    rw [readItems_step hfirst v.toDoc_ne_broken]
    rw [skipBlanks_of_head (by decide)]
    simp only [hrest]
    rfl

/-- A member that is read is followed by the members after a comma, or by the end. -/
theorem readMembers_step {fuel : Nat} {k : String} {v : Value} {after rest : Symbols}
    (hread : readValue fuel (v.chars.map some ++ after) = (v.toDoc, after))
    (hrest : rest = (Value.renderString k ++ ':' :: v.chars).map some ++ after) :
    readMembers (fuel + 1) rest =
      match skipBlanks after with
      | some ',' :: rest => (.member (some k) v.toDoc (readMembers fuel rest).1,
          (readMembers fuel rest).2)
      | some '\x7d' :: rest => (.member (some k) v.toDoc .done, rest)
      | _ => (.member (some k) v.toDoc .cut, []) := by
  have hkey := readString_renderString k (some ':' :: (v.chars.map some ++ after))
  have hopen : rest = some '\x22' :: ((k.toList.flatMap Value.escapeChar ++ ['\x22']).map some ++
      (some ':' :: (v.chars.map some ++ after))) := by
    rw [hrest, Value.renderString]
    simp only [List.map_append, List.map_cons, List.cons_append, List.append_assoc]
  -- the name is read up to its closing mark, then the colon, then the value
  rw [hopen, readMembers, skipBlanks_of_head (by decide)]
  simp only [hkey, skipBlanks_of_head (c := ':') (by decide), hread]
  have hd := v.toDoc_ne_broken
  generalize v.toDoc = d at hd ⊢
  cases d <;> first | exact absurd rfl hd | rfl

/-- Members that are read back one by one are read back together. -/
theorem readMembers_of_readBack {k : String} {v : Value} {ms : List (String × Value)}
    (h : ∀ m ∈ (k, v) :: ms, m.2.ReadBack) {fuel : Nat} (rest : Symbols)
    (hfuel : (Value.renderString k ++ ':' :: v.chars ++ Value.memberChars ms).length ≤ fuel) :
    readMembers fuel ((Value.renderString k ++ ':' :: v.chars ++ Value.memberChars ms).map some ++
      rest) = (Members.ofPairs ((k, v) :: ms), rest) := by
  induction ms generalizing k v fuel with
  -- as for items: a member is followed by the brace, or by a comma and the other members
  | nil =>
    simp only [Value.memberChars, List.length_append, List.length_cons] at hfuel
    obtain ⟨fuel, rfl⟩ : ∃ n, fuel = n + 1 := ⟨fuel - 1, by omega⟩
    have hfirst := h (k, v) (by simp) fuel (some '\x7d' :: rest) (by simp only; omega)
    rw [Value.memberChars, List.map_append, List.append_assoc, List.map_singleton,
      List.singleton_append, readMembers_step hfirst rfl]
    rfl
  | cons m ms ih =>
    obtain ⟨k', w⟩ := m
    rw [Value.memberChars] at hfuel ⊢
    simp only [List.length_append, List.length_cons] at hfuel
    obtain ⟨fuel, rfl⟩ : ∃ n, fuel = n + 1 := ⟨fuel - 1, by omega⟩
    have hrest := @ih k' w (fun x hx => h x (List.mem_cons_of_mem _ hx)) fuel
      (by simp only [List.length_append, List.length_cons]; omega)
    have hfirst := h (k, v) (by simp) fuel (some ',' :: ((Value.renderString k' ++ ':' ::
      w.chars ++ Value.memberChars ms).map some ++ rest)) (by simp only; omega)
    rw [List.map_append, List.append_assoc]
    simp only [List.cons_append, List.map_cons] at hfirst ⊢
    rw [readMembers_step hfirst rfl]
    rw [skipBlanks_of_head (by decide)]
    simp only [hrest]
    rfl

theorem numberless_of_mem {vs : List Value} (h : Value.allNumberless vs = true) :
    ∀ v ∈ vs, v.numberless = true := by
  induction vs with
  | nil => exact nofun
  | cons v vs ih =>
    rw [Value.allNumberless, Bool.and_eq_true] at h
    intro w hw
    rcases List.mem_cons.mp hw with rfl | hw
    · exact h.1
    · exact ih h.2 w hw

theorem numberless_of_mem_members {ms : List (String × Value)}
    (h : Value.membersNumberless ms = true) : ∀ m ∈ ms, m.2.numberless = true := by
  induction ms with
  | nil => exact nofun
  | cons m ms ih =>
    obtain ⟨k, v⟩ := m
    rw [Value.membersNumberless, Bool.and_eq_true] at h
    intro w hw
    rcases List.mem_cons.mp hw with rfl | hw
    · exact h.1
    · exact ih h.2 w hw

/-- A text that opens neither an array nor an object is read as one leaf. -/
theorem readValue_of_leaf {fuel : Nat} {c : Char} {s : Symbols} (hblank : isBlank c = false)
    (harray : c ≠ '[') (hobject : c ≠ '\x7b') :
    readValue (fuel + 1) (some c :: s) = readLeaf (some c :: s) := by
  rw [readValue, skipBlanks_of_head hblank]
  split
  · rename_i heq
    exact absurd (Option.some.inj (List.cons.inj heq).1) harray
  · rename_i heq
    exact absurd (Option.some.inj (List.cons.inj heq).1) hobject
  · rfl

/-- An array with something in it is read item by item. -/
theorem readValue_of_items {fuel : Nat} {c : Char} {s : Symbols} (hblank : isBlank c = false)
    (hopen : c ≠ ']') :
    readValue (fuel + 1) (some '[' :: some c :: s) =
      (.array (readItems fuel (some c :: s)).1, (readItems fuel (some c :: s)).2) := by
  rw [readValue, skipBlanks_of_head (by decide)]
  simp only [skipBlanks_of_head hblank]
  split
  · rename_i heq
    exact absurd (Option.some.inj (List.cons.inj heq).1) hopen
  · rfl

/-- An object with something in it is read member by member. -/
theorem readValue_of_members {fuel : Nat} {s : Symbols} :
    readValue (fuel + 1) (some '\x7b' :: some '\x22' :: s) =
      (.object (readMembers fuel (some '\x22' :: s)).1,
        (readMembers fuel (some '\x22' :: s)).2) := by
  rw [readValue, skipBlanks_of_head (by decide)]
  simp only [skipBlanks_of_head (c := '\x22') (by decide)]
  rfl

/-- A value without parts is read back if it is read as one leaf. -/
theorem readBack_of_leaf {v : Value} {c : Char} {cs : List Char} (hchars : v.chars = c :: cs)
    (hblank : isBlank c = false) (harray : c ≠ '[') (hobject : c ≠ '\x7b')
    (hleaf : ∀ rest : Symbols, readLeaf (v.chars.map some ++ rest) = (v.toDoc, rest)) :
    v.ReadBack := by
  intro fuel rest hfuel
  obtain ⟨fuel, rfl⟩ : ∃ n, fuel = n + 1 := ⟨fuel - 1, by simp [hchars] at hfuel; omega⟩
  have hread := hleaf rest
  rw [hchars, List.map_cons, List.cons_append] at hread ⊢
  rw [readValue_of_leaf hblank harray hobject, hread]

theorem readBack_string (s : String) : (Value.string s).ReadBack := by
  apply readBack_of_leaf (c := '\x22') rfl (by decide) (by decide) (by decide)
  intro rest
  have hread := readString_renderString s rest
  rw [Value.chars, Value.renderString, List.cons_append, List.map_cons, List.cons_append, readLeaf]
  simp only [hread]
  rfl

/-- An array is read back if its items are. -/
theorem readBack_array {v : Value} {vs : List Value} (hv : v.numberless = true)
    (h : ∀ w ∈ v :: vs, w.ReadBack) : (Value.array (v :: vs)).ReadBack := by
  intro fuel rest hfuel
  rw [Value.chars, List.cons_append, List.length_cons] at hfuel
  obtain ⟨fuel, rfl⟩ : ∃ n, fuel = n + 1 := ⟨fuel - 1, by omega⟩
  obtain ⟨c, hc, cs, hchars⟩ := chars_opening hv
  have hitems := readItems_of_readBack h rest (Nat.le_of_succ_le_succ hfuel)
  rw [hchars, List.cons_append, List.map_cons, List.cons_append] at hitems
  rw [Value.chars, hchars, List.cons_append, List.cons_append, List.map_cons, List.map_cons,
    List.cons_append, List.cons_append,
    readValue_of_items (opening_spec c hc).1 (opening_spec c hc).2, hitems]
  rfl

/-- An object is read back if its members are. -/
theorem readBack_object {k : String} {v : Value} {ms : List (String × Value)}
    (h : ∀ m ∈ (k, v) :: ms, m.2.ReadBack) : (Value.object ((k, v) :: ms)).ReadBack := by
  intro fuel rest hfuel
  rw [Value.chars, List.cons_append, List.cons_append, List.length_cons] at hfuel
  obtain ⟨fuel, rfl⟩ : ∃ n, fuel = n + 1 := ⟨fuel - 1, by omega⟩
  have hmembers := readMembers_of_readBack h rest (Nat.le_of_succ_le_succ hfuel)
  rw [Value.renderString] at hmembers
  simp only [List.cons_append, List.map_cons] at hmembers
  rw [Value.chars, Value.renderString]
  simp only [List.cons_append, List.map_cons]
  rw [readValue_of_members, hmembers]
  rfl

/-- A value is read back from its text, and what follows is left. -/
theorem Value.readBack (v : Value) (h : v.numberless = true) : v.ReadBack := by
  -- by the size of the value: items and members are smaller than what holds them
  match v, h with
  | .null, _ => exact readBack_of_leaf rfl (by decide) (by decide) (by decide) fun _ => rfl
  | .bool true, _ => exact readBack_of_leaf rfl (by decide) (by decide) (by decide) fun _ => rfl
  | .bool false, _ => exact readBack_of_leaf rfl (by decide) (by decide) (by decide) fun _ => rfl
  | .string s, _ => exact readBack_string s
  | .array [], _ =>
    intro fuel rest hfuel
    obtain ⟨fuel, rfl⟩ : ∃ n, fuel = n + 1 := ⟨fuel - 1, by simp [Value.chars] at hfuel; omega⟩
    rfl
  | .object [], _ =>
    intro fuel rest hfuel
    obtain ⟨fuel, rfl⟩ : ∃ n, fuel = n + 1 := ⟨fuel - 1, by simp [Value.chars] at hfuel; omega⟩
    rfl
  | .array (v :: vs), h =>
    apply readBack_array (numberless_of_mem h v List.mem_cons_self)
    intro w hw
    have hsize := List.sizeOf_lt_of_mem hw
    exact Value.readBack w (numberless_of_mem h w hw)
  | .object ((k, v) :: ms), h =>
    apply readBack_object
    intro m hm
    -- a value that is a member is smaller than the pair, and that than the list
    have hsize : sizeOf m.2 < sizeOf ((k, v) :: ms) := by
      have hlt := List.sizeOf_lt_of_mem hm
      obtain ⟨k', w⟩ := m
      rw [Prod.mk.sizeOf_spec] at hlt
      show sizeOf w < _
      omega
    exact Value.readBack m.2 (numberless_of_mem_members h m hm)
termination_by sizeOf v
decreasing_by
  · rw [Value.array.sizeOf_spec]
    omega
  · rw [Value.object.sizeOf_spec]
    omega

/-! ## §4 Whole Documents -/

/-- The octets of a value are read as its tree, with nothing after it. -/
theorem reading_toBytes {v : Value} (h : v.numberless = true) :
    Reading.ofBytes v.toBytes = ⟨v.toDoc, true⟩ := by
  have hfuel : v.chars.length ≤ 2 * (v.chars.map some).length + 2 := by
    rw [List.length_map]
    omega
  have hread := v.readBack h (2 * (v.chars.map some).length + 2) [] hfuel
  rw [List.append_nil] at hread
  simp only [Reading.ofBytes, Value.toBytes, Bytes.symbols_ofChars, hread]
  rfl

/-- Decoding the octets of a value is decoding its tree. -/
theorem decodeBytes_toBytes {α : Type} (decode : Doc → Decoded α) {v : Value}
    (h : v.numberless = true) : decodeBytes decode v.toBytes = decode v.toDoc := by
  simp only [decodeBytes, reading_toBytes h]
  cases decode v.toDoc <;> rfl

end BuildBroker.Json
