/-!
# Blank Text

Which characters count as blank, and the two questions the broker asks about them: what a text is
without its blank ends, and whether anything is left of it.

`isBlank` is the Unicode property `White_Space`, so U+200B and U+FEFF are not blank.

Main statements:
- `nonBlank_eq_none_iff`: a text has a trimmed form exactly when it is not blank.
- `trim_trim`: nothing is left to trim of a trimmed text.
-/

namespace BuildBroker.Text

/-- The characters with the property `White_Space`. -/
def isBlank (c : Char) : Bool :=
  let n := c.toNat
  (0x09 ≤ n && n ≤ 0x0D) || n == 0x20 || n == 0x85 || n == 0xA0 || n == 0x1680
    || (0x2000 ≤ n && n ≤ 0x200A) || n == 0x2028 || n == 0x2029 || n == 0x202F
    || n == 0x205F || n == 0x3000

/-- The text without the blanks it starts with. -/
def dropBlank (cs : List Char) : List Char :=
  cs.dropWhile isBlank

/-- The text without the blanks it ends with. -/
def dropBlankEnd (cs : List Char) : List Char :=
  (dropBlank cs.reverse).reverse

/-- The text without the blanks at its two ends. -/
def trimChars (cs : List Char) : List Char :=
  dropBlankEnd (dropBlank cs)

/-- The text without the blanks at its two ends. -/
def trim (s : String) : String :=
  String.ofList (trimChars s.toList)

/-- A text counts as blank when nothing is left of it once it is trimmed. -/
def allBlank (s : String) : Bool :=
  (trim s).isEmpty

/-- The trimmed text, if anything is left. -/
def nonBlank (s : String) : Option String :=
  let t := trim s
  if t.isEmpty then none else some t

theorem nonBlank_eq_none_iff (s : String) : nonBlank s = none ↔ allBlank s = true := by
  unfold nonBlank allBlank
  cases h : (trim s).isEmpty <;> simp [h]

theorem nonBlank_of_not_allBlank {s : String} (h : allBlank s = false) :
    nonBlank s = some (trim s) := by
  unfold allBlank at h
  simp [nonBlank, h]

/-! ## Trimming twice -/

@[simp] theorem dropBlank_dropBlank (cs : List Char) : dropBlank (dropBlank cs) = dropBlank cs := by
  induction cs with
  | nil => rfl
  | cons c rest ih =>
    simp only [dropBlank, List.dropWhile_cons] at ih ⊢
    split
    · exact ih
    · rename_i hc
      simp [hc]

@[simp] theorem dropBlankEnd_dropBlankEnd (cs : List Char) :
    dropBlankEnd (dropBlankEnd cs) = dropBlankEnd cs := by
  simp [dropBlankEnd]

/-- A text that starts with no blank still does so once its end is trimmed. -/
theorem dropBlank_dropBlankEnd {cs : List Char} (h : dropBlank cs = cs) :
    dropBlank (dropBlankEnd cs) = dropBlankEnd cs := by
  cases cs with
  | nil => rfl
  | cons c rest =>
    have hc : isBlank c = false := by
      cases hblank : isBlank c with
      | false => rfl
      | true =>
        -- then the text without its first blanks would be shorter
        have hlength := congrArg List.length h
        have hle := (List.dropWhile_suffix isBlank (l := rest)).length_le
        simp only [dropBlank, List.dropWhile_cons, hblank, if_true, List.length_cons] at hlength
        omega
    -- the first character ends the trimming of the end at the latest
    have hfirst : ∃ rest', dropBlankEnd (c :: rest) = c :: rest' := by
      simp only [dropBlankEnd, dropBlank, List.reverse_cons, List.dropWhile_append]
      split <;> simp [hc]
    obtain ⟨rest', hrest⟩ := hfirst
    rw [hrest]
    simp [dropBlank, hc]

@[simp] theorem trimChars_trimChars (cs : List Char) : trimChars (trimChars cs) = trimChars cs := by
  have hstart : dropBlank (trimChars cs) = trimChars cs :=
    dropBlank_dropBlankEnd (dropBlank_dropBlank cs)
  show dropBlankEnd (dropBlank (trimChars cs)) = trimChars cs
  rw [hstart]
  exact dropBlankEnd_dropBlankEnd _

@[simp] theorem trim_trim (s : String) : trim (trim s) = trim s := by
  simp [trim]

/-- A trimmed form is its own trimmed form. -/
theorem nonBlank_of_nonBlank {s t : String} (h : nonBlank s = some t) : nonBlank t = some t := by
  unfold nonBlank at h
  dsimp only at h
  split at h
  · cases h
  · rename_i hsome
    cases h
    simp [nonBlank, hsome]

end BuildBroker.Text
