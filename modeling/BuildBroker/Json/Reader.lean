import BuildBroker.Json.Doc

/-!
# Reading JSON

The reader turns octets into the tree `Doc` of RFC 8259. It works on symbols: a character, or `none`
for an octet that belongs to no character, which is no JSON outside of a string.
-/

namespace BuildBroker.Json

/-- What a document is read from. -/
abbrev Symbols := List (Option Char)

/-- The characters that may stand between tokens. -/
def isBlank (c : Char) : Bool :=
  c = ' ' || c = '\t' || c = '\n' || c = '\r'

/-- The symbols after the blanks. -/
def skipBlanks : Symbols → Symbols
  | some c :: rest => if isBlank c then skipBlanks rest else some c :: rest
  | s => s

/-! ## Strings -/

/-- Four hexadecimal digits. -/
def hexQuad? : Symbols → Option (Nat × Symbols)
  | some a :: some b :: some c :: some d :: rest => do
    let n ← Text.readDigits? 16 [a, b, c, d]
    some (n, rest)
  | _ => none

/-- The character that a one-letter escape stands for. -/
def shortEscape? (c : Char) : Option Char :=
  if c = '\x22' || c = '\\' || c = '/' then some c
  else if c = 'b' then some '\x08'
  else if c = 'f' then some '\x0c'
  else if c = 'n' then some '\n'
  else if c = 'r' then some '\r'
  else if c = 't' then some '\t'
  else none

/-- The first half of a surrogate pair. -/
def isLeadingHalf (n : Nat) : Bool := 0xD800 ≤ n && n ≤ 0xDBFF

/-- The second half of a surrogate pair. -/
def isTrailingHalf (n : Nat) : Bool := 0xDC00 ≤ n && n ≤ 0xDFFF

/-- The character of a surrogate pair. -/
def ofHalves (lead trail : Nat) : Char :=
  Char.ofNat (0x10000 + (lead - 0xD800) * 0x400 + (trail - 0xDC00))

/-- One place of a string after its opening quote. -/
inductive StringPart where
  | finish
  | char (c : Char)
  | valueless
  | malformed

/-- Reads one place of a string; a whole surrogate pair is one place. -/
def readPart : Symbols → StringPart × Symbols
  | [] => (.malformed, [])
  | none :: rest => (.valueless, rest)
  | some c :: rest =>
    if c = '\x22' then (.finish, rest)
    else if c.toNat < 0x20 then (.malformed, rest)
    else if c ≠ '\\' then (.char c, rest)
    else match rest with
      | some 'u' :: rest =>
        match hexQuad? rest with
        | none => (.malformed, rest)
        | some (n, rest) =>
          if isTrailingHalf n then (.valueless, rest)
          else if isLeadingHalf n then
            match rest with
            | some '\\' :: some 'u' :: after =>
              match hexQuad? after with
              | some (m, after) =>
                if isTrailingHalf m then (.char (ofHalves n m), after) else (.valueless, rest)
              | none => (.valueless, rest)
            | _ => (.valueless, rest)
          else (.char (Char.ofNat n), rest)
      | some e :: rest =>
        match shortEscape? e with
        | some c => (.char c, rest)
        | none => (.malformed, rest)
      | _ => (.malformed, rest)

/-- Reads a string after its opening quote; `read` holds its characters so far in reverse, or
nothing once it has lost its value. The outer `none` means that the string does not end. -/
def readString (fuel : Nat) (read : Option (List Char)) (s : Symbols) :
    Option (Option String × Symbols) :=
  match fuel with
  | 0 => none
  | fuel + 1 =>
    match readPart s with
    | (.finish, rest) => some (read.map fun cs => String.ofList cs.reverse, rest)
    | (.char c, rest) => readString fuel (read.map (c :: ·)) rest
    | (.valueless, rest) => readString fuel none rest
    | (.malformed, _) => none

/-! ## Numbers -/

/-- The digits that the symbols begin with. -/
def takeDigits : Symbols → List Nat × Symbols
  | some c :: rest =>
    if Text.isDigit c then
      let (ds, rest) := takeDigits rest
      ((c.toNat - '0'.toNat) :: ds, rest)
    else ([], some c :: rest)
  | s => ([], s)

/-- Adds digits to a significand as long as a counter holds it; also how many were added. -/
def absorb (significand : Nat) : List Nat → Nat × Nat
  | [] => (significand, 0)
  | d :: ds =>
    let next := significand * 10 + d
    if next < Text.counterLimit then
      let (n, used) := absorb next ds
      (n, used + 1)
    else (significand, 0)

/-- The digits before the point: a zero stands alone. -/
def readWhole? (s : Symbols) : Option (List Nat × Symbols) :=
  match takeDigits s with
  | ([], _) => none
  | (0 :: _ :: _, _) => none
  | r => some r

/-- The digits after a point, if there is one; at least one digit follows it. -/
def readFraction? : Symbols → Option (Option (List Nat) × Symbols)
  | some '.' :: rest =>
    match takeDigits rest with
    | ([], _) => none
    | (ds, rest) => some (some ds, rest)
  | s => some (none, s)

/-- The sign of an exponent, plus if none is written. -/
def exponentSign : Symbols → Bool × Symbols
  | some '+' :: rest => (false, rest)
  | some '-' :: rest => (true, rest)
  | s => (false, s)

/-- The exponent, if there is one; at least one digit belongs to it. -/
def readExponent? : Symbols → Option (Option Int × Symbols)
  | some c :: rest =>
    if c = 'e' || c = 'E' then
      let (negative, rest) := exponentSign rest
      match takeDigits rest with
      | ([], _) => none
      | (ds, rest) =>
        let n : Int := Text.ofDigits 10 ds
        some (some (if negative then -n else n), rest)
    else some (none, some c :: rest)
  | s => some (none, s)

/-- The largest magnitude of a negative integer. -/
def negativeLimit : Nat := Nat.pow 2 63

/-- The number that a sign, digits and an exponent denote. -/
def Number.ofParts (negative : Bool) (whole : List Nat) (fraction : Option (List Nat))
    (exponent : Option Int) : Number :=
  let (significand, used) := absorb 0 whole
  let left := whole.length - used
  match fraction, exponent, left with
  | none, none, 0 =>
    if !negative then .natural significand
    else if 1 ≤ significand && significand ≤ negativeLimit then .negative significand
    else .real true significand 0
  | _, _, _ =>
    let (significand, added) := absorb significand (fraction.getD [])
    .real negative significand ((left : Int) - added + exponent.getD 0)

/-- Reads a number. -/
def readNumber? (s : Symbols) : Option (Number × Symbols) := do
  let (negative, s) := match s with
    | some '-' :: rest => (true, rest)
    | s => (false, s)
  let (whole, s) ← readWhole? s
  let (fraction, s) ← readFraction? s
  let (exponent, s) ← readExponent? s
  some (.ofParts negative whole fraction exponent, s)

/-! ## Values -/

/-- The symbols after a literal, if they begin with it. -/
def afterLiteral? : List Char → Symbols → Option Symbols
  | [], s => some s
  | c :: cs, some d :: rest => if c = d then afterLiteral? cs rest else none
  | _ :: _, _ => none

/-- A value with nothing inside: a literal, a string or a number. -/
def readLeaf (s : Symbols) : Doc × Symbols :=
  let literal (text : String) (d : Doc) : Doc × Symbols :=
    match afterLiteral? text.toList s with
    | some rest => (d, rest)
    | none => (.broken, [])
  match s with
  | some 'n' :: _ => literal "null" .null
  | some 't' :: _ => literal "true" (.bool true)
  | some 'f' :: _ => literal "false" (.bool false)
  | some '\x22' :: rest =>
    match readString (rest.length + 1) (some []) rest with
    | some (text, rest) => (.string text, rest)
    | none => (.broken, [])
  | _ =>
    match readNumber? s with
    | some (n, rest) => (.number n, rest)
    | none => (.broken, [])

mutual

/-- Reads a value that blanks may precede. -/
def readValue (fuel : Nat) (s : Symbols) : Doc × Symbols :=
  match fuel with
  | 0 => (.broken, [])
  | fuel + 1 =>
    match skipBlanks s with
    | some '[' :: rest =>
      match skipBlanks rest with
      | some ']' :: rest => (.array .done, rest)
      | rest =>
        let (items, rest) := readItems fuel rest
        (.array items, rest)
    | some '\x7b' :: rest =>
      match skipBlanks rest with
      | some '\x7d' :: rest => (.object .done, rest)
      | rest =>
        let (members, rest) := readMembers fuel rest
        (.object members, rest)
    | s => readLeaf s

/-- Reads an item and what follows it in its array. -/
def readItems (fuel : Nat) (s : Symbols) : Items × Symbols :=
  match fuel with
  | 0 => (.cut, [])
  | fuel + 1 =>
    match readValue fuel s with
    | (.broken, _) => (.item .broken .cut, [])
    | (first, rest) =>
      match skipBlanks rest with
      | some ',' :: rest =>
        let (items, rest) := readItems fuel rest
        (.item first items, rest)
      | some ']' :: rest => (.item first .done, rest)
      | _ => (.item first .cut, [])

/-- Reads a member and what follows it in its object. -/
def readMembers (fuel : Nat) (s : Symbols) : Members × Symbols :=
  match fuel with
  | 0 => (.cut, [])
  | fuel + 1 =>
    match skipBlanks s with
    | some '\x22' :: rest =>
      match readString (rest.length + 1) (some []) rest with
      | none => (.cut, [])
      | some (key, rest) =>
        match skipBlanks rest with
        | some ':' :: rest =>
          match readValue fuel rest with
          | (.broken, _) => (.member key .broken .cut, [])
          | (value, rest) =>
            match skipBlanks rest with
            | some ',' :: rest =>
              let (members, rest) := readMembers fuel rest
              (.member key value members, rest)
            | some '\x7d' :: rest => (.member key value .done, rest)
            | _ => (.member key value .cut, [])
        | _ => (.member key .broken .cut, [])
    | _ => (.cut, [])

end

/-- A document and whether only blanks follow it. -/
structure Reading where
  doc : Doc
  ended : Bool

/-- Reads a whole text. Each call of the reader takes at least one symbol, or passes to a call that
does, so twice the length is enough fuel. -/
def Reading.ofBytes (b : Bytes) : Reading :=
  let s := b.symbols
  let (doc, rest) := readValue (2 * s.length + 2) s
  ⟨doc, (skipBlanks rest).isEmpty⟩

/-- The value of a text that is JSON throughout. -/
def Value.ofBytes? (b : Bytes) : Option Value :=
  let t := Reading.ofBytes b
  if t.ended then t.doc.value? depthLimit else none

end BuildBroker.Json
