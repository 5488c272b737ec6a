import BuildBroker.Text.Natural

/-!
# Scalars and Keys of TOML

The two kinds of scalar that settings are made of, texts and integers, and keys. Texts come in four
forms: basic ones have escapes, literal ones have none, and either may run over several lines
between three quotes. Each reader answers with what follows, or nothing if the text is malformed.
-/

namespace BuildBroker.Toml

/-- What is left to be read. -/
abbrev Rest := List Char

/-- Whether a text may not hold the character unescaped. -/
def isControl (c : Char) : Bool :=
  (c.toNat < 0x20 && c ≠ '\t') || c.toNat = 0x7F

/-- Whether the character parts tokens inside a line. -/
def isBlank (c : Char) : Bool :=
  c = ' ' || c = '\t'

/-- What follows the blanks of the line. -/
def skipBlanks (cs : Rest) : Rest :=
  cs.dropWhile isBlank

/-! ## Texts -/

/-- The character with the code in the next `width` digits. -/
def codeEscape? (width : Nat) (cs : Rest) : Option (Char × Rest) := do
  let ds := cs.take width
  if ds.length < width then none
  let n ← Text.readDigits? 16 ds
  if n.isValidChar then some (Char.ofNat n, cs.drop width) else none

/-- The character that an escape stands for, from its letter on. -/
def escape? : Rest → Option (Char × Rest)
  | [] => none
  | c :: cs =>
    if c = 'b' then some ('\x08', cs)
    else if c = 't' then some ('\t', cs)
    else if c = 'n' then some ('\n', cs)
    else if c = 'f' then some ('\x0c', cs)
    else if c = 'r' then some ('\r', cs)
    else if c = 'e' then some ('\x1b', cs)
    else if c = '\x22' || c = '\\' then some (c, cs)
    else if c = 'x' then codeEscape? 2 cs
    else if c = 'u' then codeEscape? 4 cs
    else if c = 'U' then codeEscape? 8 cs
    else none

/-- Reads a basic text of one line after its quote. -/
def basicLine? (fuel : Nat) (read : List Char) (cs : Rest) : Option (String × Rest) :=
  match fuel, cs with
  | 0, _ | _, [] => none
  | fuel + 1, c :: cs =>
    if c = '\x22' then some (String.ofList read.reverse, cs)
    else if c = '\\' then do
      let (d, cs) ← escape? cs
      basicLine? fuel (d :: read) cs
    else if isControl c then none
    else basicLine? fuel (c :: read) cs

/-- Reads a literal text of one line after its quote. -/
def literalLine? (read : List Char) : Rest → Option (String × Rest)
  | [] => none
  | c :: cs =>
    if c = '\x27' then some (String.ofList read.reverse, cs)
    else if isControl c then none
    else literalLine? (c :: read) cs

/-- A line end, if there is one here. -/
def lineEnd? : Rest → Option Rest
  | '\n' :: cs => some cs
  | '\r' :: '\n' :: cs => some cs
  | _ => none

/-- Drops one line end right after the opening quotes. -/
def dropFirstLineEnd (cs : Rest) : Rest :=
  (lineEnd? cs).getD cs

/-- The end of a text of several lines: three quotes, and up to two more before them that belong to
the text. -/
def closing? (quote : Char) (cs : Rest) : Option (List Char × Rest) :=
  let quotes := cs.takeWhile (· = quote)
  if quotes.length < 3 then none
  else
    let n := min quotes.length 5
    some (List.replicate (n - 3) quote, cs.drop n)

/-- What follows a backslash at the end of a line: blanks, a line end, then all blanks and line
ends. -/
def continuation? (cs : Rest) : Option Rest :=
  (lineEnd? (skipBlanks cs)).map fun cs =>
    cs.dropWhile fun c => isBlank c || c = '\n' || c = '\r'

/-- Reads a basic text of several lines after its quotes. -/
def basicBlock? (fuel : Nat) (read : List Char) (cs : Rest) : Option (String × Rest) :=
  match fuel, cs with
  | 0, _ | _, [] => none
  | fuel + 1, c :: tail =>
    match closing? '\x22' (c :: tail) with
    | some (extra, rest) => some (String.ofList (read.reverse ++ extra), rest)
    | none =>
      if c = '\\' then
        match continuation? tail with
        | some rest => basicBlock? fuel read rest
        | none => do
          let (d, rest) ← escape? tail
          basicBlock? fuel (d :: read) rest
      else match lineEnd? (c :: tail) with
        | some rest => basicBlock? fuel ('\n' :: read) rest
        | none => if isControl c then none else basicBlock? fuel (c :: read) tail

/-- Reads a literal text of several lines after its quotes. -/
def literalBlock? (fuel : Nat) (read : List Char) (cs : Rest) : Option (String × Rest) :=
  match fuel, cs with
  | 0, _ | _, [] => none
  | fuel + 1, c :: tail =>
    match closing? '\x27' (c :: tail) with
    | some (extra, rest) => some (String.ofList (read.reverse ++ extra), rest)
    | none => match lineEnd? (c :: tail) with
      | some rest => literalBlock? fuel ('\n' :: read) rest
      | none => if isControl c then none else literalBlock? fuel (c :: read) tail

/-- Reads a text in any of its forms. -/
def text? : Rest → Option (String × Rest)
  | '\x22' :: '\x22' :: '\x22' :: cs => basicBlock? (cs.length + 1) [] (dropFirstLineEnd cs)
  | '\x27' :: '\x27' :: '\x27' :: cs => literalBlock? (cs.length + 1) [] (dropFirstLineEnd cs)
  | '\x22' :: cs => basicLine? (cs.length + 1) [] cs
  | '\x27' :: cs => literalLine? [] cs
  | _ => none

/-! ## Integers -/

/-- Whether the character may belong to an integer. -/
def isIntegerChar (c : Char) : Bool :=
  c.isAlphanum || c = '_' || c = '+' || c = '-' || c = '.' || c = ':'

/-- Digits in which an underscore may stand between any two. -/
def groupedDigits? (base : Nat) (cs : List Char) : Option Nat :=
  let rec alternate : Bool → List Char → Bool
    | digitBefore, [] => digitBefore
    | digitBefore, c :: cs =>
      if c = '_' then digitBefore && alternate false cs else alternate true cs
  if alternate false cs then Text.readDigits? base (cs.filter (· ≠ '_')) else none

/-- A decimal magnitude: no zero before another digit. -/
def decimal? : List Char → Option Nat
  | '0' :: _ :: _ => none
  | cs => groupedDigits? 10 cs

/-- The value of the token of an integer. -/
def integerToken? : List Char → Option Int
  | '0' :: 'x' :: ds => (groupedDigits? 16 ds).map Int.ofNat
  | '0' :: 'o' :: ds => (groupedDigits? 8 ds).map Int.ofNat
  | '0' :: 'b' :: ds => (groupedDigits? 2 ds).map Int.ofNat
  | '+' :: ds => (decimal? ds).map Int.ofNat
  | '-' :: ds => (decimal? ds).map fun n => -(n : Int)
  | ds => (decimal? ds).map Int.ofNat

/-- Reads an integer. -/
def integer? (cs : Rest) : Option (Int × Rest) :=
  let token := cs.takeWhile isIntegerChar
  (integerToken? token).map fun n => (n, cs.drop token.length)

/-! ## Keys -/

/-- Whether the character may stand in a key without quotes. -/
def isBareChar (c : Char) : Bool :=
  c.isAlphanum || c = '_' || c = '-'

/-- Reads one part of a key. -/
def keyPart? (cs : Rest) : Option (String × Rest) :=
  match cs with
  | '\x22' :: rest => basicLine? (rest.length + 1) [] rest
  | '\x27' :: rest => literalLine? [] rest
  | _ =>
    let name := cs.takeWhile isBareChar
    if name.isEmpty then none else some (String.ofList name, cs.drop name.length)

/-- Reads a key: parts with points between them. -/
def key? (fuel : Nat) (cs : Rest) : Option (List String × Rest) :=
  match fuel with
  | 0 => none
  | fuel + 1 => do
    let (part, rest) ← keyPart? (skipBlanks cs)
    match skipBlanks rest with
    | '.' :: rest =>
      let (parts, rest) ← key? fuel rest
      some (part :: parts, rest)
    | rest => some ([part], rest)

end BuildBroker.Toml
