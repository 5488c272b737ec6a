import BuildBroker.Text.Bytes
import BuildBroker.Toml.Scalar

/-!
# Statements of TOML

A settings file is a list of statements: a header that opens a section, or an assignment of a text,
an integer or an inline table of these. Settings have no use for other kinds of value, so a file
that holds one is refused as a whole.
-/

namespace BuildBroker.Toml

/-- A value of one line of settings. -/
inductive Scalar where
  | text (s : String)
  | integer (n : Int)
deriving DecidableEq, Repr

/-- A value that a key is given. -/
inductive Value where
  | scalar (s : Scalar)
  | table (entries : List (List String × Scalar))

/-- A statement of a settings file. -/
inductive Statement where
  | header (key : List String)
  | assign (key : List String) (value : Value)

/-- Reads a text or an integer. -/
def scalar? (cs : Rest) : Option (Scalar × Rest) :=
  match cs with
  | [] => none
  | c :: _ =>
    if c = '\x22' || c = '\x27' then (text? cs).map fun (s, rest) => (.text s, rest)
    else (integer? cs).map fun (n, rest) => (.integer n, rest)

/-- What follows a key: an equals sign. -/
def equals? (cs : Rest) : Option Rest :=
  match skipBlanks cs with
  | '=' :: rest => some (skipBlanks rest)
  | _ => none

/-- What follows a comment, which holds no control characters; it ends with its line. -/
def comment? : Rest → Option Rest
  | [] => some []
  | c :: cs =>
    match lineEnd? (c :: cs) with
    | some _ => some (c :: cs)
    | none => if isControl c then none else comment? cs

/-- What follows blanks, line ends and comments. -/
def skipGap? (fuel : Nat) (cs : Rest) : Option Rest :=
  match fuel with
  | 0 => none
  | fuel + 1 =>
    match skipBlanks cs with
    | '#' :: cs => (comment? cs).bind (skipGap? fuel)
    | cs => match lineEnd? cs with
      | some rest => skipGap? fuel rest
      | none => some cs

/-- Reads the entries of an inline table after its brace. -/
def entries? (fuel : Nat) (cs : Rest) : Option (List (List String × Scalar) × Rest) :=
  match fuel with
  | 0 => none
  | fuel + 1 => do
    let cs ← skipGap? (cs.length + 1) cs
    match cs with
    | '\x7d' :: rest => some ([], rest)
    | cs =>
      let (key, rest) ← key? (cs.length + 1) cs
      let rest ← equals? rest
      let (value, rest) ← scalar? rest
      let rest ← skipGap? (rest.length + 1) rest
      match rest with
      | ',' :: rest =>
        let (entries, rest) ← entries? fuel rest
        some ((key, value) :: entries, rest)
      | '\x7d' :: rest => some ([(key, value)], rest)
      | _ => none

/-- Reads a value. -/
def value? (cs : Rest) : Option (Value × Rest) :=
  match cs with
  | '\x7b' :: rest => (entries? (rest.length + 1) rest).map fun (es, rest) => (.table es, rest)
  | _ => (scalar? cs).map fun (s, rest) => (.scalar s, rest)

/-- Reads the statement that the text begins with. -/
def statement? (cs : Rest) : Option (Statement × Rest) :=
  match cs with
  | '[' :: rest => do
    let (key, rest) ← key? (rest.length + 1) rest
    match rest with
    | ']' :: rest => some (.header key, rest)
    | _ => none
  | _ => do
    let (key, rest) ← key? (cs.length + 1) cs
    let rest ← equals? rest
    let (value, rest) ← value? rest
    some (.assign key value, rest)

/-- What follows the end of a statement: nothing else may stand in its line. -/
def endStatement? (cs : Rest) : Option Rest :=
  match skipBlanks cs with
  | [] => some []
  | '#' :: cs => comment? cs
  | cs => lineEnd? cs

/-- Reads statements to the end of the text. -/
def statements? (fuel : Nat) (cs : Rest) : Option (List Statement) :=
  match fuel with
  | 0 => none
  | fuel + 1 => do
    let cs ← skipGap? (cs.length + 1) cs
    if cs.isEmpty then some []
    else
      let (s, rest) ← statement? cs
      let rest ← endStatement? rest
      let ss ← statements? fuel rest
      some (s :: ss)

/-- The mark that may stand before a text. -/
def byteOrderMark : Char := '\ufeff'

/-- The statements of a settings file. -/
def ofText? (s : String) : Option (List Statement) :=
  let cs := match s.toList with
    | c :: cs => if c = byteOrderMark then cs else c :: cs
    | [] => []
  statements? (cs.length + 1) cs

end BuildBroker.Toml
