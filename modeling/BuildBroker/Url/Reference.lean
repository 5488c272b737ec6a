import BuildBroker.Url.Parse

/-!
# References to URLs

The text that an answer refers to another place by: a whole URL, or only the part in which the other
place differs from this one. The grammar is the strict one: nothing is repaired, so a reference with
a blank or a character beyond ASCII is none.
-/

namespace BuildBroker

/-- A reference in its parts, as they were written. A fragment has been checked and dropped. -/
structure Reference where
  scheme : Option String
  authority : Option String
  path : String
  query : Option String
deriving DecidableEq, Repr

namespace Reference

/-! ## The grammar -/

/-- Whether a character stands for itself everywhere. -/
def isUnreserved (c : Char) : Bool :=
  c.isAlphanum || c = '-' || c = '.' || c = '_' || c = '~'

/-- Whether a character may delimit parts of a component. -/
def isSubDelimiter (c : Char) : Bool :=
  "!$&\x27()*+,;=".toList.contains c

/-- Whether a text consists of characters of a set and of escapes. -/
def admits (set : Char → Bool) : List Char → Bool
  | [] => true
  | '%' :: a :: b :: rest =>
    (Text.readDigits? 16 [a, b]).isSome && admits set rest
  | c :: rest => set c && admits set rest

/-- Whether a character may stand in a segment of a path. -/
def isSegmentChar (c : Char) : Bool :=
  isUnreserved c || isSubDelimiter c || c = ':' || c = '@'

/-- Whether a character may stand in a path. -/
def isPathChar (c : Char) : Bool :=
  isSegmentChar c || c = '/'

/-- Whether a character may stand in a query or a fragment. -/
def isQueryChar (c : Char) : Bool :=
  isPathChar c || c = '?'

/-- Whether a text is a scheme. -/
def isScheme : List Char → Bool
  | [] => false
  | c :: rest =>
    c.isAlpha && rest.all fun c => c.isAlphanum || c = '+' || c = '-' || c = '.'

/-- Whether a text is a host with a port, if there is one. -/
def isHostPort : List Char → Bool
  | '[' :: rest =>
    let address := rest.takeWhile (· ≠ ']')
    match rest.drop address.length with
    | ']' :: after =>
      !address.isEmpty && admits (fun c => isUnreserved c || isSubDelimiter c || c = ':') address
        && (after.isEmpty || (after.head? = some ':' && (after.drop 1).all Char.isDigit))
    | _ => false
  | cs =>
    let name := cs.takeWhile (· ≠ ':')
    admits (fun c => isUnreserved c || isSubDelimiter c) name
      && ((cs.drop name.length).drop 1).all Char.isDigit

/-- Whether a text is an authority. -/
def isAuthority (cs : List Char) : Bool :=
  let user := cs.takeWhile (· ≠ '@')
  match cs.drop user.length with
  | _ :: host =>
    admits (fun c => isUnreserved c || isSubDelimiter c || c = ':') user && isHostPort host
  | [] => isHostPort cs

/-- The scheme before the first colon of a first segment, and what follows it; `none` if the colon
has no scheme before it. -/
def splitScheme? (cs : List Char) : Option (Option String × List Char) :=
  let first := cs.takeWhile fun c => c ≠ ':' && c ≠ '/'
  match cs.drop first.length with
  | ':' :: rest => if isScheme first then some (some (String.ofList first), rest) else none
  | _ => some (none, cs)

/-- Reads a reference. -/
def ofText? (s : String) : Option Reference := do
  let beforeFragment := s.toList.takeWhile (· ≠ '#')
  let fragment := (s.toList.drop beforeFragment.length).drop 1
  let beforeQuery := beforeFragment.takeWhile (· ≠ '?')
  let query := match beforeFragment.drop beforeQuery.length with
    | _ :: q => some q
    | [] => none
  if !admits isQueryChar fragment || !admits isQueryChar (query.getD []) then none
  let (scheme, rest) ← splitScheme? beforeQuery
  let (authority, path) := match rest with
    | '/' :: '/' :: rest =>
      let authority := rest.takeWhile (· ≠ '/')
      (some authority, rest.drop authority.length)
    | _ => (none, rest)
  if !admits isPathChar path || !(authority.map isAuthority).getD true then none
  return ⟨scheme, authority.map String.ofList, String.ofList path, query.map String.ofList⟩

/-! ## Resolving -/

/-- Carries out the steps that stay in a directory or leave it; `done` are the segments so far, in
reverse. A step at the end leaves the path of a directory. -/
def removeDots (done : List String) : List String → List String
  | [] => done.reverse
  | s :: rest =>
    if s = "." then removeDots (if rest.isEmpty then "" :: done else done) rest
    else if s = ".." then
      removeDots (if rest.isEmpty then "" :: done.tail else done.tail) rest
    else removeDots (s :: done) rest

/-- The segments of a path without the slash that it begins with. -/
def segments (path : String) : List String :=
  (Host.splitOn '/' path.toList).map String.ofList

/-- The segments of the path of a URL. -/
def segmentsOf (u : Url) : List String :=
  match u.path with
  | .segments names => names
  | .plain text => [text]

/-- The place that a reference means when it stands at a URL, if that is a URL. The parts of the
result are those of the reference: they are not brought into normal form. -/
def resolve? (base : Url) (r : Reference) : Option Url :=
  let tail := r.path ++ Url.markedText "?" r.query
  match r.scheme, r.authority with
  | some scheme, authority =>
    (Url.parse (scheme ++ ":" ++ Url.markedText "//" authority ++ tail)).toOption
  | none, some authority => (Url.parse (base.scheme ++ "://" ++ authority ++ tail)).toOption
  | none, none =>
    if r.path = "" then
      some { base with query := r.query.or base.query, fragment := none }
    else
      let names := match r.path.toList with
        | '/' :: rest => segments (String.ofList rest)
        | _ => (segmentsOf base).dropLast ++ segments r.path
      some { base with path := .segments (removeDots [] names), query := r.query, fragment := none }

end Reference

end BuildBroker
