import BuildBroker.Text.Quoted
import BuildBroker.Url.Domain

/-!
# Reading URLs

A text is read as a URL in four cuts: the scheme at its colon, the fragment at the first number
sign, the query at the first question mark, and the authority after two slashes. A special scheme
takes any number of slashes of either kind; its path never leaves the root.
-/

namespace BuildBroker.Url

/-! ## Cuts -/

/-- Whether the character is dropped at the ends of a text. -/
def isEndBlank (c : Char) : Bool :=
  c.toNat ≤ 0x20

/-- Whether the character is dropped everywhere. -/
def isSkipped (c : Char) : Bool :=
  c = '\t' || c = '\n' || c = '\r'

/-- The text that is read: without blanks at its ends, tabs and line ends. -/
def clean (cs : List Char) : List Char :=
  let front := cs.dropWhile isEndBlank
  ((front.reverse.dropWhile isEndBlank).reverse).filter fun c => !isSkipped c

/-- The parts before and after the first character that satisfies a test, without that one. -/
def cut (test : Char → Bool) (cs : List Char) : List Char × Option (List Char) :=
  match cs.dropWhile fun c => !test c with
  | [] => (cs, none)
  | _ :: rest => (cs.takeWhile fun c => !test c, some rest)

/-- Whether the character may stand in a scheme after its first. -/
def isSchemeChar (c : Char) : Bool :=
  c.isAlphanum || c = '+' || c = '-' || c = '.'

/-- The scheme in lower case and what follows its colon. -/
def splitScheme? (cs : List Char) : Option (String × List Char) :=
  match cut (· = ':') cs with
  | (c :: name, some rest) =>
    if c.isAlpha && name.all isSchemeChar then
      some (String.ofList ((c :: name).map Char.toLower), rest)
    else none
  | _ => none

/-- Whether the character separates segments. -/
def isSlash (special : Bool) (c : Char) : Bool :=
  c = '/' || (special && c = '\\')

/-! ## Paths -/

/-- A segment that stands for its own place. -/
def isHere (seg : List Char) : Bool :=
  let s := seg.map Char.toLower
  s = ['.'] || s = ['%', '2', 'e']

/-- A segment that stands for the place above. -/
def isAbove (seg : List Char) : Bool :=
  let s := seg.map Char.toLower
  s = ['.', '.'] || s = ['.', '%', '2', 'e'] || s = ['%', '2', 'e', '.']
    || s = ['%', '2', 'e', '%', '2', 'e']

/-- A letter and a colon or a bar, as file systems with drives write it. -/
def isDrive (seg : List Char) : Bool :=
  match seg with
  | [c, d] => c.isAlpha && (d = ':' || d = '|')
  | _ => false

/-- The segments without the last one; a file keeps its drive. -/
def above (file : Bool) (names : List String) : List String :=
  match file, names with
  | true, [n] => if isDrive n.toList then names else []
  | _, names => names.dropLast

/-- Walks the segments from the root on: `done` is the path so far. -/
def walk (file : Bool) (done : List String) : List (List Char) → List String
  | [] => done
  | seg :: rest =>
    let done :=
      if isAbove seg then
        let up := above file done
        if rest.isEmpty then up ++ [""] else up
      else if isHere seg then (if rest.isEmpty then done ++ [""] else done)
      else if file && done.isEmpty && isDrive seg then
        done ++ [String.ofList (seg.take 1 ++ [':'])]
      else done ++ [String.ofList (Percent.encode Percent.inPath seg)]
    walk file done rest

/-- The parts of a path between slashes. -/
def splitSegments (special : Bool) (cs : List Char) : List (List Char) :=
  Host.splitOn '/' (cs.map fun c => if isSlash special c then '/' else c)

/-- Reads a path; a first slash is not part of a segment. -/
def pathOf (special file : Bool) (cs : List Char) : UrlPath :=
  match cs with
  | [] => .segments (if special then [""] else [])
  | c :: rest =>
    let names := walk file [] (splitSegments special (if isSlash special c then rest else cs))
    if file then
      match names.dropWhile (· = "") with
      | [] => .segments [""]
      | kept => .segments kept
    else .segments names

/-! ## Authorities -/

/-- Reads a port: digits and nothing else; none at all, or the default port, count as no port. -/
def readPort (scheme : String) (ds : List Char) : Except UrlError (Option Nat) :=
  if ds.isEmpty then .ok none
  else match (if ds.all Text.isDigit then Text.readDigits? 10 ds else none) with
    | none => .error .invalidPort
    | some n =>
      if Net.portLimit ≤ n then .error .invalidPort
      else .ok (if defaultPort? scheme = some n then none else some n)

/-- The user information and the rest of an authority, parted at the last at sign. -/
def splitUser (cs : List Char) : Option (List Char) × List Char :=
  if cs.contains '@' then
    let hostPart := (cs.reverse.takeWhile (· ≠ '@')).reverse
    (some ((cs.take (cs.length - hostPart.length)).dropLast), hostPart)
  else (none, cs)

/-- The host and what follows it, parted at the first colon outside of brackets. -/
def splitHost (inside : Bool) : List Char → List Char × Option (List Char)
  | [] => ([], none)
  | c :: cs =>
    if c = ':' && !inside then ([], some cs)
    else
      let inside := if c = '[' then true else if c = ']' then false else inside
      let (host, rest) := splitHost inside cs
      (c :: host, rest)

/-- Reads an authority. An empty host is allowed only where the scheme is not special and nothing
else is there; `more` says whether anything follows the authority. -/
def readAuthority (scheme : String) (more : Bool) (cs : List Char) : Except UrlError Authority := do
  let (user, hostPart) := splitUser cs
  if user = some [] && hostPart.isEmpty && more then throw .emptyHost
  let (name, password) := cut (· = ':') (user.getD [])
  let encode (cs : List Char) := String.ofList (Percent.encode Percent.inUser cs)
  let username := encode name
  let password := encode (password.getD [])
  let (hostText, portText) := splitHost false hostPart
  if hostText.isEmpty then
    if isSpecial scheme || portText.isSome || username ≠ "" || password ≠ "" then
      throw .emptyHost
    return { username, password, host := .domain "", port := none }
  let host ← if isSpecial scheme then Host.ofSpecial hostText else Host.ofPlain hostText
  let port ← readPort scheme (portText.getD [])
  return { username, password, host, port }

/-! ## Whole URLs -/

/-- The parts of a URL before its query. -/
def readHierarchy (scheme : String) (more : Bool) (cs : List Char) :
    Except UrlError (Option Authority × UrlPath) := do
  if scheme = "file" then
    match cs with
    | a :: b :: rest =>
      if isSlash true a && isSlash true b then
        let hostText := rest.takeWhile fun c => !isSlash true c
        let pathText := rest.drop hostText.length
        if hostText.isEmpty || isDrive hostText then
          return (some ⟨"", "", .domain "", none⟩, pathOf true true rest)
        let host ← Host.ofSpecial hostText
        let host := if host = .domain "localhost" then .domain "" else host
        return (some ⟨"", "", host, none⟩, pathOf true true pathText)
      else return (some ⟨"", "", .domain "", none⟩, pathOf true true cs)
    | _ => return (some ⟨"", "", .domain "", none⟩, pathOf true true cs)
  else if isSpecial scheme then
    let rest := cs.dropWhile (isSlash true)
    let authText := rest.takeWhile fun c => !isSlash true c
    let a ← readAuthority scheme more authText
    return (some a, pathOf true false (rest.drop authText.length))
  else match cs with
    | '/' :: '/' :: rest =>
      let authText := rest.takeWhile fun c => !isSlash false c
      let pathText := rest.drop authText.length
      let a ← readAuthority scheme (more || !pathText.isEmpty) authText
      return (some a, pathOf false false pathText)
    | '/' :: _ => return (none, pathOf false false cs)
    | _ => return (none, .plain (String.ofList (Percent.encode Percent.inPlain cs)))

/-- Reads a URL from characters. -/
def ofChars (cs : List Char) : Except UrlError Url := do
  let some (scheme, rest) := splitScheme? (clean cs) | throw .relative
  let (rest, fragment) := cut (· = '#') rest
  let (rest, query) := cut (· = '?') rest
  let (authority, path) ← readHierarchy scheme (query.isSome || fragment.isSome) rest
  let inQuery := if isSpecial scheme then Percent.inSpecialQuery else Percent.inQuery
  return {
    scheme
    authority
    path
    query := query.map fun cs => String.ofList (Percent.encode inQuery cs)
    fragment := fragment.map fun cs => String.ofList (Percent.encode Percent.inFragment cs) }

/-- Reads a URL. -/
def parse (s : String) : Except UrlError Url :=
  ofChars s.toList

end BuildBroker.Url
