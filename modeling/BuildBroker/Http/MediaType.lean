import BuildBroker.Http.Message

/-!
# Media Types

Whether a declared type says that a body is JSON: `application/json`, or a subtype with the suffix
`+json`, in any case and with any parameters.
-/

namespace BuildBroker.Http.MediaType

/-- Whether a character may stand in a name. -/
def isTokenChar (c : Char) : Bool :=
  c.toNat < 0x80 && isTokenByte (UInt8.ofNat c.toNat)

/-- What follows the value of a parameter. -/
def afterValue? : List Char → Option (List Char)
  | '\x22' :: rest =>
    let inner := rest.takeWhile fun c => c ≠ '\x22' && 0x20 ≤ c.toNat
    match rest.drop inner.length with
    | _ :: rest => if inner.isEmpty then none else some rest
    | [] => none
  | cs => some (cs.dropWhile isTokenChar)

/-- Whether a text is a list of parameters, each with a semicolon before it; the last one may be
missing. -/
def areParameters (fuel : Nat) (cs : List Char) : Bool :=
  match fuel, cs with
  | _, [] => true
  | 0, _ => false
  | fuel + 1, ';' :: rest =>
    match rest.dropWhile (· = ' ') with
    | [] => true
    | rest =>
      let name := rest.takeWhile isTokenChar
      match rest.drop name.length with
      | '=' :: value =>
        if name.isEmpty then false
        else match afterValue? value with
          | some rest => areParameters fuel rest
          | none => false
      | _ => false
  | _, _ => false

/-- The part after the last plus sign, if there is one after the start. -/
def suffix? (subtype : List Char) : Option (List Char) :=
  let tail := (subtype.reverse.takeWhile (· ≠ '+')).reverse
  if tail.length + 1 < subtype.length then some tail else none

/-- Whether a declared type says JSON. -/
def isJson (text : String) : Bool :=
  let cs := text.toList.map Char.toLower
  let top := cs.takeWhile isTokenChar
  match cs.drop top.length with
  | '/' :: rest =>
    let subtype := rest.takeWhile isTokenChar
    let json := "json".toList
    top = "application".toList && !subtype.isEmpty
      && areParameters (rest.length + 1) (rest.drop subtype.length)
      && match suffix? subtype with
        | some tail => tail = json || subtype.take (subtype.length - tail.length - 1) = json
        | none => subtype = json
  | _ => false

end BuildBroker.Http.MediaType
