import BuildBroker.Text.Bytes
import BuildBroker.Net.Address

/-!
# URLs

A URL taken apart: scheme, authority, path, query and fragment, each in its normal form, and the
text that they make together. Schemes with a default port, and the scheme of files, are *special*:
their paths always begin with a slash.
-/

namespace BuildBroker

/-- The host of a URL. -/
inductive Host where
  | domain (name : String)
  | ipv4 (a : Net.Ipv4)
  | ipv6 (a : Net.Ipv6)
deriving DecidableEq, Repr

/-- The host as a URL shows it. -/
def Host.toText : Host → String
  | .domain name => name
  | .ipv4 a => a.toText
  | .ipv6 a => "[" ++ Net.Ipv6.renderGroups a.groups ++ "]"

/-- Who is addressed. An empty password counts as none. -/
structure Authority where
  username : String
  password : String
  host : Host
  /-- The port, unless it is the default of the scheme. -/
  port : Option Nat
deriving DecidableEq, Repr

/-- The path of a URL: a sequence of segments after slashes, or a text that is no such sequence. -/
inductive UrlPath where
  | segments (names : List String)
  | plain (text : String)
deriving DecidableEq, Repr

/-- A URL in its parts. -/
structure Url where
  scheme : String
  authority : Option Authority
  path : UrlPath
  query : Option String
  fragment : Option String
deriving DecidableEq, Repr

/-- Why a text is no URL. -/
inductive UrlError where
  | relative
  | emptyHost
  | invalidPort
  | invalidIpv4
  | invalidIpv6
  | invalidDomain
  | forbiddenCharacter
deriving DecidableEq, Repr

/-- The words for the error. -/
def UrlError.message : UrlError → String
  | .relative => "relative URL without a base"
  | .emptyHost => "empty host"
  | .invalidPort => "invalid port number"
  | .invalidIpv4 => "invalid IPv4 address"
  | .invalidIpv6 => "invalid IPv6 address"
  | .invalidDomain => "invalid international domain name"
  | .forbiddenCharacter => "invalid domain character"

/-- The port that a scheme stands for. -/
def defaultPort? (scheme : String) : Option Nat :=
  if scheme = "http" || scheme = "ws" then some 80
  else if scheme = "https" || scheme = "wss" then some 443
  else if scheme = "ftp" then some 21
  else none

/-- Whether the scheme is one of those whose URLs have the common form. -/
def isSpecial (scheme : String) : Bool :=
  (defaultPort? scheme).isSome || scheme = "file"

namespace UrlPath

/-- The text of a path: a slash before every segment. -/
def toText : UrlPath → String
  | segments names => String.join (names.map ("/" ++ ·))
  | plain text => text

end UrlPath

namespace Authority

/-- The user information with its mark, if there is any. -/
def userText (a : Authority) : String :=
  if a.username = "" && a.password = "" then ""
  else a.username ++ (if a.password = "" then "" else ":" ++ a.password) ++ "@"

/-- The port with its mark, if there is one. -/
def portText (a : Authority) : String :=
  match a.port with
  | some p => ":" ++ toString p
  | none => ""

/-- The text of the authority. -/
def toText (a : Authority) : String :=
  a.userText ++ a.host.toText ++ a.portText

end Authority

namespace Url

/-- Without an authority a path must not look as if it began with one. -/
def guardText (u : Url) : String :=
  match u.authority, u.path with
  | none, .segments ("" :: _ :: _) => "/."
  | _, _ => ""

/-- A part with its mark before it, if the part is there. -/
def markedText (mark : String) : Option String → String
  | some s => mark ++ s
  | none => ""

/-- The text of a URL. -/
def toText (u : Url) : String :=
  u.scheme ++ ":" ++ (u.authority.map fun a => "//" ++ a.toText).getD "" ++ u.guardText
    ++ u.path.toText ++ markedText "?" u.query ++ markedText "#" u.fragment

instance : ToString Url := ⟨toText⟩

/-- The host, if there is one that is not empty. -/
def host? (u : Url) : Option Host :=
  match u.authority with
  | some a => if a.host = .domain "" then none else some a.host
  | none => none

/-- The explicit port, if there is one. -/
def port? (u : Url) : Option Nat :=
  u.authority.bind (·.port)

/-- The port to connect to: the explicit one, or the one that the scheme stands for. -/
def effectivePort? (u : Url) : Option Nat :=
  u.port?.orElse fun _ => defaultPort? u.scheme

/-- The path and the query. -/
def target (u : Url) : String :=
  u.path.toText ++ markedText "?" u.query

/-- Drops the empty segments that a path ends with. -/
def dropEndSlashes (names : List String) : List String :=
  (names.reverse.dropWhile (· = "")).reverse

/-- The URL one segment further down: slashes at the end of its path do not count. -/
def child (u : Url) (name : String) : Url :=
  match u.path with
  | .segments names => { u with path := .segments (dropEndSlashes names ++ [name]) }
  | .plain text =>
    let stem := String.ofList (text.toList.reverse.dropWhile (· = '/')).reverse
    -- a plain path must not begin with a slash
    { u with path := .plain (if stem = "" then "%2F" ++ name else stem ++ "/" ++ name) }

end Url

end BuildBroker
