import BuildBroker.Text.Natural
import BuildBroker.Text.Bytes
import BuildBroker.Json.Number

/-!
# JSON Values

The values that the broker writes: a tree with ordered members, and its compact text. Inside a
string only a quote, a backslash and control characters are escaped.
-/

namespace BuildBroker.Json

/-- A JSON value; an object keeps the order of its members. -/
inductive Value where
  | null
  | bool (b : Bool)
  | number (n : Number)
  | string (s : String)
  | array (items : List Value)
  | object (members : List (String × Value))

namespace Value

/-- The escape of one character inside a string. -/
def escapeChar (c : Char) : List Char :=
  if c = '\x22' then ['\\', '\x22']
  else if c = '\\' then ['\\', '\\']
  else if c = '\x08' then ['\\', 'b']
  else if c = '\x09' then ['\\', 't']
  else if c = '\x0a' then ['\\', 'n']
  else if c = '\x0c' then ['\\', 'f']
  else if c = '\x0d' then ['\\', 'r']
  else if c.toNat < 0x20 then ['\\', 'u', '0', '0'] ++ Text.fixedHex 2 c.toNat
  else [c]

/-- A string with its quotes. -/
def renderString (s : String) : List Char :=
  '\x22' :: s.toList.flatMap escapeChar ++ ['\x22']

mutual

/-- The compact text of a value. -/
def chars : Value → List Char
  | null => "null".toList
  | bool true => "true".toList
  | bool false => "false".toList
  | number n => n.render.toList
  | string s => renderString s
  | array [] => ['[', ']']
  | array (v :: vs) => '[' :: chars v ++ itemChars vs
  | object [] => ['\x7b', '\x7d']
  | object ((k, v) :: ms) => '\x7b' :: renderString k ++ ':' :: chars v ++ memberChars ms

/-- The rest of an array after its first item. -/
def itemChars : List Value → List Char
  | [] => [']']
  | v :: vs => ',' :: chars v ++ itemChars vs

/-- The rest of an object after its first member. -/
def memberChars : List (String × Value) → List Char
  | [] => ['\x7d']
  | (k, v) :: ms => ',' :: renderString k ++ ':' :: chars v ++ memberChars ms

end

/-- The compact text of a value. -/
def render (v : Value) : String :=
  String.ofList v.chars

/-- The compact text of a value as it is sent. -/
def toBytes (v : Value) : Bytes :=
  Bytes.ofChars v.chars

/-- A text or nothing. -/
def ofText? : Option String → Value
  | some s => string s
  | none => null

/-- A counter as a number. -/
def ofNat (n : Nat) : Value :=
  number (.natural n)

end Value

end BuildBroker.Json
