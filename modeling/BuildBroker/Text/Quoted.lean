import BuildBroker.Text.Natural
import BuildBroker.Text.Printable

/-!
# Quoted Text

How a diagnostic shows a text exactly: between double quotes, with a backslash escape for a quote,
a backslash and every character that would not show.
-/

namespace BuildBroker.Text

/-- The escape of one character inside a quoted text. -/
def escapeChar (c : Char) : List Char :=
  if c = '\x22' then ['\\', '\x22']
  else if c = '\\' then ['\\', '\\']
  else if c = '\n' then ['\\', 'n']
  else if c = '\r' then ['\\', 'r']
  else if c = '\t' then ['\\', 't']
  else if c = '\x00' then ['\\', '0']
  else if isPrintable c && !isAttaching c then [c]
  else ['\\', 'u', '\x7b'] ++ Nat.toDigits 16 c.toNat ++ ['\x7d']

/-- The text between double quotes, escaped. -/
def quote (s : String) : String :=
  String.ofList (['\x22'] ++ s.toList.flatMap escapeChar ++ ['\x22'])

end BuildBroker.Text
