import BuildBroker.Text.Blank
import BuildBroker.Uuid
import BuildBroker.Build.Error
import BuildBroker.Json.Decode

/-!
# Build Ids

A build is named by a unique identifier. In text it may stand in any form of an identifier, with
blanks around it.
-/

namespace BuildBroker

/-- The name of a build. -/
abbrev BuildId := Uuid

namespace BuildId

/-- Reads a build id; blanks around it do not count. -/
def ofText (s : String) : Except BuildError BuildId :=
  let t := Text.trim s
  if t.isEmpty then .error (.invalidId "build id cannot be empty")
  else match Uuid.ofText? t with
    | some id => .ok id
    | none => .error (.invalidId t)

/-- Reads a build id from a document, where nothing may stand around it. -/
def decode (d : Json.Doc) : Json.Decoded BuildId := do
  let s ← Json.decodeTextAs "a formatted UUID string" d
  match Uuid.ofText? s with
  | some id => .ok id
  | none => Json.unfit (.refused "UUID parsing failed")

/-- The id as a document holds it. -/
def toValue (id : BuildId) : Json.Value :=
  .string id.toText

end BuildId

end BuildBroker
