import BuildBroker.Text.Blank
import BuildBroker.Env
import BuildBroker.Build.Error

/-!
# Submissions and Results

What a caller asks to be built, and the status that the executor reports in the end. Neither may be
blank where it counts: a submission names an image, a result names a status.
-/

namespace BuildBroker

/-- What a caller asks to be built. It never changes once the build is registered. -/
structure Submission where
  /-- The image that the build runs in. -/
  image : String
  /-- Where the uploaded bits go inside the build. -/
  path : String
  script : String
  env : Env
deriving DecidableEq, Inhabited

namespace Submission

/-- Whether the submission can be built at all; the cause if it cannot. -/
def validate (s : Submission) : Except BuildError Unit :=
  if Text.allBlank s.image then .error (.missingField "image") else .ok ()

/-- The members that a document has for the submission. -/
def members (s : Submission) : List (String × Json.Value) :=
  [("image", .string s.image), ("path", .string s.path), ("script", .string s.script),
    ("env", s.env.toValue)]

/-- The submission as a document. -/
def toValue (s : Submission) : Json.Value :=
  .object s.members

/-- A submission that is being read. -/
structure Draft where
  image : Option String
  path : Option String
  script : Option String
  env : Option Env

/-- How a submission is read: every field has a default. -/
def shape : Json.RecordShape Draft Submission where
  name := "BuildSubmission"
  fields := [
    .storing "image" false Draft.image (fun s x => { s with image := some x }) Json.decodeText,
    .storing "path" false Draft.path (fun s x => { s with path := some x }) Json.decodeText,
    .storing "script" false Draft.script (fun s x => { s with script := some x }) Json.decodeText,
    .storing "env" false Draft.env (fun s x => { s with env := some x }) Env.decode]
  start := ⟨none, none, none, none⟩
  finish := fun s => .ok {
    image := s.image.getD ""
    path := s.path.getD ""
    script := s.script.getD ""
    env := s.env.getD .empty }

/-- Reads a submission from a document. -/
def decode : Json.Doc → Json.Decoded Submission :=
  shape.decode

end Submission

/-- What the executor reports in the end. -/
structure BuildResult where
  status : String
deriving DecidableEq, Repr

namespace BuildResult

/-- Whether the result says anything; the cause if it does not. -/
def validate (r : BuildResult) : Except BuildError Unit :=
  if Text.allBlank r.status then .error (.missingField "status") else .ok ()

/-- The result as a document. -/
def toValue (r : BuildResult) : Json.Value :=
  .object [("status", .string r.status)]

/-- How a result is read: a missing status is empty. -/
def shape : Json.RecordShape (Option String) BuildResult where
  name := "BuildResult"
  fields := [.storing "status" false id (fun _ x => some x) Json.decodeText]
  start := none
  finish := fun s => .ok ⟨s.getD ""⟩

/-- Reads a result from a document. -/
def decode : Json.Doc → Json.Decoded BuildResult :=
  shape.decode

end BuildResult

end BuildBroker
