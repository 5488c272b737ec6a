/-!
# What Can Be Wrong with a Build

The causes for which the parts of a build are refused, and their wording.
-/

namespace BuildBroker

/-- Why a part of a build is refused. -/
inductive BuildError where
  | invalidId (text : String)
  | missingField (name : String)
  | invalidUrl (text : String)
deriving DecidableEq, Repr

/-- The words for the error. -/
def BuildError.message : BuildError → String
  | .invalidId text => "invalid build id: " ++ text
  | .missingField name => "missing build " ++ name
  | .invalidUrl text => "invalid url: " ++ text

end BuildBroker
