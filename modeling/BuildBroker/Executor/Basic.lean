import BuildBroker.Text.Bytes
import BuildBroker.Url.Basic

/-!
# Requests Passed On to the Executor

What a caller asks of the executor through the broker, and what the executor answers to it.
-/

namespace BuildBroker

/-- A request that is passed on to the executor. -/
structure RelayRequest where
  url : Url
  method : String
  contentType : Option String
  body : Bytes
deriving DecidableEq

/-- What the executor answered to a request that was passed on. -/
structure RelayAnswer where
  status : Nat
  contentType : Option String
  body : Bytes
deriving DecidableEq, Repr

end BuildBroker
