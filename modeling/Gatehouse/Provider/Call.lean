import Gatehouse.Generation.Event
import Gatehouse.Generation.Request
import Gatehouse.Provider.Failure

/-!
# Calls of providers and what comes back

A call asks for a whole answer or for a stream. It may succeed, fail, or *break down*: a fault inside
the provider that carries some payload, about which nobody outside is told.

* `Answer` is the outcome of a call;
* `Item` is what a stream yields: chunks until a failure, a breakdown, or the end of the list. A stream
  may also stall: it then never yields again.
-/

namespace Gatehouse.Provider

open Gatehouse.Generation (Params Chunk)

/-- A call. -/
inductive Call where
  | generate (params : Params)
  | stream (params : Params)
  deriving DecidableEq, Repr

/-- The outcome of a call. -/
inductive Answer (α : Type) where
  | ok (a : α)
  | failed (failure : Failure)
  | brokeDown (payload : String)

/-- What a stream yields. -/
inductive Item where
  | chunk (c : Chunk)
  | failed (failure : Failure)
  | brokeDown (payload : String)
  | stalled
  deriving DecidableEq, Repr

end Gatehouse.Provider
