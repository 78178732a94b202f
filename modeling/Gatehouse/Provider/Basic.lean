import Gatehouse.Provider.Remote
import Gatehouse.Provider.Scripted

/-!
# Providers

A provider is reached over the network or follows a script. Besides doing its work it keeps an
`Account` of how it was used.

* `Provider.generate`, `Provider.stream` and `Provider.close` are the operations;
* `Provider.settle` books what became of a stream: how many of its items were taken, and that it was
  let go.
-/

namespace Gatehouse

open Gatehouse.Generation
open Gatehouse.Provider (Remote Scripted Call Answer Item Failure WireRequest)

namespace Provider

/-- How a provider was used. -/
structure Account where
  calls : List Call
  requests : List WireRequest
  itemsTaken : Nat
  streamsReleased : Nat
  closings : Nat
  deriving DecidableEq, Repr

/-- Nothing has happened. -/
def Account.empty : Account := ⟨[], [], 0, 0, 0⟩

/-- What answers the calls. -/
inductive Engine where
  | remote (r : Remote)
  | scripted (s : Scripted)

end Provider

/-- A provider and the account of its use. -/
structure Provider where
  engine : Provider.Engine
  account : Provider.Account

namespace Provider

/-- A provider that has not been used. -/
def ofEngine (e : Engine) : Provider := ⟨e, .empty⟩

/-- The models it offers. -/
def models (p : Provider) : List String :=
  match p.engine with
  | .remote r => r.models
  | .scripted s => s.models

/-- Are there credentials? -/
def isConfigured (p : Provider) : Bool :=
  match p.engine with
  | .remote r => r.isConfigured
  | .scripted s => s.configured

/-- The outcome of sending a request, as an answer. -/
def answerOf {α : Type} : Except Failure α → Answer α
  | .ok a => .ok a
  | .error f => .failed f

/-- The account after a call and the requests that were answered for it. -/
def Account.called (a : Account) (c : Call) (requests : List WireRequest) : Account :=
  { a with calls := a.calls ++ [c], requests := a.requests ++ requests }

/-- Asks for a whole answer. -/
def generate (p : Provider) (params : Params) : Answer Reply × Provider :=
  match p.engine with
  | .remote r =>
    let s := r.generate params
    (answerOf s.outcome, ⟨.remote s.after, p.account.called (.generate params) s.requests⟩)
  | .scripted s =>
    let (answer, s) := s.generate params
    (answer, ⟨.scripted s, p.account.called (.generate params) []⟩)

/-- Asks for a stream. -/
def stream (p : Provider) (params : Params) : Answer (List Item) × Provider :=
  match p.engine with
  | .remote r =>
    let s := r.stream params
    (answerOf s.outcome, ⟨.remote s.after, p.account.called (.stream params) s.requests⟩)
  | .scripted s =>
    let (answer, s) := s.stream
    (answer, ⟨.scripted s, p.account.called (.stream params) []⟩)

/-- Books that a stream was let go after `taken` of its items. -/
def settle (p : Provider) (taken : Nat) : Provider :=
  { p with account := { p.account with
      itemsTaken := p.account.itemsTaken + taken
      streamsReleased := p.account.streamsReleased + 1 } }

/-- Closes the provider. It may report a failure, but it is closed all the same. -/
def close (p : Provider) : Except Failure Unit × Provider :=
  let account := { p.account with closings := p.account.closings + 1 }
  match p.engine with
  | .remote r => (.ok (), ⟨.remote r.close, account⟩)
  | .scripted s =>
    (match s.closeFailure with
      | some f => .error f
      | none => .ok (), ⟨.scripted s, account⟩)

/-- The provider with a new account. -/
def settleUp (p : Provider) : Provider := { p with account := .empty }

end Provider

end Gatehouse
