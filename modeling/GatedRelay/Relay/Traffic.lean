import GatedRelay.Publish.Shared
import GatedRelay.Relay.Pipeline

/-!
Requests that are on their way at the same time and publish to one outbox. Whose turn it is is
left open, and the outbox may be set to fail, or to work again, at any moment.
-/

namespace GatedRelay

/-- A request, and the worlds in which its programs run. -/
structure Arrival where
  context : RequestContext
  worlds : Expr.Role → Expr.World

/-- What a call has done with the outbox. Calls go by their numbers. -/
inductive Deed
  | met (call : Nat) (failing : Bool)
  | added (call : Nat) (payload : Bytes)
  deriving DecidableEq

namespace Deed

def call : Deed → Nat
  | met i _ => i
  | added i _ => i

def payload? : Deed → Option Bytes
  | met _ _ => none
  | added _ payload => some payload

end Deed

/-- The calls for some requests, each with the steps that are left to it, and all that they have
done so far. -/
structure Traffic where
  outbox : Outbox
  calls : List (Strand (Attempt Rejection AnswerBody))
  history : List Deed

inductive Turn
  | call (i : Nat)
  | setFailing (failing : Bool)
  deriving DecidableEq

namespace Traffic

def start (ps : Expr.ProgramSet) (o : Outbox) (arrivals : List Arrival) : Traffic :=
  ⟨o, arrivals.map fun a => ps.process a.worlds Strand.publish a.context, []⟩

/-- The next step of a call, if one is left. -/
def advance (t : Traffic) (i : Nat) : Traffic :=
  match t.calls[i]? with
  | some (.look next) =>
    ⟨t.outbox, t.calls.set i (next t.outbox.failing), t.history ++ [.met i t.outbox.failing]⟩
  | some (.put payload next) =>
    ⟨{ t.outbox with messages := t.outbox.messages ++ [payload] }, t.calls.set i next,
      t.history ++ [.added i payload]⟩
  | _ => t

def take (t : Traffic) : Turn → Traffic
  | .call i => t.advance i
  | .setFailing failing => { t with outbox := t.outbox.setFailing failing }

def run (t : Traffic) (turns : List Turn) : Traffic := turns.foldl take t

/-- What one call has done. -/
def deedsOf (t : Traffic) (i : Nat) : List Deed := t.history.filter fun d => d.call == i

/-- The payloads that one call has added to the outbox. -/
def addedBy (t : Traffic) (i : Nat) : List Bytes := (t.deedsOf i).filterMap Deed.payload?

/-- Whether a call has met the outbox while it was set to fail. -/
def metFailing (t : Traffic) (i : Nat) : Bool := t.history.contains (.met i true)

end Traffic

end GatedRelay
