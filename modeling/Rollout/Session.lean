import Rollout.Event
import Rollout.Failure
import Rollout.Signer

/-!
# Sessions

A session is what a deployment changes while it goes on: the address book, the log of events and
the transactions handed to the signer.  A procedure is a step of a deployment that changes the
session and may fail; what it changed before it failed stays changed.  Failures carry a token, so
that the same failure can be recognised when it comes by again.
-/

namespace Rollout

/-- A failure on its way, with the token that tells it from others of the same content. -/
structure Fault where
  /-- The token; no two failures of a session share one. -/
  token : Nat
  /-- What failed. -/
  failure : Failure
  deriving Inhabited

/-- The state of a deployment. -/
structure Session where
  /-- The signer that takes the transactions. -/
  signer : Signer
  /-- The gas limit of every transaction, if fixed. -/
  gasLimit : Option Number
  /-- The known addresses. -/
  book : AddressBook
  /-- The events so far, in order. -/
  log : List Event
  /-- The transactions handed to the signer so far, in order. -/
  sent : List Transaction
  /-- The number of tokens given out. -/
  issued : Nat
  /-- The tokens of the failures that have been announced. -/
  announced : List Nat
  /-- Failures set aside under a name. -/
  kept : List (String × Fault)
  deriving Inhabited

/-- A step of a deployment. -/
abbrev Procedure (α : Type) := EStateM Fault Session α

namespace Session

/-- A session in which nothing has happened. -/
def start (signer : Signer) (gasLimit : Option Number) (book : AddressBook) : Session :=
  { signer
    gasLimit := gasLimit.filter fun limit => !limit.isZero
    book
    log := []
    sent := []
    issued := 0
    announced := []
    kept := [] }

end Session

namespace Procedure

/-- Report an event. -/
def emit (event : Event) : Procedure Unit :=
  modify fun session => { session with log := session.log ++ [event] }

/-- Give a failure a token of its own. -/
def issue (failure : Failure) : Procedure Fault := do
  let session ← get
  set { session with issued := session.issued + 1 }
  return ⟨session.issued, failure⟩

/-- Fail. -/
def fail {α : Type} (failure : Failure) : Procedure α := do
  throw (← issue failure)

/-- Take over a result. -/
def adopt {α : Type} : Except Failure α → Procedure α
  | .ok value => pure value
  | .error failure => fail failure

/-- Enter an address in the book. -/
def record (contract : Contract) (value : Value) : Procedure Address := do
  match Address.ofValue value with
  | .ok address =>
      modify fun session => { session with book := session.book.insert contract address }
      return address
  | .error fault => fail (.plain (fault.message contract.name))

end Procedure

end Rollout
