import Mathlib.Tactic.Simps.Basic
import Rollout.Session

/-!
# Laws of procedures

What each step of a procedure does to a session, as equations at a session, and the few ways in
which a session ever changes.
-/

namespace Rollout

namespace Session

/-- The session after an event. -/
@[simps]
def report (session : Session) (event : Event) : Session :=
  { session with log := session.log ++ [event] }

/-- The session after a token has been given out. -/
@[simps]
def draw (session : Session) : Session := { session with issued := session.issued + 1 }

/-- The session after an address has been entered. -/
@[simps]
def enter (session : Session) (contract : Contract) (address : Address) : Session :=
  { session with book := session.book.insert contract address }

/-- The session after a failure has been announced as that of a contract. -/
@[simps]
def announce (session : Session) (contract : Contract) (fault : Fault) : Session :=
  { session with
    announced := fault.token :: session.announced
    log := session.log ++ [.contractFailed contract.name fault.failure.message] }

/-- The session after a transaction has been handed over and events have been reported. -/
@[simps]
def broadcast (session : Session) (transaction : Transaction) (events : List Event) : Session :=
  { session with
    sent := session.sent ++ [transaction]
    log := session.log ++ events }

end Session

namespace Procedure

variable {α β : Type}

/-- The session that is left, whether with a value or with a failure. -/
def final : EStateM.Result Fault Session α → Session
  | .ok _ session => session
  | .error _ session => session

/-- The failure that leaves, if any. -/
def thrown? : EStateM.Result Fault Session α → Option Fault
  | .ok _ _ => none
  | .error fault _ => some fault

theorem pure_apply (value : α) (session : Session) :
    (pure value : Procedure α) session = .ok value session := rfl

theorem bind_apply (first : Procedure α) (next : α → Procedure β) (session : Session) :
    (first >>= next) session =
      match first session with
      | .ok value session => next value session
      | .error fault session => .error fault session := by
  cases result : first session <;> simp [bind, EStateM.bind, result]

theorem throw_apply (fault : Fault) (session : Session) :
    (throw fault : Procedure α) session = .error fault session := rfl

theorem get_apply (session : Session) :
    (get : Procedure Session) session = .ok session session := rfl

theorem set_apply (later session : Session) :
    (set later : Procedure PUnit) session = .ok ⟨⟩ later := rfl

/-- What the body of a handler has changed before it fails stays changed. -/
theorem tryCatch_apply (body : Procedure α) (handler : Fault → Procedure α) (session : Session) :
    (tryCatch body handler) session =
      match body session with
      | .ok value session => .ok value session
      | .error fault session => handler fault session := by
  change EStateM.tryCatch body handler session = _
  delta EStateM.tryCatch
  cases body session <;> rfl

theorem emit_apply (event : Event) (session : Session) :
    emit event session = .ok () (session.report event) := rfl

theorem fail_apply (failure : Failure) (session : Session) :
    (fail failure : Procedure α) session = .error ⟨session.issued, failure⟩ session.draw := rfl

theorem adopt_ok (value : α) : adopt (.ok value) = (pure value : Procedure α) := rfl

theorem adopt_error (failure : Failure) :
    adopt (.error failure) = (fail failure : Procedure α) := rfl

theorem record_apply (contract : Contract) (value : Value) (session : Session) :
    record contract value session =
      match Address.ofValue value with
      | .ok address => .ok address (session.enter contract address)
      | .error fault =>
          .error ⟨session.issued, .plain (fault.message contract.name)⟩ session.draw := by
  cases result : Address.ofValue value <;> simp only [record, result] <;> rfl

end Procedure

end Rollout
