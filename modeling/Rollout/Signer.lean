import Rollout.Text.Hex
import Rollout.Value

/-!
# Signers

A signer takes transactions one after the other.  What becomes of them is given in advance: the
n-th transaction meets the n-th outcome, and where none is given it is accepted and mined.
-/

namespace Rollout

/-- A transaction as it is handed to a signer. -/
structure Transaction where
  /-- The receiver; none creates a contract. -/
  receiver : Option String
  /-- The data. -/
  data : String
  /-- The most that it may spend, if fixed. -/
  gasLimit : Option Number
  deriving DecidableEq, Inhabited

/-- What becomes of an accepted transaction. -/
inductive Confirmation where
  /-- Waiting for it fails. -/
  | lost (message : String)
  /-- It has no receipt. -/
  | dropped
  /-- It is mined; the given fields stand in the receipt in place of the usual ones. -/
  | mined (fields : List (String × Value))
  deriving Inhabited

/-- What becomes of a transaction. -/
inductive Outcome where
  /-- The signer refuses it. -/
  | refused (message : String)
  /-- The signer accepts it, under a hash of its own or the usual one. -/
  | accepted (hash : Option String) (confirmation : Confirmation)
  deriving Inhabited

namespace Outcome

/-- The outcome of a transaction about which nothing is given. -/
def usual : Outcome := .accepted none (.mined [])

end Outcome

/-- A signer with the outcomes of its transactions. -/
structure Signer where
  /-- The account that pays. -/
  address : String
  /-- The number of the chain. -/
  chainId : Int
  /-- Whether the chain can be asked. -/
  connected : Bool
  /-- The outcomes of the first transactions, in order. -/
  outcomes : List Outcome
  deriving Inhabited

namespace Signer

/-- The number of the chain of a signer about which nothing is given. -/
def usualChainId : Int := 31337

/-- The account of a signer about which nothing is given. -/
def usualAddress : String := "0x000000000000000000000000000000000000dead"

/-- The outcome of the n-th transaction, counted from one. -/
def outcome (signer : Signer) (n : Nat) : Outcome := signer.outcomes.getD (n - 1) Outcome.usual

/-- The account that pays and the number of its chain, if the chain can be asked. -/
def info (signer : Signer) : Except String (String × Number) :=
  if signer.connected then .ok (signer.address, Number.ofInt signer.chainId)
  else .error "Signer is not connected to a provider"

end Signer

/-- The usual hash of the n-th transaction. -/
def Transaction.usualHash (n : Nat) : String := String.ofList ('0' :: 'x' :: Text.hexOfWidth 64 n)

/-- The usual address of a contract that the n-th transaction creates. -/
def Transaction.usualContract (n : Nat) : String :=
  String.ofList ('0' :: 'x' :: Text.hexOfWidth 40 n)

/-- The receipt of a mined transaction. -/
structure Receipt where
  /-- The fields by name. -/
  fields : List (String × Value)
  deriving Inhabited

namespace Receipt

/-- The receipt of the n-th transaction with some fields replaced or added. -/
def ofFields (n : Nat) (hash : String) (fields : List (String × Value)) : Receipt :=
  let usual :=
    [("status", .number (.int 1)), ("contractAddress", .text (Transaction.usualContract n)),
      ("blockNumber", .number (.int n)), ("hash", .text hash)]
  ⟨fields.foldl (fun fields entry => Value.setField entry.1 entry.2 fields) usual⟩

/-- A field of the receipt. -/
def field (receipt : Receipt) (name : String) : Value := (Value.record receipt.fields).field name

/-- Whether the transaction has taken effect. -/
def succeeded (receipt : Receipt) : Bool :=
  match receipt.field "status" with
  | .number status => status == .int 1
  | _ => false

/-- The address of the created contract, as far as the receipt gives one. -/
def contractAddress (receipt : Receipt) : Value :=
  match receipt.field "contractAddress" with
  | .null => .missing
  | value => value

end Receipt

end Rollout
