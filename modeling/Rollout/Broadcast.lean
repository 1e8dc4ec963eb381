import Rollout.Abi.Encode
import Rollout.Session

/-!
# Broadcasting transactions

Handing a transaction to the signer, reporting its fate and waiting for its receipt.  A contract is
created by a transaction without a receiver whose data is the creation image, in small letters,
followed by the encoded arguments; nothing is sent when the data cannot be put together.
-/

namespace Rollout.Broadcast

open Procedure

/-- The number of characters of the data that reports show. -/
def previewLength : Nat := 42

/-- Hand a transaction to the signer; the answer is its hash and what becomes of it. -/
def submit (receiver : Option String) (data : String) :
    Procedure (Nat × String × Confirmation) := do
  let session ← get
  let sent := session.sent ++ [{ receiver, data, gasLimit := session.gasLimit }]
  set { session with sent }
  match session.signer.outcome sent.length with
  | .refused message => fail (.plain message)
  | .accepted hash confirmation =>
      return (sent.length, hash.getD (Transaction.usualHash sent.length), confirmation)

/-- What a transaction does, as failures name it. -/
def purpose (receiver contractName : Option String) : String :=
  match contractName.filter (· != "") with
  | some name => "Contract creation for " ++ name
  | none => "Transaction to " ++ receiver.getD "null"

/-- The receipt of the n-th transaction, once there is one. -/
def await (n : Nat) (hash : String) : Confirmation → Procedure (Option Receipt)
  | .lost message => fail (.plain message)
  | .dropped => return none
  | .mined fields => return some (.ofFields n hash fields)

/-- Send a transaction and wait until it has taken effect. -/
def send (receiver : Option String) (data : String) (contractName : Option String) :
    Procedure Receipt := do
  let (n, hash, confirmation) ← submit receiver data
  let preview := String.ofList (Text.takeUnits previewLength data.toList)
  emit (.transactionSent (receiver.getD "contract creation") contractName preview hash)
  let reverted : Failure :=
    .plain (purpose receiver contractName ++ " failed (reverted). Hash: " ++ hash)
  match ← await n hash confirmation with
  | none => fail reverted
  | some receipt =>
      if receipt.succeeded then
        emit (.transactionConfirmed hash (receipt.field "blockNumber") receipt.contractAddress)
        return receipt
      else fail reverted

/-- The data of a creation transaction. -/
def creationData (image : CreationImage) (arguments : Option Arguments) :
    Except ArgumentFault String := do
  let encoded ← encodeArguments arguments
  let code ← Abi.dataDigits (.text image.bytecode)
  return String.ofList ('0' :: 'x' :: (code ++ encoded))

/-- The failure of a creation that has given no address; the message shows the hash of the
receipt. -/
def missingAddress (contractName : String) (receipt : Receipt) : Failure :=
  match (receipt.field "hash").display? with
  | some hash =>
      .plain ("Contract creation for " ++ contractName ++
        " did not return a contract address. Hash: " ++ hash)
  | none => .unshowable

/-- Create a contract; the answer is its address as the receipt gives it. -/
def createContract (image : CreationImage) (arguments : Option Arguments) : Procedure Value := do
  let data ← adopt ((creationData image arguments).mapError Failure.argument)
  let receipt ← send none data (some image.contractName)
  let address := receipt.contractAddress
  if address.isGiven then return address else fail (missingAddress image.contractName receipt)

/-- The account that pays and the number of its chain. -/
def signerInfo : Procedure (String × Number) := do
  adopt ((← get).signer.info.mapError Failure.plain)

end Rollout.Broadcast
