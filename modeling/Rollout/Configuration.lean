import Rollout.AddressBook

/-!
# Configured addresses

Addresses of contracts that are deployed already come from options or, where an option is absent
or blank, from the environment.  A blank value counts as absent.  Any other value must be an
address, and one that mixes letter cases must carry a valid checksum.
-/

namespace Rollout

/-- Why configured addresses are refused. -/
inductive ConfigurationFault where
  /-- There are no options or no environment to look addresses up in. -/
  | absent
  /-- The environment holds something other than a text. -/
  | notText (contract : Contract)
  /-- The value is not an address. -/
  | badAddress (contract : Contract) (fault : AddressFault)
  /-- The value mixes letter cases without being checksummed. -/
  | badChecksum (contract : Contract) (address : Address)

namespace Configuration

/-- How messages name the two sources of an address. -/
def label (contract : Contract) : String := "--" ++ contract.flag ++ " / " ++ contract.envName

/-- A text without the blanks around it. -/
def trimmed (content : String) : String := String.ofList (Text.trim content.toList)

/-- The option of a contract, empty when it is no text. -/
def optionText (options : Value) (contract : Contract) : String :=
  ((options.field contract.optionKey).text?.map trimmed).getD ""

/-- The environment variable of a contract, empty when it is not set. -/
def environmentText (environment : Value) (contract : Contract) :
    Except ConfigurationFault String :=
  if environment.isAbsent then .error .absent
  else
    match environment.field contract.envName with
    | .missing | .null => .ok ""
    | .text content => .ok (trimmed content)
    | _ => .error (.notText contract)

/-- The effective value of a contract: the option, unless it is blank, else the environment. -/
def effectiveText (options environment : Value) (contract : Contract) :
    Except ConfigurationFault String :=
  let option := optionText options contract
  if option = "" then environmentText environment contract else .ok option

/-- Accept the text of an address with a valid checksum. -/
def accept (contract : Contract) (content : String) : Except ConfigurationFault Address :=
  match Address.ofText content with
  | .error fault => .error (.badAddress contract fault)
  | .ok address => if address.isChecked then .ok address else .error (.badChecksum contract address)

/-- Collect the addresses of the given contracts. -/
def collect (options environment : Value) :
    List Contract → Except ConfigurationFault (List (Contract × Address))
  | [] => .ok []
  | contract :: rest => do
      let content ← effectiveText options environment contract
      if content = "" then collect options environment rest
      else do
        let address ← accept contract content
        let addresses ← collect options environment rest
        return (contract, address) :: addresses

/-- The configured addresses, in the order of the contract table. -/
def deployedContracts (options environment : Value) :
    Except ConfigurationFault (List (Contract × Address)) :=
  if options.isAbsent then .error .absent else collect options environment Contract.all

/-- Configured addresses in the form in which a run takes them. -/
def toDeployed (addresses : List (Contract × Address)) : Value :=
  .record (addresses.map fun entry => (entry.1.name, .text entry.2.text))

end Configuration

namespace ConfigurationFault

/-- What the complaint says. -/
def message : ConfigurationFault → String
  | absent => "expected a record of options and one of variables"
  | notText contract => "expected a text in " ++ contract.envName
  | badAddress contract fault => fault.message (Configuration.label contract)
  | badChecksum contract address =>
      "Invalid address checksum for " ++ Configuration.label contract ++ ": " ++ address.text

end ConfigurationFault

end Rollout
