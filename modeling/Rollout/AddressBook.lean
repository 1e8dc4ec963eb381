import Rollout.Address
import Rollout.Contract

/-!
# The address book

Addresses known before a run or deployed during it, in the order in which the contracts were first
recorded.  Recording a contract again replaces its address and keeps its place.
-/

namespace Rollout

/-- Contracts with their addresses, each contract at most once. -/
structure AddressBook where
  /-- The entries in the order of first recording. -/
  entries : List (Contract × Address)
  deriving DecidableEq

/-- Why addresses known in advance are refused. -/
inductive SeedFault where
  /-- There is nothing to look addresses up in. -/
  | absent
  /-- The value of a contract is not an address. -/
  | badAddress (contract : Contract) (fault : AddressFault)

/-- What the complaint says. -/
def SeedFault.message : SeedFault → String
  | absent => "expected a record of addresses"
  | badAddress contract fault => fault.message contract.name

namespace AddressBook

/-- The book without entries. -/
def empty : AddressBook := ⟨[]⟩

instance : Inhabited AddressBook := ⟨empty⟩

/-- The recorded address of a contract. -/
def lookup (book : AddressBook) (contract : Contract) : Option Address :=
  (book.entries.find? fun entry => entry.1 == contract).map Prod.snd

/-- The number of entries. -/
def size (book : AddressBook) : Nat := book.entries.length

/-- Put an entry in its place among entries, or last. -/
def put (contract : Contract) (address : Address) :
    List (Contract × Address) → List (Contract × Address)
  | [] => [(contract, address)]
  | entry :: rest =>
      if entry.1 = contract then (contract, address) :: rest
      else entry :: put contract address rest

/-- Enter an address. -/
def insert (book : AddressBook) (contract : Contract) (address : Address) : AddressBook :=
  ⟨put contract address book.entries⟩

/-- Enter a value if it is an address. -/
def record (book : AddressBook) (contract : Contract) (value : Value) :
    Except AddressFault AddressBook :=
  (Address.ofValue value).map (book.insert contract)

/-- Enter the seeds of the given contracts, skipping those that are not given. -/
def seed (deployed : Value) : List Contract → AddressBook → Except SeedFault AddressBook
  | [], book => .ok book
  | contract :: rest, book =>
      let value := deployed.field contract.name
      if value.isGiven then
        match book.record contract value with
        | .ok book => seed deployed rest book
        | .error fault => .error (.badAddress contract fault)
      else seed deployed rest book

/-- The book of the addresses known in advance, entered in the order of the contract table. -/
def ofDeployed (deployed : Value) : Except SeedFault AddressBook :=
  if deployed.isAbsent then .error .absent else seed deployed Contract.all empty

/-- The exported line of an entry: the address in small letters. -/
def line (entry : Contract × Address) : String :=
  entry.1.envName ++ "=" ++ entry.2.lower ++ "\n"

/-- The exported lines, one for each entry. -/
def lines (book : AddressBook) : List String := book.entries.map line

/-- The exported lines as one text. -/
def toDotenv (book : AddressBook) : String := String.join book.lines

@[simp]
theorem entries_insert (book : AddressBook) (contract : Contract) (address : Address) :
    (book.insert contract address).entries = put contract address book.entries := rfl

theorem lookup_insert (book : AddressBook) (contract other : Contract) (address : Address) :
    (book.insert contract address).lookup other =
      if other = contract then some address else book.lookup other := by
  obtain ⟨entries⟩ := book
  simp only [lookup, insert]
  induction entries with
  | nil =>
      by_cases same : other = contract
      · simp [put, same]
      · have apart : contract ≠ other := fun eq => same eq.symm
        simp [put, same, apart]
  | cons entry rest ih =>
      by_cases here : entry.1 = contract
      · by_cases same : other = contract
        · simp [put, here, same]
        · have apart : contract ≠ other := fun eq => same eq.symm
          simp [put, here, same, apart]
      · by_cases same : entry.1 = other
        · have apart : other ≠ contract := fun eq => here (same.trans eq)
          simp [put, same, apart]
        · simp [put, here, same, ih]

end AddressBook

end Rollout
