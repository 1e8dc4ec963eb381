import Rollout.Command.Machine
import Rollout.Configuration
import Rollout.Proofs.Dotenv
import Rollout.Proofs.History

/-!
# Reading exported addresses back

The exported lines of a book are an environment file.  Where the environment consists of what it
assigns, the configured addresses are those of the book, in the order of the contract table and in
small letters: the checksum that mixed letters would have to pass plays no part.  A book of these
addresses exports the same lines, perhaps in another order.
-/

namespace Rollout

/-! ## Addresses in small letters -/

namespace Address

variable (address : Address)

theorem toList_lower : address.lower.toList = '0' :: 'x' :: address.lowerDigits :=
  String.toList_ofList

theorem lower_valid : isAddressText address.lower = true := by
  have hex : address.lowerDigits.all Text.isHexDigit = true := by
    rw [List.all_eq_true]
    intro c member
    exact Text.isHexDigit_of_isSmallDigit (address.lowerDigits_small c member)
  rw [isAddressText, toList_lower]
  simp [length_lowerDigits, hex]

/-- The address of the same account, written in small letters. -/
def lowered : Address := ⟨address.lower, address.lower_valid⟩

theorem digits_lowered : address.lowered.digits = address.lowerDigits := by
  rw [digits, lowered, toList_lower]
  rfl

theorem lower_lowered : address.lowered.lower = address.lower := by
  rw [lower, lowerDigits, digits_lowered, address.lowerDigits_small.map_lowerHex_eq]
  rfl

/-- Without capital letters there is no checksum to pass. -/
theorem isChecked_lowered : address.lowered.isChecked = true := by
  have small : address.lowerDigits.any Text.isUpperHex = false := by
    rw [List.any_eq_false]
    intro c member
    rw [Text.isUpperHex_of_isSmallDigit (address.lowerDigits_small c member)]
    exact Bool.false_ne_true
  rw [isChecked, digits_lowered, Checksum.accepts, Checksum.isMixed, small]
  rfl

theorem lower_plain : ∀ c ∈ address.lower.toList, Dotenv.isPlain c = true := by
  rw [toList_lower, List.forall_mem_cons, List.forall_mem_cons]
  refine ⟨by decide, by decide, fun c member => ?_⟩
  exact Dotenv.isPlain_of_isSmallDigit (address.lowerDigits_small c member)

theorem trimmed_lower : Configuration.trimmed address.lower = address.lower := by
  have solid : ∀ c ∈ address.lower.toList, Text.isBlank c = false :=
    fun c member => (Dotenv.isPlain_iff.mp (address.lower_plain c member)).1
  rw [Configuration.trimmed, Dotenv.trim_eq_self solid, String.ofList_toList]

end Address

/-- The environment that consists of what a file assigns. -/
def environmentOf (content : String) : Value :=
  Command.environmentValue (Dotenv.extend [] (Dotenv.parse content))

namespace AddressBook

/-! ## Books in the order of the contract table -/

/-- The book of a table of addresses. -/
def ofTable (table : Contract → Option Address) : AddressBook :=
  ⟨Contract.all.filterMap fun contract => (table contract).map fun address => (contract, address)⟩

theorem contracts_ofTable (table : Contract → Option Address) :
    (ofTable table).contracts = Contract.all.filter fun contract => (table contract).isSome := by
  rw [contracts, ofTable, List.map_filterMap, ← List.filterMap_eq_filter]
  congr 1
  funext contract
  cases known : table contract <;> simp [Option.guard, known]

theorem contracts_ofTable_nodup (table : Contract → Option Address) :
    (ofTable table).contracts.Nodup := by
  rw [contracts_ofTable]
  exact List.Nodup.filter _ (by decide)

theorem lookup_ofTable (table : Contract → Option Address) (contract : Contract) :
    (ofTable table).lookup contract = table contract := by
  refine Option.ext fun address => ?_
  rw [lookup_eq_some_iff (contracts_ofTable_nodup table), ofTable, List.mem_filterMap]
  constructor
  · rintro ⟨other, _, known⟩
    obtain ⟨found, known, same⟩ := Option.map_eq_some_iff.mp known
    cases same
    exact known
  · intro known
    exact ⟨contract, contract.mem_all, by rw [known, Option.map_some]⟩

theorem entries_ofTable_lookup {book : AddressBook} (distinct : book.contracts.Nodup) :
    (ofTable book.lookup).entries.Perm book.entries := by
  have tabled := contracts_ofTable_nodup book.lookup
  rw [List.perm_ext_iff_of_nodup (.of_map _ tabled) (.of_map _ distinct)]
  rintro ⟨contract, address⟩
  rw [← lookup_eq_some_iff tabled, ← lookup_eq_some_iff distinct, lookup_ofTable]

/-- The same accounts in the order of the contract table, written in small letters. -/
def canonical (book : AddressBook) : AddressBook :=
  ofTable fun contract => (book.lookup contract).map Address.lowered

theorem lookup_canonical (book : AddressBook) (contract : Contract) :
    book.canonical.lookup contract = (book.lookup contract).map Address.lowered :=
  lookup_ofTable _ contract

theorem contracts_canonical (book : AddressBook) :
    book.canonical.contracts = Contract.all.filter fun contract => contract ∈ book.contracts := by
  rw [canonical, contracts_ofTable]
  congr 1
  funext contract
  rw [Option.isSome_map, Bool.eq_iff_iff, decide_eq_true_iff, Option.isSome_iff_ne_none, ne_eq,
    lookup_eq_none_iff, not_not]

/-- Neither the order nor the letter case matters to what is exported. -/
theorem lines_canonical {book : AddressBook} (distinct : book.contracts.Nodup) :
    book.canonical.lines.Perm book.lines := by
  have small : book.canonical.lines = (ofTable book.lookup).lines := by
    rw [lines, lines, canonical, ofTable, ofTable, List.map_filterMap, List.map_filterMap]
    congr 1
    funext contract
    cases book.lookup contract with
    | none => rfl
    | some address => simp [line, Address.lower_lowered]
  rw [small]
  exact (entries_ofTable_lookup distinct).map line

/-! ## The exported text as an environment -/

/-- What the exported line of an entry assigns. -/
def assignment (entry : Contract × Address) : String × String :=
  (entry.1.envName, entry.2.lower)

theorem assignment_plain (entry : Contract × Address) : Dotenv.Plain (assignment entry) := by
  obtain ⟨contract, address⟩ := entry
  have named : contract.envName.toList ≠ [] ∧
      contract.envName.toList.all Dotenv.isNamePart = true := by
    cases contract <;> decide +kernel
  exact ⟨named.1, List.all_eq_true.mp named.2, by simp [assignment, Address.toList_lower],
    address.lower_plain⟩

theorem parse_toDotenv (book : AddressBook) :
    Dotenv.parse book.toDotenv = book.entries.map assignment := by
  have lines : book.lines = (book.entries.map assignment).map Dotenv.assign := by
    rw [List.map_map]
    rfl
  rw [toDotenv, lines]
  refine Dotenv.parse_join fun entry member => ?_
  obtain ⟨given, _, rfl⟩ := List.mem_map.mp member
  exact assignment_plain given

/-- The entry of a contract among fields that are named for contracts. -/
theorem field_map {name : Contract → String} (distinct : Function.Injective name)
    (value : Address → Value) (book : AddressBook) (contract : Contract) :
    (Value.record (book.entries.map fun entry => (name entry.1, value entry.2))).field
      (name contract) = ((book.lookup contract).map value).getD .missing := by
  have same : ((fun entry : String × Value => entry.1 == name contract) ∘
      fun entry : Contract × Address => (name entry.1, value entry.2)) =
        fun entry => entry.1 == contract := by
    funext entry
    rw [Bool.eq_iff_iff, Function.comp_apply, beq_iff_eq, beq_iff_eq]
    exact distinct.eq_iff
  simp only [Value.field, Value.field?, List.find?_map, same, lookup, Option.map_map]
  rfl

theorem field_environmentOf {book : AddressBook} (distinct : book.contracts.Nodup)
    (contract : Contract) :
    (environmentOf book.toDotenv).field contract.envName =
      ((book.lookup contract).map fun address => .text address.lower).getD .missing := by
  have assigned : environmentOf book.toDotenv =
      .record (book.entries.reverse.map fun entry =>
        (entry.1.envName, .text entry.2.lower)) := by
    simp [environmentOf, Command.environmentValue, Dotenv.extend, parse_toDotenv, assignment,
      Function.comp_def]
  -- The last assignment of a name counts, but no name has two.
  rw [assigned, ← lookup_reverse distinct]
  exact field_map Contract.envName_injective (fun address => .text address.lower)
    ⟨book.entries.reverse⟩ contract

theorem effectiveText_environmentOf {book : AddressBook} (distinct : book.contracts.Nodup)
    (contract : Contract) :
    Configuration.effectiveText (.record []) (environmentOf book.toDotenv) contract =
      .ok (((book.lookup contract).map Address.lower).getD "") := by
  have unset : Configuration.optionText (.record []) contract = "" := rfl
  simp only [Configuration.effectiveText, unset, if_true, Configuration.environmentText,
    field_environmentOf distinct]
  cases book.lookup contract with
  | none => rfl
  | some address =>
      simp only [Option.map_some, Option.getD_some, Address.trimmed_lower]
      rfl

theorem accept_lower (contract : Contract) (address : Address) :
    Configuration.accept contract address.lower = .ok address.lowered := by
  have read : Address.ofText address.lower = .ok address.lowered := address.lowered.ofText_text
  rw [Configuration.accept, read]
  simp only [address.isChecked_lowered, if_true]

theorem collect_environmentOf {book : AddressBook} (distinct : book.contracts.Nodup)
    (contracts : List Contract) :
    Configuration.collect (.record []) (environmentOf book.toDotenv) contracts =
      .ok (contracts.filterMap fun contract =>
        ((book.lookup contract).map Address.lowered).map fun address => (contract, address)) := by
  induction contracts with
  | nil => rfl
  | cons contract rest ih =>
      rw [Configuration.collect, effectiveText_environmentOf distinct, List.filterMap_cons]
      cases book.lookup contract with
      | none => exact ih
      | some address =>
          have given : address.lower ≠ "" := address.lowered.text_ne_empty
          simp only [Option.map_some, Option.getD_some, bind, Except.bind, if_neg given,
            accept_lower, ih]
          rfl

theorem deployedContracts_environmentOf {book : AddressBook} (distinct : book.contracts.Nodup) :
    Configuration.deployedContracts (.record []) (environmentOf book.toDotenv) =
      .ok book.canonical.entries := by
  have given : (Value.record []).isAbsent = false := rfl
  rw [Configuration.deployedContracts, given, if_neg Bool.false_ne_true,
    collect_environmentOf distinct]
  rfl

/-! ## The configured addresses as seeds -/

theorem field_toDeployed (book : AddressBook) (contract : Contract) :
    (Configuration.toDeployed book.entries).field contract.name =
      ((book.lookup contract).map fun address => .text address.text).getD .missing :=
  field_map Contract.name_injective (fun address => .text address.text) book contract

theorem seedEntries_toDeployed (table : Contract → Option Address) :
    seedEntries (Configuration.toDeployed (ofTable table).entries) Contract.all =
      (ofTable table).entries := by
  have values : ∀ contract : Contract,
      (Address.ofValue ((Configuration.toDeployed (ofTable table).entries).field
        contract.name)).toOption = table contract := by
    intro contract
    rw [field_toDeployed, lookup_ofTable]
    cases table contract with
    | none => rfl
    | some address => exact congrArg Except.toOption address.ofText_text
  simp only [seedEntries, values]
  rfl

theorem toDeployed_valid (book : AddressBook) (contract : Contract)
    (given : ((Configuration.toDeployed book.entries).field contract.name).isGiven = true) :
    (Address.ofValue ((Configuration.toDeployed book.entries).field contract.name)).isOk =
      true := by
  rw [field_toDeployed] at given ⊢
  cases known : book.lookup contract with
  | none =>
      rw [known] at given
      contradiction
  | some address =>
      have read : Address.ofValue (.text address.text) = .ok address := address.ofText_text
      simp only [Option.map_some, Option.getD_some, read]
      rfl

theorem ofDeployed_toDeployed (table : Contract → Option Address) :
    ofDeployed (Configuration.toDeployed (ofTable table).entries) = .ok (ofTable table) := by
  have given : (Configuration.toDeployed (ofTable table).entries).isAbsent = false := rfl
  have fresh : ∀ contract ∈ Contract.all, AddressBook.empty.lookup contract = none :=
    fun _ _ => rfl
  rw [ofDeployed, given, if_neg Bool.false_ne_true,
    seed_eq (fun contract _ => toDeployed_valid (ofTable table) contract) (by decide) fresh,
    seedEntries_toDeployed]
  rfl

/-- One book holds what another one does, in the order of the contract table and in small
letters. -/
structure Rereads (book again : AddressBook) : Prop where
  contracts : again.contracts = Contract.all.filter fun contract => contract ∈ book.contracts
  addresses : ∀ contract, (again.lookup contract).map Address.text =
    (book.lookup contract).map Address.lower
  lines : again.lines.Perm book.lines

theorem rereads_canonical {book : AddressBook} (distinct : book.contracts.Nodup) :
    book.Rereads book.canonical where
  contracts := book.contracts_canonical
  addresses := by
    intro contract
    rw [lookup_canonical, Option.map_map]
    rfl
  lines := lines_canonical distinct

/-- The exported text of a book, however its addresses have been entered, gives the same book when
it is read back. -/
theorem rereads_export (deployed : Value) (first : AddressBook)
    (seeded : ofDeployed deployed = .ok first) (records : List (Contract × Value)) :
    ∃ addresses again,
      Configuration.deployedContracts (.record [])
          (environmentOf (first.recordEach records).toDotenv) = .ok addresses ∧
        ofDeployed (Configuration.toDeployed addresses) = .ok again ∧
        (first.recordEach records).Rereads again := by
  have distinct : (first.recordEach records).contracts.Nodup :=
    ((Started.deployed seeded).keeps.recordEach records).once
  exact ⟨_, _, deployedContracts_environmentOf distinct, ofDeployed_toDeployed _,
    rereads_canonical distinct⟩

/-- Two addresses known in advance, one of them in mixed letters. -/
def mixedDeployed : Value :=
  .record
    [("LightClient", .text "0xABCDEFabcdef0123456789ABCDEFabcdef012345"),
      ("HotShot", .text "0x00000000000000000000000000000000000000aA")]

/-- A new entry, a value that is no address, and a second address for a known contract. -/
def mixedRecords : List (Contract × Value) :=
  [(.plonkVerifier, .text "0xFEDCBA9876543210fedcba9876543210FEDCBA98"),
    (.stateUpdateVK, .bool true),
    (.lightClient, .text "0xabcdefABCDEF0123456789abcdefABCDEF012345")]

/-- The book of the addresses known in advance. -/
def mixedFirst : AddressBook := ⟨seedEntries mixedDeployed Contract.all⟩

theorem rereads_export_mixed :
    ofDeployed mixedDeployed = .ok mixedFirst ∧
      (mixedFirst.recordEach mixedRecords).contracts =
        [.hotShot, .lightClient, .plonkVerifier] ∧
      ∃ addresses again,
        Configuration.deployedContracts (.record [])
            (environmentOf (mixedFirst.recordEach mixedRecords).toDotenv) = .ok addresses ∧
          ofDeployed (Configuration.toDeployed addresses) = .ok again ∧
          (mixedFirst.recordEach mixedRecords).Rereads again := by
  have seeded : ofDeployed mixedDeployed = .ok mixedFirst :=
    eq_ok_of_toOption (by decide +kernel)
  exact ⟨seeded, by decide +kernel, rereads_export mixedDeployed mixedFirst seeded mixedRecords⟩

end AddressBook

end Rollout
