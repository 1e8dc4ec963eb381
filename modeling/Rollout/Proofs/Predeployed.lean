import Rollout.Proofs.Checksum
import Rollout.Proofs.Configuration
import Rollout.Proofs.Export

/-!
# Addresses of contracts that are deployed already

What is given for a contract is its option or, where that is blank or no text, its variable.  If
each of these texts is an address in order, all of them are collected, and a book takes them as they
are; otherwise the first text that is not in order is refused.
-/

namespace Rollout.Configuration

/-! ## What is given for a contract -/

/-- The text given for a contract, without the blanks around it: its option, if that is a text and
not blank, else its setting in the environment; empty if there is neither. -/
def givenText (options : List (String × Value)) (environment : List (String × String))
    (contract : Contract) : String :=
  let setting := ((Command.setting? environment contract.envName).map trimmed).getD ""
  match (Value.record options).field contract.optionKey with
  | .text content => if trimmed content = "" then setting else trimmed content
  | _ => setting

theorem effectiveText_record (options : List (String × Value))
    (environment : List (String × String)) (contract : Contract) :
    effectiveText (.record options) (Command.environmentValue environment) contract =
      .ok (givenText options environment contract) := by
  have fallback : environmentText (Command.environmentValue environment) contract =
      .ok (((Command.setting? environment contract.envName).map trimmed).getD "") := by
    have present : (Command.environmentValue environment).isAbsent = false := rfl
    rw [environmentText, present, if_neg Bool.false_ne_true, Command.field_environmentValue]
    cases Command.setting? environment contract.envName <;> rfl
  simp only [effectiveText, optionText, givenText, fallback]
  cases (Value.record options).field contract.optionKey with
  | text content =>
      simp only [Value.text?, Option.map_some, Option.getD_some]
      exact (apply_ite Except.ok _ _ _).symm
  | _ => rfl

/-! ## Texts in order -/

/-- A text spells an address, with the checksum if it has letters of both cases. -/
def InOrder (content : String) : Prop :=
  ∃ digits, SpellsAddress content digits ∧ (Checksum.IsMixed digits → Checksum.IsMarked digits)

/-- Why a text given for a contract is refused. -/
inductive Objection (contract : Contract) (content : String) : ConfigurationFault → Prop
  | malformed (unspelled : ∀ digits, ¬ SpellsAddress content digits) :
      Objection contract content (.badAddress contract (.malformed content))
  | unmarked {digits : List Char} {address : Address} (spells : SpellsAddress content digits)
      (text : address.text = content) (mixed : Checksum.IsMixed digits)
      (unmarked : ¬ Checksum.IsMarked digits) :
      Objection contract content (.badChecksum contract address)

theorem inOrder_iff {content : String} : InOrder content ↔ Acceptable content := by
  constructor
  · rintro ⟨digits, spells, checked⟩
    let address : Address := ⟨content, spells.valid⟩
    have same : address.digits = digits := spells.digits_eq
    exact ⟨address, rfl, Address.isChecked_iff.mpr (same ▸ checked)⟩
  · rintro ⟨address, rfl, checked⟩
    exact ⟨address.digits, address.spells_text, Address.isChecked_iff.mp checked⟩

theorem accept_eq_error {contract : Contract} {content : String} {fault : ConfigurationFault} :
    accept contract content = .error fault ↔ Objection contract content fault := by
  by_cases valid : isAddressText content = true
  · obtain ⟨address, rfl⟩ : ∃ address : Address, address.text = content := ⟨⟨content, valid⟩, rfl⟩
    simp only [accept, address.ofText_text]
    by_cases checked : address.isChecked = true
    · rw [if_pos checked]
      refine iff_of_false (by simp) ?_
      rintro (unspelled | ⟨spells, text, mixed, unmarked⟩)
      · exact unspelled _ address.spells_text
      · rw [← spells.digits_eq] at mixed unmarked
        exact unmarked (Address.isChecked_iff.mp checked mixed)
    · have bad := mt Address.isChecked_iff.mpr checked
      rw [Classical.not_imp] at bad
      rw [if_neg checked, Except.error.injEq]
      constructor
      · rintro rfl
        exact .unmarked address.spells_text rfl bad.1 bad.2
      · rintro (unspelled | ⟨spells, text, mixed, unmarked⟩)
        · exact absurd address.spells_text (unspelled _)
        · rw [Address.text_injective text]
  · have unspelled : ∀ digits, ¬ SpellsAddress content digits :=
      fun digits spells => valid spells.valid
    simp only [accept, Address.ofText, dif_neg valid, Except.error.injEq]
    constructor
    · rintro rfl
      exact .malformed unspelled
    · rintro (_ | ⟨spells, _, _, _⟩)
      · rfl
      · exact absurd spells (unspelled _)

/-! ## The first text that is not in order -/

theorem exists_first_cons {α : Type} {passes found : α → Prop} {head : α} {rest : List α} :
    (∃ before item after, head :: rest = before ++ item :: after ∧
        (∀ other ∈ before, passes other) ∧ found item) ↔
      found head ∨ passes head ∧ ∃ before item after, rest = before ++ item :: after ∧
        (∀ other ∈ before, passes other) ∧ found item := by
  constructor
  · rintro ⟨before, item, after, shape, earlier, here⟩
    cases before with
    | nil =>
        cases shape
        exact .inl here
    | cons other before =>
        cases shape
        rw [List.forall_mem_cons] at earlier
        exact .inr ⟨earlier.1, before, item, after, rfl, earlier.2, here⟩
  · rintro (here | ⟨first, before, item, after, rfl, earlier, here⟩)
    · exact ⟨[], head, rest, rfl, nofun, here⟩
    · exact ⟨head :: before, item, after, rfl, List.forall_mem_cons.mpr ⟨first, earlier⟩, here⟩

section Collect

variable {options environment : Value} {text : Contract → String}
  (effective : ∀ contract, effectiveText options environment contract = .ok (text contract))

include effective in
theorem collect_cons (contract : Contract) (rest : List Contract) :
    collect options environment (contract :: rest) =
      if text contract = "" then collect options environment rest
      else (do
        let address ← accept contract (text contract)
        let addresses ← collect options environment rest
        return (contract, address) :: addresses) := by
  simp only [collect, effective, bind, Except.bind]

include effective in
theorem collect_eq_error {contracts : List Contract} {fault : ConfigurationFault} :
    collect options environment contracts = .error fault ↔
      ∃ before contract after, contracts = before ++ contract :: after ∧
        (∀ other ∈ before, text other ≠ "" → InOrder (text other)) ∧
        text contract ≠ "" ∧ Objection contract (text contract) fault := by
  induction contracts with
  | nil =>
      refine iff_of_false (fun same => nomatch same) ?_
      rintro ⟨before, contract, after, shape, _⟩
      exact List.append_ne_nil_of_right_ne_nil before (List.cons_ne_nil _ _) shape.symm
  | cons contract rest ih =>
      rw [exists_first_cons, ← ih, collect_cons effective, ← accept_eq_error]
      by_cases blank : text contract = ""
      · simp [blank]
      · cases accepted : accept contract (text contract) with
        | ok address =>
            have passes := inOrder_iff.mpr (exists_accept_iff.mp ⟨address, accepted⟩)
            simp [blank, passes, bind_eq_error, pure, Except.pure]
        | error objection =>
            have fails : ¬ InOrder (text contract) := by
              rw [inOrder_iff, ← @exists_accept_iff contract, accepted]
              exact fun ⟨_, same⟩ => nomatch same
            simp [blank, fails, bind_eq_error]

include effective in
theorem collect_eq_ok {contracts : List Contract} {addresses : List (Contract × Address)}
    (collected : collect options environment contracts = .ok addresses) :
    addresses = contracts.filterMap fun contract =>
      (Address.ofText (text contract)).toOption.map fun address => (contract, address) := by
  induction contracts generalizing addresses with
  | nil => exact (Except.ok.inj collected).symm
  | cons contract rest ih =>
      rw [collect_cons effective] at collected
      by_cases blank : text contract = ""
      · rw [if_pos blank] at collected
        rw [ih collected, List.filterMap_cons, blank]
        rfl
      · rw [if_neg blank] at collected
        obtain ⟨address, accepted, collected⟩ := bind_eq_ok.mp collected
        obtain ⟨others, rest, collected⟩ := bind_eq_ok.mp collected
        obtain ⟨same, _⟩ := accept_eq_ok.mp accepted
        rw [List.filterMap_cons, ← same, address.ofText_text, ← ih rest]
        exact (pure_eq_ok.mp collected).symm

end Collect

/-! ## Collecting and seeding -/

/-- Addresses are collected from the texts given for the contracts. -/
structure Resolves (text : Contract → String)
    (outcome : Except ConfigurationFault (List (Contract × Address))) : Prop where
  /-- Nothing is collected exactly if one of the texts is not in order. -/
  fails : (∃ fault, outcome = .error fault) ↔
    ∃ contract, text contract ≠ "" ∧ ¬ InOrder (text contract)
  /-- The fault is that of the first such text, in the order of the contract table. -/
  fault : ∀ fault, outcome = .error fault ↔
    ∃ before contract after, Contract.all = before ++ contract :: after ∧
      (∀ other ∈ before, text other ≠ "" → InOrder (text other)) ∧
      text contract ≠ "" ∧ Objection contract (text contract) fault
  /-- What is collected are the contracts for which a text is given, with their texts. -/
  collected : ∀ addresses, outcome = .ok addresses →
    addresses.map (fun entry => (entry.1, entry.2.text)) =
      (Contract.all.filter fun contract => text contract ≠ "").map fun contract =>
        (contract, text contract)
  /-- A book takes what has been collected as it is. -/
  seeded : ∀ addresses, outcome = .ok addresses →
    ∃ book, AddressBook.ofDeployed (toDeployed addresses) = .ok book ∧ book.entries = addresses

theorem texts_of_table {text : Contract → String} {contracts : List Contract}
    (accepted : ∀ contract ∈ contracts, text contract ≠ "" → Acceptable (text contract)) :
    (contracts.filterMap fun contract =>
        (Address.ofText (text contract)).toOption.map fun address => (contract, address)).map
          (fun entry => (entry.1, entry.2.text)) =
      (contracts.filter fun contract => text contract ≠ "").map fun contract =>
        (contract, text contract) := by
  induction contracts with
  | nil => rfl
  | cons contract rest ih =>
      rw [List.forall_mem_cons] at accepted
      rw [List.filterMap_cons, List.filter_cons]
      by_cases blank : text contract = ""
      · have nothing : (Address.ofText (text contract)).toOption = none := by rw [blank]; rfl
        rw [nothing, Option.map_none, if_neg (by simp [blank])]
        exact ih accepted.2
      · obtain ⟨address, same, _⟩ := accepted.1 blank
        have found : (Address.ofText (text contract)).toOption = some address := by
          rw [← same, address.ofText_text]
          rfl
        rw [found, Option.map_some, if_pos (by simp [blank]), List.map_cons, List.map_cons, same]
        exact congrArg _ (ih accepted.2)

/-- Whatever the options are, and whatever the environment assigns. -/
theorem resolves_given (options : List (String × Value)) (environment : List (String × String)) :
    Resolves (givenText options environment)
      (deployedContracts (.record options) (Command.environmentValue environment)) := by
  have effective := effectiveText_record options environment
  have present : (Value.record options).isAbsent = false := rfl
  rw [deployedContracts, present, if_neg Bool.false_ne_true]
  have gathered := exists_collect_iff effective Contract.all
  refine ⟨?_, fun fault => collect_eq_error effective, fun addresses collected => ?_,
    fun addresses collected => ?_⟩
  · rw [exists_error_iff, gathered]
    simp only [Contract.mem_all, true_imp_iff, ← inOrder_iff, not_forall, exists_prop]
  · rw [collect_eq_ok effective collected]
    exact texts_of_table (gathered.mp ⟨addresses, collected⟩)
  · have tabled : addresses = (AddressBook.ofTable fun contract =>
        (Address.ofText (givenText options environment contract)).toOption).entries :=
      collect_eq_ok effective collected
    rw [tabled]
    exact ⟨_, AddressBook.ofDeployed_toDeployed _, rfl⟩

end Rollout.Configuration
