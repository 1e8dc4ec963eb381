import Rollout.Command.Machine
import Rollout.Configuration
import Rollout.Proofs.Artifact.Linking
import Rollout.Proofs.Checked

/-!
# Laws of configured addresses

A text that is given for a contract is accepted if and only if it is an address that passes the
checksum.  Addresses are collected if and only if each text that is given is accepted.
-/

namespace Rollout

theorem Command.field_environmentValue (environment : List (String × String)) (name : String) :
    (environmentValue environment).field name =
      ((setting? environment name).map Value.text).getD .missing := by
  simp only [environmentValue, Value.field, Value.field?, setting?, List.find?_map, Option.map_map]
  rfl

namespace Configuration

/-- A text is an address, and one that mixes letter cases carries a valid checksum. -/
def Acceptable (content : String) : Prop :=
  ∃ address : Address, address.text = content ∧ address.isChecked = true

theorem accept_eq_ok {contract : Contract} {content : String} {address : Address} :
    accept contract content = .ok address ↔
      address.text = content ∧ address.isChecked = true := by
  constructor
  · intro accepted
    rw [accept, Address.ofText] at accepted
    by_cases valid : isAddressText content = true
    · simp only [valid, dite_true] at accepted
      split at accepted
      · next checked =>
          obtain rfl := Except.ok.inj accepted
          exact ⟨rfl, checked⟩
      · contradiction
    · simp only [valid, Bool.false_eq_true, dite_false] at accepted
      contradiction
  · rintro ⟨rfl, checked⟩
    simp only [accept, Address.ofText_text, checked, if_true]

theorem exists_accept_iff {contract : Contract} {content : String} :
    (∃ address, accept contract content = .ok address) ↔ Acceptable content := by
  simp only [accept_eq_ok, Acceptable]

section Collect

variable {options environment : Value} {text : Contract → String}
  (effective : ∀ contract, effectiveText options environment contract = .ok (text contract))

include effective in
/-- Addresses are collected unless one of the given texts is not accepted. -/
theorem exists_collect_iff (contracts : List Contract) :
    (∃ addresses, collect options environment contracts = .ok addresses) ↔
      ∀ contract ∈ contracts, text contract ≠ "" → Acceptable (text contract) := by
  induction contracts with
  | nil => exact iff_of_true ⟨[], rfl⟩ (by simp)
  | cons contract rest ih =>
      rw [List.forall_mem_cons, ← ih]
      simp only [collect, effective, bind_eq_ok, Except.ok.injEq, exists_eq_left']
      by_cases blank : text contract = ""
      · simp [blank]
      · rw [← @exists_accept_iff contract]
        simp only [blank, if_false, bind_eq_ok, pure_eq_ok, ne_eq, not_false_eq_true, true_imp_iff]
        constructor
        · rintro ⟨_, address, accepted, addresses, collected, _⟩
          exact ⟨⟨address, accepted⟩, addresses, collected⟩
        · rintro ⟨⟨address, accepted⟩, addresses, collected⟩
          exact ⟨_, address, accepted, addresses, collected, rfl⟩

end Collect

end Configuration

end Rollout
