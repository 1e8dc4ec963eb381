import Mathlib.Data.List.Nodup
import Rollout.AddressBook

/-!
# Laws of the address book

An address entered for a contract that is not in the book yet comes last and changes nothing else.
No contract ever gets a second entry, so that the entries are what can be looked up.
-/

namespace Rollout

theorem Contract.name_injective : Function.Injective Contract.name := by
  intro left right same
  cases left <;> cases right <;> first | rfl | (simp [name] at same)

theorem Contract.envName_injective : Function.Injective Contract.envName := by
  intro left right same
  cases left <;> cases right <;> first | rfl | (simp [envName] at same)

namespace AddressBook

/-- The contracts with an entry, in the order of the entries. -/
def contracts (book : AddressBook) : List Contract := book.entries.map Prod.fst

theorem lookup_eq_none_iff {book : AddressBook} {contract : Contract} :
    book.lookup contract = none ↔ contract ∉ book.contracts := by
  simp only [lookup, contracts, Option.map_eq_none_iff, List.find?_eq_none, List.mem_map,
    not_exists, not_and, beq_iff_eq]

/-- Entries that are added behind the others do not hide them. -/
theorem lookup_append (entries added : List (Contract × Address)) (contract : Contract) :
    lookup ⟨entries ++ added⟩ contract =
      (lookup ⟨entries⟩ contract).or (lookup ⟨added⟩ contract) := by
  simp only [lookup, List.find?_append]
  cases List.find? (fun entry => entry.1 == contract) entries <;> rfl

theorem lookup_of_prefix {earlier later : AddressBook}
    (grown : earlier.entries <+: later.entries) {contract : Contract} {address : Address}
    (known : earlier.lookup contract = some address) : later.lookup contract = some address := by
  obtain ⟨added, grown⟩ := grown
  obtain ⟨entries⟩ := later
  obtain rfl : earlier.entries ++ added = entries := grown
  rw [lookup_append, known]
  rfl

/-- The entries of a contract. -/
def entriesOf (book : AddressBook) (contract : Contract) : List (Contract × Address) :=
  book.entries.filter fun entry => entry.1 == contract

theorem entriesOf_eq {book : AddressBook} (distinct : book.contracts.Nodup) {contract : Contract}
    {address : Address} (known : book.lookup contract = some address) :
    book.entriesOf contract = [(contract, address)] := by
  obtain ⟨entries⟩ := book
  induction entries with
  | nil => contradiction
  | cons entry rest ih =>
      obtain ⟨other, given⟩ := entry
      simp only [contracts, List.map_cons, List.nodup_cons] at distinct
      by_cases same : other = contract
      · subst same
        have others : rest.filter (fun entry => entry.1 == other) = [] := by
          rw [List.filter_eq_nil_iff]
          intro entry member found
          exact distinct.1 (beq_iff_eq.mp found ▸ List.mem_map_of_mem member)
        simp only [lookup, List.find?_cons, beq_self_eq_true, Option.map_some,
          Option.some.injEq] at known
        simp only [entriesOf, List.filter_cons, beq_self_eq_true, if_true, others, known]
      · have apart : (other == contract) = false := beq_false_of_ne same
        simp only [lookup, List.find?_cons, apart] at known
        simp only [entriesOf, List.filter_cons, apart, Bool.false_eq_true, if_false]
        exact ih distinct.2 known

theorem put_of_not_mem {contract : Contract} {entries : List (Contract × Address)}
    (absent : contract ∉ entries.map Prod.fst) (address : Address) :
    put contract address entries = entries ++ [(contract, address)] := by
  induction entries with
  | nil => rfl
  | cons entry rest ih =>
      simp only [List.map_cons, List.mem_cons, not_or] at absent
      rw [put, if_neg (Ne.symm absent.1), ih absent.2]
      rfl

theorem entries_insert_of_absent {book : AddressBook} {contract : Contract}
    (absent : book.lookup contract = none) (address : Address) :
    (book.insert contract address).entries = book.entries ++ [(contract, address)] :=
  put_of_not_mem (lookup_eq_none_iff.mp absent) address

theorem lookup_insert_self (book : AddressBook) (contract : Contract) (address : Address) :
    (book.insert contract address).lookup contract = some address := by
  rw [lookup_insert, if_pos rfl]

/-! ## Books without duplicates -/

section Distinct

variable {book : AddressBook} (distinct : book.contracts.Nodup)

include distinct in
theorem lookup_eq_some_iff {contract : Contract} {address : Address} :
    book.lookup contract = some address ↔ (contract, address) ∈ book.entries := by
  constructor
  · intro known
    obtain ⟨entry, found, rfl⟩ := Option.map_eq_some_iff.mp known
    obtain rfl : entry.1 = contract := by simpa using List.find?_some found
    exact List.mem_of_find?_eq_some found
  · intro member
    have present : book.lookup contract ≠ none := by
      rw [ne_eq, lookup_eq_none_iff, not_not]
      exact List.mem_map_of_mem member
    obtain ⟨found, known⟩ := Option.ne_none_iff_exists'.mp present
    have single : (contract, address) ∈ book.entriesOf contract :=
      List.mem_filter.mpr ⟨member, beq_self_eq_true _⟩
    rw [entriesOf_eq distinct known, List.mem_singleton] at single
    rw [known, (Prod.mk.inj single).2]

include distinct in
theorem lookup_reverse (contract : Contract) :
    lookup ⟨book.entries.reverse⟩ contract = book.lookup contract := by
  have reversed : (contracts ⟨book.entries.reverse⟩).Nodup := by
    rw [contracts, List.map_reverse, List.nodup_reverse]
    exact distinct
  refine Option.ext fun address => ?_
  rw [lookup_eq_some_iff reversed, lookup_eq_some_iff distinct]
  exact List.mem_reverse

end Distinct

theorem contracts_put (contract : Contract) (address : Address)
    (entries : List (Contract × Address)) :
    (put contract address entries).map Prod.fst =
      if contract ∈ entries.map Prod.fst then entries.map Prod.fst
      else entries.map Prod.fst ++ [contract] := by
  split
  · next known =>
      induction entries with
      | nil => contradiction
      | cons entry rest ih =>
          by_cases here : entry.1 = contract
          · rw [put, if_pos here, List.map_cons, List.map_cons, here]
          · have later : contract ∈ rest.map Prod.fst :=
              (List.mem_cons.mp known).resolve_left (Ne.symm here)
            rw [put, if_neg here, List.map_cons, List.map_cons, ih later]
  · next absent => rw [put_of_not_mem absent, List.map_append, List.map_singleton]

theorem contracts_insert_nodup {book : AddressBook} (distinct : book.contracts.Nodup)
    (contract : Contract) (address : Address) : (book.insert contract address).contracts.Nodup := by
  rw [contracts, entries_insert, contracts_put]
  split
  · exact distinct
  · next absent =>
      rw [← List.concat_eq_append]
      exact List.Nodup.concat absent distinct

end AddressBook

end Rollout
