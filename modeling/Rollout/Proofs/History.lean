import Rollout.Proofs.Run.Report

/-!
# The history of an address book

A book keeps the history of the addresses that have been recorded in it as an ordered map does.  Its
contracts stand in the order in which each was first recorded, and each has the address that was
recorded for it last.  A value that is no address is refused and is no part of the history.
-/

namespace Rollout.AddressBook

/-! ## Histories -/

/-- A book after some values have been recorded; one that is refused leaves it as it is. -/
def recordEach : AddressBook → List (Contract × Value) → AddressBook
  | book, [] => book
  | book, (contract, value) :: rest =>
      match book.record contract value with
      | .ok later => recordEach later rest
      | .error _ => recordEach book rest

/-- The entries that records make, in order; a value that is no address makes none. -/
def accepted (records : List (Contract × Value)) : List (Contract × Address) :=
  records.filterMap fun record =>
    (Address.ofValue record.2).toOption.map fun address => (record.1, address)

/-- An entry is the last one of its contract in a history. -/
def IsLatest (history : List (Contract × Address)) (entry : Contract × Address) : Prop :=
  ∃ earlier later, history = earlier ++ entry :: later ∧ entry.1 ∉ later.map Prod.fst

/-- The contracts of a book come in the order of their first entries in a history, and each has the
address of its last one. -/
structure Keeps (book : AddressBook) (history : List (Contract × Address)) : Prop where
  once : book.contracts.Nodup
  order : book.contracts = (history.map Prod.fst).eraseDups
  latest : ∀ entry, entry ∈ book.entries ↔ IsLatest history entry

section Histories

variable {book : AddressBook} {history : List (Contract × Address)}

theorem isLatest_concat {entry added : Contract × Address} :
    IsLatest (history ++ [added]) entry ↔
      if entry.1 = added.1 then entry = added else IsLatest history entry := by
  constructor
  · rintro ⟨earlier, later, split, absent⟩
    rcases List.eq_nil_or_concat later with rfl | ⟨front, last, rfl⟩
    · obtain ⟨-, same⟩ := List.append_inj' split rfl
      obtain rfl : added = entry := List.singleton_inj.mp same
      rw [if_pos rfl]
    · have ends : history ++ [added] = (earlier ++ entry :: front) ++ [last] := by
        rw [split, List.concat_eq_append, List.append_assoc, List.cons_append]
      obtain ⟨kept, same⟩ := List.append_inj' ends rfl
      obtain rfl : added = last := List.singleton_inj.mp same
      simp only [List.concat_eq_append, List.map_append, List.map_singleton, List.mem_append,
        List.mem_singleton, not_or] at absent
      rw [if_neg absent.2]
      exact ⟨earlier, front, kept, absent.1⟩
  · split
    · rintro rfl
      exact ⟨history, [], rfl, List.not_mem_nil⟩
    · next other =>
        rintro ⟨earlier, later, rfl, absent⟩
        refine ⟨earlier, later ++ [added], by simp, ?_⟩
        simp only [List.map_append, List.map_singleton, List.mem_append, List.mem_singleton, not_or]
        exact ⟨absent, other⟩

theorem keeps_empty : AddressBook.empty.Keeps [] where
  once := List.nodup_nil
  order := rfl
  latest := by
    intro entry
    refine ⟨fun member => absurd member List.not_mem_nil, ?_⟩
    rintro ⟨earlier, later, split, -⟩
    simp at split

/-- What one accepted record preserves. -/
theorem Keeps.insert (keeps : book.Keeps history) (contract : Contract) (address : Address) :
    (book.insert contract address).Keeps (history ++ [(contract, address)]) where
  once := contracts_insert_nodup keeps.once contract address
  order := by
    have known : contract ∈ book.contracts ↔ contract ∈ history.map Prod.fst := by
      rw [keeps.order, List.mem_eraseDups]
    have grown := contracts_put contract address book.entries
    rw [contracts] at known
    rw [contracts, entries_insert, grown, List.map_append, List.eraseDups_append, ← keeps.order,
      contracts, List.map_singleton]
    split
    · next member => simp [List.removeAll, known.mp member]
    · next absent => simp [List.removeAll, mt known.mpr absent, List.eraseDups_cons]
  latest := by
    rintro ⟨other, given⟩
    have distinct := contracts_insert_nodup keeps.once contract address
    rw [isLatest_concat, ← lookup_eq_some_iff distinct, lookup_insert]
    split
    · next same =>
        obtain rfl : other = contract := same
        simp [eq_comm]
    · rw [← keeps.latest, ← lookup_eq_some_iff keeps.once]

/-- What a sequence of records preserves, the refused ones among them included. -/
theorem Keeps.recordEach (keeps : book.Keeps history) (records : List (Contract × Value)) :
    (book.recordEach records).Keeps (history ++ accepted records) := by
  induction records generalizing book history with
  | nil => simpa [accepted, AddressBook.recordEach] using keeps
  | cons record rest ih =>
      obtain ⟨contract, value⟩ := record
      cases given : Address.ofValue value with
      | ok address =>
          have next := ih (keeps.insert contract address)
          simpa [AddressBook.recordEach, AddressBook.record, accepted, given, Except.map,
            Except.toOption] using next
      | error fault =>
          have next := ih keeps
          simpa [AddressBook.recordEach, AddressBook.record, accepted, given, Except.map,
            Except.toOption] using next

end Histories

/-! ## Where a history begins -/

/-- A book is empty, or it consists of addresses known in advance; with the entries that have been
made so far. -/
inductive Started : AddressBook → List (Contract × Address) → Prop
  | empty : Started .empty []
  | deployed {deployed : Value} {book : AddressBook} (seeded : ofDeployed deployed = .ok book) :
      Started book (seedEntries deployed Contract.all)

theorem Keeps.seed {deployed : Value} {contracts : List Contract} {book later : AddressBook}
    {history : List (Contract × Address)} (keeps : book.Keeps history)
    (seeded : AddressBook.seed deployed contracts book = .ok later) :
    later.Keeps (history ++ seedEntries deployed contracts) := by
  induction contracts generalizing book history with
  | nil =>
      obtain rfl := Except.ok.inj seeded
      simpa [seedEntries] using keeps
  | cons contract rest ih =>
      cases given : Address.ofValue (deployed.field contract.name) with
      | ok address =>
          have present := Address.isGiven_of_ofValue given
          simp only [AddressBook.seed, present, if_true, AddressBook.record, given,
            Except.map] at seeded
          simpa [seedEntries, given, Except.toOption] using
            ih (keeps.insert contract address) seeded
      | error fault =>
          simp only [AddressBook.seed, AddressBook.record, given, Except.map] at seeded
          split at seeded
          · contradiction
          · simpa [seedEntries, given, Except.toOption] using ih keeps seeded

theorem Started.keeps {book : AddressBook} {history : List (Contract × Address)}
    (started : Started book history) : book.Keeps history := by
  cases started with
  | empty => exact keeps_empty
  | deployed seeded =>
      rw [ofDeployed] at seeded
      split at seeded
      · contradiction
      · exact keeps_empty.seed seeded

end Rollout.AddressBook
