import Rollout.Proofs.Checksum
import Rollout.Proofs.Export
import Rollout.Proofs.LetterCase.Basic

/-!
# Books as ordered maps

A book keeps its history and nothing else: all that can be asked of it agrees with its entries,
which are spelled as addresses, and a value that is none changes nothing.  What a book exports tells
its entries apart up to letter case.
-/

namespace Rollout

/-- A value is the text of an address. -/
def Value.SpellsAddress (value : Value) : Prop :=
  ∃ content digits, value = .text content ∧ Rollout.SpellsAddress content digits

theorem Address.ofValue_eq_ok_iff {value : Value} :
    (∃ address, Address.ofValue value = .ok address) ↔ value.SpellsAddress := by
  constructor
  · rintro ⟨address, accepted⟩
    exact ⟨address.text, address.digits, Address.text_of_ofValue accepted, address.spells_text⟩
  · rintro ⟨content, digits, rfl, spells⟩
    exact ⟨⟨content, spells.valid⟩, Address.ofText_text ⟨content, spells.valid⟩⟩

/-- The letters of an address are what its small letters show. -/
theorem Address.lower_eq_iff {left right : Address} :
    left.lower = right.lower ↔ SameLetters left.text right.text := by
  constructor
  · intro same
    have digits := congrArg String.toList same
    rw [toList_lower, toList_lower] at digits
    rw [SameLetters, left.text_toList, right.text_toList]
    exact digits
  · exact Address.lower_eq

namespace AddressBook

/-! ## What can be seen of a book -/

/-- A value is recorded exactly if it is an address; one that is not changes nothing, neither in the
book nor in a session around it. -/
structure Records (book : AddressBook) (contract : Contract) (value : Value) : Prop where
  accepts : (∃ later, book.record contract value = .ok later) ↔ value.SpellsAddress
  refuses : ¬value.SpellsAddress → book.recordEach [(contract, value)] = book
  session : ∀ session : Session, session.book = book →
    (Procedure.thrown? (Procedure.record contract value session) = none ↔ value.SpellsAddress) ∧
      (Procedure.final (Procedure.record contract value session)).book =
        book.recordEach [(contract, value)]

theorem records (book : AddressBook) (contract : Contract) (value : Value) :
    book.Records contract value where
  accepts := by
    rw [← Address.ofValue_eq_ok_iff, record]
    cases Address.ofValue value <;> simp [Except.map]
  refuses := by
    rw [← Address.ofValue_eq_ok_iff, recordEach, record]
    intro refused
    cases given : Address.ofValue value with
    | ok address => exact absurd ⟨address, given⟩ refused
    | error fault => rfl
  session := by
    rintro session rfl
    rw [← Address.ofValue_eq_ok_iff, Procedure.record_apply, recordEach, record]
    cases Address.ofValue value <;>
      simp [Procedure.thrown?, Procedure.final, Except.map, recordEach]

/-- What can be asked of a book agrees with its entries, which are spelled as addresses. -/
structure Observed (book : AddressBook) : Prop where
  spelled : ∀ entry ∈ book.entries, ∃ digits, SpellsAddress entry.2.text digits
  lookup : ∀ contract address,
    book.lookup contract = some address ↔ (contract, address) ∈ book.entries
  size : book.size = book.entries.length
  lines : Sink.unlimited.take book.lines =
    (book.entries.map fun entry => entry.1.envName ++ "=" ++ entry.2.lower ++ "\n", none)
  text : book.toDotenv = String.join book.lines

theorem Keeps.observed {book : AddressBook} {history : List (Contract × Address)}
    (keeps : book.Keeps history) : book.Observed where
  spelled := fun entry _ => ⟨entry.2.digits, entry.2.spells_text⟩
  lookup := fun _ _ => lookup_eq_some_iff keeps.once
  size := rfl
  lines := rfl
  text := rfl

theorem assignment_eq_iff {left right : Contract × Address} :
    assignment left = assignment right ↔ EntryAlike left right := by
  rw [assignment, assignment, Prod.mk.injEq, Contract.envName_injective.eq_iff,
    Address.lower_eq_iff, EntryAlike]

/-- The exported text shows the entries up to letter case. -/
theorem toDotenv_eq_iff {left right : AddressBook} :
    left.toDotenv = right.toDotenv ↔ left.Alike right := by
  constructor
  · intro same
    -- Reading the text gives back what each line assigns.
    have assigned : left.entries.map assignment = right.entries.map assignment := by
      rw [← parse_toDotenv, ← parse_toDotenv, same]
    rw [← List.forall₂_eq_eq_eq, List.forall₂_map_left_iff, List.forall₂_map_right_iff] at assigned
    exact assigned.imp fun _ _ => assignment_eq_iff.mp
  · intro alike
    rw [toDotenv, toDotenv, alike.lines_eq]

/-- Whatever is recorded in a book, its entries are those of an ordered map, everything else that
can be asked of it agrees with them, and its exported text tells it from every book whose entries
differ in more than letter case. -/
theorem keeps_history {start : AddressBook} {seeds : List (Contract × Address)}
    (started : Started start seeds) (records : List (Contract × Value)) :
    (start.recordEach records).Keeps (seeds ++ accepted records) ∧
      (start.recordEach records).Observed ∧
      (∀ contract value, (start.recordEach records).Records contract value) ∧
      ∀ other, (start.recordEach records).toDotenv = other.toDotenv ↔
        (start.recordEach records).Alike other :=
  have keeps := started.keeps.recordEach records
  ⟨keeps, keeps.observed, AddressBook.records _, fun _ => toDotenv_eq_iff⟩

/-- The second address of the light client takes the place of the one known in advance. -/
theorem keeps_history_mixed :
    Started mixedFirst (seedEntries mixedDeployed Contract.all) ∧
      (accepted mixedRecords).map Prod.fst = [.plonkVerifier, .lightClient] ∧
      (mixedFirst.recordEach mixedRecords).Keeps
        (seedEntries mixedDeployed Contract.all ++ accepted mixedRecords) ∧
      (mixedFirst.recordEach mixedRecords).Observed ∧
      (∀ contract value, (mixedFirst.recordEach mixedRecords).Records contract value) ∧
      ∀ other, (mixedFirst.recordEach mixedRecords).toDotenv = other.toDotenv ↔
        (mixedFirst.recordEach mixedRecords).Alike other := by
  have started : Started mixedFirst (seedEntries mixedDeployed Contract.all) :=
    .deployed (eq_ok_of_toOption (by decide +kernel))
  exact ⟨started, by decide +kernel, keeps_history started mixedRecords⟩

end AddressBook

end Rollout
