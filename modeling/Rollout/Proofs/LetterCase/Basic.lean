import Mathlib.Data.List.Forall2
import Rollout.Proofs.Run.Report

/-!
# Agreement up to letter case

Two texts have the same letters if they differ at most in the letter case of hexadecimal digits.
Whether a text is an address is a matter of its letters, and so is what an address book exports.
Receipts are alike if the created contracts have addresses of the same letters.
-/

namespace Rollout

/-! ## Texts and addresses -/

namespace Text

theorem isLowerHex_lowerHex {c : Char} (upper : isUpperHex c = true) :
    isLowerHex (lowerHex c) = true := by
  have hex : isHexDigit c = true := by rw [isHexDigit, upper, Bool.or_true]
  exact of_ascii (fun c => isUpperHex c = true → isLowerHex (lowerHex c) = true) (by decide)
    (toNat_lt_of_isHexDigit hex) upper

theorem lowerHex_of_not_isUpperHex {c : Char} (other : isUpperHex c = false) :
    lowerHex c = c := by
  rw [lowerHex, other, if_neg Bool.false_ne_true]

/-- Only the letters that are digits have a letter case here. -/
theorem lowerHex_eq_iff {d : Char} (lower : isLowerHex d = false) (upper : isUpperHex d = false)
    (c : Char) : lowerHex c = d ↔ c = d := by
  cases capital : isUpperHex c with
  | true =>
      apply iff_of_false
      · rintro rfl
        rw [isLowerHex_lowerHex capital] at lower
        contradiction
      · rintro rfl
        rw [capital] at upper
        contradiction
  | false => rw [lowerHex_of_not_isUpperHex capital]

theorem isHexDigit_lowerHex (c : Char) : isHexDigit (lowerHex c) = isHexDigit c := by
  cases capital : isUpperHex c with
  | true =>
      rw [isHexDigit, isHexDigit, isLowerHex_lowerHex capital, capital, Bool.or_true, Bool.or_true,
        Bool.true_or]
  | false => rw [lowerHex_of_not_isUpperHex capital]

end Text

/-- Two texts differ at most in the letter case of hexadecimal digits. -/
def SameLetters (left right : String) : Prop :=
  left.toList.map Text.lowerHex = right.toList.map Text.lowerHex

namespace SameLetters

variable {left right : String}

theorem symm (same : SameLetters left right) : SameLetters right left := Eq.symm same

theorem isAddressText_of (same : SameLetters left right) (valid : isAddressText left = true) :
    isAddressText right = true := by
  let address : Address := ⟨left, valid⟩
  obtain ⟨length, hex⟩ := address.digits_valid
  have shape : left.toList = '0' :: 'x' :: address.digits := address.text_toList
  have letters : right.toList.map Text.lowerHex =
      '0' :: 'x' :: address.digits.map Text.lowerHex := by
    rw [← same, shape]
    rfl
  obtain ⟨first, rest, front, zero, tail⟩ := List.map_eq_cons_iff.mp letters
  obtain ⟨second, digits, rfl, mark, lowered⟩ := List.map_eq_cons_iff.mp tail
  obtain rfl := (Text.lowerHex_eq_iff rfl rfl first).mp zero
  obtain rfl := (Text.lowerHex_eq_iff rfl rfl second).mp mark
  have same_length : digits.length = 40 := by
    rw [← List.length_map Text.lowerHex, lowered, List.length_map, length]
  have same_hex : digits.all Text.isHexDigit = true := by
    have kept : ∀ digits : List Char,
        (digits.map Text.lowerHex).all Text.isHexDigit = digits.all Text.isHexDigit := by
      intro digits
      rw [List.all_map]
      exact congrArg (fun property => digits.all property) (funext Text.isHexDigit_lowerHex)
    rw [← kept, lowered, kept, hex]
  simp [isAddressText, front, same_length, same_hex]

end SameLetters

theorem Address.lowerDigits_eq {left right : Address} (same : SameLetters left.text right.text) :
    left.lowerDigits = right.lowerDigits := by
  rw [SameLetters, left.text_toList, right.text_toList] at same
  exact (List.cons.inj (List.cons.inj same).2).2

theorem Address.lower_eq {left right : Address} (same : SameLetters left.text right.text) :
    left.lower = right.lower := by
  rw [lower, lower, lowerDigits_eq same]

namespace Value

/-- Two values are equal, or texts of the same letters. -/
inductive Alike : Value → Value → Prop
  | refl (value : Value) : Alike value value
  | letters {left right : String} (same : SameLetters left right) :
      Alike (.text left) (.text right)

variable {left right : Value}

theorem Alike.symm (alike : Alike left right) : Alike right left := by
  cases alike with
  | refl => exact .refl _
  | letters same => exact .letters same.symm

theorem Alike.isGiven_eq (alike : Alike left right) : left.isGiven = right.isGiven := by
  cases alike with
  | refl => rfl
  | @letters left right same =>
      have empty : left = "" ↔ right = "" := by
        have lengths := congrArg List.length same
        rw [List.length_map, List.length_map, String.length_toList, String.length_toList] at lengths
        rw [← String.length_eq_zero_iff, lengths, String.length_eq_zero_iff]
      by_cases blank : left = ""
      · rw [blank, empty.mp blank]
      · rw [isGiven, isGiven, bne, bne, beq_false_of_ne blank, beq_false_of_ne (mt empty.mpr blank)]

theorem Alike.accepted (alike : Alike left right) {address : Address}
    (given : Address.ofValue left = .ok address) :
    ∃ other, Address.ofValue right = .ok other ∧ SameLetters address.text other.text := by
  cases alike with
  | refl => exact ⟨address, given, rfl⟩
  | @letters left right same =>
      obtain rfl := Value.text.inj (Address.text_of_ofValue given)
      have valid := same.isAddressText_of address.valid
      exact ⟨⟨right, valid⟩, Address.ofText_text ⟨right, valid⟩, same⟩

end Value

/-! ## Address books -/

/-- Entries of the same contract and of addresses of the same letters. -/
def EntryAlike (left right : Contract × Address) : Prop :=
  left.1 = right.1 ∧ SameLetters left.2.text right.2.text

/-- Two books have the same contracts in the same order, and addresses of the same letters. -/
def AddressBook.Alike (left right : AddressBook) : Prop :=
  List.Forall₂ EntryAlike left.entries right.entries

theorem find?_rel {α : Type} {relation : α → α → Prop} {test : α → Bool}
    (told : ∀ left right, relation left right → test left = test right) {first second : List α}
    (related : List.Forall₂ relation first second) :
    Option.Rel relation (first.find? test) (second.find? test) := by
  induction related with
  | nil => exact .none
  | @cons left right _ _ head _ ih =>
      rw [List.find?_cons, List.find?_cons, told left right head]
      cases test right with
      | true => exact .some head
      | false => exact ih

namespace AddressBook

variable {left right : AddressBook}

theorem Alike.lookup (alike : left.Alike right) (contract : Contract) :
    Option.Rel (fun address other : Address => SameLetters address.text other.text)
      (left.lookup contract) (right.lookup contract) := by
  have found : Option.Rel EntryAlike (left.entries.find? fun entry => entry.1 == contract)
      (right.entries.find? fun entry => entry.1 == contract) :=
    find?_rel (fun entry other same => by rw [same.1]) alike
  rw [AddressBook.lookup, AddressBook.lookup]
  generalize left.entries.find? (fun entry => entry.1 == contract) = first at found ⊢
  generalize right.entries.find? (fun entry => entry.1 == contract) = second at found ⊢
  cases found with
  | none => exact .none
  | some same => exact .some same.2

theorem Alike.insert (alike : left.Alike right) (contract : Contract) {address other : Address}
    (same : SameLetters address.text other.text) :
    (left.insert contract address).Alike (right.insert contract other) := by
  obtain ⟨first⟩ := left
  obtain ⟨second⟩ := right
  simp only [Alike, entries_insert] at alike ⊢
  induction alike with
  | nil => exact .cons ⟨rfl, same⟩ .nil
  | @cons entry twin rest others head tail ih =>
      rw [put, put, head.1]
      split
      · exact .cons ⟨rfl, same⟩ tail
      · exact .cons head ih

theorem Alike.lines_eq (alike : left.Alike right) : left.lines = right.lines := by
  obtain ⟨first⟩ := left
  obtain ⟨second⟩ := right
  simp only [Alike, lines] at alike ⊢
  induction alike with
  | nil => rfl
  | cons head tail ih =>
      rw [List.map_cons, List.map_cons, ih, line, line, head.1, Address.lower_eq head.2]

end AddressBook

/-! ## Receipts and signers -/

/-- Fields of the same name and value; the address of a created contract may differ in letter
case. -/
structure FieldAlike (left right : String × Value) : Prop where
  name : left.1 = right.1
  value : left.2.Alike right.2
  other : left.1 ≠ "contractAddress" → left.2 = right.2

theorem FieldAlike.refl (field : String × Value) : FieldAlike field field :=
  ⟨rfl, .refl _, fun _ => rfl⟩

theorem FieldAlike.refl_all (fields : List (String × Value)) :
    List.Forall₂ FieldAlike fields fields :=
  List.forall₂_same.mpr fun field _ => .refl field

theorem setField_alike {field twin : String × Value} (same : FieldAlike field twin)
    {fields twins : List (String × Value)} (alike : List.Forall₂ FieldAlike fields twins) :
    List.Forall₂ FieldAlike (Value.setField field.1 field.2 fields)
      (Value.setField twin.1 twin.2 twins) := by
  obtain ⟨name, value⟩ := field
  obtain ⟨_, twinValue⟩ := twin
  obtain rfl := same.name
  induction alike with
  | nil => exact .cons same .nil
  | @cons known other rest others head tail ih =>
      simp only [Value.setField, head.name]
      split
      · exact .cons same tail
      · exact .cons head ih

namespace Receipt

variable {left right : Receipt}

/-- Receipts with alike fields. -/
def Alike (left right : Receipt) : Prop := List.Forall₂ FieldAlike left.fields right.fields

theorem ofFields_alike (n : Nat) (hash : String) {fields twins : List (String × Value)}
    (alike : List.Forall₂ FieldAlike fields twins) :
    (ofFields n hash fields).Alike (ofFields n hash twins) := by
  have filled : ∀ known others : List (String × Value), List.Forall₂ FieldAlike known others →
      List.Forall₂ FieldAlike
        (fields.foldl (fun fields entry => Value.setField entry.1 entry.2 fields) known)
        (twins.foldl (fun fields entry => Value.setField entry.1 entry.2 fields) others) := by
    induction alike with
    | nil => exact fun _ _ same => same
    | cons head tail ih => exact fun _ _ same => ih _ _ (setField_alike head same)
  exact filled _ _ (FieldAlike.refl_all _)

theorem Alike.find? (alike : left.Alike right) (name : String) :
    Option.Rel FieldAlike (left.fields.find? fun entry => entry.1 == name)
      (right.fields.find? fun entry => entry.1 == name) :=
  find?_rel (fun field other same => by rw [same.name]) alike

theorem Alike.field (alike : left.Alike right) (name : String) :
    (left.field name).Alike (right.field name) := by
  have found := alike.find? name
  simp only [Receipt.field, Value.field, Value.field?]
  generalize left.fields.find? (fun entry => entry.1 == name) = first at found ⊢
  generalize right.fields.find? (fun entry => entry.1 == name) = second at found ⊢
  cases found with
  | none => exact .refl _
  | some same => exact same.value

theorem Alike.field_eq (alike : left.Alike right) {name : String}
    (other : name ≠ "contractAddress") : left.field name = right.field name := by
  have found := alike.find? name
  have named : ∀ entry ∈ left.fields.find? fun entry => entry.1 == name, entry.1 = name :=
    fun entry member => by simpa using List.find?_some member
  simp only [Receipt.field, Value.field, Value.field?]
  generalize left.fields.find? (fun entry => entry.1 == name) = first at found named ⊢
  generalize right.fields.find? (fun entry => entry.1 == name) = second at found ⊢
  cases found with
  | none => rfl
  | @some entry twin same =>
      have apart : entry.1 ≠ "contractAddress" := by
        rw [named entry rfl]
        exact other
      exact same.other apart

theorem Alike.succeeded_eq (alike : left.Alike right) : left.succeeded = right.succeeded := by
  rw [succeeded, succeeded, alike.field_eq (by decide)]

theorem Alike.contractAddress (alike : left.Alike right) :
    left.contractAddress.Alike right.contractAddress := by
  have address := alike.field "contractAddress"
  rw [Receipt.contractAddress, Receipt.contractAddress]
  generalize left.field "contractAddress" = first at address ⊢
  generalize right.field "contractAddress" = second at address ⊢
  cases address with
  | refl => exact .refl _
  | letters same => exact .letters same

end Receipt

/-- Confirmations that differ at most in the letter case of the address of a created contract. -/
inductive Confirmation.Alike : Confirmation → Confirmation → Prop
  | refl (confirmation : Confirmation) : Alike confirmation confirmation
  | mined {fields twins : List (String × Value)} (alike : List.Forall₂ FieldAlike fields twins) :
      Alike (.mined fields) (.mined twins)

/-- Outcomes that differ at most in the letter case of the address of a created contract. -/
inductive Outcome.Alike : Outcome → Outcome → Prop
  | refl (outcome : Outcome) : Alike outcome outcome
  | accepted (hash : Option String) {first second : Confirmation} (alike : first.Alike second) :
      Alike (.accepted hash first) (.accepted hash second)

/-- Signers whose transactions meet alike outcomes. -/
def Signer.Alike (left right : Signer) : Prop :=
  List.Forall₂ Outcome.Alike left.outcomes right.outcomes

theorem Signer.Alike.outcome {left right : Signer} (alike : left.Alike right) (n : Nat) :
    (left.outcome n).Alike (right.outcome n) := by
  have each : ∀ (first second : List Outcome), List.Forall₂ Outcome.Alike first second →
      ∀ place, (first.getD place .usual).Alike (second.getD place .usual) := by
    intro first second related
    induction related with
    | nil => exact fun _ => .refl _
    | cons head tail ih =>
        intro place
        cases place with
        | zero => exact head
        | succ place => exact ih place
  exact each _ _ alike (n - 1)

/-! ## Seeds -/

theorem AddressBook.seedEntries_alike {left right : Value}
    (alike : ∀ contract : Contract, (left.field contract.name).Alike (right.field contract.name))
    (contracts : List Contract) :
    List.Forall₂ EntryAlike (seedEntries left contracts) (seedEntries right contracts) := by
  induction contracts with
  | nil => exact .nil
  | cons contract rest ih =>
      have given := alike contract
      cases first : Address.ofValue (left.field contract.name) with
      | ok address =>
          obtain ⟨other, second, same⟩ := given.accepted first
          simp only [seedEntries, List.filterMap_cons, first, second, Except.toOption,
            Option.map_some]
          exact .cons ⟨rfl, same⟩ ih
      | error fault =>
          cases second : Address.ofValue (right.field contract.name) with
          | ok address =>
              obtain ⟨other, accepted, _⟩ := given.symm.accepted second
              rw [first] at accepted
              contradiction
          | error fault =>
              simp only [seedEntries, List.filterMap_cons, first, second, Except.toOption,
                Option.map_none]
              exact ih

end Rollout
