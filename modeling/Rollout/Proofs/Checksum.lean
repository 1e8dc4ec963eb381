import Rollout.Proofs.Artifact.Linking
import Rollout.Proofs.Artifact.Placeholder

/-!
# Spelling and checksums of addresses

An address is spelled `0x` and forty hexadecimal digits.  Digits in mixed letter case are accepted
exactly if the hash of the small digits asks for each letter as it stands: for a capital where the
hash has a digit of eight or more, and for a small letter elsewhere.  Digits without letters in both
cases are always accepted.
-/

namespace Rollout

namespace Text

/-- A small letter is made capital by the mark and small by its absence; a decimal digit has no
letter case. -/
theorem upperHex_lowerHex_eq_iff {c : Char} (hex : isHexDigit c = true) :
    upperHex (lowerHex c) = c ↔ (isDecimalDigit c = false → isUpperHex c = true) :=
  of_ascii
    (fun c => isHexDigit c = true →
      (upperHex (lowerHex c) = c ↔ (isDecimalDigit c = false → isUpperHex c = true)))
    (by decide) (toNat_lt_of_isHexDigit hex) hex

theorem lowerHex_eq_self_iff {c : Char} (hex : isHexDigit c = true) :
    lowerHex c = c ↔ (isDecimalDigit c = false → isUpperHex c = false) :=
  of_ascii
    (fun c => isHexDigit c = true →
      (lowerHex c = c ↔ (isDecimalDigit c = false → isUpperHex c = false)))
    (by decide) (toNat_lt_of_isHexDigit hex) hex

end Text

namespace Checksum

open Text

/-- The digits of the hash that decide about the letter case. -/
def hashDigits (digits : List Char) : List Char :=
  hexOfBytes (Hash.keccak256Text (digits.map lowerHex))

/-- Each letter is a capital where the hash of the small digits has a digit of eight or more, and
small where it has a lesser one. -/
def IsMarked (digits : List Char) : Prop :=
  ∀ (place : Nat) (c : Char), digits[place]? = some c → isDecimalDigit c = false →
    ∃ h, (hashDigits digits)[place]? = some h ∧ (isUpperHex c = true ↔ 8 ≤ hexValue h)

/-- Letters of both cases occur among the digits. -/
def IsMixed (digits : List Char) : Prop :=
  (∃ c ∈ digits, isUpperHex c = true) ∧ ∃ c ∈ digits, isLowerHex c = true

theorem length_hashDigits (digits : List Char) : (hashDigits digits).length = 64 := by
  rw [hashDigits, Artifact.length_hexOfBytes, Hash.keccak256Text, Hash.length_keccak256]

theorem isMixed_iff {digits : List Char} : isMixed digits = true ↔ IsMixed digits := by
  rw [isMixed, Bool.and_eq_true, List.any_eq_true, List.any_eq_true, IsMixed]

section Forty

variable {digits : List Char} (width : digits.length = 40)
  (hex : ∀ c ∈ digits, isHexDigit c = true)

include width hex in
theorem mark_eq_self_iff : mark (digits.map lowerHex) = digits ↔ IsMarked digits := by
  have marked : ∀ (place : Nat) (c h : Char), digits[place]? = some c →
      (hashDigits digits)[place]? = some h → (mark (digits.map lowerHex))[place]? =
        some (if 8 ≤ hexValue h then upperHex (lowerHex c) else lowerHex c) := by
    intro place c h found hashed
    rw [hashDigits] at hashed
    simp only [mark, List.getElem?_zipWith, List.getElem?_map, found, hashed, Option.map_some]
  have hashed : ∀ (place : Nat) (c : Char), digits[place]? = some c →
      ∃ h, (hashDigits digits)[place]? = some h := by
    intro place c found
    have inside := (List.getElem?_eq_some_iff.mp found).1
    exact ⟨_, List.getElem?_eq_getElem (by rw [length_hashDigits]; omega)⟩
  have one : ∀ c h, isHexDigit c = true →
      ((if 8 ≤ hexValue h then upperHex (lowerHex c) else lowerHex c) = c ↔
        (isDecimalDigit c = false → (isUpperHex c = true ↔ 8 ≤ hexValue h))) := by
    intro c h digit
    by_cases large : 8 ≤ hexValue h
    · simp only [large, if_true, iff_true]
      exact upperHex_lowerHex_eq_iff digit
    · simp only [large, if_false, iff_false, Bool.not_eq_true]
      exact lowerHex_eq_self_iff digit
  constructor
  · intro same place c found letter
    obtain ⟨h, hash⟩ := hashed place c found
    have here := marked place c h found hash
    rw [same, found] at here
    exact ⟨h, hash, (one c h (hex c (List.mem_of_getElem? found))).mp
      (Option.some.inj here).symm letter⟩
  · intro all
    have length : (mark (digits.map lowerHex)).length = digits.length := by
      have hash := length_hashDigits digits
      rw [hashDigits] at hash
      rw [mark, List.length_zipWith, List.length_map, hash]
      omega
    refine List.ext_getElem? fun place => ?_
    cases found : digits[place]? with
    | none =>
        rw [List.getElem?_eq_none_iff] at found ⊢
        omega
    | some c =>
        obtain ⟨h, hash⟩ := hashed place c found
        rw [marked place c h found hash,
          (one c h (hex c (List.mem_of_getElem? found))).mpr fun letter => ?_]
        obtain ⟨other, same, asked⟩ := all place c found letter
        rw [hash] at same
        cases same
        exact asked

include width hex in
theorem accepts_iff : accepts digits = true ↔ (IsMixed digits → IsMarked digits) := by
  rw [accepts, Bool.or_eq_true, Bool.not_eq_true', beq_iff_eq, mark_eq_self_iff width hex,
    ← isMixed_iff]
  cases isMixed digits <;> simp

end Forty

end Checksum

/-- A text is `0x` and forty hexadecimal digits. -/
structure SpellsAddress (content : String) (digits : List Char) : Prop where
  marked : content.toList = '0' :: 'x' :: digits
  width : digits.length = 40
  hex : ∀ c ∈ digits, Text.isHexDigit c = true

namespace Address

theorem text_injective : Function.Injective text := by
  rintro ⟨content, valid⟩ ⟨_, _⟩ same
  cases same
  rfl

theorem spells_text (address : Address) : SpellsAddress address.text address.digits :=
  ⟨address.text_toList, address.digits_valid.1, List.all_eq_true.mp address.digits_valid.2⟩

theorem isChecked_iff {address : Address} :
    address.isChecked = true ↔
      (Checksum.IsMixed address.digits → Checksum.IsMarked address.digits) :=
  Checksum.accepts_iff address.spells_text.width address.spells_text.hex

end Address

namespace SpellsAddress

theorem valid {content : String} {digits : List Char} (spells : SpellsAddress content digits) :
    isAddressText content = true := by
  simp only [isAddressText, spells.marked, spells.width, beq_self_eq_true, Bool.true_and,
    List.all_eq_true]
  exact spells.hex

theorem digits_eq {address : Address} {digits : List Char}
    (spells : SpellsAddress address.text digits) : address.digits = digits := by
  rw [Address.digits, spells.marked]
  rfl

end SpellsAddress

end Rollout
