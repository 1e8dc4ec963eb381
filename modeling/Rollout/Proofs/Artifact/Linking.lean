import Rollout.Artifact.Linking
import Rollout.Proofs.Number
import Rollout.Proofs.Text

/-!
# Laws of linking

A library with one reference of the length of an address is filled in by writing the small digits
of its address over what the reference covers.  An image of small digits that pair up, with no
reference left, is complete.
-/

namespace Rollout

namespace Address

theorem ofText_text (address : Address) : ofText address.text = .ok address := by
  rw [ofText, dif_pos address.valid]

theorem text_toList (address : Address) : address.text.toList = '0' :: 'x' :: address.digits := by
  have valid := address.valid
  rw [isAddressText] at valid
  rw [digits]
  split at valid
  · next rest shape => rw [shape]; rfl
  · contradiction

theorem digits_valid (address : Address) :
    address.digits.length = 40 ∧ address.digits.all Text.isHexDigit = true := by
  have valid := address.valid
  rw [isAddressText, text_toList] at valid
  simpa using valid

theorem length_lowerDigits (address : Address) : address.lowerDigits.length = 40 := by
  rw [lowerDigits, List.length_map, address.digits_valid.1]

theorem lowerDigits_small (address : Address) : Text.SmallDigits address.lowerDigits :=
  .map_lowerHex address.digits_valid.2

end Address

namespace Artifact

open Text

theorem positionIn_of_toInt? (body : List Char) {place : Number} {index : Int}
    (equals : place.toInt? = some index) : positionIn body place = unitPosition body index := by
  rw [positionIn, Number.truncate?_of_toInt? equals]

theorem positionIn_eq {body : List Char} (narrow : Narrow body) {place : Number} {count : Nat}
    (equals : place.toInt? = some (count : Int)) (inside : count ≤ body.length) :
    positionIn body place = count := by
  rw [positionIn_of_toInt? body equals, unitPosition, unitLength_eq_length narrow,
    if_neg (by omega)]
  omega

theorem dropUnits_mark (body : List Char) : dropUnits 2 ('0' :: 'x' :: body) = body := by
  simp [dropUnits, unitWidth]

theorem patch_eq {start : Number} {front slot back digits : List Char}
    (first : start.double.toInt? = some (front.length : Int))
    (last : start.double.addInt placeholderLength =
      .int (front.length + placeholderLength : Nat))
    (width : slot.length = placeholderLength)
    (narrow : Narrow (front ++ slot ++ back)) :
    patch digits (front ++ slot ++ back) ⟨start, .int 20⟩ = .ok (front ++ digits ++ back) := by
  have size : (front ++ slot ++ back).length = front.length + placeholderLength + back.length := by
    rw [List.length_append, List.length_append, width]
  have equals : (Number.int (front.length + placeholderLength : Nat)).toInt? =
      some ((front.length + placeholderLength : Nat) : Int) := rfl
  have inside : (Number.int (front.length + placeholderLength : Nat)).exceeds
      (unitLength (front ++ slot ++ back)) = false := by
    rw [unitLength_eq_length narrow, size, Number.exceeds_of_toInt? equals,
      decide_eq_false_iff_not]
    omega
  have before := positionIn_eq narrow first (by omega)
  have behind := positionIn_eq narrow equals (by omega)
  have taken : (front ++ slot ++ back).take front.length = front := by
    rw [List.append_assoc, List.take_left' rfl]
  have dropped : (front ++ slot ++ back).drop (front.length + placeholderLength) = back := by
    rw [← width, ← List.length_append, List.drop_left' rfl]
  simp only [patch, ne_eq, not_true_eq_false, if_false, last, inside, Bool.false_eq_true, before,
    behind, takeUnits_eq_take narrow, dropUnits_eq_drop narrow, taken, dropped]

theorem linkLibrary_eq {artifact : Artifact} {name : String} {address : Address}
    {file library front slot back : List Char} {start : Number}
    (named : splitQualifiedName? name.toList = some (file, library))
    (listed : artifact.referencesFound (String.ofList file) (String.ofList library) =
      .ok [⟨start, .int 20⟩])
    (first : start.double = .int front.length)
    (last : (Number.int front.length).addInt placeholderLength =
      .int (front.length + placeholderLength : Nat))
    (object : artifact.object.toList = '0' :: 'x' :: (front ++ slot ++ back))
    (width : slot.length = placeholderLength)
    (narrow : Narrow (front ++ slot ++ back))
    (settled : replaceAll (placeholder name.toList) address.lowerDigits
        (front ++ address.lowerDigits ++ back) = front ++ address.lowerDigits ++ back) :
    artifact.linkLibrary name address.text =
      .ok (artifact.relinked (String.ofList file) (String.ofList library)
        (front ++ address.lowerDigits ++ back)) := by
  have patched : patch address.lowerDigits (front ++ slot ++ back) ⟨start, .int 20⟩ =
      .ok (front ++ address.lowerDigits ++ back) := by
    apply patch_eq _ _ width narrow
    · rw [first]
      rfl
    · rw [first, last]
  simp only [linkLibrary, named, Address.ofText_text, listed, object, dropUnits_mark, patchAll,
    patched, bind, Except.bind, pure, Except.pure, Except.mapError, settled]

theorem firstPlaceholder?_eq_none {text : List Char} (absent : '_' ∉ text) :
    firstPlaceholder? text = none := by
  induction text with
  | nil => rfl
  | cons c rest ih =>
      rw [List.mem_cons, not_or] at absent
      have plain : isPlaceholder ((c :: rest).take placeholderLength) = false := by
        have other : placeholderAllows 0 c = false := by
          simpa [placeholderAllows] using Ne.symm absent.1
        simp [isPlaceholder, placeholderLength, List.range_succ_eq_map, other]
      rw [firstPlaceholder?, plain, if_neg Bool.false_ne_true, ih absent.2]

theorem firstStray?_eq_none {digits : List Char} (hex : ∀ c ∈ digits, isHexDigit c = true)
    (index : Nat) : HexData.firstStray? index digits = none := by
  induction digits generalizing index with
  | nil => rfl
  | cons c rest ih =>
      rw [List.forall_mem_cons] at hex
      rw [HexData.firstStray?, if_pos hex.1]
      exact ih hex.2 (index + 1)

theorem ofText_eq {object : String} {digits : List Char}
    (shape : object.toList = '0' :: 'x' :: digits) (hex : ∀ c ∈ digits, isHexDigit c = true)
    (even : digits.length % 2 = 0) : HexData.ofText object = .ok object := by
  rw [HexData.ofText, shape]
  simp [HexData.fault?, firstStray?_eq_none hex, even]

theorem resolve_eq {contractName object : String} {digits : List Char} {parents : Parents}
    (shape : object.toList = '0' :: 'x' :: digits) (small : SmallDigits digits)
    (even : digits.length % 2 = 0) :
    (Artifact.mk contractName object [] parents).resolve = .ok ⟨contractName, object⟩ := by
  have absent : '_' ∉ object.toList := by
    rw [shape, List.mem_cons, List.mem_cons]
    rintro (zero | mark | inside)
    · contradiction
    · contradiction
    · exact small.not_mem rfl inside
  have hex : ∀ c ∈ digits, isHexDigit c = true :=
    fun c member => isHexDigit_of_isSmallDigit (small c member)
  simp only [resolve, firstReference?, firstPlaceholder?_eq_none absent, ofText_eq shape hex even]

end Artifact

end Rollout
