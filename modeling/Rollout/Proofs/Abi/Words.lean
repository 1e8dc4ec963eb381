import Mathlib.Data.List.Forall2
import Rollout.Abi.Encode
import Rollout.Proofs.Checked
import Rollout.Proofs.Number

/-!
# Words

A word holds its number in sixty-four digits, the most significant first, so that a reader finds
the number again.  Unsigned integers are encoded exactly when they fit into their type, and a tuple
of them is encoded as its words one after the other.
-/

namespace Rollout

namespace Text

theorem hexValue_hexDigit {value : Nat} (bound : value < 16) :
    hexValue (hexDigit value) = value := by
  have digits : ∀ value, value < 16 → hexValue (hexDigit value) = value := by decide
  exact digits value bound

theorem hexNumber_concat (digits : List Char) (c : Char) :
    hexNumber (digits ++ [c]) = hexNumber digits * 16 + hexValue c := by
  simp [hexNumber]

/-- The digits of a number that fits into a width read back as the number. -/
theorem hexNumber_hexOfWidth {width number : Nat} (fits : number < powerOf 16 width) :
    hexNumber (hexOfWidth width number) = number := by
  induction width generalizing number with
  | zero =>
      rw [Nat.lt_one_iff.mp fits]
      rfl
  | succ width ih =>
      have front : number / 16 < powerOf 16 width := by
        rw [Number.powerOf_succ] at fits
        exact Nat.div_lt_of_lt_mul fits
      have last : number % 16 < 16 := Nat.mod_lt number (by decide)
      rw [hexOfWidth, hexNumber_concat, ih front, hexValue_hexDigit last]
      exact Nat.div_add_mod' number 16

end Text

/-- An integer fits into an unsigned type of some bits. -/
def InRange (bits : Nat) (value : Int) : Prop := 0 ≤ value ∧ value < (powerOf 2 bits : Nat)

instance (bits : Nat) (value : Int) : Decidable (InRange bits value) := instDecidableAnd

namespace InRange

variable {bits : Nat} {value : Int}

theorem widen (range : InRange bits value) {wider : Nat} (le : bits ≤ wider) :
    InRange wider value :=
  ⟨range.1, Int.lt_of_lt_of_le range.2 (Int.ofNat_le.mpr (Number.powerOf_mono le))⟩

theorem toNat_lt (range : InRange bits value) : value.toNat < powerOf 2 bits :=
  (Int.toNat_lt range.1).mpr range.2

/-- What fits into the widest type is no remainder of anything larger. -/
theorem emod_eq_self (range : InRange 256 value) : value % (powerOf 2 256 : Nat) = value :=
  Int.emod_eq_of_lt range.1 range.2

end InRange

namespace Abi

/-! ## Words and their readers -/

/-- The numbers that the first words of some digits hold. -/
def readWords : Nat → List Char → List Nat
  | 0, _ => []
  | count + 1, digits => Text.hexNumber (digits.take 64) :: readWords count (digits.drop 64)

@[simp]
theorem length_word (number : Nat) : (word number).length = 64 := Text.length_hexOfWidth 64 number

theorem hexNumber_word {number : Nat} (fits : number < powerOf 2 256) :
    Text.hexNumber (word number) = number := by
  have digits : powerOf 2 256 = powerOf 16 64 := by decide
  exact Text.hexNumber_hexOfWidth (digits ▸ fits)

theorem length_words (numbers : List Nat) :
    (numbers.flatMap word).length = 64 * numbers.length := by
  induction numbers with
  | nil => rfl
  | cons number numbers ih =>
      rw [List.flatMap_cons, List.length_append, length_word, ih, List.length_cons]
      omega

theorem readWords_words {numbers : List Nat} (fit : ∀ number ∈ numbers, number < powerOf 2 256) :
    readWords numbers.length (numbers.flatMap word) = numbers := by
  induction numbers with
  | nil => rfl
  | cons number numbers ih =>
      obtain ⟨first, rest⟩ := List.forall_mem_cons.mp fit
      rw [List.length_cons, List.flatMap_cons, readWords, List.take_left' (length_word number),
        List.drop_left' (length_word number), hexNumber_word first, ih rest]

/-! ## Unsigned integers -/

theorem integerOfText_fault {content : String} {fault : ArgumentFault}
    (refused : integerOfText content = .error fault) : fault.code = .invalid := by
  simp only [integerOfText] at refused
  split at refused
  · rw [← Except.error.inj refused]
    rfl
  all_goals
    split at refused
    · contradiction
    · rw [← Except.error.inj refused]
      rfl

theorem integerOfValue_fault {value : Value} {fault : ArgumentFault}
    (refused : integerOfValue value = .error fault) : fault.code = .invalid := by
  cases value with
  | integer => contradiction
  | text content => exact integerOfText_fault refused
  | number number =>
      simp only [integerOfValue] at refused
      split at refused
      · rw [← Except.error.inj refused]
        rfl
      · split at refused
        · contradiction
        · rw [← Except.error.inj refused]
          rfl
  | missing | null | bool | list | record =>
      rw [← Except.error.inj refused]
      rfl

theorem integerWord_fault {name : String} {signed : Bool} {size : Nat} {value : Value}
    {fault : ArgumentFault} (refused : integerWord name signed size value = .error fault) :
    fault.code = .invalid := by
  obtain refused | ⟨integer, _, refused⟩ := bind_eq_error.mp refused
  · exact integerOfValue_fault refused
  · simp only at refused
    split at refused
    all_goals
      split at refused
      · contradiction
      · rw [← Except.error.inj refused]
        rfl

/-- A number stands for an integer if it equals one that is not too large. -/
theorem integerOfValue_number {number : Number} {integer : Int} :
    integerOfValue (.number number) = .ok integer ↔
      number.toInt? = some integer ∧ -largestSafeInteger ≤ integer ∧
        integer ≤ largestSafeInteger := by
  rw [integerOfValue]
  cases number.toInt? with
  | none => simp
  | some given =>
      by_cases safe : -largestSafeInteger ≤ given ∧ given ≤ largestSafeInteger
      · simp only [if_pos safe, Except.ok.injEq, Option.some.injEq]
        exact ⟨fun same => ⟨same, same ▸ safe⟩, And.left⟩
      · simp only [if_neg safe, Option.some.injEq]
        refine iff_of_false (fun same => nomatch same) ?_
        rintro ⟨rfl, within⟩
        exact safe within

/-- A value is encoded as an unsigned integer if and only if it stands for one that fits. -/
theorem integerWord_eq_ok {name : String} {size : Nat} (narrow : size ≤ 32) {value : Value}
    {digits : List Char} :
    integerWord name false size value = .ok digits ↔
      ∃ integer, integerOfValue value = .ok integer ∧ InRange (size * 8) integer ∧
        word integer.toNat = digits := by
  have bound (integer : Int) :
      (0 ≤ integer ∧ integer < (powerOf 2 (size * 8) : Nat)) ↔ InRange (size * 8) integer :=
    Iff.rfl
  rw [integerWord, bind_eq_ok]
  refine exists_congr fun integer => and_congr_right fun _ => ?_
  simp only [Bool.false_eq_true, if_false, bound]
  by_cases range : InRange (size * 8) integer
  · rw [if_pos range, (range.widen (by omega : size * 8 ≤ 256)).emod_eq_self, pure_eq_ok]
    exact ⟨fun same => ⟨range, same⟩, And.right⟩
  · rw [if_neg range]
    exact iff_of_false (fun same => nomatch same) fun given => range given.1

/-! ## Tuples of unsigned integers -/

/-- Components that are unsigned integers, by their names and their sizes in bytes. -/
def unsigned (components : List (String × Nat)) : List AbiParameter :=
  components.map fun component => (component.1, .integer false component.2)

theorem hasDynamic_unsigned (components : List (String × Nat)) :
    AbiType.hasDynamic (unsigned components) = false := by
  induction components with
  | nil => rfl
  | cons component components ih => exact ih

theorem arrangeFrom_static (size : Nat) (pieces : List (List Char)) :
    arrangeFrom size [] (pieces.map fun piece => (false, piece)) = pieces.flatten := by
  induction pieces with
  | nil => rfl
  | cons piece pieces ih => rw [List.map_cons, arrangeFrom, ih, List.flatten_cons]

/-- Parts without tails stand one behind the other. -/
theorem arrange_static (pieces : List (List Char)) :
    arrange (pieces.map fun piece => (false, piece)) = pieces.flatten :=
  arrangeFrom_static _ pieces

section Unsigned

variable {components : List (String × Nat)} {values : List Int}

theorem encodeAll_unsigned (narrow : ∀ component ∈ components, component.2 ≤ 32)
    (length : values.length = components.length) {parts : List (Bool × List Char)} :
    encodeAll (unsigned components) (values.map .integer) = .ok parts ↔
      List.Forall₂ (fun component value => InRange (component.2 * 8) value) components values ∧
        (values.map fun value => (false, word value.toNat)) = parts := by
  induction components generalizing values parts with
  | nil =>
      rw [List.eq_nil_of_length_eq_zero length]
      simp [unsigned, encodeAll]
  | cons component components ih =>
      obtain ⟨value, values, rfl⟩ := List.exists_cons_of_length_eq_add_one length
      obtain ⟨first, rest⟩ := List.forall_mem_cons.mp narrow
      have tail := @ih values
      simp only [unsigned] at tail
      simp only [unsigned, List.map_cons, encodeAll, encode, bind_eq_ok, pure_eq_ok,
        integerWord_eq_ok first, tail rest (Nat.succ.inj length), List.forall₂_cons]
      constructor
      · rintro ⟨_, ⟨_, same, range, rfl⟩, _, ⟨ranges, rfl⟩, rfl⟩
        obtain rfl := Except.ok.inj same
        exact ⟨⟨range, ranges⟩, rfl⟩
      · rintro ⟨⟨range, ranges⟩, rfl⟩
        exact ⟨_, ⟨value, rfl, range, rfl⟩, _, ⟨ranges, rfl⟩, rfl⟩

theorem encodeAll_unsigned_fault {fault : ArgumentFault}
    (refused : encodeAll (unsigned components) (values.map .integer) = .error fault) :
    fault.code = .invalid := by
  induction components generalizing values with
  | nil => contradiction
  | cons component components ih =>
      cases values with
      | nil => contradiction
      | cons value values =>
          obtain refused | ⟨_, _, refused⟩ := bind_eq_error.mp refused
          · exact integerWord_fault refused
          · obtain refused | ⟨_, _, refused⟩ := bind_eq_error.mp refused
            · exact ih refused
            · contradiction

/-- A tuple with as many values as components is encoded component by component. -/
theorem encode_tuple (name : String) (length : values.length = components.length) :
    encode name (.tuple (unsigned components)) (.list (values.map .integer)) = (do
      let parts ← encodeAll (unsigned components) (values.map .integer)
      return arrange parts) := by
  have counted : (values.map Value.integer).length = (unsigned components).length := by
    rw [List.length_map, unsigned, List.length_map, length]
  rw [encode, tupleValues]
  change (if _ then _ else _) = _
  rw [if_pos counted]

/-- A tuple of unsigned integers is encoded if and only if all of them fit. -/
theorem encode_unsigned (name : String) (narrow : ∀ component ∈ components, component.2 ≤ 32)
    (length : values.length = components.length) {digits : List Char} :
    encode name (.tuple (unsigned components)) (.list (values.map .integer)) = .ok digits ↔
      List.Forall₂ (fun component value => InRange (component.2 * 8) value) components values ∧
        (values.flatMap fun value => word value.toNat) = digits := by
  have arranged : arrange (values.map fun value => (false, word value.toNat)) =
      values.flatMap fun value => word value.toNat := by
    rw [List.flatMap_def, ← arrange_static, List.map_map]
    rfl
  rw [encode_tuple name length, bind_eq_ok]
  constructor
  · rintro ⟨parts, encoded, same⟩
    obtain ⟨ranges, rfl⟩ := (encodeAll_unsigned narrow length).mp encoded
    exact ⟨ranges, arranged ▸ pure_eq_ok.mp same⟩
  · rintro ⟨ranges, rfl⟩
    exact ⟨_, (encodeAll_unsigned narrow length).mpr ⟨ranges, rfl⟩, pure_eq_ok.mpr arranged⟩

theorem encode_unsigned_fault (name : String) (length : values.length = components.length)
    {fault : ArgumentFault}
    (refused : encode name (.tuple (unsigned components)) (.list (values.map .integer)) =
      .error fault) : fault.code = .invalid := by
  rw [encode_tuple name length] at refused
  obtain refused | ⟨_, _, refused⟩ := bind_eq_error.mp refused
  · exact encodeAll_unsigned_fault refused
  · contradiction

end Unsigned

end Abi

end Rollout
