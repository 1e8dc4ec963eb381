import Rollout.Artifact.Linking
import Rollout.Artifact.Templates
import Rollout.Proofs.Text

/-!
# Placeholders

A placeholder is told by its characters one by one, and what is left in an image for a library is
one, since a hash has more digits than a placeholder takes.  The placeholders of a text are found
wherever they begin; none begins inside of another.
-/

namespace Rollout

namespace Hash

theorem length_iota (constant : UInt64) (state : Lanes) :
    (iota constant state).length = state.length := by
  cases state <;> rfl

theorem length_permute {state : Lanes} (lanes : state.length = 25) :
    (permute state).length = 25 := by
  rw [permute]
  generalize roundConstants = constants
  induction constants generalizing state with
  | nil => exact lanes
  | cons constant rest ih =>
      apply ih
      rw [length_iota, chi, List.length_map, List.length_range]

theorem length_foldl_absorb (blocks : List (List UInt8)) {state : Lanes}
    (lanes : state.length = 25) : (blocks.foldl absorb state).length = 25 := by
  induction blocks generalizing state with
  | nil => exact lanes
  | cons block rest ih =>
      apply ih
      apply length_permute
      rw [List.length_map, List.length_range]

theorem length_keccak256 (message : List UInt8) : (keccak256 message).length = 32 := by
  have lanes : ((pieces rate ((pad message).length / rate) (pad message)).foldl absorb
      (List.replicate 25 0)).length = 25 := length_foldl_absorb _ List.length_replicate
  rw [keccak256, List.length_flatMap]
  generalize (pieces rate ((pad message).length / rate) (pad message)).foldl absorb
    (List.replicate 25 0) = state at lanes
  have bytes : ∀ word ∈ state.take 4, (bytesOfLane word).length = 8 := by
    intro word _
    rw [bytesOfLane, List.length_map, List.length_range]
  rw [List.map_congr_left bytes, List.map_const', List.sum_replicate_nat, List.length_take, lanes]
  rfl

end Hash

namespace Artifact

open Text

theorem isPlaceholder_iff {text : List Char} :
    isPlaceholder text = true ↔
      text.length = placeholderLength ∧
        ∀ place c, text[place]? = some c → placeholderAllows place c = true := by
  rw [isPlaceholder, Bool.and_eq_true, beq_iff_eq, and_congr_right_iff]
  intro length
  rw [List.all_eq_true]
  constructor
  · intro all place c found
    obtain ⟨inside, rfl⟩ := List.getElem?_eq_some_iff.mp found
    refine all (placeholderAllows place text[place]) (List.mem_iff_getElem.mpr ⟨place, ?_, ?_⟩)
    · rw [List.length_zipWith, List.length_range, length, Nat.min_self, ← length]
      exact inside
    · rw [List.getElem_zipWith, List.getElem_range]
  · intro each allowed member
    obtain ⟨place, inside, rfl⟩ := List.mem_iff_getElem.mp member
    rw [List.length_zipWith, List.length_range, length, Nat.min_self, ← length] at inside
    rw [List.getElem_zipWith, List.getElem_range]
    exact each place _ (List.getElem?_eq_getElem inside)

theorem placeholderAllows_underscore {place : Nat} (allowed : placeholderAllows place '_' = true) :
    place < 2 ∨ 37 < place := by
  by_contra between
  have foreign : placeholderAllows place '_' = false := by
    by_cases sign : place = 2 ∨ place = 37
    · rw [placeholderAllows, if_pos sign]
      rfl
    · rw [placeholderAllows, if_neg sign, if_pos (by omega)]
      rfl
  rw [foreign] at allowed
  contradiction

theorem placeholderAllows_dollar {place : Nat} (allowed : placeholderAllows place '$' = true) :
    place = 2 ∨ place = 37 := by
  by_contra other
  have foreign : placeholderAllows place '$' = false := by
    by_cases digit : 3 ≤ place ∧ place ≤ 36
    · rw [placeholderAllows, if_neg other, if_pos digit]
      rfl
    · rw [placeholderAllows, if_neg other, if_neg digit]
      rfl
  rw [foreign] at allowed
  contradiction

theorem length_hexOfBytes (bytes : List UInt8) : (hexOfBytes bytes).length = 2 * bytes.length := by
  induction bytes with
  | nil => rfl
  | cons byte rest ih =>
      rw [hexOfBytes, List.flatMap_cons, List.length_append, ← hexOfBytes, ih]
      simp only [List.length_cons, List.length_nil]
      omega

theorem isPlaceholder_of_digits {digits : List Char} (width : digits.length = 34)
    (hex : ∀ c ∈ digits, isHexDigit c = true) :
    isPlaceholder (['_', '_', '$'] ++ digits ++ ['$', '_', '_']) = true := by
  rw [isPlaceholder_iff]
  refine ⟨by simp [width, placeholderLength], fun place c found => ?_⟩
  obtain front | behind := Nat.lt_or_ge place 3
  · rw [List.append_assoc, List.getElem?_append_left front] at found
    match place, front with
    | 0, _ | 1, _ | 2, _ =>
        cases found
        rfl
  · obtain ⟨place, rfl⟩ : ∃ later, place = later + 3 := ⟨place - 3, by omega⟩
    change (digits ++ ['$', '_', '_'])[place]? = some c at found
    obtain middle | behind := Nat.lt_or_ge place 34
    · rw [List.getElem?_append_left (width ▸ middle)] at found
      rw [placeholderAllows, if_neg (by omega), if_pos (by omega)]
      exact hex c (List.mem_of_getElem? found)
    · rw [List.getElem?_append_right (width ▸ behind), width] at found
      obtain ⟨place, rfl⟩ : ∃ later, place = later + 34 := ⟨place - 34, by omega⟩
      rw [Nat.add_sub_cancel] at found
      match place with
      | 0 | 1 | 2 =>
          cases found
          rfl

/-- A placeholder is made of thirty-four digits between its signs. -/
theorem exists_digits_of_isPlaceholder {text : List Char} (form : isPlaceholder text = true) :
    ∃ digits, digits.length = 34 ∧ (∀ c ∈ digits, isHexDigit c = true) ∧
      text = ['_', '_', '$'] ++ digits ++ ['$', '_', '_'] := by
  obtain ⟨width, allowed⟩ := isPlaceholder_iff.mp form
  match text, width with
  | a :: b :: c :: rest, width =>
      have length : rest.length = 37 := by
        simpa [placeholderLength] using width
      obtain ⟨x, y, z, behind⟩ := List.length_eq_three.mp
        (show (rest.drop 34).length = 3 by rw [List.length_drop, length])
      -- The last three places, counted from the end of the digits.
      have last : ∀ place d, [x, y, z][place]? = some d →
          placeholderAllows (37 + place) d = true := by
        intro place d found
        refine allowed (37 + place) d ?_
        rw [← behind, List.getElem?_drop] at found
        rw [show 37 + place = 34 + place + 1 + 1 + 1 by omega]
        exact found
      refine ⟨rest.take 34, by rw [List.length_take, length]; rfl, ?_, ?_⟩
      · intro d member
        obtain ⟨place, found⟩ := List.mem_iff_getElem?.mp member
        rw [List.getElem?_take] at found
        split at found
        · have digit := allowed (place + 1 + 1 + 1) d found
          rwa [placeholderAllows, if_neg (by omega), if_pos (by omega)] at digit
        · contradiction
      · obtain rfl : a = '_' := by simpa [placeholderAllows] using allowed 0 a rfl
        obtain rfl : b = '_' := by simpa [placeholderAllows] using allowed 1 b rfl
        obtain rfl : c = '$' := by simpa [placeholderAllows] using allowed 2 c rfl
        obtain rfl : x = '$' := by simpa [placeholderAllows] using last 0 x rfl
        obtain rfl : y = '_' := by simpa [placeholderAllows] using last 1 y rfl
        obtain rfl : z = '_' := by simpa [placeholderAllows] using last 2 z rfl
        rw [← behind, List.append_assoc, List.take_append_drop]
        rfl

/-- What is left in an image for a library has the form of a placeholder. -/
theorem isPlaceholder_placeholder (name : List Char) : isPlaceholder (placeholder name) = true := by
  apply isPlaceholder_of_digits
  · rw [List.length_take, length_hexOfBytes, Hash.keccak256Text, Hash.length_keccak256]
    rfl
  · intro c member
    exact isHexDigit_of_isSmallDigit (SmallDigits.hexOfBytes _ c (List.mem_of_mem_take member))

theorem length_placeholder (name : List Char) : (placeholder name).length = placeholderLength :=
  (isPlaceholder_iff.mp (isPlaceholder_placeholder name)).1

theorem placeholder_ne_nil (name : List Char) : placeholder name ≠ [] := List.cons_ne_nil _ _

theorem placeholder_plonkVerifier :
    placeholder Template.plonkVerifierLibrary.toList =
      "__$5c5c07cf4f55be9472c2b47d897172e765$__".toList := by
  decide +kernel

theorem placeholder_stateUpdateVK :
    placeholder Template.stateUpdateVKLibrary.toList =
      "__$d53c34a4bb2fd34f6057e8312cdf5f1e79$__".toList := by
  decide +kernel

/-! ## The placeholders of a text -/

/-- Whether a text begins with a placeholder. -/
def beginsPlaceholder (text : List Char) : Bool := isPlaceholder (text.take placeholderLength)

/-- The placeholders of a text, from left to right. -/
def placeholdersIn : List Char → List (List Char)
  | [] => []
  | c :: rest =>
      if beginsPlaceholder (c :: rest) then
        (c :: rest).take placeholderLength :: placeholdersIn rest
      else placeholdersIn rest

theorem firstPlaceholder?_eq (text : List Char) :
    firstPlaceholder? text = (placeholdersIn text).head? := by
  induction text with
  | nil => rfl
  | cons c rest ih =>
      rw [firstPlaceholder?, placeholdersIn, beginsPlaceholder]
      split
      · rfl
      · exact ih

/-- Where no placeholder begins, none is found. -/
theorem placeholdersIn_append {front : List Char} (text : List Char)
    (absent : ∀ place < front.length,
      beginsPlaceholder ((front ++ text).drop place) = false) :
    placeholdersIn (front ++ text) = placeholdersIn text := by
  induction front with
  | nil => rfl
  | cons c front ih =>
      have head : beginsPlaceholder (c :: (front ++ text)) = false :=
        absent 0 (Nat.zero_lt_succ _)
      rw [List.cons_append, placeholdersIn, head, if_neg Bool.false_ne_true]
      exact ih fun place inside => absent (place + 1) (Nat.succ_lt_succ inside)

theorem allowed_of_beginsPlaceholder {text : List Char} (begins : beginsPlaceholder text = true)
    {place : Nat} (inside : place < placeholderLength) :
    ∃ c, text[place]? = some c ∧ placeholderAllows place c = true := by
  obtain ⟨width, allowed⟩ := isPlaceholder_iff.mp begins
  have known : (text.take placeholderLength)[place]? = text[place]? :=
    List.getElem?_take_of_lt inside
  have found := List.getElem?_eq_getElem (width ▸ inside)
  exact ⟨_, known ▸ found, allowed place _ found⟩

theorem prefix_iff_take_eq {name text : List Char} :
    placeholder name <+: text ↔ text.take placeholderLength = placeholder name := by
  rw [List.prefix_iff_eq_take, length_placeholder, eq_comm]

theorem beginsPlaceholder_of_occurs {name text : List Char} (occurs : placeholder name <+: text) :
    beginsPlaceholder text = true := by
  rw [beginsPlaceholder, prefix_iff_take_eq.mp occurs]
  exact isPlaceholder_placeholder name

theorem placeholdersIn_cons_of_ne {c : Char} (other : c ≠ '_') (rest : List Char) :
    placeholdersIn (c :: rest) = placeholdersIn rest := by
  have absent : ¬ beginsPlaceholder (c :: rest) = true := by
    intro begins
    obtain ⟨d, first, underscore⟩ := allowed_of_beginsPlaceholder begins (Nat.zero_lt_succ 39)
    cases first
    exact other (by simpa [placeholderAllows] using underscore)
  rw [placeholdersIn, if_neg absent]

/-- A placeholder begins with underscores before a dollar sign, so that none begins inside of
another if the two characters behind that are no dollar signs. -/
theorem eq_zero_of_beginsPlaceholder {front text : List Char} {place : Nat}
    (form : isPlaceholder front = true) (clear : '$' ∉ text.take 2) (inside : place < front.length)
    (begins : beginsPlaceholder ((front ++ text).drop place) = true) : place = 0 := by
  obtain ⟨width, allowed⟩ := isPlaceholder_iff.mp form
  have first := allowed_of_beginsPlaceholder begins (show 0 < placeholderLength by decide)
  have third := allowed_of_beginsPlaceholder begins (show 2 < placeholderLength by decide)
  simp only [List.getElem?_drop] at first third
  obtain ⟨c, first, underscore⟩ := first
  obtain ⟨d, third, dollar⟩ := third
  obtain rfl : c = '_' := by simpa [placeholderAllows] using underscore
  obtain rfl : d = '$' := by simpa [placeholderAllows] using dollar
  rw [width] at inside
  rw [List.getElem?_append_left (width ▸ inside)] at first
  -- The underscore is one of the first two or the last two characters of the other placeholder, and
  -- the dollar sign comes two places later.
  have outer := placeholderAllows_underscore (allowed _ _ first)
  by_cases middle : place + 2 < placeholderLength
  · rw [List.getElem?_append_left (width ▸ middle)] at third
    have inner := placeholderAllows_dollar (allowed _ _ third)
    omega
  · rw [List.getElem?_append_right (by omega)] at third
    have beyond : place + 2 - front.length < 2 := by
      rw [width]
      omega
    rw [← List.getElem?_take_of_lt beyond] at third
    exact absurd (List.mem_of_getElem? third) clear

end Artifact

end Rollout
