import Mathlib.Data.List.Infix
import Rollout.Text.Hex
import Rollout.Text.Replace
import Rollout.Text.Units

/-!
# Laws of digits and replacement

Digits that are written are small: decimal digits and the small letters up to `f`.  They are what
making letters small leaves alone, and no placeholder begins with one of them.  A replacement
passes over what its pattern cannot begin in, and leaves a text alone in which the pattern does
not occur.  Cuts and replacements are counted in units, whatever the characters.
-/

namespace Rollout.Text

/-- A hexadecimal digit that is no capital letter. -/
def isSmallDigit (c : Char) : Bool := isDecimalDigit c || isLowerHex c

/-- Every character of a text is a small digit. -/
def SmallDigits (text : List Char) : Prop := ∀ c ∈ text, isSmallDigit c = true

instance (text : List Char) : Decidable (SmallDigits text) :=
  decidable_of_iff (text.all isSmallDigit = true) List.all_eq_true

/-- Every character of a text takes one unit. -/
def Narrow (text : List Char) : Prop := ∀ c ∈ text, unitWidth c = 1

instance (text : List Char) : Decidable (Narrow text) :=
  decidable_of_iff (text.all (unitWidth · = 1) = true) (by simp [Narrow])

theorem isHexDigit_of_isSmallDigit {c : Char} (small : isSmallDigit c = true) :
    isHexDigit c = true := by
  rw [isHexDigit, ← isSmallDigit, small, Bool.true_or]

/-- What holds of each of the first 128 code points holds of every character among them. -/
theorem of_ascii (property : Char → Prop) (table : ∀ code < 128, property (Char.ofNat code))
    {c : Char} (ascii : c.toNat < 128) : property c := by
  have found := table c.toNat ascii
  rwa [Char.ofNat_toNat] at found

theorem toNat_lt_of_isHexDigit {c : Char} (hex : isHexDigit c = true) : c.toNat < 128 := by
  simp only [isHexDigit, isDecimalDigit, isLowerHex, isUpperHex, Bool.or_eq_true,
    Bool.and_eq_true, decide_eq_true_eq, Char.le_def, UInt32.le_iff_toNat_le] at hex
  have bounds : c.toNat ≤ 57 ∨ c.toNat ≤ 102 ∨ c.toNat ≤ 70 := by
    rcases hex with (decimal | lower) | upper
    · exact .inl decimal.2
    · exact .inr (.inl lower.2)
    · exact .inr (.inr upper.2)
  omega

theorem unitWidth_of_isHexDigit {c : Char} (hex : isHexDigit c = true) : unitWidth c = 1 := by
  have bound := toNat_lt_of_isHexDigit hex
  rw [unitWidth, if_pos (by omega)]

theorem isSmallDigit_lowerHex {c : Char} (hex : isHexDigit c = true) :
    isSmallDigit (lowerHex c) = true :=
  of_ascii (fun c => isHexDigit c = true → isSmallDigit (lowerHex c) = true) (by decide)
    (toNat_lt_of_isHexDigit hex) hex

theorem isUpperHex_of_isSmallDigit {c : Char} (small : isSmallDigit c = true) :
    isUpperHex c = false :=
  of_ascii (fun c => isSmallDigit c = true → isUpperHex c = false) (by decide)
    (toNat_lt_of_isHexDigit (isHexDigit_of_isSmallDigit small)) small

theorem lowerHex_of_isSmallDigit {c : Char} (small : isSmallDigit c = true) :
    lowerHex c = c := by
  rw [lowerHex, isUpperHex_of_isSmallDigit small, if_neg Bool.false_ne_true]

theorem isSmallDigit_hexDigit {value : Nat} (bound : value < 16) :
    isSmallDigit (hexDigit value) = true := by
  have digits : ∀ value, value < 16 → isSmallDigit (hexDigit value) = true := by decide
  exact digits value bound

namespace SmallDigits

theorem append {left right : List Char} (first : SmallDigits left) (second : SmallDigits right) :
    SmallDigits (left ++ right) := List.forall_mem_append.mpr ⟨first, second⟩

theorem hexOfWidth (width number : Nat) : SmallDigits (hexOfWidth width number) := by
  induction width generalizing number with
  | zero => simp [SmallDigits, Text.hexOfWidth]
  | succ width ih =>
      refine (ih (number / 16)).append ?_
      intro c member
      rw [List.mem_singleton.mp member]
      exact isSmallDigit_hexDigit (Nat.mod_lt _ (by decide))

theorem hexOfBytes (bytes : List UInt8) : SmallDigits (hexOfBytes bytes) := by
  intro c member
  simp only [Text.hexOfBytes, List.mem_flatMap, List.mem_cons, List.not_mem_nil, or_false] at member
  obtain ⟨byte, _, rfl | rfl⟩ := member
  · have bound := byte.toNat_lt
    exact isSmallDigit_hexDigit (by omega)
  · exact isSmallDigit_hexDigit (Nat.mod_lt _ (by decide))

theorem map_lowerHex {digits : List Char} (hex : digits.all isHexDigit = true) :
    SmallDigits (digits.map lowerHex) := by
  intro c member
  obtain ⟨d, given, rfl⟩ := List.mem_map.mp member
  exact isSmallDigit_lowerHex (List.all_eq_true.mp hex d given)

theorem map_lowerHex_eq {digits : List Char} (small : SmallDigits digits) :
    digits.map lowerHex = digits := by
  have kept : digits.map lowerHex = digits.map id :=
    List.map_congr_left fun c member => lowerHex_of_isSmallDigit (small c member)
  rw [kept, List.map_id]

theorem narrow {digits : List Char} (small : SmallDigits digits) : Narrow digits :=
  fun c member => unitWidth_of_isHexDigit (isHexDigit_of_isSmallDigit (small c member))

theorem not_mem {digits : List Char} (small : SmallDigits digits) {c : Char}
    (foreign : isSmallDigit c = false) : c ∉ digits := by
  intro member
  rw [small c member] at foreign
  contradiction

end SmallDigits

theorem Narrow.append {left right : List Char} (first : Narrow left) (second : Narrow right) :
    Narrow (left ++ right) := List.forall_mem_append.mpr ⟨first, second⟩

/-- A text with other characters written over it from a place on. -/
def overwrite (place : Nat) (written text : List Char) : List Char :=
  text.take place ++ written ++ text.drop (place + written.length)

theorem overwrite_append {place : Nat} {front slot written : List Char}
    (place_eq : place = front.length) (same : written.length = slot.length) (back : List Char) :
    overwrite place written (front ++ slot ++ back) = front ++ written ++ back := by
  have taken : (front ++ slot ++ back).take place = front := by
    rw [List.append_assoc, List.take_left' place_eq.symm]
  have dropped : (front ++ slot ++ back).drop (place + written.length) = back := by
    rw [place_eq, same, ← List.length_append, List.drop_left' rfl]
  rw [overwrite, taken, dropped]

/-- What a pattern does not begin in is passed over. -/
theorem replaceAll_append_of_absent {pattern front text : List Char}
    (absent : ∀ place < front.length, ¬ pattern <+: (front ++ text).drop place)
    (replacement : List Char) :
    replaceAll pattern replacement (front ++ text) =
      front ++ replaceAll pattern replacement text := by
  induction front with
  | nil => rfl
  | cons c front ih =>
      have apart : ¬ pattern.isPrefixOf (c :: (front ++ text)) = true := by
        rw [List.isPrefixOf_iff_prefix]
        exact absent 0 (Nat.zero_lt_succ _)
      have later := ih fun place inside => absent (place + 1) (Nat.succ_lt_succ inside)
      simp only [replaceAll] at later ⊢
      rw [List.cons_append, replaceFrom, if_neg (Nat.lt_irrefl 0), if_neg apart, later,
        List.cons_append]

theorem replaceAll_cons_of_absent {pattern rest : List Char} {c : Char}
    (absent : ¬ pattern <+: c :: rest) (replacement : List Char) :
    replaceAll pattern replacement (c :: rest) = c :: replaceAll pattern replacement rest := by
  have nowhere : ∀ place < [c].length, ¬ pattern <+: ([c] ++ rest).drop place := by
    intro place inside
    obtain rfl : place = 0 := Nat.lt_one_iff.mp inside
    exact absent
  exact replaceAll_append_of_absent nowhere replacement

theorem replaceAll_append {first : Char} {pattern front : List Char} (absent : first ∉ front)
    (replacement text : List Char) :
    replaceAll (first :: pattern) replacement (front ++ text) =
      front ++ replaceAll (first :: pattern) replacement text := by
  apply replaceAll_append_of_absent
  rintro place inside ⟨behind, occurs⟩
  have here : (front ++ text)[place]? = some first := by
    rw [← Nat.add_zero place, ← List.getElem?_drop, ← occurs]
    rfl
  rw [List.getElem?_append_left inside] at here
  exact absent (List.mem_of_getElem? here)

theorem replaceAll_of_not_mem {first : Char} {pattern text : List Char} (absent : first ∉ text)
    (replacement : List Char) : replaceAll (first :: pattern) replacement text = text := by
  have passed := @replaceAll_append first pattern text absent replacement []
  have empty : replaceAll (first :: pattern) replacement [] = [] := rfl
  rwa [empty, List.append_nil] at passed

theorem replaceFrom_append (pattern replacement front text : List Char) :
    replaceFrom pattern replacement front.length (front ++ text) =
      replaceAll pattern replacement text := by
  induction front with
  | nil => rfl
  | cons c front ih =>
      rw [List.length_cons, List.cons_append, replaceFrom, if_pos (Nat.zero_lt_succ _),
        Nat.add_sub_cancel, ih]

theorem replaceAll_pattern_append {first : Char} {pattern : List Char}
    (replacement text : List Char) :
    replaceAll (first :: pattern) replacement (first :: pattern ++ text) =
      replacement ++ replaceAll (first :: pattern) replacement text := by
  have here : (first :: pattern).isPrefixOf (first :: pattern ++ text) = true := by
    rw [List.isPrefixOf_iff_prefix]
    exact List.prefix_append _ _
  have behind := replaceFrom_append (first :: pattern) replacement pattern text
  rw [List.cons_append] at here ⊢
  rw [replaceAll, replaceFrom, if_neg (Nat.lt_irrefl 0), if_pos here, List.length_cons,
    Nat.add_sub_cancel, behind]

theorem replaceAll_eq_self {pattern text : List Char} (absent : ¬ pattern <:+: text)
    (replacement : List Char) : replaceAll pattern replacement text = text := by
  have nowhere : ∀ place < text.length, ¬ pattern <+: (text ++ []).drop place := by
    intro place _ occurs
    rw [List.append_nil] at occurs
    exact absent (occurs.isInfix.trans (List.drop_suffix place text).isInfix)
  have passed := replaceAll_append_of_absent nowhere replacement
  have empty : replaceAll pattern replacement [] = [] := rfl
  rwa [empty, List.append_nil] at passed

/-- A text is passed through as a replacement does it: by an occurrence of the pattern where one
begins, and by a character otherwise. -/
@[elab_as_elim]
theorem replacement_induction {pattern : List Char} (given : pattern ≠ [])
    {motive : List Char → Prop} (text : List Char) (nil : motive [])
    (skip : ∀ c rest, ¬ pattern <+: c :: rest → motive rest → motive (c :: rest))
    (replace : ∀ back, motive back → motive (pattern ++ back)) : motive text := by
  by_cases occurs : pattern <+: text
  · obtain ⟨back, rfl⟩ := occurs
    exact replace back (replacement_induction given back nil skip replace)
  · cases text with
    | nil => exact nil
    | cons c rest => exact skip c rest occurs (replacement_induction given rest nil skip replace)
termination_by text.length
decreasing_by
  · subst_vars
    have positive := List.length_pos_iff.mpr given
    rw [List.length_append]
    omega
  · exact Nat.lt_succ_self _

theorem replaceAll_append_of_ne_nil {pattern : List Char} (given : pattern ≠ [])
    (replacement text : List Char) :
    replaceAll pattern replacement (pattern ++ text) =
      replacement ++ replaceAll pattern replacement text := by
  obtain ⟨first, rest, rfl⟩ := List.exists_cons_of_ne_nil given
  exact replaceAll_pattern_append replacement text

/-! ## What a replacement leaves -/

/-- What is found at the beginning of a text after a replacement was there before, provided that it
is no longer than what is inserted and ends with a character that is not inserted. -/
theorem prefix_of_prefix_replaceAll {pattern replacement front : List Char} {last : Char}
    (given : pattern ≠ []) (short : front.length < replacement.length)
    (absent : last ∉ replacement) {text : List Char}
    (found : front ++ [last] <+: replaceAll pattern replacement text) :
    front ++ [last] <+: text := by
  induction text generalizing front with
  | nil => exact found
  | cons c rest ih =>
      by_cases occurs : pattern <+: c :: rest
      · obtain ⟨back, shape⟩ := occurs
        rw [← shape, replaceAll_append_of_ne_nil given] at found
        have inside : front ++ [last] <+: replacement := by
          apply List.prefix_of_prefix_length_le found (List.prefix_append _ _)
          rw [List.length_append, List.length_singleton]
          exact short
        exact absurd (inside.subset (by simp)) absent
      · rw [replaceAll_cons_of_absent occurs] at found
        cases front with
        | nil =>
            obtain ⟨rfl, _⟩ := List.cons_prefix_cons.mp found
            exact List.cons_prefix_cons.mpr ⟨rfl, List.nil_prefix⟩
        | cons d front =>
            rw [List.cons_append] at found
            obtain ⟨rfl, behind⟩ := List.cons_prefix_cons.mp found
            rw [List.length_cons] at short
            exact List.cons_prefix_cons.mpr ⟨rfl, ih (by omega) behind⟩

/-- A pattern is gone after its replacement by as many characters, if what is inserted has neither
its first character nor its last one: an occurrence could only have formed across the two. -/
theorem not_infix_replaceAll {pattern replacement : List Char} (given : pattern ≠ [])
    (same : replacement.length = pattern.length) (first : pattern.head given ∉ replacement)
    (last : pattern.getLast given ∉ replacement) (text : List Char) :
    ¬ pattern <:+: replaceAll pattern replacement text := by
  induction text using replacement_induction given with
  | nil => exact fun found => given (List.infix_nil.mp found)
  | replace back ih =>
      rw [replaceAll_append_of_ne_nil given]
      rintro ⟨before, behind, shape⟩
      rw [List.append_assoc, List.append_eq_append_iff] at shape
      rcases shape with ⟨inside, rfl, shape⟩ | ⟨between, _, shape⟩
      · cases inside with
        | nil => exact ih ⟨[], behind, shape⟩
        | cons d inside =>
            have head : pattern.head given = d := by
              have whole := congrArg List.head? shape
              rw [List.head?_append_of_ne_nil _ given, List.head?_eq_some_head given] at whole
              exact Option.some.inj whole
            exact first (by simp [head])
      · exact ih ⟨between, behind, by rw [shape, List.append_assoc]⟩
  | skip c rest absent ih =>
      rw [replaceAll_cons_of_absent absent, List.infix_cons_iff]
      rintro (here | found)
      · have short : pattern.dropLast.length < replacement.length := by
          have positive := List.length_pos_iff.mpr given
          rw [List.length_dropLast, same]
          omega
        have across : pattern.dropLast ++ [pattern.getLast given] <+:
            replaceAll pattern replacement (c :: rest) := by
          rw [List.dropLast_append_getLast, replaceAll_cons_of_absent absent]
          exact here
        have before := prefix_of_prefix_replaceAll given short last across
        rw [List.dropLast_append_getLast] at before
        exact absent before
      · exact ih found

/-! ## Counting units -/

theorem unitWidth_pos (c : Char) : 0 < unitWidth c := by
  rw [unitWidth]
  split <;> decide

theorem unitWidth_le_two (c : Char) : unitWidth c ≤ 2 := by
  rw [unitWidth]
  split <;> decide

theorem unitLength_takeUnits (count : Nat) (text : List Char) :
    unitLength (takeUnits count text) = min count (unitLength text) := by
  induction text generalizing count with
  | nil => cases count <;> simp [takeUnits, unitLength]
  | cons c rest ih =>
      cases count with
      | zero => simp [takeUnits, unitLength]
      | succ count =>
          have width := unitWidth_pos c
          rw [takeUnits, unitLength]
          split
          · rw [unitLength, ih]
            omega
          · -- The cut leaves one of the two units of the character.
            have half : unitLength [halfCharacter] = 1 := rfl
            have double := unitWidth_le_two c
            rw [half]
            omega

theorem unitLength_dropUnits (count : Nat) (text : List Char) :
    unitLength (dropUnits count text) = unitLength text - count := by
  induction text generalizing count with
  | nil => cases count <;> simp [dropUnits, unitLength]
  | cons c rest ih =>
      cases count with
      | zero => rfl
      | succ count =>
          have width := unitWidth_pos c
          rw [dropUnits, unitLength]
          split
          · rw [ih]
            omega
          · have half : unitWidth halfCharacter = 1 := rfl
            have double := unitWidth_le_two c
            rw [unitLength, half]
            omega

theorem unitLength_replaceAll {pattern replacement : List Char} (given : pattern ≠ [])
    (same : unitLength replacement = unitLength pattern) (text : List Char) :
    unitLength (replaceAll pattern replacement text) = unitLength text := by
  induction text using replacement_induction given with
  | nil => rfl
  | replace back ih =>
      rw [replaceAll_append_of_ne_nil given, unitLength_append, unitLength_append, ih, same]
  | skip c rest absent ih => rw [replaceAll_cons_of_absent absent, unitLength, unitLength, ih]

end Rollout.Text
