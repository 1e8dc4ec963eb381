/-!
# Sixteen-bit text units

Positions and lengths of texts count sixteen-bit units, of which a character beyond the basic
plane takes two.  A cut through such a character leaves the replacement character on the side
that is kept.  On texts whose characters all take one unit the cuts are `List.take` and
`List.drop`.
-/

namespace Rollout.Text

/-- The number of sixteen-bit units of a character. -/
def unitWidth (c : Char) : Nat :=
  if c.toNat < 0x10000 then 1 else 2

/-- The number of sixteen-bit units of a text. -/
def unitLength : List Char → Nat
  | [] => 0
  | c :: rest => unitWidth c + unitLength rest

/-- What stands for one half of a character that a cut has divided. -/
def halfCharacter : Char := '\uFFFD'

/-- The first `count` units of a text. -/
def takeUnits : Nat → List Char → List Char
  | 0, _ => []
  | _, [] => []
  | count + 1, c :: rest =>
      if unitWidth c ≤ count + 1 then c :: takeUnits (count + 1 - unitWidth c) rest
      else [halfCharacter]

/-- What follows the first `count` units of a text. -/
def dropUnits : Nat → List Char → List Char
  | 0, text => text
  | _, [] => []
  | count + 1, c :: rest =>
      if unitWidth c ≤ count + 1 then dropUnits (count + 1 - unitWidth c) rest
      else halfCharacter :: rest

/-- The unit position that an index names: a negative index counts from the end, and an index
outside the text names the nearer end. -/
def unitPosition (text : List Char) (index : Int) : Nat :=
  if index < 0 then (unitLength text + index).toNat else min index.toNat (unitLength text)

@[simp]
theorem unitLength_append (left right : List Char) :
    unitLength (left ++ right) = unitLength left + unitLength right := by
  induction left with
  | nil => simp [unitLength]
  | cons c rest ih => simp [unitLength, ih, Nat.add_assoc]

theorem unitLength_eq_length {text : List Char} (narrow : ∀ c ∈ text, unitWidth c = 1) :
    unitLength text = text.length := by
  induction text with
  | nil => rfl
  | cons c rest ih =>
      have head := narrow c (by simp)
      have tail := ih fun d mem => narrow d (by simp [mem])
      simp only [unitLength, List.length_cons, head, tail]
      omega

theorem takeUnits_eq_take {text : List Char} (narrow : ∀ c ∈ text, unitWidth c = 1)
    (count : Nat) : takeUnits count text = text.take count := by
  induction text generalizing count with
  | nil => cases count <;> simp [takeUnits]
  | cons c rest ih =>
      cases count with
      | zero => simp [takeUnits]
      | succ count =>
          have head := narrow c (by simp)
          have tail := ih (fun d mem => narrow d (by simp [mem])) count
          simp [takeUnits, head, tail]

theorem dropUnits_eq_drop {text : List Char} (narrow : ∀ c ∈ text, unitWidth c = 1)
    (count : Nat) : dropUnits count text = text.drop count := by
  induction text generalizing count with
  | nil => cases count <;> simp [dropUnits]
  | cons c rest ih =>
      cases count with
      | zero => simp [dropUnits]
      | succ count =>
          have head := narrow c (by simp)
          have tail := ih (fun d mem => narrow d (by simp [mem])) count
          simp [dropUnits, head, tail]

end Rollout.Text
