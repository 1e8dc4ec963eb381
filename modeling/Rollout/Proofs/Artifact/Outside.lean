import Rollout.Proofs.Artifact.Refusal

/-!
# References outside of an image

An artifact that no template gives may refer to places outside of its image.  A reference that ends
behind the text is refused.  Where it starts is not looked at: a place before the text is counted
from the end of the text, and the digits are written there, which may make the text longer.
-/

namespace Rollout

namespace Reference

/-- The byte at which a reference starts. -/
def first (reference : Reference) : Int := reference.start.toInt?.getD 0

/-- A reference is as long as an address and starts at a whole byte, which may be any. -/
structure Regular (reference : Reference) : Prop where
  length : reference.length = .int 20
  integer : reference.start.isInteger = true

theorem Regular.toInt?_start {reference : Reference} (regular : reference.Regular) :
    reference.start.toInt? = some reference.first := by
  obtain ⟨value, equals⟩ := Number.exists_toInt?_of_isInteger regular.integer
  rw [first, equals, Option.getD_some]

end Reference

namespace Artifact

open Text

/-! ## One reference -/

section Patch

variable {digits body : List Char} {reference : Reference} (regular : reference.Regular)

include regular

theorem exceeds_end_iff {size : Nat} (small : size < powerOf 2 53) :
    (reference.start.double.addInt placeholderLength).exceeds size = true ↔
      size < 2 * (reference.first + 20) := by
  rw [Number.exceeds_addInt_double regular.toInt?_start (by decide) small, decide_eq_true_eq,
    placeholderLength]
  omega

theorem patch_eq_outside (small : unitLength body < powerOf 2 53)
    (behind : unitLength body < 2 * (reference.first + 20)) :
    patch digits body reference = .error (.outside reference.start) := by
  have exceeds := (exceeds_end_iff regular small).mpr behind
  rw [patch, if_neg (not_not.mpr regular.length)]
  exact if_pos exceeds

variable {size : Nat} (small : size < powerOf 2 53) (enough : size ≤ unitLength body)
  (ends : 2 * (reference.first + 20) ≤ size)

include small enough ends

/-- What is left of a text on both sides of a reference. -/
theorem sides_of_ends :
    size ≤ min (positionIn body reference.start.double) (unitLength body) + placeholderLength +
        (unitLength body -
          positionIn body (reference.start.double.addInt placeholderLength)) ∧
      (0 ≤ reference.first →
        positionIn body reference.start.double + placeholderLength ≤ unitLength body ∧
          positionIn body (reference.start.double.addInt placeholderLength) =
            positionIn body reference.start.double + placeholderLength) := by
  have start := regular.toInt?_start
  obtain near | large := Nat.lt_or_ge (2 * reference.first).natAbs (powerOf 2 53)
  · have first := Number.toInt?_double start near
    have last := Number.addInt_of_toInt? first placeholderLength
      (by rw [placeholderLength]; omega)
    rw [last, positionIn_of_toInt? body first, positionIn_of_toInt? body rfl, unitPosition,
      unitPosition, placeholderLength]
    constructor
    · split <;> split <;> omega
    · intro inside
      rw [if_neg (by omega), if_neg (by omega)]
      omega
  · -- So far before the text, both ends are its beginning.
    have far := Number.far_double start large
    rw [decide_eq_true (by omega)] at far
    have wide : placeholderLength < powerOf 2 53 := by decide
    have last : positionIn body (reference.start.double.addInt placeholderLength) ≤
        unitLength body + placeholderLength - powerOf 2 53 := by
      obtain sum | ⟨total, sum, below⟩ := far.addInt_below wide
      · rw [sum]
        exact Nat.zero_le _
      · rw [placeholderLength] at below wide
        rw [sum, positionIn_of_toInt? body rfl, unitPosition, if_pos (by omega), placeholderLength]
        omega
    rw [placeholderLength] at last ⊢
    constructor <;> omega

/-- Digits are written over a reference that ends within a text, wherever it starts.  The text
becomes no shorter, and it stays as long if the reference starts within it. -/
theorem exists_patch_of_ends (width : unitLength digits = placeholderLength) :
    ∃ written, patch digits body reference = .ok written ∧ size ≤ unitLength written ∧
      (0 ≤ reference.first → unitLength written = unitLength body) := by
  have within : ¬ (reference.start.double.addInt placeholderLength).exceeds
      (unitLength body) = true := by
    intro exceeds
    have behind := (exceeds_end_iff regular small).mp
      (Number.exceeds_of_le (Int.ofNat_le.mpr enough) exceeds)
    omega
  obtain ⟨longer, inside⟩ := sides_of_ends regular small enough ends
  refine ⟨takeUnits (positionIn body reference.start.double) body ++ digits ++
    dropUnits (positionIn body (reference.start.double.addInt placeholderLength)) body, ?_, ?_, ?_⟩
  · rw [patch, if_neg (not_not.mpr regular.length)]
    exact if_neg within
  · rw [unitLength_append, unitLength_append, unitLength_takeUnits, unitLength_dropUnits, width]
    exact longer
  · intro after
    obtain ⟨fits, last⟩ := inside after
    rw [unitLength_append, unitLength_append, unitLength_takeUnits, unitLength_dropUnits, width,
      last]
    omega

end Patch

/-! ## References in turn -/

section PatchAll

variable {digits body : List Char} {references : List Reference} {size : Nat}
  (width : unitLength digits = placeholderLength)
  (regular : ∀ reference ∈ references, reference.Regular)
  (small : size < powerOf 2 53)

include width regular small

theorem exists_patchAll_of_ends (enough : size ≤ unitLength body)
    (ends : ∀ reference ∈ references, 2 * (reference.first + 20) ≤ size) :
    ∃ written, patchAll digits references body = .ok written ∧ size ≤ unitLength written ∧
      ((∀ reference ∈ references, 0 ≤ reference.first) →
        unitLength written = unitLength body) := by
  induction references generalizing body with
  | nil => exact ⟨body, rfl, enough, fun _ => rfl⟩
  | cons reference rest ih =>
      rw [List.forall_mem_cons] at regular ends
      obtain ⟨middle, patched, longer, same⟩ :=
        exists_patch_of_ends regular.1 small enough ends.1 width
      obtain ⟨written, others, longer, alike⟩ := ih regular.2 longer ends.2
      refine ⟨written, ?_, longer, ?_⟩
      · rw [patchAll, patched]
        exact others
      · intro after
        rw [List.forall_mem_cons] at after
        rw [alike after.2, same after.1]

theorem patchAll_eq_outside (length : unitLength body = size)
    (after : ∀ reference ∈ references, 0 ≤ reference.first)
    (behind : ∃ reference ∈ references, size < 2 * (reference.first + 20)) :
    ∃ (earlier later : List Reference) (reference : Reference),
      references = earlier ++ reference :: later ∧
      (∀ other ∈ earlier, 2 * (other.first + 20) ≤ size) ∧ size < 2 * (reference.first + 20) ∧
      patchAll digits references body = .error (.outside reference.start) := by
  obtain ⟨earlier, reference, later, rfl, before, behind⟩ := exists_first behind
  rw [List.forall_mem_append, List.forall_mem_cons] at regular after
  have ends : ∀ other ∈ earlier, 2 * (other.first + 20) ≤ size :=
    fun other member => Int.not_lt.mp (before other member)
  obtain ⟨middle, patched, _, alike⟩ :=
    exists_patchAll_of_ends width regular.1 small (Nat.le_of_eq length.symm) ends
  have kept : unitLength middle = size := (alike after.1).trans length
  refine ⟨earlier, later, reference, rfl, ends, behind, ?_⟩
  apply patchAll_eq_error.mpr
  refine ⟨earlier, reference, later, middle, rfl, patched, ?_⟩
  apply patch_eq_outside regular.2.1
  · rw [kept]
    exact small
  · rw [kept]
    exact behind

end PatchAll

/-! ## Any text and any places -/

theorem unitLength_lowerDigits (address : Address) :
    unitLength address.lowerDigits = placeholderLength :=
  (unitLength_eq_length address.lowerDigits_small.narrow).trans address.length_lowerDigits

theorem unitLength_replaceAll_placeholder (name : String) (address : Address)
    (text : List Char) :
    unitLength (replaceAll (placeholder name.toList) address.lowerDigits text) =
      unitLength text := by
  have given := placeholder_ne_nil name.toList
  have width : unitLength (placeholder name.toList) = placeholderLength :=
    (unitLength_eq_length (Placeholder.of name).narrow).trans (Placeholder.of name).length_text
  exact unitLength_replaceAll given ((unitLength_lowerDigits address).trans width.symm) text

/-- What linking a library does with references to it that are as long as an address, in a text of
`size` units behind its mark. -/
structure ChecksEnds (artifact : Artifact) (name : String) (address : Address)
    (references : List Reference) (size : Nat) : Prop where
  /-- If all references lie inside, the library is linked and the text stays as long. -/
  inside : (∀ reference ∈ references,
      0 ≤ reference.first ∧ 2 * (reference.first + 20) ≤ size) →
    ∃ linked, artifact.applyLink name address.text = .ok linked ∧
      unitLength linked.object.toList = unitLength artifact.object.toList
  /-- If one ends behind the text and none starts before it, the first that ends behind is told. -/
  behind : (∀ reference ∈ references, 0 ≤ reference.first) →
    (∃ reference ∈ references, size < 2 * (reference.first + 20)) →
    ∃ (earlier later : List Reference) (reference : Reference),
      references = earlier ++ reference :: later ∧
      (∀ other ∈ earlier, 2 * (other.first + 20) ≤ size) ∧ size < 2 * (reference.first + 20) ∧
      artifact.applyLink name address.text =
        .error (.linking artifact.contractName name (.outside reference.start))
  /-- If none ends behind the text, the library is linked wherever the references start, and the
  text becomes no shorter. -/
  before : (∀ reference ∈ references, 2 * (reference.first + 20) ≤ size) →
    ∃ linked, artifact.applyLink name address.text = .ok linked ∧
      unitLength artifact.object.toList ≤ unitLength linked.object.toList

section Marked

variable {artifact : Artifact} {name file library : String} {body : List Char}
  (marked : artifact.object.toList = '0' :: 'x' :: body)
  (short : unitLength body < powerOf 2 53) (qualifies : Qualifies name file library)
  (plain : artifact.inherits name = false)
  (regular : ∀ reference ∈ referencesTo artifact.references file library, reference.Regular)

include marked short qualifies plain regular

theorem exists_linked_of_ends (address : Address)
    (ends : ∀ reference ∈ referencesTo artifact.references file library,
      2 * (reference.first + 20) ≤ unitLength body) :
    ∃ linked, artifact.applyLink name address.text = .ok linked ∧
      unitLength artifact.object.toList ≤ unitLength linked.object.toList ∧
      ((∀ reference ∈ referencesTo artifact.references file library, 0 ≤ reference.first) →
        unitLength linked.object.toList = unitLength artifact.object.toList) := by
  obtain ⟨written, patched, longer, alike⟩ := exists_patchAll_of_ends
    (unitLength_lowerDigits address) regular short (Nat.le_refl _) ends
  have linking := qualifies.applyLink_of_found (qualifies.referencesFound_eq plain) address
  rw [marked, dropUnits_mark, patched] at linking
  have before : unitLength artifact.object.toList = unitLength ['0', 'x'] + unitLength body := by
    rw [marked, ← unitLength_append]
    rfl
  have behind : unitLength (artifact.relinked file library
      (replaceAll (placeholder name.toList) address.lowerDigits written)).object.toList =
        unitLength ['0', 'x'] + unitLength written := by
    rw [relinked, String.toList_ofList, ← unitLength_replaceAll_placeholder name address written,
      ← unitLength_append]
    rfl
  refine ⟨_, linking, ?_, ?_⟩
  · change unitLength artifact.object.toList ≤ unitLength (relinked ..).object.toList
    rw [before, behind]
    exact Nat.add_le_add_left longer _
  · intro after
    change unitLength (relinked ..).object.toList = unitLength artifact.object.toList
    rw [before, behind, alike after]

/-- Linking refuses references for their ends alone, provided that the name leads to nothing
inherited.  A text has less than 2^53 units, so that numbers tell its places exactly. -/
theorem checks_ends (address : Address) :
    artifact.ChecksEnds name address (referencesTo artifact.references file library)
      (unitLength body) := by
  refine ⟨?_, ?_, ?_⟩
  · intro inside
    obtain ⟨linked, done, _, same⟩ := exists_linked_of_ends marked short qualifies plain regular
      address fun reference member => (inside reference member).2
    exact ⟨linked, done, same fun reference member => (inside reference member).1⟩
  · intro after behind
    obtain ⟨earlier, later, reference, listed, ends, outside, refused⟩ :=
      patchAll_eq_outside (unitLength_lowerDigits address) regular short rfl after behind
    have linking := qualifies.applyLink_of_found (qualifies.referencesFound_eq plain) address
    rw [marked, dropUnits_mark, refused] at linking
    exact ⟨earlier, later, reference, listed, ends, outside, linking⟩
  · intro ends
    obtain ⟨linked, done, longer, _⟩ :=
      exists_linked_of_ends marked short qualifies plain regular address ends
    exact ⟨linked, done, longer⟩

end Marked

/-- An image of twenty-two bytes with a reference that lies inside and one that ends a byte behind
it. -/
def overlongArtifact : Artifact :=
  { contractName := "Overlong"
    object := "0x00000000000000000000000000000000000000000000"
    references := [("a.sol", [("A", [⟨.int 2, .int 20⟩, ⟨.int 3, .int 20⟩])])] }

theorem checks_ends_overlong :
    ∃ (body : List Char) (address : Address),
      overlongArtifact.object.toList = '0' :: 'x' :: body ∧ unitLength body < powerOf 2 53 ∧
      Qualifies "a.sol:A" "a.sol" "A" ∧ overlongArtifact.inherits "a.sol:A" = false ∧
      (∀ reference ∈ referencesTo overlongArtifact.references "a.sol" "A", reference.Regular) ∧
      overlongArtifact.ChecksEnds "a.sol:A" address
        (referencesTo overlongArtifact.references "a.sol" "A") (unitLength body) ∧
      overlongArtifact.applyLink "a.sol:A" address.text =
        .error (.linking "Overlong" "a.sol:A" (.outside (.int 3))) := by
  have marked : overlongArtifact.object.toList = '0' :: 'x' :: overlongArtifact.body := by
    decide +kernel
  have short : unitLength overlongArtifact.body < powerOf 2 53 := by decide +kernel
  have qualifies : Qualifies "a.sol:A" "a.sol" "A" :=
    ⟨by decide +kernel, by decide, by decide, by decide⟩
  have regular : ∀ reference ∈ referencesTo overlongArtifact.references "a.sol" "A",
      reference.Regular := by
    have two : Reference.Regular ⟨.int 2, .int 20⟩ := ⟨rfl, rfl⟩
    have three : Reference.Regular ⟨.int 3, .int 20⟩ := ⟨rfl, rfl⟩
    exact List.forall_mem_cons.mpr ⟨two, List.forall_mem_singleton.mpr three⟩
  have plain : overlongArtifact.inherits "a.sol:A" = false := by decide +kernel
  have checks := checks_ends marked short qualifies plain regular
    ⟨"0x1111111111111111111111111111111111111111", by decide +kernel⟩
  have refused : overlongArtifact.linkLibrary "a.sol:A"
      "0x1111111111111111111111111111111111111111" =
        .error (.problem (.outside (.int 3))) := by
    decide +kernel
  refine ⟨_, _, marked, short, qualifies, plain, regular, checks, ?_⟩
  rw [applyLink, refused]
  rfl

/-- An image of twenty-two bytes with a reference that starts a byte before it. -/
def precededArtifact : Artifact :=
  { contractName := "Preceded"
    object := "0x00000000000000000000000000000000000000000000"
    references := [("a.sol", [("A", [⟨.int (-1), .int 20⟩])])] }

/-- What linking makes of it: the address stands before the last byte, and the last three bytes
stand behind it once more. -/
def precededOnce : Artifact :=
  { contractName := "Preceded"
    object := "0x000000000000000000000000000000000000000000" ++
      "1111111111111111111111111111111111111111000000"
    references := [] }

/-- A reference that starts before an image is not refused. -/
theorem links_before_image :
    precededArtifact.object.toList = '0' :: 'x' :: precededArtifact.body ∧
      Qualifies "a.sol:A" "a.sol" "A" ∧ precededArtifact.inherits "a.sol:A" = false ∧
      (∀ reference ∈ referencesTo precededArtifact.references "a.sol" "A",
        reference.Regular ∧ reference.first < 0) ∧
      precededArtifact.applyLink "a.sol:A" "0x1111111111111111111111111111111111111111" =
        .ok precededOnce ∧
      unitLength precededArtifact.object.toList < unitLength precededOnce.object.toList := by
  refine ⟨by decide +kernel, ⟨by decide +kernel, by decide, by decide, by decide⟩,
    by decide +kernel, ?_, eq_ok_of_toOption (by decide +kernel), by decide +kernel⟩
  have before : Reference.Regular ⟨.int (-1), .int 20⟩ := ⟨rfl, rfl⟩
  exact List.forall_mem_singleton.mpr ⟨before, by decide⟩

end Artifact

end Rollout
