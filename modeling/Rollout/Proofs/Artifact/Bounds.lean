import Mathlib.Logic.Relation
import Rollout.Proofs.Artifact.Grammar
import Rollout.Proofs.Artifact.Inheritance
import Rollout.Proofs.Overwriting

/-!
# References inside of an image

The references of an image that has been read lie inside of it.  Linking a library writes the digits
of its address over the references to it and then over places of its placeholder; the image keeps
its length, so that the references that are left lie inside of it as well.
-/

namespace Rollout

namespace Reference

/-- The character of a body at which a reference starts. -/
def place (reference : Reference) : Nat := 2 * (reference.start.toInt?.getD 0).toNat

/-- A reference lies inside of a body of `size` characters. -/
def Inside (size : Nat) (reference : Reference) : Prop :=
  ∃ start length : Nat, reference.start.toInt? = some (start : Int) ∧
    reference.length.toInt? = some (length : Int) ∧ 2 * (start + length) ≤ size

theorem Inside.fits {size : Nat} {reference : Reference} (inside : reference.Inside size)
    (length : reference.length = .int 20) :
    reference.place + Artifact.placeholderLength ≤ size := by
  obtain ⟨start, count, start_eq, count_eq, bound⟩ := inside
  rw [length] at count_eq
  have twenty : (20 : Int) = count := Option.some.inj count_eq
  rw [place, start_eq, Artifact.placeholderLength, Option.getD_some, Int.toNat_natCast]
  omega

end Reference

namespace Artifact

open Text

/-! ## Reading references -/

theorem Lies.inside {size : Nat} {reference : Reference} (lies : Lies size reference) :
    reference.Inside (2 * size) := by
  obtain ⟨first, count, first_eq, count_eq, signs, positive, fits⟩ := lies
  refine ⟨first.toNat, count.toNat, ?_, ?_, by omega⟩
  · rw [first_eq, Int.toNat_of_nonneg signs]
  · rw [count_eq, Int.toNat_of_nonneg (by omega)]

/-! ## Images with their references inside -/

/-- The characters of an image behind its mark. -/
def body (artifact : Artifact) : List Char := artifact.object.toList.drop 2

/-- The text of an artifact is marked and pairs up into bytes, its table has been built by
assignments, and the references lie inside of the image. -/
structure Bounded (artifact : Artifact) : Prop where
  marked : artifact.object.toList = '0' :: 'x' :: artifact.body
  narrow : Narrow artifact.body
  even : artifact.body.length % 2 = 0
  short : artifact.body.length < powerOf 2 53
  built : Built artifact.references
  inside : ∀ reference ∈ artifact.held, reference.Inside artifact.body.length

theorem Bounded.dropUnits_eq {artifact : Artifact} (bounded : artifact.Bounded) :
    dropUnits 2 artifact.object.toList = artifact.body := by
  rw [bounded.marked, dropUnits_mark]

theorem Spells.body_eq {artifact : Artifact} {tokens : List Token}
    (spells : artifact.Spells tokens) : artifact.body = textOf tokens := by
  rw [body, spells]
  rfl

/-- What has been read is built from the listing that its template describes. -/
theorem exists_listing_of_parse {template : Value} {contractName : String} {artifact : Artifact}
    (parsed : parse template contractName = .ok artifact)
    (short : artifact.object.length < powerOf 2 53) :
    artifact.object.toList = '0' :: 'x' :: artifact.body ∧ artifact.body.length % 2 = 0 ∧
      ∃ object listing, artifact = ofListing contractName object listing ∧
        IsTable (artifact.body.length / 2) (template.field "linkReferences") listing := by
  rw [parse, mapError_eq_ok, parseTemplate_eq_ok] at parsed
  obtain ⟨object, characters, listing, _, shape, _, pairs, read, rfl⟩ := parsed
  have same : body (ofListing contractName object listing) = characters := by
    rw [body, ofListing, shape]
    rfl
  have length : object.length = characters.length + 2 := by
    rw [← String.length_toList, shape, List.length_cons, List.length_cons]
  change object.length < powerOf 2 53 at short
  rw [same]
  exact ⟨shape, pairs, object, listing, rfl, (parseReferences_eq_ok (by omega)).mp read⟩

theorem bounded_of_parse {template : Value} {contractName : String} {artifact : Artifact}
    (parsed : parse template contractName = .ok artifact)
    (short : artifact.object.length < powerOf 2 53) : artifact.Bounded := by
  obtain ⟨tokens, spells, _⟩ := exists_spells_of_parse parsed
  obtain ⟨marked, even, object, listing, rfl, table⟩ := exists_listing_of_parse parsed short
  refine ⟨marked, ?_, even, ?_, built_of_parse parsed, ?_⟩
  · rw [spells.body_eq]
    exact narrow_textOf tokens
  · rw [← String.length_toList, marked, List.length_cons, List.length_cons] at short
    omega
  · intro reference member
    obtain ⟨file, library, listed, holds, inside⟩ := mem_held.mp member
    obtain ⟨libraries, entered, named⟩ := holds_ofListing holds
    have lies := (table.lies _ entered _ named reference inside).inside
    rwa [Nat.mul_div_cancel' (Nat.dvd_of_mod_eq_zero even)] at lies

/-! ## Patching as writing -/

section Patch

variable {digits body result : List Char}

/-- A reference of the length of an address is written over, and any other is refused. -/
theorem patch_eq_ok {reference : Reference} (width : digits.length = placeholderLength)
    (narrow : Narrow body) (short : body.length < powerOf 2 53)
    (inside : reference.Inside body.length) :
    patch digits body reference = .ok result ↔
      reference.length = .int 20 ∧ result = overwrite reference.place digits body := by
  by_cases length : reference.length = .int 20
  · have fits := inside.fits length
    obtain ⟨start, count, start_eq, _, _⟩ := inside
    have place_eq : reference.place = 2 * start := by
      rw [Reference.place, start_eq, Option.getD_some, Int.toNat_natCast]
    rw [place_eq] at fits ⊢
    have parts : body.take (2 * start) ++ (body.drop (2 * start)).take placeholderLength ++
        body.drop (2 * start + placeholderLength) = body := by
      rw [List.append_assoc, ← List.drop_drop, List.take_append_drop, List.take_append_drop]
    have front : (body.take (2 * start)).length = 2 * start := List.length_take_of_le (by omega)
    have slot : ((body.drop (2 * start)).take placeholderLength).length = placeholderLength := by
      rw [List.length_take_of_le]
      rw [List.length_drop]
      omega
    have first : reference.start.double.toInt? =
        some ((body.take (2 * start)).length : Int) := by
      rw [Number.toInt?_double start_eq (by omega), front]
      rfl
    have last : reference.start.double.addInt placeholderLength =
        .int ((body.take (2 * start)).length + placeholderLength : Nat) := by
      rw [Number.addInt_of_toInt? first _ (by rw [front]; omega)]
      rfl
    have written : patch digits _ ⟨reference.start, .int 20⟩ = .ok _ :=
      patch_eq first last slot (parts.symm ▸ narrow)
    rw [parts, ← length] at written
    rw [written, overwrite, width]
    simp only [length, true_and, Except.ok.injEq, eq_comm]
  · rw [patch, if_pos length]
    refine iff_of_false ?_ fun held => length held.1
    rintro ⟨⟩

/-- References are written over one after the other. -/
theorem patchAll_eq_ok {references : List Reference} (width : digits.length = placeholderLength)
    (plain : Narrow digits) (narrow : Narrow body) (short : body.length < powerOf 2 53)
    (inside : ∀ reference ∈ references, reference.Inside body.length) :
    patchAll digits references body = .ok result ↔
      (∀ reference ∈ references, reference.length = .int 20) ∧
        result = overwriteAll digits (references.map Reference.place) body := by
  induction references generalizing body with
  | nil =>
      rw [patchAll, Except.ok.injEq, eq_comm]
      simp [overwriteAll]
  | cons reference rest ih =>
      rw [List.forall_mem_cons] at inside
      rw [patchAll, bind_eq_ok, List.forall_mem_cons, List.map_cons, overwriteAll]
      simp only [patch_eq_ok width narrow short inside.1]
      -- What is left to write over lies inside of the body that the first reference leaves.
      have others : reference.length = .int 20 →
          (patchAll digits rest (overwrite reference.place digits body) = .ok result ↔
            (∀ other ∈ rest, other.length = .int 20) ∧ result =
              overwriteAll digits (rest.map Reference.place)
                (overwrite reference.place digits body)) := by
        intro length
        have kept : (overwrite reference.place digits body).length = body.length :=
          length_overwrite (width ▸ inside.1.fits length)
        apply ih (narrow_overwrite plain narrow reference.place)
        · rw [kept]
          exact short
        · rw [kept]
          exact inside.2
      constructor
      · rintro ⟨middle, ⟨length, rfl⟩, written⟩
        obtain ⟨lengths, equal⟩ := (others length).mp written
        exact ⟨⟨length, lengths⟩, equal⟩
      · rintro ⟨⟨length, lengths⟩, equal⟩
        exact ⟨_, ⟨length, rfl⟩, (others length).mpr ⟨lengths, equal⟩⟩

end Patch

/-! ## Linking as writing -/

/-- The body of an artifact once the digits of an address have been written over references. -/
def patched (artifact : Artifact) (references : List Reference) (target : Address) : List Char :=
  overwriteAll target.lowerDigits (references.map Reference.place) artifact.body

/-- The references that are gone through to link a library; there are none if that is not
possible. -/
def followed (artifact : Artifact) (file library : String) : List Reference :=
  (artifact.referencesFound file library).toOption.getD []

theorem followed_of_found {artifact : Artifact} {file library : String}
    {references : List Reference} (found : artifact.referencesFound file library = .ok references) :
    artifact.followed file library = references := by
  rw [followed, found]
  rfl

/-- What is gone through for a library is held for it, if it is not empty. -/
theorem holds_followed (artifact : Artifact) (file library : String) :
    artifact.followed file library = [] ∨
      artifact.Holds file library (artifact.followed file library) := by
  cases found : artifact.referencesFound file library with
  | error fault =>
      rw [followed, found]
      exact .inl rfl
  | ok references =>
      rw [followed_of_found found]
      obtain same | empty := Found.items_eq_ok found
      · exact .inr (holds_of_found same)
      · exact .inl empty

theorem followed_subset_held (artifact : Artifact) (file library : String) :
    artifact.followed file library ⊆ artifact.held := by
  obtain empty | holds := artifact.holds_followed file library
  · rw [empty]
    exact List.nil_subset _
  · exact holds.subset_held

/-- Where a name leads to nothing inherited, the references recorded for it are gone through. -/
theorem Qualifies.followed_eq {artifact : Artifact} {name file library : String}
    (qualifies : Qualifies name file library) (plain : artifact.inherits name = false) :
    artifact.followed file library = referencesTo artifact.references file library :=
  followed_of_found (qualifies.referencesFound_eq plain)

/-- Whatever a name leads to, nothing but the references recorded for it is gone through, unless its
file or its library has the name of parents. -/
theorem followed_eq {artifact : Artifact} {file library : String} (fileApart : file ≠ parentName)
    (libraryApart : library ≠ parentName) :
    artifact.followed file library = referencesTo artifact.references file library := by
  rw [referencesTo]
  cases recorded : recorded? artifact.references file library with
  | some listed => exact followed_of_found (referencesFound_of_recorded? recorded)
  | none =>
      obtain empty | holds := artifact.holds_followed file library
      · exact empty
      · generalize artifact.followed file library = references at holds
        cases holds with
        | row listed => exact absurd recorded (recorded?_ne_none listed)
        | parent gives => cases gives <;> contradiction

/-- A library has been linked: the digits of its address are written over the references to it and
over places of its placeholder, and its references are forgotten. -/
structure Link (artifact linked : Artifact) (name file library : String) (target : Address)
    (places : List Nat) : Prop where
  contractName : linked.contractName = artifact.contractName
  references : linked.references = forget artifact.references file library
  parents : linked.parents = parentsWithout artifact.references file library
  lengths : ∀ reference ∈ artifact.followed file library, reference.length = .int 20
  occurs : ∀ place ∈ places, placeholder name.toList <+:
    (artifact.patched (artifact.followed file library) target).drop place
  object : linked.object.toList = '0' :: 'x' :: overwriteAll target.lowerDigits places
    (artifact.patched (artifact.followed file library) target)

section Link

variable {artifact linked : Artifact} {name address file library : String} {target : Address}
  {places : List Nat}

theorem inside_followed (bounded : artifact.Bounded) (file library : String) :
    ∀ reference ∈ artifact.followed file library, reference.Inside artifact.body.length :=
  fun reference member =>
    bounded.inside reference (followed_subset_held artifact file library member)

theorem fit_followed (bounded : artifact.Bounded)
    (lengths : ∀ reference ∈ artifact.followed file library, reference.length = .int 20) :
    ∀ place ∈ (artifact.followed file library).map Reference.place,
      place + target.lowerDigits.length ≤ artifact.body.length := by
  rw [List.forall_mem_map, target.length_lowerDigits]
  intro reference member
  exact (inside_followed bounded file library reference member).fits (lengths reference member)

theorem exists_link (bounded : artifact.Bounded)
    (done : artifact.applyLink name address = .ok linked) :
    ∃ (file library : String) (target : Address) (places : List Nat),
      Qualifies name file library ∧ target.text = address ∧
      artifact.Link linked name file library target places := by
  obtain ⟨file, library, target, references, written, qualifies, given, found, patched_eq, rfl⟩ :=
    exists_of_applyLink done
  obtain rfl := followed_of_found found
  rw [bounded.dropUnits_eq, patchAll_eq_ok target.length_lowerDigits target.lowerDigits_small.narrow
    bounded.narrow bounded.short (inside_followed bounded _ _)] at patched_eq
  obtain ⟨lengths, rfl⟩ := patched_eq
  have whole := length_placeholder name.toList
  have begun := placeholder_ne_nil name.toList
  obtain ⟨places, occurs, replaced⟩ :=
    exists_overwriteAll_of_replaceAll begun (target.length_lowerDigits.trans whole.symm)
      (artifact.patched (artifact.followed file library) target)
  refine ⟨file, library, target, places, qualifies, given, rfl, rfl, rfl, lengths, occurs, ?_⟩
  rw [relinked, String.toList_ofList, ← replaced]
  rfl

end Link

end Artifact

end Rollout
