import Rollout.Proofs.Artifact.Frame

/-!
# Why linking fails

Linking a library fails for its name, for its address, because its name leads to something
inherited that is no list of references, or for the length of a reference to it, which are looked at
in this order.  With an image that has been read it fails for nothing else: the references to all
libraries lie inside of the image, and they do so however many libraries have been linked before.
-/

namespace Rollout.Artifact

open Text

/-! ## References in turn -/

/-- What holds of an item of a list holds of a first one. -/
theorem exists_first {α : Type} {property : α → Prop} {items : List α}
    (holds : ∃ item ∈ items, property item) :
    ∃ earlier item later, items = earlier ++ item :: later ∧
      (∀ other ∈ earlier, ¬ property other) ∧ property item := by
  induction items with
  | nil => simp at holds
  | cons first rest ih =>
      by_cases here : property first
      · exact ⟨[], first, rest, rfl, by simp, here⟩
      · simp only [List.mem_cons, exists_eq_or_imp, here, false_or] at holds
        obtain ⟨earlier, item, later, rfl, before, found⟩ := ih holds
        exact ⟨first :: earlier, item, later, rfl, List.forall_mem_cons.mpr ⟨here, before⟩, found⟩

section Patch

variable {digits body : List Char} {problem : LinkProblem}

/-- References are written over in turn, up to the first one that is refused. -/
theorem patchAll_eq_error {references : List Reference} :
    patchAll digits references body = .error problem ↔
      ∃ earlier reference later middle, references = earlier ++ reference :: later ∧
        patchAll digits earlier body = .ok middle ∧
        patch digits middle reference = .error problem := by
  induction references generalizing body with
  | nil =>
      refine iff_of_false (fun same => nomatch same) ?_
      rintro ⟨earlier, reference, later, middle, split, _⟩
      exact List.append_ne_nil_of_right_ne_nil earlier (List.cons_ne_nil _ _) split.symm
  | cons first rest ih =>
      rw [patchAll, bind_eq_error]
      constructor
      · rintro (refused | ⟨next, written, refused⟩)
        · exact ⟨[], first, rest, body, rfl, rfl, refused⟩
        · obtain ⟨earlier, reference, later, middle, rfl, before, refused⟩ := ih.mp refused
          refine ⟨first :: earlier, reference, later, middle, rfl, ?_, refused⟩
          rw [patchAll, written]
          exact before
      · rintro ⟨_ | ⟨other, earlier⟩, reference, later, middle, split, before, refused⟩
        · obtain ⟨rfl, rfl⟩ := List.cons.inj split
          cases before
          exact .inl refused
        · obtain ⟨rfl, rfl⟩ := List.cons.inj split
          obtain ⟨next, written, before⟩ := bind_eq_ok.mp before
          exact .inr ⟨next, written,
            ih.mpr ⟨earlier, reference, later, middle, rfl, before, refused⟩⟩

section Inside

variable (width : digits.length = placeholderLength)

include width

theorem patch_eq_error {reference : Reference} (narrow : Narrow body)
    (short : body.length < powerOf 2 53) (inside : reference.Inside body.length) :
    patch digits body reference = .error problem ↔
      reference.length ≠ .int 20 ∧ problem = .badLength reference.start reference.length := by
  by_cases length : reference.length = .int 20
  · have written := (patch_eq_ok width narrow short inside).mpr ⟨length, rfl⟩
    rw [written]
    refine iff_of_false (fun same => nomatch same) ?_
    exact fun held => held.1 length
  · rw [patch, if_pos length, Except.error.injEq, eq_comm]
    exact (and_iff_right length).symm

/-- Of references inside of a body, the first that is not as long as an address is refused. -/
theorem patchAll_eq_badLength {references : List Reference} (plain : Narrow digits)
    (narrow : Narrow body) (short : body.length < powerOf 2 53)
    (inside : ∀ reference ∈ references, reference.Inside body.length) :
    patchAll digits references body = .error problem ↔
      ∃ earlier reference later, references = earlier ++ reference :: later ∧
        (∀ other ∈ earlier, other.length = .int 20) ∧ reference.length ≠ .int 20 ∧
        problem = .badLength reference.start reference.length := by
  rw [patchAll_eq_error]
  refine exists_congr fun earlier => exists_congr fun reference => exists_congr fun later => ?_
  -- The body that the references before leave is as long, so that the next one lies inside of it.
  have first : references = earlier ++ reference :: later →
      ((∃ middle, patchAll digits earlier body = .ok middle ∧
        patch digits middle reference = .error problem) ↔
      (∀ other ∈ earlier, other.length = .int 20) ∧ reference.length ≠ .int 20 ∧
        problem = .badLength reference.start reference.length) := by
    rintro rfl
    rw [List.forall_mem_append, List.forall_mem_cons] at inside
    simp only [patchAll_eq_ok width plain narrow short inside.1, and_assoc, exists_and_left,
      exists_eq_left]
    refine and_congr_right fun lengths => ?_
    have fit : ∀ place ∈ earlier.map Reference.place, place + digits.length ≤ body.length := by
      rw [List.forall_mem_map, width]
      exact fun other member => (inside.1 other member).fits (lengths other member)
    have kept := length_overwriteAll fit
    apply patch_eq_error width (narrow_overwriteAll plain narrow _)
    · rw [kept]
      exact short
    · rw [kept]
      exact inside.2.1
  simp only [exists_and_left]
  exact and_congr_right first

end Inside

end Patch

/-! ## Names, addresses and references -/

section Cause

variable {artifact : Artifact} {name address file library : String}

theorem applyLink_eq_unqualified (unnamed : ∀ file library, ¬ Qualifies name file library) :
    artifact.applyLink name address =
      .error (.linking artifact.contractName name .unqualified) := by
  have apart : splitQualifiedName? name.toList = none := by
    rw [Option.eq_none_iff_forall_ne_some]
    rintro ⟨file, library⟩ split
    exact unnamed _ _ (qualifies_of_split split)
  simp only [applyLink, linkLibrary, apart, Except.mapError, LinkFault.failure]

section Qualifies

variable (qualifies : Qualifies name file library)

include qualifies

theorem applyLink_eq_badAddress (malformed : isAddressText address = false) :
    artifact.applyLink name address =
      .error (.linking artifact.contractName name (.badAddress address)) := by
  have refused : Address.ofText address = .error (.malformed address) := by
    rw [Address.ofText, dif_neg (Bool.not_eq_true _ ▸ malformed)]
  simp only [applyLink, linkLibrary, qualifies.split, refused, Except.mapError, LinkFault.failure]

/-- With references inside of the image, linking fails at the first one that is not as long as an
address. -/
theorem applyLink_eq_badLength (valid : isAddressText address = true) (bounded : artifact.Bounded)
    {references : List Reference} (found : artifact.referencesFound file library = .ok references)
    {failure : Failure} :
    artifact.applyLink name address = .error failure ↔ ∃ earlier reference later,
      references = earlier ++ reference :: later ∧
        (∀ other ∈ earlier, other.length = .int 20) ∧ reference.length ≠ .int 20 ∧
        failure = .linking artifact.contractName name
          (.badLength reference.start reference.length) := by
  have linking : artifact.applyLink name address = _ :=
    qualifies.applyLink_of_found found ⟨address, valid⟩
  have inside : ∀ reference ∈ references, reference.Inside artifact.body.length :=
    fun reference member => bounded.inside reference
      (followed_subset_held artifact file library ((followed_of_found found).symm ▸ member))
  simp only [linking, mapError_eq_error, map_eq_error, bounded.dropUnits_eq,
    patchAll_eq_badLength (Address.length_lowerDigits _) (Address.lowerDigits_small _).narrow
      bounded.narrow bounded.short inside]
  constructor
  · rintro ⟨_, ⟨earlier, reference, later, listed, before, length, rfl⟩, rfl⟩
    exact ⟨earlier, reference, later, listed, before, length, rfl⟩
  · rintro ⟨earlier, reference, later, listed, before, length, rfl⟩
    exact ⟨_, ⟨earlier, reference, later, listed, before, length, rfl⟩, rfl⟩

end Qualifies

/-- The cause for which linking at an address fails. -/
inductive Refusal (artifact : Artifact) (name address : String) : LinkFault → Prop
  /-- The name is not that of a library of a file. -/
  | unqualified (unnamed : ∀ file library, ¬ Qualifies name file library) :
      Refusal artifact name address (.problem .unqualified)
  /-- The address is none. -/
  | badAddress {file library : String} (qualifies : Qualifies name file library)
      (malformed : isAddressText address = false) :
      Refusal artifact name address (.problem (.badAddress address))
  /-- The name leads to something inherited that is no list of references. -/
  | inherited {file library : String} (qualifies : Qualifies name file library)
      (valid : isAddressText address = true) {fault : LinkFault}
      (found : artifact.referencesFound file library = .error fault) :
      Refusal artifact name address fault
  /-- A reference to the library is not as long as an address, and those before it are. -/
  | badLength {file library : String} (qualifies : Qualifies name file library)
      (valid : isAddressText address = true) {earlier later : List Reference}
      {reference : Reference}
      (found : artifact.referencesFound file library = .ok (earlier ++ reference :: later))
      (before : ∀ other ∈ earlier, other.length = .int 20)
      (length : reference.length ≠ .int 20) :
      Refusal artifact name address (.problem (.badLength reference.start reference.length))

/-- Either there is no such name, or there is one and no address, or both are given. -/
theorem given_cases (name address : String) :
    (∀ file library, ¬ Qualifies name file library) ∨
      (∃ file library, Qualifies name file library ∧ isAddressText address = false) ∨
      ∃ file library, Qualifies name file library ∧ isAddressText address = true := by
  by_cases named : ∃ file library, Qualifies name file library
  · obtain ⟨file, library, qualifies⟩ := named
    cases valid : isAddressText address with
    | false => exact .inr (.inl ⟨file, library, qualifies, rfl⟩)
    | true => exact .inr (.inr ⟨file, library, qualifies, rfl⟩)
  · exact .inl fun file library qualifies => named ⟨file, library, qualifies⟩

/-- Linking a library of an image that has been read fails for such a cause, and then the failure
tells it. -/
theorem applyLink_eq_error (bounded : artifact.Bounded) {failure : Failure} :
    artifact.applyLink name address = .error failure ↔ ∃ fault,
      artifact.Refusal name address fault ∧
        failure = fault.failure artifact.contractName name := by
  constructor
  · intro refused
    rcases given_cases name address with
      unnamed | ⟨file, library, qualifies, malformed⟩ | ⟨file, library, qualifies, valid⟩
    · rw [applyLink_eq_unqualified unnamed] at refused
      cases refused
      exact ⟨_, .unqualified unnamed, rfl⟩
    · rw [applyLink_eq_badAddress qualifies malformed] at refused
      cases refused
      exact ⟨_, .badAddress qualifies malformed, rfl⟩
    · cases found : artifact.referencesFound file library with
      | error fault =>
          rw [qualifies.applyLink_of_error found ⟨address, valid⟩] at refused
          cases refused
          exact ⟨_, .inherited qualifies valid found, rfl⟩
      | ok references =>
          obtain ⟨earlier, reference, later, rfl, before, length, rfl⟩ :=
            (applyLink_eq_badLength qualifies valid bounded found).mp refused
          exact ⟨_, .badLength qualifies valid found before length, rfl⟩
  · rintro ⟨fault, cause, rfl⟩
    cases cause with
    | unqualified unnamed => exact applyLink_eq_unqualified unnamed
    | badAddress qualifies malformed => exact applyLink_eq_badAddress qualifies malformed
    | inherited qualifies valid found => exact qualifies.applyLink_of_error found ⟨address, valid⟩
    | badLength qualifies valid found before length =>
        apply (applyLink_eq_badLength qualifies valid bounded found).mpr
        exact ⟨_, _, _, rfl, before, length, rfl⟩

/-- Where a name leads to nothing inherited, there is a cause if and only if the name, the address
or a recorded reference is wrong. -/
theorem exists_refusal_iff (plain : artifact.inherits name = false) :
    (∃ fault, artifact.Refusal name address fault) ↔
      (∀ file library, ¬ Qualifies name file library) ∨ isAddressText address = false ∨
        ∃ file library, Qualifies name file library ∧
          ∃ reference ∈ referencesTo artifact.references file library,
            reference.length ≠ .int 20 := by
  constructor
  · rintro ⟨fault, cause⟩
    cases cause with
    | unqualified unnamed => exact .inl unnamed
    | badAddress _ malformed => exact .inr (.inl malformed)
    | inherited qualifies _ found =>
        rw [qualifies.referencesFound_eq plain] at found
        contradiction
    | badLength qualifies _ found _ length =>
        rw [qualifies.referencesFound_eq plain] at found
        have listed := Except.ok.inj found
        exact .inr (.inr ⟨_, _, qualifies, _, by rw [listed]; simp, length⟩)
  · intro wrong
    rcases given_cases name address with
      unnamed | ⟨file, library, qualifies, malformed⟩ | ⟨_, _, named, valid⟩
    · exact ⟨_, .unqualified unnamed⟩
    · exact ⟨_, .badAddress qualifies malformed⟩
    · rcases wrong with unnamed | malformed | ⟨file, library, qualifies, odd⟩
      · exact absurd named (unnamed _ _)
      · rw [valid] at malformed
        contradiction
      · obtain ⟨earlier, reference, later, listed, before, length⟩ := exists_first odd
        have found := qualifies.referencesFound_eq plain
        rw [listed] at found
        refine ⟨_, .badLength qualifies valid found ?_ length⟩
        exact fun other member => not_not.mp (before other member)

end Cause

/-! ## Images that have been read -/

/-- When and how linking a library fails. -/
structure RefusesForCause (artifact : Artifact) (name address : String) : Prop where
  /-- Unless the name leads to something inherited, it fails for a name that is not that of a
  library of a file, for a wrong address and for a reference to the library that is not as long as
  an address. -/
  refused : artifact.inherits name = false →
    ((∃ failure, artifact.applyLink name address = .error failure) ↔
      (∀ file library, ¬ Qualifies name file library) ∨ isAddressText address = false ∨
        ∃ file library, Qualifies name file library ∧
          ∃ reference ∈ referencesTo artifact.references file library, reference.length ≠ .int 20)
  /-- The failure tells the first cause. -/
  failure : ∀ failure, artifact.applyLink name address = .error failure ↔ ∃ fault,
    artifact.Refusal name address fault ∧ failure = fault.failure artifact.contractName name
  /-- Unless the name leads to something inherited, it tells the contract and the name. -/
  linking : artifact.inherits name = false →
    ∀ failure, artifact.applyLink name address = .error failure → ∃ problem,
      failure = .linking artifact.contractName name problem
  /-- No reference is told to end behind the image. -/
  inside : ∀ contractName reference start,
    artifact.applyLink name address ≠ .error (.linking contractName reference (.outside start))

/-- What is found but cannot be gone through is not told to end behind the image. -/
theorem items_ne_outside (found : Found) (start : Number) :
    found.items ≠ .error (.problem (.outside start)) := by
  cases found with
  | common kind => cases kind <;> simp [Found.items, Found.notIterable]
  | text content =>
      rw [Found.items]
      split <;> simp
  | _ => simp [Found.items, Found.notIterable]

theorem Refusal.ne_outside {artifact : Artifact} {name address : String} {start : Number} :
    ¬ artifact.Refusal name address (.problem (.outside start)) := by
  intro cause
  cases cause with
  | inherited _ _ found => exact items_ne_outside _ start found

/-- An image that has been read, in which any libraries have been linked, refuses a library for its
name, its address or the length of a reference, unless the name leads to something inherited.  A
text has less than 2^53 characters, so that numbers tell its places exactly.  Names are sequences of
Unicode characters: texts with half of a surrogate pair, which cannot be hashed, are not among
them. -/
theorem refuses_for_cause {template : Value} {contractName : String} {artifact current : Artifact}
    (parsed : parse template contractName = .ok artifact)
    (short : artifact.object.length < powerOf 2 53)
    (chain : Relation.ReflTransGen LinksTo artifact current) (name address : String) :
    current.RefusesForCause name address := by
  have bounded := (stage_of_linksTo (bounded_of_parse parsed short) chain).bounded
  have failure (failure : Failure) : current.applyLink name address = .error failure ↔
      ∃ fault, current.Refusal name address fault ∧
        failure = fault.failure current.contractName name := applyLink_eq_error bounded
  refine ⟨fun plain => ?_, failure, fun plain => ?_, ?_⟩
  · rw [← exists_refusal_iff plain]
    constructor
    · rintro ⟨refused, fails⟩
      obtain ⟨fault, cause, _⟩ := (failure refused).mp fails
      exact ⟨fault, cause⟩
    · rintro ⟨fault, cause⟩
      exact ⟨_, (failure _).mpr ⟨fault, cause, rfl⟩⟩
  · intro refused fails
    obtain ⟨fault, cause, rfl⟩ := (failure refused).mp fails
    cases cause with
    | inherited qualifies _ found =>
        rw [qualifies.referencesFound_eq plain] at found
        contradiction
    | _ => exact ⟨_, rfl⟩
  · intro contractName reference start refused
    obtain ⟨fault, cause, same⟩ := (failure _).mp refused
    cases fault with
    | mistyped message => contradiction
    | problem problem =>
        cases same
        exact cause.ne_outside

/-- A table with a reference that is shorter than an address, behind one that is as long. -/
def uneven : Value :=
  .record
    [("object", .text "0x00000000000000000000000000000000000000000000"),
      ("linkReferences", .record [("a.sol", .record
        [("A", .list [.record [("start", .number (.int 0)), ("length", .number (.int 20))]]),
          ("B", .list
            [.record [("start", .number (.int 2)), ("length", .number (.int 20))],
              .record [("start", .number (.int 15)), ("length", .number (.int 7))]])])])]

/-- What is read from it. -/
def unevenArtifact : Artifact :=
  { contractName := "Uneven"
    object := "0x00000000000000000000000000000000000000000000"
    references :=
      [("a.sol", [("A", [⟨.int 0, .int 20⟩]), ("B", [⟨.int 2, .int 20⟩, ⟨.int 15, .int 7⟩])])] }

/-- What is left of it when the other library has been linked. -/
def unevenOnce : Artifact :=
  { contractName := "Uneven"
    object := "0x11111111111111111111111111111111111111110000"
    references := [("a.sol", [("B", [⟨.int 2, .int 20⟩, ⟨.int 15, .int 7⟩])])] }

theorem parse_uneven : parse uneven "Uneven" = .ok unevenArtifact :=
  eq_ok_of_toOption (by decide +kernel)

theorem refuses_for_cause_uneven :
    parse uneven "Uneven" = .ok unevenArtifact ∧
      unevenArtifact.object.length < powerOf 2 53 ∧
      Relation.ReflTransGen LinksTo unevenArtifact unevenOnce ∧
      unevenOnce.RefusesForCause "a.sol:B" "0x2222222222222222222222222222222222222222" ∧
      unevenOnce.applyLink "a.sol:B" "0x2222222222222222222222222222222222222222" =
        .error (.linking "Uneven" "a.sol:B" (.badLength (.int 15) (.int 7))) := by
  have short : unevenArtifact.object.length < powerOf 2 53 := by decide +kernel
  have linked : unevenArtifact.applyLink "a.sol:A" "0x1111111111111111111111111111111111111111" =
      .ok unevenOnce :=
    eq_ok_of_toOption (by decide +kernel)
  have chain : Relation.ReflTransGen LinksTo unevenArtifact unevenOnce := .single ⟨_, _, linked⟩
  have refuses := refuses_for_cause parse_uneven short chain "a.sol:B"
    "0x2222222222222222222222222222222222222222"
  have qualifies : Qualifies "a.sol:B" "a.sol" "B" :=
    ⟨by decide +kernel, by decide, by decide, by decide⟩
  have found : unevenOnce.referencesFound "a.sol" "B" =
      .ok ([⟨.int 2, .int 20⟩] ++ ⟨.int 15, .int 7⟩ :: []) := rfl
  have cause : unevenOnce.Refusal "a.sol:B" "0x2222222222222222222222222222222222222222"
      (.problem (.badLength (.int 15) (.int 7))) :=
    .badLength qualifies (by decide +kernel) found (by decide) (by decide)
  exact ⟨parse_uneven, short, chain, refuses, (refuses.failure _).mpr ⟨_, cause, rfl⟩⟩

/-- A name that is that of a library of a file, with an address and nothing recorded, is refused: it
leads to an inherited operation, and to the name of that. -/
theorem refuses_inherited_name :
    parse uneven "Uneven" = .ok unevenArtifact ∧
      unevenArtifact.object.length < powerOf 2 53 ∧
      Qualifies "valueOf:name" "valueOf" "name" ∧
      isAddressText "0x1111111111111111111111111111111111111111" = true ∧
      referencesTo unevenArtifact.references "valueOf" "name" = [] ∧
      unevenArtifact.applyLink "valueOf:name" "0x1111111111111111111111111111111111111111" =
        .error (.linking "Uneven" "valueOf:name" .unplaced) :=
  ⟨parse_uneven, by decide +kernel, ⟨by decide +kernel, by decide, by decide, by decide⟩,
    by decide +kernel, rfl, rfl⟩

end Rollout.Artifact
