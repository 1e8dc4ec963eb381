import Rollout.Artifact.Templates
import Rollout.Proofs.Artifact.Filling
import Rollout.Proofs.Artifact.Table

/-!
# Linking to the end

An artifact is consistent if the placeholder of a library stands wherever the table refers to the
library.  However its libraries are linked, it is complete as soon as every library of the table
and every placeholder has been linked; until then, the first that is missing is reported.
-/

namespace Rollout.Artifact

/-- Every name can be taken apart, and every reference leads to the placeholder of its library. -/
structure Consistent (artifact : Artifact) : Prop where
  named : ∀ row ∈ rows artifact.references, row.Named
  length : ∀ row ∈ rows artifact.references, ∀ reference ∈ row.references,
    reference.length = .int 20
  placed : ∀ row ∈ rows artifact.references, ∀ reference ∈ row.references, ∃ place : Nat,
    reference.start.toInt? = some (place : Int) ∧
      (artifact.object.toList.drop (2 + 2 * place)).take placeholderLength =
        placeholder row.name.toList

/-- Every reference of a row leads to a slot for its library. -/
def Sound (slots : List (Option Placeholder)) (row : Row) : Prop :=
  ∀ reference ∈ row.references, Recorded slots (.of row.name) reference

theorem Consistent.sound {artifact : Artifact} (consistent : artifact.Consistent)
    {tokens : List Token} (spells : artifact.Spells tokens) {row : Row}
    (member : row ∈ rows artifact.references) : Sound (skeleton tokens) row := by
  intro reference listed
  obtain ⟨place, start, found⟩ := consistent.placed row member reference listed
  have text : (artifact.object.toList.drop (2 + 2 * place)) = (textOf tokens).drop (2 * place) := by
    rw [spells, ← List.drop_drop]
    rfl
  rw [text, ← prefix_iff_take_eq] at found
  exact recorded_of_occurs (consistent.length row member reference listed) start found

theorem filter_filter_not_mem {α β : Type} [DecidableEq β] (key : α → β) (items : List α)
    (known : List β) (other : β) :
    (items.filter (key · ∉ known)).filter (key · ≠ other) =
      items.filter (key · ∉ known ++ [other]) := by
  rw [List.filter_filter]
  refine List.filter_congr fun item _ => ?_
  rw [← Bool.decide_and, decide_eq_decide, List.mem_append, List.mem_singleton, not_or]
  exact and_comm

/-! ## Linking libraries one after the other -/

/-- Link libraries one after the other. -/
def linkAll : Artifact → List (String × Address) → Except Failure Artifact
  | artifact, [] => .ok artifact
  | artifact, (name, address) :: rest => do
      let linked ← artifact.applyLink name address.text
      linkAll linked rest

/-- Whether a library that is linked in its turn leads to something inherited. -/
def meetsInherited : Artifact → List (String × Address) → Bool
  | _, [] => false
  | artifact, (name, address) :: rest =>
      artifact.inherits name ||
        match artifact.applyLink name address.text with
        | .ok linked => meetsInherited linked rest
        | .error _ => false

/-- Names that are not called like something that all tables inherit lead to nothing inherited, in
whatever order their libraries are linked. -/
theorem meetsInherited_eq_false {artifact : Artifact} (built : Built artifact.references)
    (unparented : artifact.parents = {}) {links : List (String × Address)}
    (apart : ∀ link ∈ links, isUninherited link.1 = true) :
    artifact.meetsInherited links = false := by
  induction links generalizing artifact with
  | nil => rfl
  | cons link rest ih =>
      rw [List.forall_mem_cons] at apart
      rw [meetsInherited, inherits_eq_false unparented apart.1, Bool.false_or]
      split
      · next linked done =>
          obtain ⟨file, library, _, _, _, _, _, _, _, rfl⟩ := exists_of_applyLink done
          exact ih (built_forget _ _ _) (built.parentsWithout_eq file library) apart.2
      · rfl

/-- What is left of an artifact with given tokens after the libraries of some names have been
linked: the rows of other libraries and the holes for other placeholders. -/
structure Leaves (artifact : Artifact) (before : List Token) (names : List String)
    (linked : Artifact) : Prop where
  contractName : linked.contractName = artifact.contractName
  built : Built linked.references
  table : rows linked.references = (rows artifact.references).filter (·.name ∉ names)
  tokens : ∃ tokens, linked.Spells tokens ∧ skeleton tokens = skeleton before ∧
    holes tokens = (holes before).filter (· ∉ names.map Placeholder.of)

theorem Leaves.refl {artifact : Artifact} {before : List Token} (spells : artifact.Spells before)
    (built : Built artifact.references) : Leaves artifact before [] artifact := by
  refine ⟨rfl, built, ?_, before, spells, rfl, ?_⟩
  · simp
  · simp

section Linking

variable {artifact : Artifact} {before : List Token}
  (named : ∀ row ∈ rows artifact.references, row.Named)
  (sound : ∀ row ∈ rows artifact.references, Sound (skeleton before) row)
  (short : (textOf before).length < powerOf 2 53)

include named sound short in
/-- Linking one more library removes its row and fills the holes for its placeholder.  A library
that has been linked before has no row, and no hole for it is left. -/
theorem Leaves.link {names : List String} {current : Artifact}
    (leaves : Leaves artifact before names current) {name : String}
    (split : (splitQualifiedName? name.toList).isSome = true)
    (plain : current.inherits name = false) (address : Address) :
    ∃ linked, current.applyLink name address.text = .ok linked ∧
      Leaves artifact before (names ++ [name]) linked := by
  obtain ⟨⟨file, library⟩, split⟩ := Option.isSome_iff_exists.mp split
  have qualifies := qualifies_of_split split
  obtain ⟨tokens, spells, slots, holes_eq⟩ := leaves.tokens
  have kept : ∀ row ∈ rows current.references, row ∈ rows artifact.references := by
    intro row member
    rw [leaves.table] at member
    exact List.mem_of_mem_filter member
  have recorded : ∀ reference ∈ referencesTo current.references (String.ofList file)
      (String.ofList library), Recorded (skeleton tokens) (.of name) reference := by
    intro reference member
    obtain ⟨row, listed, file_eq, library_eq, inside⟩ := exists_row_of_mem_referencesTo member
    have own : row.name = name :=
      ((named row (kept row listed)).name_eq_iff split).mpr ⟨file_eq, library_eq⟩
    rw [slots, ← own]
    exact sound row (kept row listed) reference inside
  have width : (textOf tokens).length < powerOf 2 53 := by
    rw [length_textOf, slots, ← length_textOf]
    exact short
  obtain ⟨filled, linked, fills, absent⟩ := exists_fills_of_applyLink spells width qualifies
    (qualifies.referencesFound_eq plain) recorded address
  refine ⟨_, linked, leaves.contractName, built_forget _ _ _, ?_, filled, String.toList_ofList,
    ?_, ?_⟩
  · rw [relinked, leaves.built.rows_forget_of_split (fun row member => named row (kept row member))
      split, leaves.table, filter_filter_not_mem]
  · rw [fills.skeleton_eq, slots]
  · rw [fills.holes_eq absent, holes_eq, List.map_append, List.map_singleton]
    exact filter_filter_not_mem id _ _ _

include named sound short in
/-- Libraries are linked one after the other, in whatever order. -/
theorem Leaves.linkAll {names : List String} {current : Artifact}
    (leaves : Leaves artifact before names current) (links : List (String × Address))
    (split : ∀ link ∈ links, (splitQualifiedName? link.1.toList).isSome = true)
    (plain : current.meetsInherited links = false) :
    ∃ linked, linkAll current links = .ok linked ∧
      Leaves artifact before (names ++ links.map Prod.fst) linked := by
  induction links generalizing names current with
  | nil =>
      rw [List.map_nil, List.append_nil]
      exact ⟨current, rfl, leaves⟩
  | cons link rest ih =>
      rw [List.forall_mem_cons] at split
      rw [meetsInherited, Bool.or_eq_false_iff] at plain
      obtain ⟨next, first, leaves⟩ := leaves.link named sound short split.1 plain.1 link.2
      rw [first] at plain
      obtain ⟨linked, others, leaves⟩ := ih leaves split.2 plain.2
      refine ⟨linked, ?_, ?_⟩
      · rw [Artifact.linkAll, first]
        exact others
      · rw [List.map_cons, ← List.singleton_append, ← List.append_assoc]
        exact leaves

end Linking

/-! ## What is missing -/

/-- The first row of a library that has not been linked. -/
def firstMissing? (artifact : Artifact) (names : List String) : Option Row :=
  (rows artifact.references).find? (·.name ∉ names)

/-- The leftmost placeholder that is not that of a linked library. -/
def firstUnfilled? (artifact : Artifact) (names : List String) : Option (List Char) :=
  (placeholdersIn artifact.object.toList).find? fun found =>
    ∀ name ∈ names, found ≠ placeholder name.toList

section Missing

variable {artifact linked : Artifact} {before : List Token} {names : List String}
  (leaves : Leaves artifact before names linked)

include leaves in
theorem Leaves.firstReference?_eq :
    firstReference? linked.references = (artifact.firstMissing? names).map Row.name := by
  rw [Artifact.firstReference?_eq, leaves.table, List.head?_filter, firstMissing?]

include leaves in
theorem Leaves.firstPlaceholder?_eq (spells : artifact.Spells before) :
    firstPlaceholder? linked.object.toList = artifact.firstUnfilled? names := by
  obtain ⟨tokens, kept, _, left⟩ := leaves.tokens
  have same : ∀ p : Placeholder, p ∉ names.map Placeholder.of ↔
      ∀ name ∈ names, p.text ≠ placeholder name.toList := by
    intro p
    rw [List.mem_map, not_exists]
    constructor
    · intro other name member text
      exact other name ⟨member, (Placeholder.ext text).symm⟩
    · rintro other name ⟨member, rfl⟩
      exact other name member rfl
  rw [Artifact.firstPlaceholder?_eq, kept.placeholdersIn_eq, left, List.head?_map,
    List.head?_filter, firstUnfilled?, spells.placeholdersIn_eq, List.find?_map]
  simp only [same]
  rfl

include leaves in
theorem Leaves.ofText_eq (spells : artifact.Spells before)
    (even : (textOf before).length % 2 = 0) (filled : artifact.firstUnfilled? names = none) :
    HexData.ofText linked.object = .ok linked.object := by
  have none := leaves.firstPlaceholder?_eq spells
  obtain ⟨tokens, kept, slots, _⟩ := leaves.tokens
  rw [filled, Artifact.firstPlaceholder?_eq, kept.placeholdersIn_eq, List.head?_eq_none_iff,
    List.map_eq_nil_iff] at none
  refine Artifact.ofText_eq kept (fun c member => isHexDigit_of_mem_textOf none member) ?_
  rw [length_textOf, slots, ← length_textOf]
  exact even

include leaves in
/-- What is reported about a linked artifact: the first library of the table that is missing, then
the first placeholder, and then nothing. -/
theorem Leaves.resolve_eq (spells : artifact.Spells before)
    (even : (textOf before).length % 2 = 0) :
    linked.resolve =
      match artifact.firstMissing? names, artifact.firstUnfilled? names with
      | some row, _ => .error (.linking artifact.contractName row.name .unresolved)
      | none, some found =>
          .error (.linking artifact.contractName (String.ofList found) .unresolved)
      | none, none => .ok ⟨artifact.contractName, linked.object⟩ := by
  rw [resolve, leaves.firstReference?_eq, leaves.firstPlaceholder?_eq spells, leaves.contractName]
  cases missing : artifact.firstMissing? names with
  | some row => rfl
  | none =>
      cases unfilled : artifact.firstUnfilled? names with
      | some found => rfl
      | none => simp only [leaves.ofText_eq spells even unfilled, Option.map_none]

end Missing

/-- What becomes of an artifact in which the libraries of some names have been linked. -/
structure Resolves (artifact : Artifact) (names : List String)
    (result : Except Failure CreationImage) : Prop where
  /-- It is complete if every library of the table and every placeholder has been linked. -/
  complete : (∃ image, result = .ok image) ↔
    (∀ row ∈ rows artifact.references, row.name ∈ names) ∧
      ∀ found ∈ placeholdersIn artifact.object.toList, ∃ name ∈ names,
        found = placeholder name.toList
  /-- Otherwise a reference is reported as unresolved. -/
  incomplete : ∀ failure, result = .error failure → ∃ reference,
    failure = .linking artifact.contractName reference .unresolved
  /-- It is the first library of the table that has not been linked. -/
  library : ∀ row, artifact.firstMissing? names = some row →
    result = .error (.linking artifact.contractName row.name .unresolved)
  /-- If all of them have been, it is the leftmost placeholder that has not. -/
  placeholder : (∀ row ∈ rows artifact.references, row.name ∈ names) → ∀ found,
    artifact.firstUnfilled? names = some found →
      result = .error (.linking artifact.contractName (String.ofList found) .unresolved)

theorem firstMissing?_eq_none_iff {artifact : Artifact} {names : List String} :
    artifact.firstMissing? names = none ↔
      ∀ row ∈ rows artifact.references, row.name ∈ names := by
  simp [firstMissing?]

theorem firstUnfilled?_eq_none_iff {artifact : Artifact} {names : List String} :
    artifact.firstUnfilled? names = none ↔
      ∀ found ∈ placeholdersIn artifact.object.toList, ∃ name ∈ names,
        found = placeholder name.toList := by
  simp [firstUnfilled?]

theorem Leaves.resolves {artifact linked : Artifact} {before : List Token} {names : List String}
    (leaves : Leaves artifact before names linked) (spells : artifact.Spells before)
    (even : (textOf before).length % 2 = 0) : artifact.Resolves names linked.resolve := by
  have result := leaves.resolve_eq spells even
  refine ⟨?_, ?_, ?_, ?_⟩
  · rw [result, ← firstMissing?_eq_none_iff, ← firstUnfilled?_eq_none_iff]
    cases artifact.firstMissing? names with
    | some row => simp
    | none => cases artifact.firstUnfilled? names <;> simp
  · rw [result]
    intro failure
    cases artifact.firstMissing? names with
    | some row =>
        rintro ⟨⟩
        exact ⟨row.name, rfl⟩
    | none =>
        cases artifact.firstUnfilled? names with
        | some found =>
            rintro ⟨⟩
            exact ⟨String.ofList found, rfl⟩
        | none => rintro ⟨⟩
  · intro row missing
    rw [result, missing]
  · intro complete found unfilled
    rw [result, firstMissing?_eq_none_iff.mpr complete, unfilled]

/-- Linking is complete when all libraries and placeholders are linked, and until then the first
that is missing is reported, provided that no name leads to something inherited.  A text has less
than 2^53 characters, so that numbers tell its places exactly. -/
theorem resolves_linkAll {template : Value} {contractName : String} {artifact : Artifact}
    (parsed : parse template contractName = .ok artifact) (consistent : artifact.Consistent)
    (short : artifact.object.length < powerOf 2 53) (links : List (String × Address))
    (split : ∀ link ∈ links, (splitQualifiedName? link.1.toList).isSome = true)
    (plain : artifact.meetsInherited links = false) :
    ∃ linked, artifact.linkAll links = .ok linked ∧
      artifact.Resolves (links.map Prod.fst) linked.resolve := by
  obtain ⟨before, spells, even⟩ := exists_spells_of_parse parsed
  have bound : (textOf before).length < powerOf 2 53 := by
    rw [← String.length_toList, spells, List.length_cons, List.length_cons] at short
    omega
  obtain ⟨linked, done, leaves⟩ := (Leaves.refl spells (built_of_parse parsed)).linkAll
    consistent.named (fun row member => consistent.sound spells member) bound links split plain
  exact ⟨linked, done, leaves.resolves spells even⟩

/-- An image without a table. -/
def plainArtifact : Artifact := { contractName := "Plain", object := "0x00", references := [] }

/-- A name at which what all functions have in common is taken for references: every table has a
maker, and every function has a name. -/
def makerLink : String × Address :=
  ("constructor:name", ⟨"0x1111111111111111111111111111111111111111", by decide +kernel⟩)

/-- A consistent image, with nothing to link, refuses a name that leads to something inherited. -/
theorem linkAll_refuses_inherited :
    parse (.text "0x00") "Plain" = .ok plainArtifact ∧ plainArtifact.Consistent ∧
      plainArtifact.object.length < powerOf 2 53 ∧
      (splitQualifiedName? makerLink.1.toList).isSome = true ∧
      plainArtifact.linkAll [makerLink] =
        .error (.linking "Plain" "constructor:name" .unplaced) := by
  have parsed : parse (.text "0x00") "Plain" = .ok plainArtifact :=
    eq_ok_of_toOption (by decide +kernel)
  have none : rows plainArtifact.references = [] := rfl
  have consistent : plainArtifact.Consistent := by
    refine ⟨?_, ?_, ?_⟩ <;> simp [none]
  exact ⟨parsed, consistent, by decide +kernel, by decide +kernel, rfl⟩

/-- The image of the light client with a table that lists only the proof verifier. -/
def halfListed : Value :=
  .record
    [("object", .text Template.lightClient.object),
      ("linkReferences",
        .record [Template.singleReference Template.plonkVerifierFile "PlonkVerifier" 12])]

/-- What is read from it. -/
def halfListedArtifact : Artifact :=
  { contractName := "LightClient"
    object := Template.lightClient.object
    references := [(Template.plonkVerifierFile, [("PlonkVerifier", [⟨.int 12, .int 20⟩])])] }

theorem halfListed_consistent : halfListedArtifact.Consistent := by
  have only : rows halfListedArtifact.references =
      [⟨Template.plonkVerifierFile, "PlonkVerifier", [⟨.int 12, .int 20⟩]⟩] := rfl
  have name : Row.name ⟨Template.plonkVerifierFile, "PlonkVerifier", [⟨.int 12, .int 20⟩]⟩ =
      Template.plonkVerifierLibrary := by decide +kernel
  refine ⟨?_, ?_, ?_⟩
  · rw [only, List.forall_mem_singleton]
    exact ⟨by decide +kernel, by decide, by decide⟩
  · rw [only, List.forall_mem_singleton, List.forall_mem_singleton]
  · rw [only, List.forall_mem_singleton, List.forall_mem_singleton, name, placeholder_plonkVerifier]
    exact ⟨12, rfl, by decide +kernel⟩

/-- Two addresses for the proof verifier, one after the other. -/
def verifierTwice : List (String × Address) :=
  [(Template.plonkVerifierLibrary,
      ⟨"0xABCDEFabcdef0123456789ABCDEFabcdef012345", by decide +kernel⟩),
    (Template.plonkVerifierLibrary,
      ⟨"0x1111111111111111111111111111111111111111", by decide +kernel⟩)]

theorem halfListed_unfilled :
    halfListedArtifact.firstUnfilled? (verifierTwice.map Prod.fst) =
      some "__$d53c34a4bb2fd34f6057e8312cdf5f1e79$__".toList := by
  have found : placeholdersIn halfListedArtifact.object.toList =
      ["__$5c5c07cf4f55be9472c2b47d897172e765$__".toList,
        "__$d53c34a4bb2fd34f6057e8312cdf5f1e79$__".toList] := by
    decide +kernel
  rw [firstUnfilled?, found]
  simp only [verifierTwice, List.map_cons, List.map_nil, List.forall_mem_cons,
    placeholder_plonkVerifier]
  decide +kernel

theorem resolves_linkAll_twice :
    parse halfListed "LightClient" = .ok halfListedArtifact ∧ halfListedArtifact.Consistent ∧
      halfListedArtifact.object.length < powerOf 2 53 ∧
      (∀ link ∈ verifierTwice, (splitQualifiedName? link.1.toList).isSome = true) ∧
      halfListedArtifact.meetsInherited verifierTwice = false ∧
      ∃ linked, halfListedArtifact.linkAll verifierTwice = .ok linked ∧
        halfListedArtifact.Resolves (verifierTwice.map Prod.fst) linked.resolve ∧
        linked.resolve = .error
          (.linking "LightClient" "__$d53c34a4bb2fd34f6057e8312cdf5f1e79$__" .unresolved) := by
  have parsed : parse halfListed "LightClient" = .ok halfListedArtifact :=
    eq_ok_of_toOption (by decide +kernel)
  have short : halfListedArtifact.object.length < powerOf 2 53 := by decide +kernel
  have split : ∀ link ∈ verifierTwice, (splitQualifiedName? link.1.toList).isSome = true := by
    decide +kernel
  have plain : halfListedArtifact.meetsInherited verifierTwice = false :=
    meetsInherited_eq_false (built_of_parse parsed) rfl (by decide +kernel)
  obtain ⟨linked, done, resolves⟩ :=
    resolves_linkAll parsed halfListed_consistent short verifierTwice split plain
  refine ⟨parsed, halfListed_consistent, short, split, plain, linked, done, resolves, ?_⟩
  have all : ∀ row ∈ rows halfListedArtifact.references, row.name ∈ verifierTwice.map Prod.fst := by
    decide +kernel
  have reported := resolves.placeholder all _ halfListed_unfilled
  rwa [String.ofList_toList] at reported

end Rollout.Artifact
