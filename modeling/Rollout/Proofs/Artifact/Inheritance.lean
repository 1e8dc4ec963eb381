import Rollout.Proofs.Artifact.Linking
import Rollout.Proofs.Artifact.Table
import Rollout.Proofs.Checked

/-!
# What is found for a library

A table that records a library is asked no further: its references are those that are found.  For
any other library there are none, unless the look-up comes upon something inherited.  Whatever is
found, its references are among those that the artifact holds, be it in a table or in a parent.
-/

namespace Rollout

/-- The references of the parents of tables. -/
def Parents.references (parents : Parents) : List Reference :=
  parents.table.toList.flatMap (fun table => table.1.flatMap Prod.snd ++ table.2.getD []) ++
    parents.files.flatMap Prod.snd

/-- Parents of tables give references for a library of a file; the name of parents stands for the
file, for the library or for both. -/
inductive Parents.Gives (parents : Parents) : String → String → List Reference → Prop
  /-- The parent of a table of libraries is a list of references. -/
  | file {file : String} {listed : List Reference} (given : (file, listed) ∈ parents.files) :
      Gives parents file Artifact.parentName listed
  /-- The parent of the table of files is a table of libraries. -/
  | library {library : String} {listed : List Reference} {entries : LibraryReferences}
      {parent : Option (List Reference)} (given : parents.table = some (entries, parent))
      (entered : (library, listed) ∈ entries) : Gives parents Artifact.parentName library listed
  /-- The parent of that is a list of references. -/
  | table {listed : List Reference} {entries : LibraryReferences}
      (given : parents.table = some (entries, some listed)) :
      Gives parents Artifact.parentName Artifact.parentName listed

theorem Parents.not_gives {file library : String} {listed : List Reference} :
    ¬ ({} : Parents).Gives file library listed := by
  intro gives
  cases gives <;> contradiction

theorem Parents.mem_references {parents : Parents} {reference : Reference} :
    reference ∈ parents.references ↔
      ∃ file library listed, parents.Gives file library listed ∧ reference ∈ listed := by
  rw [references, List.mem_append, List.mem_flatMap, List.mem_flatMap]
  constructor
  · rintro (⟨⟨entries, parent⟩, given, inside⟩ | ⟨⟨file, listed⟩, given, inside⟩)
    · rw [Option.mem_toList] at given
      obtain entered | behind := List.mem_append.mp inside
      · obtain ⟨⟨library, listed⟩, entered, inside⟩ := List.mem_flatMap.mp entered
        exact ⟨_, _, _, .library given entered, inside⟩
      · cases parent with
        | none => contradiction
        | some listed => exact ⟨_, _, _, .table given, behind⟩
    · exact ⟨_, _, _, .file given, inside⟩
  · rintro ⟨file, library, listed, gives, inside⟩
    cases gives with
    | file given => exact .inr ⟨_, given, inside⟩
    | library given entered =>
        refine .inl ⟨_, Option.mem_toList.mpr given, List.mem_append_left _ ?_⟩
        exact List.mem_flatMap.mpr ⟨_, entered, inside⟩
    | table given =>
        exact .inl ⟨_, Option.mem_toList.mpr given, List.mem_append_right _ inside⟩

namespace Artifact

/-! ## Names that lead to something inherited -/

/-- Whether the look-up of a name comes upon something though no table records it. -/
def inherits (artifact : Artifact) (name : String) : Bool :=
  match splitQualifiedName? name.toList with
  | none => false
  | some (file, library) =>
      (recorded? artifact.references (String.ofList file) (String.ofList library)).isNone &&
        artifact.found (String.ofList file) (String.ofList library) != .nothing

section LookUp

variable {artifact : Artifact} {name file library : String}

theorem found_of_recorded? {listed : List Reference}
    (recorded : recorded? artifact.references file library = some listed) :
    artifact.found file library = .references listed := by
  rw [found, recorded]

theorem referencesFound_of_recorded? {listed : List Reference}
    (recorded : recorded? artifact.references file library = some listed) :
    artifact.referencesFound file library = .ok listed := by
  rw [referencesFound, found_of_recorded? recorded]
  rfl

theorem Qualifies.inherits_eq (qualifies : Qualifies name file library) :
    artifact.inherits name =
      ((recorded? artifact.references file library).isNone &&
        artifact.found file library != .nothing) := by
  simp only [inherits, qualifies.split, String.ofList_toList]

/-- The name of a library that is recorded leads to nothing inherited. -/
theorem Qualifies.inherits_of_recorded? (qualifies : Qualifies name file library)
    (recorded : recorded? artifact.references file library ≠ none) :
    artifact.inherits name = false := by
  have given := Option.isNone_eq_false_iff.mpr (Option.isSome_iff_ne_none.mpr recorded)
  rw [qualifies.inherits_eq, given, Bool.false_and]

/-- For a name that leads to nothing inherited the references are the recorded ones. -/
theorem Qualifies.referencesFound_eq (qualifies : Qualifies name file library)
    (plain : artifact.inherits name = false) :
    artifact.referencesFound file library =
      .ok (referencesTo artifact.references file library) := by
  rw [qualifies.inherits_eq] at plain
  rw [referencesTo]
  cases recorded : recorded? artifact.references file library with
  | some listed => exact referencesFound_of_recorded? recorded
  | none =>
      have nothing : artifact.found file library = .nothing := by
        simpa [recorded] using plain
      rw [referencesFound, nothing]
      rfl

/-- With a name and an address, linking writes over the references that are found. -/
theorem Qualifies.applyLink_of_found (qualifies : Qualifies name file library)
    {references : List Reference} (found : artifact.referencesFound file library = .ok references)
    (target : Address) :
    artifact.applyLink name target.text =
      ((patchAll target.lowerDigits references (Text.dropUnits 2 artifact.object.toList)).map
        fun body => artifact.relinked file library
          (Text.replaceAll (placeholder name.toList) target.lowerDigits body)).mapError
        (.linking artifact.contractName name) := by
  simp only [applyLink, linkLibrary, qualifies.split, Address.ofText_text, String.ofList_toList,
    found, bind, Except.bind, pure, Except.pure]
  cases patchAll target.lowerDigits references (Text.dropUnits 2 artifact.object.toList) <;> rfl

/-- What is found but cannot be gone through ends linking. -/
theorem Qualifies.applyLink_of_error (qualifies : Qualifies name file library)
    {fault : LinkFault} (found : artifact.referencesFound file library = .error fault)
    (target : Address) :
    artifact.applyLink name target.text =
      .error (fault.failure artifact.contractName name) := by
  simp only [applyLink, linkLibrary, qualifies.split, Address.ofText_text, String.ofList_toList,
    found, bind, Except.bind, Except.mapError]

/-- What linking a library that succeeds has computed. -/
theorem exists_of_applyLink {linked : Artifact} {address : String}
    (done : artifact.applyLink name address = .ok linked) :
    ∃ (file library : String) (target : Address) (references : List Reference) (body : List Char),
      Qualifies name file library ∧ target.text = address ∧
      artifact.referencesFound file library = .ok references ∧
      patchAll target.lowerDigits references (Text.dropUnits 2 artifact.object.toList) = .ok body ∧
      linked = artifact.relinked file library
        (Text.replaceAll (placeholder name.toList) target.lowerDigits body) := by
  have linking := done
  rw [applyLink, mapError_eq_ok, linkLibrary] at linking
  split at linking
  · contradiction
  · next file library split =>
      have qualifies := qualifies_of_split split
      split at linking
      · contradiction
      · next target accepted =>
          obtain rfl : target.text = address := by
            rw [Address.ofText] at accepted
            split at accepted
            · cases accepted
              rfl
            · contradiction
          obtain ⟨references, found, _⟩ := bind_eq_ok.mp linking
          rw [qualifies.applyLink_of_found found, mapError_eq_ok, map_eq_ok] at done
          obtain ⟨body, patched, rfl⟩ := done
          exact ⟨_, _, target, references, body, qualifies, rfl, found, patched, rfl⟩

end LookUp

/-- Whether neither the file nor the library of a name is called like something that all tables
inherit. -/
def isUninherited (name : String) : Bool :=
  match splitQualifiedName? name.toList with
  | none => true
  | some (file, library) =>
      Found.inherited (.common .record) (String.ofList file) == .nothing &&
        Found.inherited (.common .record) (String.ofList library) == .nothing

theorem Found.property_nothing (name : String) : nothing.property name = nothing := by
  change inherited nothing name = nothing
  rw [inherited]
  exact ite_self _

theorem lookup?_eq_none {references : References} {file library : String}
    {libraries : LibraryReferences} (recorded : recorded? references file library = none)
    (entered : lookup? references file = some libraries) : lookup? libraries library = none := by
  simpa using List.findSome?_eq_none_iff.mp recorded _ (mem_of_lookup? entered)

theorem found_eq_nothing {artifact : Artifact} {file library : String}
    (unparented : artifact.parents = {})
    (recorded : recorded? artifact.references file library = none)
    (fileApart : Found.inherited (.common .record) file = .nothing)
    (libraryApart : Found.inherited (.common .record) library = .nothing) :
    artifact.found file library = .nothing := by
  simp only [found, recorded, foundFile, tableParent, unparented]
  cases entered : lookup? artifact.references file with
  | none => exact (congrArg (Found.property · _) fileApart).trans (Found.property_nothing _)
  | some libraries =>
      simp only [Found.property, Found.own?, lookup?_eq_none recorded entered]
      exact libraryApart

/-- As long as no assignment has given parents to its tables, an artifact inherits nothing under
such a name, whatever the tables record. -/
theorem inherits_eq_false {artifact : Artifact} (unparented : artifact.parents = {}) {name : String}
    (apart : isUninherited name = true) : artifact.inherits name = false := by
  rw [isUninherited] at apart
  rw [inherits]
  split
  · rfl
  · next file library split =>
      simp only [split, Bool.and_eq_true, beq_iff_eq] at apart
      cases recorded : recorded? artifact.references (.ofList file) (.ofList library) with
      | some listed => rfl
      | none =>
          rw [found_eq_nothing unparented recorded apart.1 apart.2]
          rfl

/-! ## References that an artifact holds -/

/-- The references of an artifact, those of the parents of its tables among them. -/
def held (artifact : Artifact) : List Reference :=
  (rows artifact.references).flatMap Row.references ++ artifact.parents.references

/-- An artifact holds references for a library of a file. -/
inductive Holds (artifact : Artifact) : String → String → List Reference → Prop
  /-- The table lists them. -/
  | row {row : Row} (listed : row ∈ rows artifact.references) :
      Holds artifact row.file row.library row.references
  /-- The parents of tables give them. -/
  | parent {file library : String} {listed : List Reference}
      (gives : artifact.parents.Gives file library listed) : Holds artifact file library listed

theorem mem_held {artifact : Artifact} {reference : Reference} :
    reference ∈ artifact.held ↔
      ∃ file library listed, artifact.Holds file library listed ∧ reference ∈ listed := by
  rw [held, List.mem_append, List.mem_flatMap, Parents.mem_references]
  constructor
  · rintro (⟨row, listed, inside⟩ | ⟨_, _, _, gives, inside⟩)
    · exact ⟨_, _, _, .row listed, inside⟩
    · exact ⟨_, _, _, .parent gives, inside⟩
  · rintro ⟨_, _, _, holds, inside⟩
    cases holds with
    | row listed => exact .inl ⟨_, listed, inside⟩
    | parent gives => exact .inr ⟨_, _, _, gives, inside⟩

theorem Holds.subset_held {artifact : Artifact} {file library : String} {listed : List Reference}
    (holds : artifact.Holds file library listed) : listed ⊆ artifact.held :=
  fun _ inside => mem_held.mpr ⟨file, library, listed, holds, inside⟩

theorem held_subset {artifact other : Artifact}
    (holds : ∀ file library listed, other.Holds file library listed →
      artifact.Holds file library listed) : other.held ⊆ artifact.held := by
  intro reference member
  obtain ⟨_, _, _, given, inside⟩ := mem_held.mp member
  exact (holds _ _ _ given).subset_held inside

namespace Found

theorem own?_eq_references {found : Found} {name : String} {listed : List Reference} :
    found.own? name = some (references listed) ↔
      ∃ entries parent, found = libraries entries parent ∧ lookup? entries name = some listed := by
  cases found with
  | libraries entries parent => simp [own?]
  | _ => grind [own?, Option.map_eq_some_iff, Option.bind_eq_some_iff]

theorem own?_ne_libraries {found : Found} {name : String} {entries : LibraryReferences}
    {parent : Option (List Reference)} : found.own? name ≠ some (libraries entries parent) := by
  cases found with
  | _ => grind [own?, Option.map_eq_some_iff, Option.bind_eq_some_iff]

theorem parent_eq_references {found : Found} {listed : List Reference} :
    found.parent = references listed ↔ ∃ entries, found = libraries entries (some listed) := by
  cases found with
  | libraries entries given => cases given <;> simp [parent]
  | common kind => cases kind <;> simp [parent]
  | _ => simp [parent]

/-- No parent is a table of libraries. -/
theorem own?_parent_ne (found : Found) (name : String) (listed : List Reference) :
    found.parent.own? name ≠ some (references listed) := by
  intro here
  obtain ⟨entries, parent, same, _⟩ := own?_eq_references.mp here
  cases found with
  | libraries _ given => cases given <;> contradiction
  | common kind => cases kind <;> contradiction
  | _ => contradiction

/-- A list that is inherited is a parent, found under the name of parents. -/
theorem inherited_eq_references {found : Found} {name : String} {listed : List Reference}
    (given : inherited found.parent name = references listed) :
    name = parentName ∧ found.parent = references listed := by
  have each : ∀ ancestor ∈ found.parent.line, ancestor.own? name ≠ some (references listed) := by
    have above (ancestor : Found) := own?_parent_ne ancestor name listed
    simp only [line, List.forall_mem_cons]
    exact ⟨above _, above _, above _, above _, nofun⟩
  rw [inherited] at given
  split at given
  · next other first =>
      obtain ⟨ancestor, member, here⟩ := List.exists_of_findSome?_eq_some first
      exact absurd (here.trans (congrArg some given)) (each ancestor member)
  · split at given
    · next same => exact ⟨same, given⟩
    · contradiction

theorem property_eq_references {found : Found} {name : String} {listed : List Reference}
    (given : found.property name = references listed) :
    found.own? name = some (references listed) ∨
      name = parentName ∧ found.parent = references listed := by
  rw [property] at given
  cases here : found.own? name with
  | some other =>
      rw [here] at given
      exact .inl (congrArg some given)
  | none =>
      rw [here] at given
      exact .inr (inherited_eq_references given)

theorem inherited_eq_libraries {found : Found} {name : String} {entries : LibraryReferences}
    {parent : Option (List Reference)} (given : inherited found name = libraries entries parent) :
    name = parentName ∧ found = libraries entries parent := by
  rw [inherited] at given
  split at given
  · next other first =>
      obtain ⟨ancestor, _, here⟩ := List.exists_of_findSome?_eq_some first
      exact absurd (here.trans (congrArg some given)) own?_ne_libraries
  · split at given
    · next same => exact ⟨same, given⟩
    · contradiction

/-- What can be gone through is a list of references or empty. -/
theorem items_eq_ok {found : Found} {listed : List Reference} (gone : found.items = .ok listed) :
    found = references listed ∨ listed = [] := by
  cases found with
  | references given =>
      cases gone
      exact .inl rfl
  | text content => grind [items]
  | common kind => cases kind <;> grind [items]
  | _ => grind [items]

end Found

theorem tableParent_eq_libraries {artifact : Artifact} {entries : LibraryReferences}
    {parent : Option (List Reference)}
    (given : artifact.tableParent = .libraries entries parent) :
    artifact.parents.table = some (entries, parent) := by
  rw [tableParent] at given
  split at given
  · next table =>
      cases given
      exact table
  · contradiction

theorem foundFile_eq_libraries {artifact : Artifact} {file : String} {entries : LibraryReferences}
    {parent : Option (List Reference)}
    (given : artifact.foundFile file = .libraries entries parent) :
    lookup? artifact.references file = some entries ∧ lookup? artifact.parents.files file = parent ∨
      file = parentName ∧ artifact.parents.table = some (entries, parent) := by
  rw [foundFile] at given
  split at given
  · next libraries entered =>
      cases given
      exact .inl ⟨entered, rfl⟩
  · obtain ⟨same, table⟩ := Found.inherited_eq_libraries given
    exact .inr ⟨same, tableParent_eq_libraries table⟩

/-- A list of references that is found for a library is held for it. -/
theorem holds_of_found {artifact : Artifact} {file library : String} {listed : List Reference}
    (same : artifact.found file library = .references listed) :
    artifact.Holds file library listed := by
  rw [found] at same
  split at same
  · next recorded =>
      cases same
      obtain ⟨row, member, rfl, rfl, rfl⟩ := exists_row_of_recorded? recorded
      exact .row member
  · obtain own | ⟨rfl, behind⟩ := Found.property_eq_references same
    · obtain ⟨entries, parent, given, entered⟩ := Found.own?_eq_references.mp own
      have entered := mem_of_lookup? entered
      obtain ⟨table, _⟩ | ⟨rfl, table⟩ := foundFile_eq_libraries given
      · exact .row (mem_rows.mpr ⟨entries, mem_of_lookup? table, entered⟩ :
          ⟨file, library, listed⟩ ∈ rows artifact.references)
      · exact .parent (.library table entered)
    · obtain ⟨entries, given⟩ := Found.parent_eq_references.mp behind
      obtain ⟨_, parent⟩ | ⟨rfl, table⟩ := foundFile_eq_libraries given
      · exact .parent (.file (mem_of_lookup? parent))
      · exact .parent (.table table)

/-- What the artifact of a listing holds stands in the listing. -/
theorem holds_ofListing {contractName object : String} {listing : References}
    {file library : String} {references : List Reference}
    (holds : (ofListing contractName object listing).Holds file library references) :
    ∃ libraries, (file, libraries) ∈ listing ∧ (library, references) ∈ libraries := by
  cases holds with
  | row listed =>
      obtain ⟨_, entered, named⟩ := mem_rows.mp listed
      obtain ⟨⟨_, libraries⟩, kept, same⟩ := List.mem_map.mp entered
      cases same
      exact ⟨libraries, (mem_assigned.mp kept).1, (mem_assigned.mp named).1⟩
  | parent gives =>
      cases gives with
      | file given =>
          obtain ⟨⟨_, libraries⟩, kept, found⟩ := List.mem_filterMap.mp given
          obtain ⟨_, behind, same⟩ := Option.map_eq_some_iff.mp found
          cases same
          exact ⟨libraries, (mem_assigned.mp kept).1, mem_of_lookup? behind⟩
      | library given entered =>
          obtain ⟨libraries, found, same⟩ := Option.map_eq_some_iff.mp given
          cases same
          exact ⟨libraries, mem_of_lookup? found, (mem_assigned.mp entered).1⟩
      | table given =>
          obtain ⟨libraries, found, same⟩ := Option.map_eq_some_iff.mp given
          obtain ⟨_, behind⟩ := Prod.mk.inj same
          exact ⟨libraries, mem_of_lookup? found, mem_of_lookup? behind⟩

end Artifact

end Rollout
