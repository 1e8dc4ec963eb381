import Mathlib.Data.List.Basic
import Rollout.Artifact.Linking

/-!
# Reference tables

A table is read as its rows, one for each library of each file, in the order of the table.  A row
is told by the qualified name of its library, provided that the names can be taken apart again;
forgetting a library drops its rows and keeps the others in their order.
-/

namespace Rollout.Artifact

/-! ## Qualified names -/

theorem splitQualifiedName?_append {file library : List Char} (named : file ≠ [])
    (given : library ≠ []) (plain : ':' ∉ library) :
    splitQualifiedName? (file ++ ':' :: library) = some (file, library) := by
  have own : ∀ c ∈ library.reverse, decide (c ≠ ':') = true := by
    intro c member
    rw [decide_eq_true_eq]
    rintro rfl
    exact plain (List.mem_reverse.mp member)
  have reversed : (file ++ ':' :: library).reverse = library.reverse ++ ':' :: file.reverse := by
    simp
  have before : (library.reverse ++ ':' :: file.reverse).takeWhile (· ≠ ':') = library.reverse := by
    rw [List.takeWhile_append_of_pos own, List.takeWhile_cons_of_neg (by simp), List.append_nil]
  have behind : (library.reverse ++ ':' :: file.reverse).dropWhile (· ≠ ':') =
      ':' :: file.reverse := by
    rw [List.dropWhile_append_of_pos own, List.dropWhile_cons_of_neg (by simp)]
  simp only [splitQualifiedName?, reversed, before, behind, List.reverse_reverse,
    List.isEmpty_reverse, List.isEmpty_eq_false_iff.mpr named,
    List.isEmpty_eq_false_iff.mpr given, Bool.or_self, Bool.false_eq_true, if_false]

theorem eq_append_of_splitQualifiedName? {name file library : List Char}
    (split : splitQualifiedName? name = some (file, library)) : name = file ++ ':' :: library := by
  have whole := @List.takeWhile_append_dropWhile Char (· ≠ ':') name.reverse
  have first := List.head?_dropWhile_not (· ≠ ':') name.reverse
  cases behind : name.reverse.dropWhile (· ≠ ':') with
  | nil =>
      simp only [splitQualifiedName?, behind] at split
      contradiction
  | cons colon rest =>
      simp only [splitQualifiedName?, behind] at split
      rw [behind] at whole first
      obtain rfl : colon = ':' := by simpa using first
      split at split
      · contradiction
      · cases split
        have turned := congrArg List.reverse whole
        rw [List.reverse_append, List.reverse_cons, List.append_assoc, List.reverse_reverse]
          at turned
        exact turned.symm

/-- A name that can be taken apart is that of a library of a file. -/
theorem qualifiedName_of_split {name : String} {file library : List Char}
    (split : splitQualifiedName? name.toList = some (file, library)) :
    qualifiedName (String.ofList file) (String.ofList library) = name := by
  have parts := eq_append_of_splitQualifiedName? split
  apply String.toList_inj.mp
  rw [parts, qualifiedName, String.toList_append, String.toList_append]
  simp

/-- A name is that of a library of a file: it is split at its last colon, and neither part is
empty. -/
structure Qualifies (name file library : String) : Prop where
  name_eq : name = qualifiedName file library
  file_ne : file ≠ ""
  library_ne : library ≠ ""
  plain : ':' ∉ library.toList

theorem Qualifies.split {name file library : String} (qualifies : Qualifies name file library) :
    splitQualifiedName? name.toList = some (file.toList, library.toList) := by
  have parts : name.toList = file.toList ++ ':' :: library.toList := by
    rw [qualifies.name_eq, qualifiedName, String.toList_append, String.toList_append,
      List.append_assoc]
    rfl
  rw [parts]
  apply splitQualifiedName?_append _ _ qualifies.plain
  · exact fun empty => qualifies.file_ne (String.toList_eq_nil_iff.mp empty)
  · exact fun empty => qualifies.library_ne (String.toList_eq_nil_iff.mp empty)

/-- A name is that of one library of one file. -/
theorem Qualifies.unique {name file library otherFile otherLibrary : String}
    (qualifies : Qualifies name file library) (other : Qualifies name otherFile otherLibrary) :
    file = otherFile ∧ library = otherLibrary := by
  have split := other.split
  rw [qualifies.split] at split
  obtain ⟨file_eq, library_eq⟩ := Prod.mk.inj (Option.some.inj split)
  exact ⟨String.toList_inj.mp file_eq, String.toList_inj.mp library_eq⟩

theorem qualifies_of_split {name : String} {file library : List Char}
    (split : splitQualifiedName? name.toList = some (file, library)) :
    Qualifies name (String.ofList file) (String.ofList library) := by
  have parts : file ≠ [] ∧ library ≠ [] ∧
      library = (name.toList.reverse.takeWhile (· ≠ ':')).reverse := by
    rw [splitQualifiedName?] at split
    split at split
    · contradiction
    · split at split
      · contradiction
      · next given =>
          rw [Bool.or_eq_true, not_or, List.isEmpty_iff, List.isEmpty_iff] at given
          cases split
          exact ⟨fun empty => given.1 (List.reverse_eq_nil_iff.mp empty), given.2, rfl⟩
  obtain ⟨file_ne, library_ne, own⟩ := parts
  refine ⟨(qualifiedName_of_split split).symm, ?_, ?_, ?_⟩
  · rwa [ne_eq, String.ofList_eq_empty_iff]
  · rwa [ne_eq, String.ofList_eq_empty_iff]
  · rw [String.toList_ofList, own, List.mem_reverse]
    intro member
    have passed := List.all_eq_true.mp List.all_takeWhile ':' member
    contradiction

/-! ## Rows -/

/-- The references of one library of a file. -/
structure Row where
  file : String
  library : String
  references : List Reference

namespace Row

/-- The qualified name of the library. -/
def name (row : Row) : String := qualifiedName row.file row.library

/-- File and library are named, and the name of the library has no colon, so that the qualified
name can be taken apart. -/
structure Named (row : Row) : Prop where
  file : row.file ≠ ""
  library : row.library ≠ ""
  plain : ':' ∉ row.library.toList

theorem Named.qualifies {row : Row} (named : row.Named) :
    Qualifies row.name row.file row.library := ⟨rfl, named.file, named.library, named.plain⟩

theorem Named.split {row : Row} (named : row.Named) :
    splitQualifiedName? row.name.toList = some (row.file.toList, row.library.toList) :=
  named.qualifies.split

theorem Named.name_eq_iff {row : Row} (named : row.Named) {name : String}
    {file library : List Char} (split : splitQualifiedName? name.toList = some (file, library)) :
    row.name = name ↔ row.file = String.ofList file ∧ row.library = String.ofList library := by
  constructor
  · rintro rfl
    rw [named.split] at split
    obtain ⟨rfl, rfl⟩ := Prod.mk.inj (Option.some.inj split)
    rw [String.ofList_toList, String.ofList_toList]
    exact ⟨rfl, rfl⟩
  · rintro ⟨file_eq, library_eq⟩
    rw [Row.name, file_eq, library_eq, qualifiedName_of_split split]

end Row

/-- The rows of a table, in order. -/
def rows (references : References) : List Row :=
  references.flatMap fun entry => entry.2.map fun named => ⟨entry.1, named.1, named.2⟩

theorem mem_rows {references : References} {row : Row} :
    row ∈ rows references ↔ ∃ libraries, (row.file, libraries) ∈ references ∧
      (row.library, row.references) ∈ libraries := by
  rw [rows, List.mem_flatMap]
  constructor
  · rintro ⟨⟨file, libraries⟩, listed, member⟩
    obtain ⟨⟨library, found⟩, named, rfl⟩ := List.mem_map.mp member
    exact ⟨libraries, listed, named⟩
  · rintro ⟨libraries, listed, named⟩
    exact ⟨(row.file, libraries), listed, List.mem_map.mpr ⟨_, named, rfl⟩⟩

theorem mem_of_lookup? {α : Type} {entries : List (String × α)} {name : String} {value : α}
    (found : lookup? entries name = some value) : (name, value) ∈ entries := by
  obtain ⟨entry, first, rfl⟩ := Option.map_eq_some_iff.mp found
  have same : entry.1 = name := by simpa using List.find?_some first
  exact same ▸ List.mem_of_find?_eq_some first

/-- What is recorded for a library is what one of its rows lists. -/
theorem exists_row_of_recorded? {references : References} {file library : String}
    {listed : List Reference} (recorded : recorded? references file library = some listed) :
    ∃ row ∈ rows references, row.file = file ∧ row.library = library ∧
      row.references = listed := by
  obtain ⟨⟨other, libraries⟩, member, found⟩ := List.exists_of_findSome?_eq_some recorded
  rw [Option.ite_none_right_eq_some] at found
  obtain ⟨rfl, found⟩ := found
  exact ⟨⟨other, library, listed⟩, mem_rows.mpr ⟨libraries, member, mem_of_lookup? found⟩,
    rfl, rfl, rfl⟩

/-- Whatever has a row is recorded. -/
theorem recorded?_ne_none {references : References} {row : Row} (member : row ∈ rows references) :
    recorded? references row.file row.library ≠ none := by
  obtain ⟨libraries, listed, named⟩ := mem_rows.mp member
  intro none
  have apart := List.findSome?_eq_none_iff.mp none _ listed
  rw [if_pos rfl, lookup?, Option.map_eq_none_iff] at apart
  have differs := List.find?_eq_none.mp apart _ named
  simp at differs

theorem exists_row_of_mem_referencesTo {references : References} {file library : String}
    {reference : Reference} (member : reference ∈ referencesTo references file library) :
    ∃ row ∈ rows references, row.file = file ∧ row.library = library ∧
      reference ∈ row.references := by
  rw [referencesTo] at member
  cases recorded : recorded? references file library with
  | none =>
      rw [recorded] at member
      contradiction
  | some listed =>
      rw [recorded] at member
      obtain ⟨row, inside, file_eq, library_eq, rfl⟩ := exists_row_of_recorded? recorded
      exact ⟨row, inside, file_eq, library_eq, member⟩

theorem firstReference?_eq (references : References) :
    firstReference? references = (rows references).head?.map Row.name := by
  induction references with
  | nil => rfl
  | cons entry rest ih =>
      obtain ⟨file, _ | ⟨named, libraries⟩⟩ := entry
      · exact ih
      · rfl

theorem rows_cons (entry : String × LibraryReferences) (rest : References) :
    rows (entry :: rest) = (entry.2.map fun named => ⟨entry.1, named.1, named.2⟩) ++ rows rest :=
  List.flatMap_cons

/-- Files without libraries have no rows. -/
theorem rows_filter_isEmpty (references : References) :
    rows (references.filter fun entry => !entry.2.isEmpty) = rows references := by
  induction references with
  | nil => rfl
  | cons entry rest ih =>
      obtain ⟨file, _ | ⟨named, libraries⟩⟩ := entry
      · exact ih
      · rw [List.filter_cons_of_pos rfl, rows_cons, rows_cons, ih]

/-- A library that is taken from a table has no row any more; the other rows are kept. -/
theorem rows_without (references : References) (file library : String) :
    rows (without references file library) =
      (rows references).filter fun row => row.file != file || row.library != library := by
  rw [without, rows_filter_isEmpty]
  induction references with
  | nil => rfl
  | cons entry rest ih =>
      rw [List.map_cons, rows_cons, rows_cons, ih, List.filter_append, List.filter_map]
      rfl

/-! ## Tables that are built by assignments -/

section Assigned

variable {α : Type}

/-- A table has been built by assignments: nothing stands under the name of a parent. -/
def Built (entries : List (String × α)) : Prop := ∀ entry ∈ entries, entry.1 ≠ parentName

theorem mem_assigned {entries : List (String × α)} {entry : String × α} :
    entry ∈ assigned entries ↔ entry ∈ entries ∧ entry.1 ≠ parentName := by
  rw [assigned, List.mem_filter, bne_iff_ne]

theorem built_assigned (entries : List (String × α)) : Built (assigned entries) :=
  fun _ member => (mem_assigned.mp member).2

variable {entries : List (String × α)} (built : Built entries)

include built

theorem Built.assigned_eq : assigned entries = entries :=
  List.filter_eq_self.mpr fun entry member => bne_iff_ne.mpr (built entry member)

theorem Built.lookup?_parentName : lookup? entries parentName = none :=
  Option.eq_none_iff_forall_ne_some.mpr fun _ found => built _ (mem_of_lookup? found) rfl

end Assigned

theorem mem_rows_forget {references : References} {file library : String} {row : Row} :
    row ∈ rows (forget references file library) ↔
      row ∈ rows references ∧ row.file ≠ parentName ∧
        (row.file ≠ file ∨ row.library ≠ library) := by
  have without : row ∈ rows (without references file library) ↔
      row ∈ rows references ∧ (row.file ≠ file ∨ row.library ≠ library) := by
    rw [rows_without, List.mem_filter, Bool.or_eq_true, bne_iff_ne, bne_iff_ne]
  rw [mem_rows] at without
  rw [mem_rows]
  simp only [forget, mem_assigned]
  constructor
  · rintro ⟨libraries, ⟨listed, entered⟩, named⟩
    obtain ⟨inside, apart⟩ := without.mp ⟨libraries, listed, named⟩
    exact ⟨inside, entered, apart⟩
  · rintro ⟨inside, entered, apart⟩
    obtain ⟨libraries, listed, named⟩ := without.mpr ⟨inside, apart⟩
    exact ⟨libraries, ⟨listed, entered⟩, named⟩

theorem built_forget (references : References) (file library : String) :
    Built (forget references file library) := built_assigned _

namespace Built

variable {references : References} (built : Built references)

include built

theorem without (file library : String) : Built (Artifact.without references file library) := by
  intro entry member
  obtain ⟨other, listed, rfl⟩ := List.mem_map.mp (List.mem_of_mem_filter member)
  exact built other listed

theorem forget_eq (file library : String) :
    forget references file library = Artifact.without references file library :=
  (built.without file library).assigned_eq

/-- A table that has been built has no entry that could become a parent. -/
theorem parentsWithout_eq (file library : String) :
    parentsWithout references file library = {} := by
  rw [parentsWithout, (built.without file library).lookup?_parentName]
  rfl

/-- A library that is forgotten has no row any more; the other rows are kept. -/
theorem rows_forget (file library : String) :
    rows (forget references file library) =
      (rows references).filter fun row => row.file != file || row.library != library := by
  rw [built.forget_eq, rows_without]

/-- A library that is forgotten by its qualified name. -/
theorem rows_forget_of_split (named : ∀ row ∈ rows references, row.Named) {name : String}
    {file library : List Char} (split : splitQualifiedName? name.toList = some (file, library)) :
    rows (forget references (String.ofList file) (String.ofList library)) =
      (rows references).filter (·.name ≠ name) := by
  rw [built.rows_forget]
  refine List.filter_congr fun row member => ?_
  rw [Bool.eq_iff_iff, decide_eq_true_iff, ne_eq, (named row member).name_eq_iff split, not_and_or,
    Bool.or_eq_true, bne_iff_ne, bne_iff_ne]

end Built

end Rollout.Artifact
