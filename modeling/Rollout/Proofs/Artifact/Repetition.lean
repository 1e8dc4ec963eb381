import Rollout.Proofs.Artifact.Frame

/-!
# Linking again

A library is linked once.  After a link neither a reference to the library nor its placeholder is
left, so that linking it again, at whatever address, changes nothing, unless its name now leads to
something inherited.  This holds of every text and of every table, also of those that no template
gives: an address has no underscore, with which a placeholder begins and ends, so that no
placeholder forms where an address has gone.
-/

namespace Rollout.Artifact

open Text

/-- No placeholder of a library is left where it has been replaced by an address. -/
theorem not_infix_replaceAll_placeholder (name text : List Char) (address : Address) :
    ¬ placeholder name <:+: replaceAll (placeholder name) address.lowerDigits text := by
  have whole := length_placeholder name
  have absent : '_' ∉ address.lowerDigits := address.lowerDigits_small.not_mem rfl
  have given := placeholder_ne_nil name
  apply not_infix_replaceAll given (address.length_lowerDigits.trans whole.symm)
  · exact absent
  · have last : (placeholder name).getLast given = '_' := by simp [placeholder]
    rw [last]
    exact absent

theorem referencesTo_forget (references : References) (file library : String) :
    referencesTo (forget references file library) file library = [] := by
  apply List.eq_nil_iff_forall_not_mem.mpr
  intro reference member
  obtain ⟨row, listed, file_eq, library_eq, _⟩ := exists_row_of_mem_referencesTo member
  obtain ⟨_, _, other | other⟩ := mem_rows_forget.mp listed
  · exact other file_eq
  · exact other library_eq

/-- A library that a table does not list is forgotten without a change, provided that the table has
been built by assignments and every file of it has a library. -/
theorem forget_eq_self {references : References} {file library : String}
    (built : Built references) (listed : ∀ entry ∈ references, entry.2 ≠ [])
    (absent : ∀ row ∈ rows references, row.file ≠ file ∨ row.library ≠ library) :
    forget references file library = references := by
  have kept : ∀ entry ∈ references,
      (entry.1, entry.2.filter fun named => entry.1 != file || named.1 != library) = entry := by
    intro entry member
    refine Prod.ext rfl (List.filter_eq_self.mpr ?_)
    intro named inner
    have other := absent ⟨entry.1, named.1, named.2⟩ (mem_rows.mpr ⟨entry.2, member, inner⟩)
    rw [Bool.or_eq_true, bne_iff_ne, bne_iff_ne]
    exact other
  rw [built.forget_eq, without, List.map_congr_left kept, List.map_id'']
  · apply List.filter_eq_self.mpr
    intro entry member
    rw [Bool.not_eq_true', List.isEmpty_eq_false_iff]
    exact listed entry member
  · exact fun _ => rfl

theorem forget_forget (references : References) (file library : String) :
    forget (forget references file library) file library = forget references file library := by
  apply forget_eq_self (built_forget _ _ _)
  · intro entry member
    have given := List.of_mem_filter (mem_assigned.mp member).1
    rwa [Bool.not_eq_true', List.isEmpty_eq_false_iff] at given
  · exact fun row member => (mem_rows_forget.mp member).2.2

/-- A library that has been linked can be linked again, at any address, provided that its name leads
to nothing inherited.  That changes nothing: only parents that an assignment has given to the table
are lost, and a table that was built by assignments before has none. -/
theorem links_a_library_once {artifact linked : Artifact} {name address : String}
    (done : artifact.applyLink name address = .ok linked) (plain : linked.inherits name = false)
    (other : Address) :
    linked.applyLink name other.text = .ok { linked with parents := {} } ∧
      (Built artifact.references → linked.parents = {}) := by
  obtain ⟨file, library, target, references, body, qualifies, _, _, _, rfl⟩ :=
    exists_of_applyLink done
  have found := qualifies.referencesFound_eq plain
  have object : dropUnits 2 (artifact.relinked file library
      (replaceAll (placeholder name.toList) target.lowerDigits body)).object.toList =
        replaceAll (placeholder name.toList) target.lowerDigits body := by
    rw [relinked, String.toList_ofList, dropUnits_mark]
  have settled := replaceAll_eq_self
    (not_infix_replaceAll_placeholder name.toList body target) other.lowerDigits
  refine ⟨?_, fun built => built.parentsWithout_eq file library⟩
  rw [relinked, referencesTo_forget, ← relinked] at found
  rw [qualifies.applyLink_of_found found, object, patchAll, Except.map, Except.mapError, settled]
  simp only [relinked, forget_forget, (built_forget _ _ _).parentsWithout_eq]

/-- An image that no template gives: two placeholders share their underscores, and a reference
starts before the text. -/
def tangledArtifact : Artifact :=
  { contractName := "Tangled"
    object := "0x__$d91475a6260f89632a0d327e6df1e6e975$__$d91475a6260f89632a0d327e6df1e6e975$__"
    references := [("a.sol", [("A", [⟨.int (-1), .int 20⟩])]), ("b.sol", [])] }

/-- Of the two placeholders that share underscores, one is replaced and half of the other is
left. -/
def tangledOnce : Artifact :=
  { contractName := "Tangled"
    object := "0x23456789abcdef0123456789abcdef0123456789$d91475a6260f89632a0d327e6df1e6e975$" ++
      "23456789abcdef0123456789abcdef012345678923456789abcdef0123456789abcdef0123456789"
    references := [] }

theorem links_a_library_once_tangled :
    tangledArtifact.applyLink "a.sol:A" "0x23456789Abcdef0123456789abcdef0123456789" =
        .ok tangledOnce ∧
      tangledOnce.inherits "a.sol:A" = false ∧
      ∃ other : Address, other.text = "0x1111111111111111111111111111111111111111" ∧
        tangledOnce.applyLink "a.sol:A" other.text = .ok tangledOnce := by
  have done : tangledArtifact.applyLink "a.sol:A" "0x23456789Abcdef0123456789abcdef0123456789" =
      .ok tangledOnce :=
    eq_ok_of_toOption (by decide +kernel)
  have plain : tangledOnce.inherits "a.sol:A" = false := by decide +kernel
  exact ⟨done, plain, ⟨"0x1111111111111111111111111111111111111111", by decide +kernel⟩, rfl,
    (links_a_library_once done plain _).1⟩

/-- An image with a reference to a library that has the name of what makes tables. -/
def makerArtifact : Artifact :=
  { contractName := "Twice"
    object := "0x0000000000000000000000000000000000000000"
    references := [("constructor", [("name", [⟨.int 0, .int 20⟩])])] }

/-- What is left of it when the library has been linked. -/
def makerOnce : Artifact :=
  { contractName := "Twice"
    object := "0x1111111111111111111111111111111111111111"
    references := [] }

/-- A library that has been linked is refused when its name leads to something inherited, which is
what the table hid before. -/
theorem refuses_linked_library :
    makerArtifact.applyLink "constructor:name" "0x1111111111111111111111111111111111111111" =
        .ok makerOnce ∧
      isAddressText "0x1111111111111111111111111111111111111111" = true ∧
      makerOnce.applyLink "constructor:name" "0x1111111111111111111111111111111111111111" =
        .error (.linking "Twice" "constructor:name" .unplaced) :=
  ⟨eq_ok_of_toOption (by decide +kernel), by decide +kernel, rfl⟩

end Rollout.Artifact
