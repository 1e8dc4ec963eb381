import Mathlib.Data.List.Nodup
import Rollout.Proofs.Artifact.Refusal

/-!
# Linking what is reported

As long as a table lists a library, the first one is reported as missing, by its qualified name.
Linking it at any address takes it out of the table and leaves the others where they are, so that
all libraries are linked after as many rounds as there are libraries.
-/

namespace Rollout.Artifact

/-- The libraries of a table with their files, each of them once, in the order of the table. -/
def libraries (references : References) : List (String × String) :=
  ((rows references).map fun row => (row.file, row.library)).eraseDups

/-- The library that is reported as missing, as long as the table lists one. -/
def reported? (artifact : Artifact) : Option String :=
  match rows artifact.references, artifact.resolve with
  | _ :: _, .error (.linking _ reference _) => some reference
  | _, _ => none

/-- Link what is reported, round after round, until nothing is reported or no address is left.  The
names that have been reported are given too. -/
def linkReported : Artifact → List Address → Except Failure (Artifact × List String)
  | artifact, [] => .ok (artifact, [])
  | artifact, address :: rest =>
      match artifact.reported? with
      | none => .ok (artifact, [])
      | some name => do
          let linked ← artifact.applyLink name address.text
          let (last, names) ← linkReported linked rest
          return (last, name :: names)

/-- Every library of the table can be linked: its name can be taken apart, and the references to it
lie inside of the image and are as long as an address. -/
structure Linkable (artifact : Artifact) : Prop where
  bounded : artifact.Bounded
  named : ∀ row ∈ rows artifact.references, row.Named
  lengths : ∀ row ∈ rows artifact.references, ∀ reference ∈ row.references,
    reference.length = .int 20

theorem reported?_eq (artifact : Artifact) :
    artifact.reported? = (rows artifact.references).head?.map Row.name := by
  have first := firstReference?_eq artifact.references
  rw [reported?, resolve]
  cases table : rows artifact.references with
  | nil => rfl
  | cons row rest =>
      rw [table, List.head?_cons, Option.map_some] at first
      rw [first]
      rfl

/-! ## The table -/

theorem libraries_eq_cons {references : References} (built : Built references) {row : Row}
    {rest : List Row} (table : rows references = row :: rest) :
    libraries references =
      (row.file, row.library) :: libraries (forget references row.file row.library) := by
  have others : (rows (forget references row.file row.library)).map
      (fun other => (other.file, other.library)) =
        (rest.map fun other => (other.file, other.library)).filter
          fun pair => !pair == (row.file, row.library) := by
    rw [built.rows_forget, table, List.filter_cons_of_neg (by simp), List.filter_map]
    congr 1
    refine List.filter_congr fun other _ => ?_
    rw [Bool.eq_iff_iff, Bool.or_eq_true, bne_iff_ne, bne_iff_ne, Function.comp_apply,
      Bool.not_eq_true', beq_eq_false_iff_ne, ne_eq, ne_eq, ne_eq, Prod.mk.injEq, not_and_or]
  rw [libraries, libraries, table, List.map_cons, List.eraseDups_cons, others]

theorem libraries_eq_nil_iff {references : References} :
    libraries references = [] ↔ rows references = [] := by
  rw [libraries]
  cases table : rows references with
  | nil => simp
  | cons row rest => simp [List.eraseDups_cons]

theorem nodup_eraseDups {α : Type} [BEq α] [LawfulBEq α] (items : List α) :
    items.eraseDups.Nodup := by
  cases items with
  | nil => simp
  | cons first rest =>
      have later := nodup_eraseDups (rest.filter fun item => !item == first)
      rw [List.eraseDups_cons, List.nodup_cons, List.mem_eraseDups, List.mem_filter]
      exact ⟨by simp, later⟩
termination_by items.length
decreasing_by exact Nat.lt_succ_of_le (List.length_filter_le _ _)

/-- Libraries with names that can be taken apart are told by their names. -/
theorem nodup_names {references : References} (named : ∀ row ∈ rows references, row.Named) :
    ((libraries references).map fun pair => qualifiedName pair.1 pair.2).Nodup := by
  have listed : ∀ pair ∈ libraries references, ∃ row ∈ rows references,
      (row.file, row.library) = pair := by
    intro pair member
    rw [libraries, List.mem_eraseDups] at member
    exact List.mem_map.mp member
  refine List.Nodup.map_on ?_ (nodup_eraseDups _)
  intro pair first other second same
  obtain ⟨row, inside, rfl⟩ := listed pair first
  obtain ⟨row', inside', rfl⟩ := listed other second
  have split := (named row' inside').split
  have alike := ((named row inside).name_eq_iff split).mp same
  rw [String.ofList_toList, String.ofList_toList] at alike
  exact Prod.ext alike.1 alike.2

/-! ## Rounds -/

theorem linkReported_cons {artifact next linked : Artifact} {name : String} {names : List String}
    {address : Address} {rest : List Address} (reported : artifact.reported? = some name)
    (done : artifact.applyLink name address.text = .ok next)
    (rounds : next.linkReported rest = .ok (linked, names)) :
    artifact.linkReported (address :: rest) = .ok (linked, name :: names) := by
  simp only [linkReported, reported, done, rounds, bind, Except.bind, pure, Except.pure]

namespace Linkable

variable {artifact : Artifact}

/-- Linking a library that the table lists does not fail. -/
theorem exists_linked (linkable : artifact.Linkable) {row : Row}
    (member : row ∈ rows artifact.references) (address : Address) :
    ∃ linked, artifact.applyLink row.name address.text = .ok linked := by
  have qualifies := (linkable.named row member).qualifies
  have plain := qualifies.inherits_of_recorded? (recorded?_ne_none member)
  cases done : artifact.applyLink row.name address.text with
  | ok linked => exact ⟨linked, rfl⟩
  | error failure =>
      obtain ⟨fault, cause, _⟩ := (applyLink_eq_error linkable.bounded).mp done
      obtain unnamed | malformed | ⟨file, library, _, reference, listed, length⟩ :=
        (exists_refusal_iff plain).mp ⟨fault, cause⟩
      · exact absurd qualifies (unnamed row.file row.library)
      · rw [address.valid] at malformed
        contradiction
      · obtain ⟨other, inside, _, _, within⟩ := exists_row_of_mem_referencesTo listed
        exact absurd (linkable.lengths other inside reference within) length

/-- What linking such a library leaves can be linked as well. -/
theorem link (linkable : artifact.Linkable) {row : Row} (member : row ∈ rows artifact.references)
    (address : Address) :
    ∃ linked, artifact.applyLink row.name address.text = .ok linked ∧ linked.Linkable ∧
      linked.references = forget artifact.references row.file row.library := by
  obtain ⟨linked, done⟩ := linkable.exists_linked member address
  obtain ⟨file, library, target, places, qualifies, _, link⟩ := exists_link linkable.bounded done
  obtain ⟨rfl, rfl⟩ := (linkable.named row member).qualifies.unique qualifies
  have kept : ∀ other ∈ rows linked.references, other ∈ rows artifact.references := by
    intro other left
    rw [link.references] at left
    exact (mem_rows_forget.mp left).1
  refine ⟨linked, done, ⟨link.bounded linkable.bounded, ?_, ?_⟩, link.references⟩
  · exact fun other left => linkable.named other (kept other left)
  · exact fun other left => linkable.lengths other (kept other left)

/-- Each round links the first library that is left. -/
theorem linkReported (linkable : artifact.Linkable) (addresses : List Address) :
    ∃ linked, artifact.linkReported addresses = .ok (linked,
        ((libraries artifact.references).take addresses.length).map
          fun pair => qualifiedName pair.1 pair.2) ∧
      libraries linked.references = (libraries artifact.references).drop addresses.length := by
  induction addresses generalizing artifact with
  | nil => exact ⟨artifact, by simp [Artifact.linkReported], rfl⟩
  | cons address rest ih =>
      have reported := reported?_eq artifact
      cases table : rows artifact.references with
      | nil =>
          rw [table] at reported
          rw [libraries_eq_nil_iff.mpr table, List.take_nil, List.drop_nil, Artifact.linkReported,
            reported]
          exact ⟨artifact, rfl, libraries_eq_nil_iff.mpr table⟩
      | cons row others =>
          have member : row ∈ rows artifact.references := by
            rw [table]
            exact List.mem_cons_self
          rw [table] at reported
          obtain ⟨next, done, later, references⟩ := linkable.link member address
          obtain ⟨linked, rounds, left⟩ := ih later
          rw [references] at rounds left
          have pairs := libraries_eq_cons linkable.bounded.built table
          refine ⟨linked, ?_, ?_⟩
          · rw [pairs, List.length_cons, List.take_succ_cons, List.map_cons]
            exact linkReported_cons reported done rounds
          · rw [pairs, List.length_cons, List.drop_succ_cons]
            exact left

end Linkable

/-- What has become of an artifact after some rounds in which names have been reported. -/
structure LinksReported (artifact linked : Artifact) (rounds : Nat) (names : List String) :
    Prop where
  /-- One library of the table has been reported in each round, in the order of the table, until
  all have been. -/
  reported : names = ((libraries artifact.references).take rounds).map
    fun pair => qualifiedName pair.1 pair.2
  /-- No name has been reported twice. -/
  once : names.Nodup
  /-- The other libraries are left, in the order of the table. -/
  left : libraries linked.references = (libraries artifact.references).drop rounds
  /-- None is left after as many rounds as there are libraries, and no sooner. -/
  complete : rows linked.references = [] ↔ (libraries artifact.references).length ≤ rounds

/-- Linking what is reported never fails, and it ends when all libraries of the table have been
reported.  A text has less than 2^53 characters, so that numbers tell its places exactly.  Names are
sequences of Unicode characters: texts with half of a surrogate pair, which cannot be hashed, are
not among them. -/
theorem links_what_is_reported {template : Value} {contractName : String} {artifact : Artifact}
    (parsed : parse template contractName = .ok artifact)
    (short : artifact.object.length < powerOf 2 53)
    (named : ∀ row ∈ rows artifact.references, row.Named)
    (lengths : ∀ row ∈ rows artifact.references, ∀ reference ∈ row.references,
      reference.length = .int 20)
    (addresses : List Address) :
    ∃ linked names, artifact.linkReported addresses = .ok (linked, names) ∧
      artifact.LinksReported linked addresses.length names := by
  have linkable : artifact.Linkable := ⟨bounded_of_parse parsed short, named, lengths⟩
  obtain ⟨linked, rounds, left⟩ := linkable.linkReported addresses
  refine ⟨linked, _, rounds, rfl, ?_, left, ?_⟩
  · rw [List.map_take]
    exact (List.take_sublist _ _).nodup (nodup_names named)
  · rw [← libraries_eq_nil_iff, left, List.drop_eq_nil_iff]

/-- A table that begins with a file named by a number, with a library without references, a file
without libraries and a library with references that overlap. -/
def numbered : Value :=
  .record
    [("object", .text
      ("0x00000000000000000000000000000000000000000000" ++
        "__$0000000000000000000000000000000000$__")),
      ("linkReferences", .record
        [("7", .record
          [("B", .list [.record [("start", .number (.int 0)), ("length", .number (.int 20))]]),
            ("A", .list [])]),
          ("a.sol", .record []),
          ("b.sol:c", .record [("C", .list
            [.record [("start", .number (.int 1)), ("length", .number (.int 20))],
              .record [("start", .number (.int 2)), ("length", .number (.int 20))]])])])]

/-- What is read from it. -/
def numberedArtifact : Artifact :=
  { contractName := "Numbered"
    object := "0x00000000000000000000000000000000000000000000" ++
      "__$0000000000000000000000000000000000$__"
    references :=
      [("7", [("B", [⟨.int 0, .int 20⟩]), ("A", [])]), ("a.sol", []),
        ("b.sol:c", [("C", [⟨.int 1, .int 20⟩, ⟨.int 2, .int 20⟩])])] }

/-- An address for all its libraries. -/
def numberedAddress : Address :=
  ⟨"0x7777777777777777777777777777777777777777", by decide +kernel⟩

theorem links_what_is_reported_numbered :
    parse numbered "Numbered" = .ok numberedArtifact ∧
      numberedArtifact.object.length < powerOf 2 53 ∧
      (∀ row ∈ rows numberedArtifact.references, row.Named) ∧
      (∀ row ∈ rows numberedArtifact.references, ∀ reference ∈ row.references,
        reference.length = .int 20) ∧
      ∃ linked, numberedArtifact.linkReported (List.replicate 4 numberedAddress) =
          .ok (linked, ["7:B", "7:A", "b.sol:c:C"]) ∧
        rows linked.references = [] := by
  have parsed : parse numbered "Numbered" = .ok numberedArtifact :=
    eq_ok_of_toOption (by decide +kernel)
  have short : numberedArtifact.object.length < powerOf 2 53 := by decide +kernel
  have table : rows numberedArtifact.references =
      [⟨"7", "B", [⟨.int 0, .int 20⟩]⟩, ⟨"7", "A", []⟩,
        ⟨"b.sol:c", "C", [⟨.int 1, .int 20⟩, ⟨.int 2, .int 20⟩]⟩] := rfl
  have named : ∀ row ∈ rows numberedArtifact.references, row.Named := by
    rw [table, List.forall_mem_cons, List.forall_mem_cons, List.forall_mem_singleton]
    exact ⟨⟨by decide, by decide, by decide⟩, ⟨by decide, by decide, by decide⟩,
      ⟨by decide, by decide, by decide⟩⟩
  have lengths : ∀ row ∈ rows numberedArtifact.references, ∀ reference ∈ row.references,
      reference.length = .int 20 := by
    rw [table]
    decide
  have pairs : libraries numberedArtifact.references = [("7", "B"), ("7", "A"), ("b.sol:c", "C")] :=
    by decide +kernel
  obtain ⟨linked, names, rounds, links⟩ :=
    links_what_is_reported parsed short named lengths (List.replicate 4 numberedAddress)
  have reported := links.reported
  have complete := links.complete
  rw [pairs, List.length_replicate] at reported complete
  have listed : names = ["7:B", "7:A", "b.sol:c:C"] := by
    rw [reported]
    decide +kernel
  rw [listed] at rounds
  exact ⟨parsed, short, named, lengths, linked, rounds, complete.mpr (by decide)⟩

end Rollout.Artifact
