import Rollout.Proofs.Artifact.Bounds
import Rollout.Proofs.Artifact.Filling
import Rollout.Proofs.Checked

/-!
# References and placeholders lead to the same places

Where a library goes into an image is told twice, by the references to it and by its placeholder.
If every reference leads to the placeholder, linking the library fills all of the holes for it, no
more and no less: a table that lists them, lists some of them, or lists one of them more than once
changes nothing.  So an image links to the same text with its table and without, unless the name of
the library leads to something inherited with either.
-/

namespace Rollout.Artifact

open Text

/-! ## Filling all holes -/

section Fill

variable {p : Placeholder} {address : Address}

theorem Token.Fills.eq_fill {token filled : Token} (fills : token.Fills p address filled)
    (pending : ∀ other, token ≠ .linked p other) (closed : filled.hole? ≠ some p) :
    filled = token.fill p address := by
  cases fills with
  | keep => exact (token.fill_of_ne address fun same => closed (congrArg Token.hole? same)).symm
  | fill slot =>
      cases token with
      | digit => contradiction
      | hole q =>
          cases slot
          rw [Token.fill, if_pos rfl]
      | linked q other =>
          cases slot
          exact absurd rfl (pending other)

/-- If no slot for a library was linked before and no hole for it is left, exactly the holes for it
have been filled. -/
theorem Fills.eq_map_fill {tokens filled : List Token} (fills : Fills p address tokens filled)
    (pending : Pending p tokens) (closed : p ∉ holes filled) :
    filled = tokens.map (Token.fill p address) := by
  induction fills with
  | nil => rfl
  | @cons token head rest others first _ ih =>
      rw [holes_cons, List.mem_append, not_or, Option.mem_toList] at closed
      have here : head = token.fill p address := by
        refine first.eq_fill (fun other same => ?_) closed.1
        exact pending other (same ▸ List.mem_cons_self)
      rw [List.map_cons, ← here, ← ih _ closed.2]
      exact fun other member => pending other (List.mem_cons_of_mem token member)

end Fill

/-- Every reference that a table records for a name leads to a slot for its placeholder. -/
def RecordedFor (slots : List (Option Placeholder)) (references : References) (name : String) :
    Prop :=
  ∀ row ∈ rows references,
    splitQualifiedName? name.toList = some (row.file.toList, row.library.toList) →
      ∀ reference ∈ row.references, Recorded slots (.of name) reference

/-- Linking a library fills all of the holes for it, and no other. -/
theorem applyLink_eq_fill {artifact : Artifact} {tokens : List Token}
    (spells : artifact.Spells tokens) (short : (textOf tokens).length < powerOf 2 53)
    {name file library : String} (qualifies : Qualifies name file library)
    (plain : artifact.inherits name = false)
    (recorded : RecordedFor (skeleton tokens) artifact.references name)
    (pending : Pending (.of name) tokens) (address : Address) :
    artifact.applyLink name address.text =
      .ok (artifact.relinked file library
        (textOf (tokens.map (Token.fill (.of name) address)))) := by
  have each : ∀ reference ∈ referencesTo artifact.references file library,
      Recorded (skeleton tokens) (.of name) reference := by
    intro reference member
    obtain ⟨row, listed, file_eq, library_eq, inside⟩ := exists_row_of_mem_referencesTo member
    refine recorded row listed ?_ reference inside
    rw [qualifies.split, file_eq, library_eq]
  obtain ⟨filled, linked, fills, closed⟩ := exists_fills_of_applyLink spells short qualifies
    (qualifies.referencesFound_eq plain) each address
  rw [linked, fills.eq_map_fill pending closed]

/-! ## Linking without a table -/

/-- Every reference recorded for a name is as long as an address and leads to the placeholder of
the name. -/
def Placed (artifact : Artifact) (name : String) : Prop :=
  ∀ row ∈ rows artifact.references,
    splitQualifiedName? name.toList = some (row.file.toList, row.library.toList) →
      ∀ reference ∈ row.references, reference.length = .int 20 ∧
        placeholder name.toList <+: artifact.body.drop reference.place

theorem Placed.recordedFor {artifact : Artifact} {name : String} (placed : artifact.Placed name)
    (bounded : artifact.Bounded) {tokens : List Token} (spells : artifact.Spells tokens) :
    RecordedFor (skeleton tokens) artifact.references name := by
  intro row listed split reference member
  obtain ⟨length, occurs⟩ := placed row listed split reference member
  obtain ⟨place, _, start, _, _⟩ := bounded.inside reference ((Holds.row listed).subset_held member)
  rw [Reference.place, start, Option.getD_some, Int.toNat_natCast, spells.body_eq] at occurs
  exact recorded_of_occurs length start occurs

/-- The image without its table. -/
def bare (artifact : Artifact) : Artifact := { artifact with references := [], parents := {} }

theorem parse_text {template : Value} {contractName : String} {artifact : Artifact}
    (parsed : parse template contractName = .ok artifact) :
    parse (.text artifact.object) contractName = .ok artifact.bare := by
  rw [parse, mapError_eq_ok, parseTemplate_eq_ok] at parsed ⊢
  obtain ⟨object, body, references, _, shape, accepted, even, _, rfl⟩ := parsed
  exact ⟨object, body, [], rfl, shape, accepted, even, rfl, rfl⟩

/-- A library whose references lead to its placeholder, and whose name leads to nothing inherited,
goes into an image in the same way with a table and without: every placeholder of its name is
replaced by the small digits of its address.  A text has less than 2^53 characters, so that numbers
tell its places exactly. -/
theorem replaces_placeholders {template : Value} {contractName : String} {artifact : Artifact}
    (parsed : parse template contractName = .ok artifact)
    (short : artifact.object.length < powerOf 2 53) {name : String}
    (split : (splitQualifiedName? name.toList).isSome = true) (placed : artifact.Placed name)
    (plain : artifact.inherits name = false) (plainBare : artifact.bare.inherits name = false)
    (address : Address) :
    parse (.text artifact.object) contractName = .ok artifact.bare ∧
      (∃ tokens, artifact.ReadAs tokens) ∧
      ∃ linked unlisted, artifact.applyLink name address.text = .ok linked ∧
        artifact.bare.applyLink name address.text = .ok unlisted ∧
        unlisted.object = linked.object ∧
        ∀ tokens, artifact.ReadAs tokens →
          linked.Spells (tokens.map (Token.fill (.of name) address)) := by
  obtain ⟨⟨file, library⟩, split⟩ := Option.isSome_iff_exists.mp split
  have qualifies := qualifies_of_split split
  have bounded := bounded_of_parse parsed short
  have width : ∀ tokens, artifact.ReadAs tokens → (textOf tokens).length < powerOf 2 53 :=
    fun tokens read => read.spells.body_eq ▸ bounded.short
  have listed : ∀ tokens, artifact.ReadAs tokens → artifact.applyLink name address.text = _ :=
    fun tokens read => applyLink_eq_fill read.spells (width tokens read) qualifies plain
      (placed.recordedFor bounded read.spells) (read.pending _) address
  obtain ⟨tokens, read, _⟩ := exists_readAs_of_parse parsed
  have spells : artifact.bare.Spells tokens := read.spells
  have emptied : RecordedFor (skeleton tokens) artifact.bare.references name :=
    fun _ member => absurd member List.not_mem_nil
  have unlisted := applyLink_eq_fill spells (width tokens read) qualifies plainBare emptied
    (read.pending _) address
  refine ⟨parse_text parsed, ⟨tokens, read⟩, _, _, listed tokens read, unlisted, rfl, ?_⟩
  intro others readOthers
  have same := (listed others readOthers).symm.trans (listed tokens read)
  rw [Except.ok.injEq] at same
  rw [← same]
  exact String.toList_ofList

/-- An image with three placeholders of a library, two of them next to each other and one amid a
byte, which the table does not list; one that it lists is listed twice. -/
def repeated : Value :=
  .record
    [("object", .text
      ("0x__$d91475a6260f89632a0d327e6df1e6e975$____$d91475a6260f89632a0d327e6df1e6e975$__" ++
        "0__$d91475a6260f89632a0d327e6df1e6e975$__f")),
      ("linkReferences", .record [("a.sol", .record
        [("A", .list
          [.record [("start", .number (.int 20)), ("length", .number (.int 20))],
            .record [("start", .number (.int 0)), ("length", .number (.int 20))],
            .record [("start", .number (.int 20)), ("length", .number (.int 20))]])])])]

/-- What is read from it. -/
def repeatedArtifact : Artifact :=
  { contractName := "Repeated"
    object :=
      "0x__$d91475a6260f89632a0d327e6df1e6e975$____$d91475a6260f89632a0d327e6df1e6e975$__" ++
        "0__$d91475a6260f89632a0d327e6df1e6e975$__f"
    references :=
      [("a.sol", [("A", [⟨.int 20, .int 20⟩, ⟨.int 0, .int 20⟩, ⟨.int 20, .int 20⟩])])] }

theorem placed_repeated : repeatedArtifact.Placed "a.sol:A" := by
  have name : placeholder "a.sol:A".toList = "__$d91475a6260f89632a0d327e6df1e6e975$__".toList := by
    decide +kernel
  have only : rows repeatedArtifact.references =
      [⟨"a.sol", "A", [⟨.int 20, .int 20⟩, ⟨.int 0, .int 20⟩, ⟨.int 20, .int 20⟩]⟩] := rfl
  rw [Placed, only, List.forall_mem_singleton, name]
  intro _
  decide +kernel

theorem replaces_placeholders_repeated :
    parse repeated "Repeated" = .ok repeatedArtifact ∧
      repeatedArtifact.object.length < powerOf 2 53 ∧
      (splitQualifiedName? "a.sol:A".toList).isSome = true ∧ repeatedArtifact.Placed "a.sol:A" ∧
      repeatedArtifact.inherits "a.sol:A" = false ∧
      repeatedArtifact.bare.inherits "a.sol:A" = false ∧
      ∃ address : Address, address.text = "0x23456789Abcdef0123456789abcdef0123456789" ∧
        ∃ linked unlisted, repeatedArtifact.applyLink "a.sol:A" address.text = .ok linked ∧
          repeatedArtifact.bare.applyLink "a.sol:A" address.text = .ok unlisted ∧
          unlisted.object = linked.object ∧
          ∀ tokens, repeatedArtifact.ReadAs tokens →
            linked.Spells (tokens.map (Token.fill (.of "a.sol:A") address)) := by
  have parsed : parse repeated "Repeated" = .ok repeatedArtifact :=
    eq_ok_of_toOption (by decide +kernel)
  have short : repeatedArtifact.object.length < powerOf 2 53 := by decide +kernel
  have split : (splitQualifiedName? "a.sol:A".toList).isSome = true := by decide +kernel
  have plain : repeatedArtifact.inherits "a.sol:A" = false := by decide +kernel
  have plainBare : repeatedArtifact.bare.inherits "a.sol:A" = false := by decide +kernel
  obtain ⟨_, _, agree⟩ := replaces_placeholders parsed short split placed_repeated plain plainBare
    ⟨"0x23456789Abcdef0123456789abcdef0123456789", by decide +kernel⟩
  exact ⟨parsed, short, split, placed_repeated, plain, plainBare, _, rfl, agree⟩

/-- An image of one byte that lists nothing. -/
def emptyTable : Artifact := { contractName := "Bare", object := "0x00", references := [] }

/-- A name for which nothing is recorded is refused, with a table and without, if it leads to an
inherited operation, and to the name of that. -/
theorem refuses_with_table_and_without :
    parse (.text "0x00") "Bare" = .ok emptyTable ∧ emptyTable.object.length < powerOf 2 53 ∧
      (splitQualifiedName? "toString:name".toList).isSome = true ∧
      emptyTable.Placed "toString:name" ∧
      isAddressText "0x1111111111111111111111111111111111111111" = true ∧
      emptyTable.applyLink "toString:name" "0x1111111111111111111111111111111111111111" =
        .error (.linking "Bare" "toString:name" .unplaced) ∧
      emptyTable.bare.applyLink "toString:name" "0x1111111111111111111111111111111111111111" =
        .error (.linking "Bare" "toString:name" .unplaced) := by
  have parsed : parse (.text "0x00") "Bare" = .ok emptyTable :=
    eq_ok_of_toOption (by decide +kernel)
  have placed : emptyTable.Placed "toString:name" := fun _ member => absurd member List.not_mem_nil
  exact ⟨parsed, by decide +kernel, by decide +kernel, placed, by decide +kernel, rfl, rfl⟩

end Rollout.Artifact
