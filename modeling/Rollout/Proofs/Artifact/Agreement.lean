import Rollout.Proofs.Artifact.Frame

/-!
# When an image is still to be linked

An image is taken for unlinked as long as its table lists a file or two underscores stand side by
side in its text; it is complete when no library is listed and all of its text is digits.  The two
tests agree on every image whose text is made of digits and whole placeholders, and linking keeps it
so unless a reference cuts through a placeholder.  Of a placeholder that is cut, a single underscore
or dollar sign can be left, which is neither a library to link nor a digit.
-/

namespace Rollout.Artifact

open Text

/-! ## The two tests -/

theorem hasUnderscores_eq_false {text : List Char} (absent : '_' ∉ text) :
    hasUnderscores text = false := by
  fun_induction hasUnderscores text with
  | case1 rest => simp at absent
  | case2 c rest _ ih => exact ih fun member => absent (List.mem_cons_of_mem c member)
  | case3 => rfl

theorem hasUnderscores_of_pair {text : List Char} {place : Nat} (first : text[place]? = some '_')
    (second : text[place + 1]? = some '_') : hasUnderscores text = true := by
  fun_induction hasUnderscores text generalizing place with
  | case1 rest => rfl
  | case2 c rest single ih =>
      cases place with
      | zero =>
          cases rest with
          | nil => contradiction
          | cons d rest =>
              cases first
              cases second
              exact (single rest rfl rfl).elim
      | succ place => exact ih first second
  | case3 => contradiction

theorem hasUnderscores_of_beginsPlaceholder {text : List Char} {start : Nat}
    (begins : beginsPlaceholder (text.drop start) = true) : hasUnderscores text = true :=
  hasUnderscores_of_pair (underscore_of_beginsPlaceholder begins (.inl (by decide : 0 < 2)))
    (underscore_of_beginsPlaceholder begins (.inl (by decide : 1 < 2)))

theorem isUnlinked_eq_false_iff {artifact : Artifact} :
    artifact.isUnlinked = false ↔
      artifact.references = [] ∧ hasUnderscores artifact.object.toList = false := by
  rw [isUnlinked, Bool.or_eq_false_iff, Bool.not_eq_false', List.isEmpty_iff]

theorem firstPlaceholder?_eq_none_of_hasUnderscores {text : List Char}
    (absent : hasUnderscores text = false) : firstPlaceholder? text = none := by
  rw [firstPlaceholder?_eq, List.head?_eq_none_iff, ← List.append_nil text, placeholdersIn_append]
  · rfl
  · intro place _
    rw [List.append_nil, Bool.eq_false_iff]
    intro begins
    rw [hasUnderscores_of_beginsPlaceholder begins] at absent
    contradiction

theorem firstStray?_cases {digits : List Char} (narrow : Narrow digits) (index : Nat) :
    (HexData.firstStray? index digits = none ∧ ∀ c ∈ digits, isHexDigit c = true) ∨
      ∃ place c, HexData.firstStray? index digits = some (place, c) ∧ c ∈ digits ∧
        isHexDigit c = false := by
  induction digits generalizing index with
  | nil => exact .inl ⟨rfl, fun _ member => absurd member List.not_mem_nil⟩
  | cons c rest ih =>
      obtain ⟨single, narrow⟩ := List.forall_mem_cons.mp narrow
      rw [HexData.firstStray?]
      by_cases hex : isHexDigit c = true
      · rw [if_pos hex]
        obtain ⟨none, all⟩ | ⟨place, d, found, member, stray⟩ := ih narrow (index + 1)
        · exact .inl ⟨none, List.forall_mem_cons.mpr ⟨hex, all⟩⟩
        · exact .inr ⟨place, d, found, List.mem_cons_of_mem c member, stray⟩
      · rw [if_neg hex, if_pos single]
        exact .inr ⟨index, c, rfl, List.mem_cons_self, Bool.eq_false_iff.mpr hex⟩

section Bounded

variable {artifact : Artifact} (bounded : artifact.Bounded)

include bounded

theorem ofText_cases :
    (HexData.ofText artifact.object = .ok artifact.object ∧
      ∀ c ∈ artifact.body, isHexDigit c = true) ∨
    ∃ place c, HexData.ofText artifact.object = .error (.strayCharacter place c) ∧
      c ∈ artifact.body ∧ isHexDigit c = false := by
  obtain ⟨none, hex⟩ | ⟨place, c, found, member, stray⟩ := firstStray?_cases bounded.narrow 0
  · exact .inl ⟨ofText_eq bounded.marked hex bounded.even, hex⟩
  · refine .inr ⟨place, c, ?_, member, stray⟩
    rw [HexData.ofText, bounded.marked]
    simp only [HexData.fault?, found]

/-- An image is complete when no library is listed and all of its text is digits. -/
theorem resolve_eq_ok_iff :
    (∃ image, artifact.resolve = .ok image) ↔
      rows artifact.references = [] ∧ ∀ c ∈ artifact.body, isHexDigit c = true := by
  have first : firstReference? artifact.references = none ↔ rows artifact.references = [] := by
    rw [firstReference?_eq, Option.map_eq_none_iff, List.head?_eq_none_iff]
  rw [resolve, ← first]
  cases firstReference? artifact.references with
  | some library => simp
  | none =>
      obtain ⟨read, hex⟩ | ⟨place, c, read, member, stray⟩ := ofText_cases bounded
      · have absent : '_' ∉ artifact.object.toList := by
          rw [bounded.marked, List.mem_cons, List.mem_cons]
          rintro (zero | mark | inside)
          · contradiction
          · contradiction
          · exact absurd (hex _ inside) (by decide)
        simp only [firstPlaceholder?_eq_none absent, read]
        exact iff_of_true ⟨_, rfl⟩ ⟨trivial, hex⟩
      · refine iff_of_false ?_ fun held => ?_
        · rintro ⟨image, complete⟩
          simp only [read] at complete
          split at complete <;> contradiction
        · rw [held.2 c member] at stray
          contradiction

end Bounded

theorem eq_nil_of_rows {references : References} (listed : ∀ entry ∈ references, entry.2 ≠ [])
    (none : rows references = []) : references = [] := by
  cases references with
  | nil => rfl
  | cons entry rest =>
      rw [List.forall_mem_cons] at listed
      rw [rows_cons, List.append_eq_nil_iff, List.map_eq_nil_iff] at none
      exact absurd none.1 listed.1

/-! ## Texts of digits and whole placeholders -/

/-- Every character of a text is a digit or belongs to a placeholder. -/
def Whole (text : List Char) : Prop :=
  ∀ index c, text[index]? = some c → isHexDigit c = true ∨
    ∃ start, beginsPlaceholder (text.drop start) = true ∧ Covers placeholderLength start index

/-- No two placeholders of a text share a character. -/
def Apart (text : List Char) : Prop :=
  ∀ first second, beginsPlaceholder (text.drop first) = true →
    beginsPlaceholder (text.drop second) = true → first < second →
      first + placeholderLength ≤ second

/-- What is written at a place cuts through a placeholder. -/
def Cut (text : List Char) (place : Nat) : Prop :=
  ∃ start, beginsPlaceholder (text.drop start) = true ∧ start ≠ place ∧
    start < place + placeholderLength ∧ place < start + placeholderLength

/-- No reference that is as long as an address cuts through a placeholder. -/
def Uncut (artifact : Artifact) : Prop :=
  ∀ reference ∈ artifact.held, reference.length = .int 20 → ¬ Cut artifact.body reference.place

theorem whole_textOf (tokens : List Token) : Whole (textOf tokens) := by
  induction tokens with
  | nil =>
      intro index c found
      contradiction
  | cons token rest ih =>
      intro index c found
      rw [textOf_cons] at found ⊢
      obtain inside | beyond := Nat.lt_or_ge index token.text.length
      · rw [List.getElem?_append_left inside] at found
        obtain ⟨p, rfl⟩ | ⟨_, hex⟩ := token.hole_or_hex
        · refine .inr ⟨0, p.beginsPlaceholder_append _, Nat.zero_le _, ?_⟩
          rw [Nat.zero_add, ← p.length_text]
          exact inside
        · exact .inl (hex c (List.mem_of_getElem? found))
      · rw [List.getElem?_append_right beyond] at found
        obtain hex | ⟨start, begins, first, last⟩ := ih _ c found
        · exact .inl hex
        · refine .inr ⟨token.text.length + start, ?_, by omega, by omega⟩
          rw [List.drop_length_add_append]
          exact begins

theorem apart_textOf (tokens : List Token) : Apart (textOf tokens) := by
  intro first second begins later order
  obtain ⟨before, p, after, rfl, length⟩ := exists_hole_of_beginsPlaceholder begins
  obtain ⟨offset, rfl⟩ : ∃ offset, second = (textOf before).length + offset :=
    ⟨second - first, by omega⟩
  rw [textOf_append, textOf_cons, List.drop_length_add_append] at later
  by_contra overlap
  have inside : offset < p.text.length := by
    rw [p.length_text]
    omega
  have same := eq_zero_of_beginsPlaceholder p.form (not_mem_dollar after) inside later
  omega

theorem mem_textOf {tokens : List Token} {c : Char} (member : c ∈ textOf tokens) :
    isHexDigit c = true ∨ c = '_' ∨ c = '$' := by
  obtain ⟨token, listed, inside⟩ := List.mem_flatMap.mp member
  obtain ⟨p, rfl⟩ | ⟨_, hex⟩ := token.hole_or_hex
  · obtain ⟨place, found⟩ := List.mem_iff_getElem?.mp inside
    have allowed := (isPlaceholder_iff.mp p.form).2 place c found
    rw [placeholderAllows] at allowed
    split at allowed
    · exact .inr (.inr (eq_of_beq allowed))
    · split at allowed
      · exact .inl allowed
      · exact .inr (.inl (eq_of_beq allowed))
  · exact .inl (hex c inside)

/-- Writing addresses that cut through no placeholder leaves whole placeholders. -/
theorem Whole.overwriteAll {text written : List Char} {places : List Nat} (whole : Whole text)
    (width : written.length = placeholderLength) (hex : ∀ c ∈ written, isHexDigit c = true)
    (fit : ∀ place ∈ places, place + written.length ≤ text.length)
    (uncut : ∀ place ∈ places, ¬ Cut text place) : Whole (overwriteAll written places text) := by
  intro index c found
  by_cases covered : ∃ place ∈ places, Covers written.length place index
  · obtain ⟨d, listed, here⟩ := getElem?_overwriteAll_of_covered fit covered
    rw [found] at here
    cases here
    exact .inl (hex c listed)
  · rw [getElem?_overwriteAll_of_uncovered fit fun place member cover =>
      covered ⟨place, member, cover⟩] at found
    obtain digit | ⟨start, begins, inside⟩ := whole index c found
    · exact .inl digit
    · -- Nothing is written at the start of the placeholder, nor does anything reach into it.
      have clear : ∀ other, Covers placeholderLength start other →
          ∀ place ∈ places, ¬ Covers written.length place other := by
        rintro other ⟨opens, closes⟩ place member ⟨first, last⟩
        rw [width] at last
        refine uncut place member ⟨start, begins, ?_, by omega, by omega⟩
        rintro rfl
        exact covered ⟨start, member, width.symm ▸ inside⟩
      refine .inr ⟨start, ?_, inside⟩
      rw [beginsPlaceholder, take_drop_congr fun other cover =>
        getElem?_overwriteAll_of_uncovered fit (clear other cover)]
      exact begins

theorem Overlaid.not_cut {old new : List Char} (overlaid : Overlaid old new) {place : Nat}
    (uncut : ¬ Cut old place) : ¬ Cut new place := by
  rintro ⟨start, begins, different, before, behind⟩
  exact uncut ⟨start, overlaid.beginsPlaceholder_old begins, different, before, behind⟩

theorem Apart.not_cut {text : List Char} (apart : Apart text) {place : Nat}
    (begins : beginsPlaceholder (text.drop place) = true) : ¬ Cut text place := by
  rintro ⟨start, other, different, before, behind⟩
  obtain less | more := Nat.lt_or_gt_of_ne different
  · exact absurd behind (Nat.not_lt_of_ge (apart start place other begins less))
  · exact absurd before (Nat.not_lt_of_ge (apart place start begins other more))

/-- Linking leaves whole placeholders if no reference of the original cuts through one. -/
theorem Stage.whole_link {artifact current linked : Artifact} (stage : artifact.Stage current)
    (apart : Apart artifact.body) (uncut : artifact.Uncut)
    {name file library : String} {target : Address} {places : List Nat}
    (link : current.Link linked name file library target places) (whole : Whole current.body) :
    Whole linked.body := by
  have patched := stage.overlaid.trans (link.overlaid_patched stage.bounded)
  rw [link.body_eq]
  refine Whole.overwriteAll ?_ target.length_lowerDigits (Link.hex target) link.fit ?_
  · refine whole.overwriteAll target.length_lowerDigits (Link.hex target)
      (fit_followed stage.bounded link.lengths) ?_
    rw [List.forall_mem_map]
    intro reference member
    have given := held_subset stage.holds (followed_subset_held current file library member)
    exact stage.overlaid.not_cut (uncut reference given (link.lengths reference member))
  · intro place member
    have begins := beginsPlaceholder_of_occurs (link.occurs place member)
    exact patched.not_cut (apart.not_cut (patched.beginsPlaceholder_old begins))

theorem whole_of_linksTo {artifact current : Artifact} (bounded : artifact.Bounded)
    (apart : Apart artifact.body) (whole : Whole artifact.body) (uncut : artifact.Uncut)
    (chain : Relation.ReflTransGen LinksTo artifact current) : Whole current.body := by
  induction chain with
  | refl => exact whole
  | tail chain step ih =>
      obtain ⟨name, address, done⟩ := step
      have stage := stage_of_linksTo bounded chain
      obtain ⟨file, library, target, places, _, _, link⟩ := exists_link stage.bounded done
      exact stage.whole_link apart uncut link ih

/-! ## Agreement -/

/-- A complete image is not taken for unlinked, provided that every file of its table has a
library. -/
theorem isUnlinked_eq_false_of_resolve {artifact : Artifact} (bounded : artifact.Bounded)
    (listed : ∀ entry ∈ artifact.references, entry.2 ≠ [])
    (complete : ∃ image, artifact.resolve = .ok image) : artifact.isUnlinked = false := by
  obtain ⟨none, hex⟩ := (resolve_eq_ok_iff bounded).mp complete
  refine isUnlinked_eq_false_iff.mpr ⟨eq_nil_of_rows listed none, ?_⟩
  refine hasUnderscores_eq_false fun member => ?_
  rw [bounded.marked, List.mem_cons, List.mem_cons] at member
  obtain zero | mark | inside := member
  · contradiction
  · contradiction
  · exact absurd (hex _ inside) (by decide)

/-- An image of digits and whole placeholders that is not taken for unlinked is complete. -/
theorem exists_resolve_of_whole {artifact : Artifact} (bounded : artifact.Bounded)
    (whole : Whole artifact.body) (linked : artifact.isUnlinked = false) :
    ∃ image, artifact.resolve = .ok image := by
  obtain ⟨none, absent⟩ := isUnlinked_eq_false_iff.mp linked
  rw [resolve_eq_ok_iff bounded, none]
  refine ⟨rfl, fun c member => ?_⟩
  obtain ⟨index, found⟩ := List.mem_iff_getElem?.mp member
  obtain hex | ⟨start, begins, _⟩ := whole index c found
  · exact hex
  · rw [body, List.drop_drop] at begins
    rw [hasUnderscores_of_beginsPlaceholder begins] at absent
    contradiction

/-- What linking leaves of an image is made of digits and of characters of placeholders. -/
theorem Stage.mem_body {artifact current : Artifact} (stage : artifact.Stage current)
    {tokens : List Token} (spells : artifact.Spells tokens) {c : Char}
    (member : c ∈ current.body) : isHexDigit c = true ∨ c = '_' ∨ c = '$' := by
  obtain ⟨index, found⟩ := List.mem_iff_getElem?.mp member
  obtain same | ⟨_, covered, filled⟩ := stage.overlaid.kept index
  · rw [found, spells.body_eq] at same
    exact mem_textOf (List.mem_of_getElem? same.symm)
  · obtain ⟨d, here, hex⟩ := filled index covered
    rw [found] at here
    cases here
    exact .inl hex

/-- An image that is not taken for unlinked is complete, unless a character of a placeholder is left
in it that is no digit. -/
theorem Stage.resolve_of_linked {artifact current : Artifact} (stage : artifact.Stage current)
    {tokens : List Token} (spells : artifact.Spells tokens) (linked : current.isUnlinked = false) :
    current.resolve = .ok ⟨current.contractName, current.object⟩ ∨
      ∃ place c, (c = '_' ∨ c = '$') ∧ current.resolve = .error
        (.artifact current.contractName
          (.notHex current.contractName (.strayCharacter place c))) := by
  obtain ⟨none, absent⟩ := isUnlinked_eq_false_iff.mp linked
  rw [resolve, none, firstReference?, firstPlaceholder?_eq_none_of_hasUnderscores absent]
  obtain ⟨read, _⟩ | ⟨place, c, read, member, stray⟩ := ofText_cases stage.bounded
  · left
    simp only [read]
  · right
    refine ⟨place, c, ?_, by simp only [read]⟩
    obtain hex | other := stage.mem_body spells member
    · rw [hex] at stray
      contradiction
    · exact other

/-- How the test for an unlinked image and the completion of the image agree. -/
structure Agrees (artifact current : Artifact) : Prop where
  /-- A complete image is not taken for unlinked. -/
  complete : (∃ image, current.resolve = .ok image) → current.isUnlinked = false
  /-- An image that is not taken for unlinked is complete, or a character of a placeholder is left
  in it that is no digit; no library is reported as missing. -/
  linked : current.isUnlinked = false →
    current.resolve = .ok ⟨current.contractName, current.object⟩ ∨
      ∃ place c, (c = '_' ∨ c = '$') ∧ current.resolve = .error
        (.artifact current.contractName
          (.notHex current.contractName (.strayCharacter place c)))
  /-- If no reference of the original cuts through a placeholder, the two are the same. -/
  uncut : artifact.Uncut →
    (current.isUnlinked = false ↔ ∃ image, current.resolve = .ok image)

/-- An image is not taken for unlinked when it is complete, and the other way round unless a
placeholder has been cut.  A text has less than 2^53 characters, so that numbers tell its places
exactly. -/
theorem isUnlinked_agrees {template : Value} {contractName : String} {artifact current : Artifact}
    (parsed : parse template contractName = .ok artifact)
    (short : artifact.object.length < powerOf 2 53)
    (chain : Relation.ReflTransGen LinksTo artifact current)
    (listed : ∀ entry ∈ current.references, entry.2 ≠ []) : artifact.Agrees current := by
  have bounded := bounded_of_parse parsed short
  have stage := stage_of_linksTo bounded chain
  obtain ⟨tokens, spells, _⟩ := exists_spells_of_parse parsed
  have apart : Apart artifact.body := spells.body_eq ▸ apart_textOf tokens
  have whole : Whole artifact.body := spells.body_eq ▸ whole_textOf tokens
  have complete := isUnlinked_eq_false_of_resolve stage.bounded listed
  refine ⟨complete, stage.resolve_of_linked spells, fun uncut => ⟨?_, complete⟩⟩
  exact exists_resolve_of_whole stage.bounded (whole_of_linksTo bounded apart whole uncut chain)

theorem isUnlinked_agrees_shifted :
    parse shifted "Shifted" = .ok shiftedArtifact ∧
      shiftedArtifact.object.length < powerOf 2 53 ∧
      Relation.ReflTransGen LinksTo shiftedArtifact shiftedTwice ∧
      (∀ entry ∈ shiftedTwice.references, entry.2 ≠ []) ∧
      shiftedArtifact.Agrees shiftedTwice := by
  have short : shiftedArtifact.object.length < powerOf 2 53 := by decide +kernel
  have chain : Relation.ReflTransGen LinksTo shiftedArtifact shiftedTwice :=
    .tail (.single ⟨_, _, applyLink_shiftedArtifact⟩) ⟨_, _, applyLink_shiftedOnce⟩
  have listed : ∀ entry ∈ shiftedTwice.references, entry.2 ≠ [] := by decide
  exact ⟨parse_shifted, short, chain, listed, isUnlinked_agrees parse_shifted short chain listed⟩

/-- A table with a file that has no libraries. -/
def vacant : Value :=
  .record [("object", .text "0x00"), ("linkReferences", .record [("a.sol", .record [])])]

/-- What is read from it. -/
def vacantArtifact : Artifact :=
  { contractName := "Vacant", object := "0x00", references := [("a.sol", [])] }

/-- A complete image can be taken for unlinked, since its table lists a file without libraries; and
an image in which a single underscore is left of a placeholder is not taken for unlinked, though it
is not complete. -/
theorem isUnlinked_disagrees :
    (parse vacant "Vacant" = .ok vacantArtifact ∧ vacantArtifact.isUnlinked = true ∧
        vacantArtifact.resolve = .ok ⟨"Vacant", "0x00"⟩) ∧
      parse shifted "Shifted" = .ok shiftedArtifact ∧
        Relation.ReflTransGen LinksTo shiftedArtifact shiftedTwice ∧
        shiftedTwice.isUnlinked = false ∧
        shiftedTwice.resolve =
          .error (.artifact "Shifted" (.notHex "Shifted" (.strayCharacter 40 '_'))) := by
  have empty : parse vacant "Vacant" = .ok vacantArtifact := eq_ok_of_toOption (by decide +kernel)
  have complete : vacantArtifact.resolve = .ok ⟨"Vacant", "0x00"⟩ :=
    eq_ok_of_toOption (by decide +kernel)
  have chain : Relation.ReflTransGen LinksTo shiftedArtifact shiftedTwice :=
    .tail (.single ⟨_, _, applyLink_shiftedArtifact⟩) ⟨_, _, applyLink_shiftedOnce⟩
  have none : firstPlaceholder? shiftedTwice.object.toList = none := by decide +kernel
  have stray : HexData.ofText shiftedTwice.object = .error (.strayCharacter 40 '_') := by
    rfl
  refine ⟨⟨empty, by decide +kernel, complete⟩, parse_shifted, chain, by decide +kernel, ?_⟩
  rw [resolve, none, stray]
  rfl

end Rollout.Artifact
