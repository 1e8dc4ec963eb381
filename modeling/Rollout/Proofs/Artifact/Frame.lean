import Rollout.Proofs.Artifact.Bounds
import Rollout.Proofs.Checked

/-!
# What linking leaves alone

An address takes as many characters as a placeholder, and a placeholder begins and ends with
characters that no address has.  So a placeholder of an image over which addresses have been written
stood there before, wherever the addresses have gone: linking changes the characters to which the
references to its library lead and those of its placeholder, and nothing else.
-/

namespace Rollout.Artifact

open Text

/-! ## Texts with digits written over them -/

/-- Hexadecimal digits stand at a place, as many as an address has. -/
def Filled (text : List Char) (place : Nat) : Prop :=
  ∀ index, Covers placeholderLength place index →
    ∃ c, text[index]? = some c ∧ isHexDigit c = true

/-- A text differs from another one of its length only where it is filled. -/
structure Overlaid (old new : List Char) : Prop where
  length : new.length = old.length
  kept : ∀ index, new[index]? = old[index]? ∨
    ∃ place, Covers placeholderLength place index ∧ Filled new place

theorem Filled.ne_underscore {text : List Char} {place index : Nat} (filled : Filled text place)
    (covered : Covers placeholderLength place index) : text[index]? ≠ some '_' := by
  intro found
  obtain ⟨c, here, hex⟩ := filled index covered
  rw [found] at here
  cases here
  contradiction

/-- A placeholder begins and ends with two underscores. -/
theorem underscore_of_beginsPlaceholder {text : List Char} {start offset : Nat}
    (begins : beginsPlaceholder (text.drop start) = true)
    (ending : offset < 2 ∨ 38 ≤ offset ∧ offset < placeholderLength) :
    text[start + offset]? = some '_' := by
  have inside : offset < placeholderLength := by
    rw [placeholderLength] at ending ⊢
    omega
  obtain ⟨c, found, allowed⟩ := allowed_of_beginsPlaceholder begins inside
  rw [List.getElem?_drop] at found
  obtain rfl : c = '_' := by
    rw [placeholderAllows, if_neg (by omega), if_neg (by omega)] at allowed
    exact eq_of_beq allowed
  exact found

/-- What is filled reaches into no placeholder. -/
theorem Filled.not_covers {text : List Char} {place start index : Nat} (filled : Filled text place)
    (begins : beginsPlaceholder (text.drop start) = true)
    (inside : Covers placeholderLength start index) :
    ¬ Covers placeholderLength place index := by
  rintro ⟨first, last⟩
  obtain ⟨opens, closes⟩ := inside
  have front := underscore_of_beginsPlaceholder begins (.inl (by decide : 0 < 2))
  have back := underscore_of_beginsPlaceholder begins
    (.inr (by decide : 38 ≤ 39 ∧ 39 < placeholderLength))
  -- Both take forty characters, so that the digits reach the one end or the other.
  obtain behind | before := Nat.lt_or_ge start place
  · have reached : Covers placeholderLength place (start + 39) := by
      rw [placeholderLength] at closes
      exact ⟨by omega, by rw [placeholderLength]; omega⟩
    exact filled.ne_underscore reached back
  · exact filled.ne_underscore ⟨before, by omega⟩ front

theorem filled_overwriteAll {written text : List Char} {places : List Nat} {place : Nat}
    (width : written.length = placeholderLength) (hex : ∀ c ∈ written, isHexDigit c = true)
    (fit : ∀ place ∈ places, place + written.length ≤ text.length) (member : place ∈ places) :
    Filled (overwriteAll written places text) place := by
  intro index covered
  rw [← width] at covered
  obtain ⟨c, listed, found⟩ := getElem?_overwriteAll_of_covered fit ⟨place, member, covered⟩
  exact ⟨c, found, hex c listed⟩

namespace Overlaid

variable {old middle new : List Char}

theorem refl (text : List Char) : Overlaid text text := ⟨rfl, fun _ => .inl rfl⟩

theorem trans (first : Overlaid old middle) (second : Overlaid middle new) : Overlaid old new := by
  refine ⟨second.length.trans first.length, fun index => ?_⟩
  obtain same | filled := second.kept index
  · obtain earlier | ⟨place, covered, filled⟩ := first.kept index
    · exact .inl (same.trans earlier)
    · refine .inr ⟨place, covered, fun other cover => ?_⟩
      obtain kept | ⟨place, covered, filled⟩ := second.kept other
      · rw [kept]
        exact filled other cover
      · exact filled other covered
  · exact .inr filled

theorem overwriteAll {written text : List Char} {places : List Nat}
    (width : written.length = placeholderLength) (hex : ∀ c ∈ written, isHexDigit c = true)
    (fit : ∀ place ∈ places, place + written.length ≤ text.length) :
    Overlaid text (overwriteAll written places text) := by
  refine ⟨length_overwriteAll fit, fun index => ?_⟩
  by_cases covered : ∃ place ∈ places, Covers written.length place index
  · obtain ⟨place, member, cover⟩ := covered
    rw [width] at cover
    exact .inr ⟨place, cover, filled_overwriteAll width hex fit member⟩
  · refine .inl (getElem?_overwriteAll_of_uncovered fit fun place member cover => ?_)
    exact covered ⟨place, member, cover⟩

section Placeholder

variable (overlaid : Overlaid old new) {start : Nat}
  (begins : beginsPlaceholder (new.drop start) = true)

include overlaid begins

/-- A placeholder that is there has not been changed. -/
theorem getElem?_eq {index : Nat} (inside : Covers placeholderLength start index) :
    new[index]? = old[index]? := by
  obtain same | ⟨place, covered, filled⟩ := overlaid.kept index
  · exact same
  · exact absurd covered (filled.not_covers begins inside)

theorem take_eq : (new.drop start).take placeholderLength =
    (old.drop start).take placeholderLength :=
  take_drop_congr fun _ inside => overlaid.getElem?_eq begins inside

/-- A placeholder that is there stood there before. -/
theorem beginsPlaceholder_old : beginsPlaceholder (old.drop start) = true := by
  rw [beginsPlaceholder, ← overlaid.take_eq begins]
  exact begins

end Placeholder

end Overlaid

/-! ## One link -/

namespace Link

variable {artifact linked : Artifact} {name file library : String} {target : Address}
  {places : List Nat} (link : artifact.Link linked name file library target places)

include link in
theorem body_eq : linked.body = overwriteAll target.lowerDigits places
    (artifact.patched (artifact.followed file library) target) := by
  rw [body, link.object]
  rfl

theorem hex (target : Address) : ∀ c ∈ target.lowerDigits, isHexDigit c = true :=
  fun c member => isHexDigit_of_isSmallDigit (target.lowerDigits_small c member)

include link in
theorem overlaid_patched (bounded : artifact.Bounded) : Overlaid artifact.body
    (artifact.patched (artifact.followed file library) target) :=
  .overwriteAll target.length_lowerDigits (hex target) (fit_followed bounded link.lengths)

include link in
theorem fit : ∀ place ∈ places, place + target.lowerDigits.length ≤
    (artifact.patched (artifact.followed file library) target).length := by
  intro place member
  have whole := length_placeholder name.toList
  rw [target.length_lowerDigits, ← placeholderLength, ← whole]
  exact fits_of_occurrence (placeholder_ne_nil _) (link.occurs place member)

include link in
theorem overlaid_linked :
    Overlaid (artifact.patched (artifact.followed file library) target)
      linked.body := by
  rw [link.body_eq]
  exact .overwriteAll target.length_lowerDigits (hex target) link.fit

include link in
theorem overlaid (bounded : artifact.Bounded) : Overlaid artifact.body linked.body :=
  (link.overlaid_patched bounded).trans link.overlaid_linked

include link in
/-- No references are held that were not held before. -/
theorem holds (built : Built artifact.references) (otherFile otherLibrary : String)
    (listed : List Reference) (holds : linked.Holds otherFile otherLibrary listed) :
    artifact.Holds otherFile otherLibrary listed := by
  cases holds with
  | row member =>
      rw [link.references] at member
      exact .row (mem_rows_forget.mp member).1
  | parent gives =>
      rw [link.parents, built.parentsWithout_eq] at gives
      exact absurd gives Parents.not_gives

include link in
theorem bounded (bounded : artifact.Bounded) : linked.Bounded := by
  have overlaid := link.overlaid bounded
  have marked : linked.object.toList = '0' :: 'x' :: linked.body := by
    rw [link.body_eq, link.object]
  have narrow : Narrow linked.body := by
    intro c member
    obtain ⟨index, found⟩ := List.mem_iff_getElem?.mp member
    obtain same | ⟨place, covered, filled⟩ := overlaid.kept index
    · rw [found] at same
      exact bounded.narrow c (List.mem_of_getElem? same.symm)
    · obtain ⟨d, here, hex⟩ := filled index covered
      rw [found] at here
      cases here
      exact unitWidth_of_isHexDigit hex
  refine ⟨marked, narrow, ?_, ?_, ?_, ?_⟩
  · rw [overlaid.length]
    exact bounded.even
  · rw [overlaid.length]
    exact bounded.short
  · rw [link.references]
    exact built_forget _ _ _
  · rw [overlaid.length]
    exact fun reference member =>
      bounded.inside reference (held_subset (link.holds bounded.built) member)

include link in
/-- A place at which a placeholder is replaced is not reached by what has been written over the
references before. -/
theorem not_covers_of_occurs (bounded : artifact.Bounded) {place index : Nat}
    (occurs : place ∈ places) (inside : Covers placeholderLength place index) :
    ∀ reference ∈ artifact.followed file library,
      ¬ Covers placeholderLength reference.place index := by
  intro reference member
  have filled := filled_overwriteAll target.length_lowerDigits (hex target)
    (fit_followed bounded link.lengths) (List.mem_map_of_mem member)
  exact filled.not_covers (beginsPlaceholder_of_occurs (link.occurs place occurs)) inside

end Link

/-- The library of some name can be linked at some address, which gives another artifact. -/
def LinksTo (artifact linked : Artifact) : Prop :=
  ∃ name address, artifact.applyLink name address = .ok linked

/-- What holds of an artifact in which libraries of another one have been linked: the references
stay inside of the image, addresses are all that is written over it, and no references are added for
any library. -/
structure Stage (artifact current : Artifact) : Prop where
  bounded : current.Bounded
  overlaid : Overlaid artifact.body current.body
  holds : ∀ file library listed, current.Holds file library listed →
    artifact.Holds file library listed

theorem Stage.link {artifact current linked : Artifact} (stage : artifact.Stage current)
    {name file library : String} {target : Address} {places : List Nat}
    (link : current.Link linked name file library target places) : artifact.Stage linked := by
  refine ⟨link.bounded stage.bounded, stage.overlaid.trans (link.overlaid stage.bounded), ?_⟩
  exact fun _ _ _ given => stage.holds _ _ _ (link.holds stage.bounded.built _ _ _ given)

theorem stage_of_linksTo {artifact current : Artifact} (bounded : artifact.Bounded)
    (chain : Relation.ReflTransGen LinksTo artifact current) : artifact.Stage current := by
  induction chain with
  | refl => exact ⟨bounded, .refl _, fun _ _ _ given => given⟩
  | tail _ step stage =>
      obtain ⟨name, address, done⟩ := step
      obtain ⟨file, library, target, places, _, _, link⟩ := exists_link stage.bounded done
      exact stage.link link

/-! ## What changes -/

/-- What linking the library `library` of `file` at an address changes in an artifact. -/
structure Changes (artifact linked : Artifact) (name file library : String) (address : Address) :
    Prop where
  /-- The contract is the same. -/
  contractName : linked.contractName = artifact.contractName
  /-- The text is marked. -/
  marked : linked.object.toList = '0' :: 'x' :: linked.body
  /-- The text is as long as before. -/
  length : linked.object.length = artifact.object.length
  /-- The references to the library are those that the table records, unless the file or the library
  has the name of parents. -/
  recorded : file ≠ parentName → library ≠ parentName →
    artifact.followed file library = referencesTo artifact.references file library
  /-- They are with that name, too, if it leads to nothing inherited. -/
  uninherited : artifact.inherits name = false →
    artifact.followed file library = referencesTo artifact.references file library
  /-- A character changes only if a reference to the library leads to it or if it belongs to an
  occurrence of the placeholder. -/
  frame : ∀ index, linked.body[index]? ≠ artifact.body[index]? →
    (∃ reference ∈ artifact.followed file library,
      Covers placeholderLength reference.place index) ∨
    ∃ place, placeholder name.toList <+: artifact.body.drop place ∧
      Covers placeholderLength place index
  /-- A character to which a reference leads, and no later one, is the digit of the address. -/
  written : ∀ earlier reference later,
    artifact.followed file library = earlier ++ reference :: later →
    ∀ index, Covers placeholderLength reference.place index →
      (∀ other ∈ later, ¬ Covers placeholderLength other.place index) →
      linked.body[index]? = address.lowerDigits[index - reference.place]?
  /-- The table loses the library, and keeps all others with their references in their order. -/
  rows : rows linked.references =
    (rows artifact.references).filter fun row => row.file != file || row.library != library
  /-- Every file that is left has a library. -/
  listed : ∀ entry ∈ linked.references, entry.2 ≠ []
  /-- The files that are left are those with another library, in their order. -/
  files : linked.references.map Prod.fst =
    (artifact.references.filter fun entry =>
      entry.2.any fun named => entry.1 != file || named.1 != library).map Prod.fst

namespace Link

variable {artifact linked : Artifact} {name file library : String} {target : Address}
  {places : List Nat} (link : artifact.Link linked name file library target places)

include link

theorem frame (bounded : artifact.Bounded) {index : Nat}
    (changed : linked.body[index]? ≠ artifact.body[index]?) :
    (∃ reference ∈ artifact.followed file library,
      Covers placeholderLength reference.place index) ∨
    ∃ place, placeholder name.toList <+: artifact.body.drop place ∧
      Covers placeholderLength place index := by
  have width := target.length_lowerDigits
  by_cases replaced : ∃ place ∈ places, Covers placeholderLength place index
  · obtain ⟨place, member, covered⟩ := replaced
    have occurs := link.occurs place member
    have begins := beginsPlaceholder_of_occurs occurs
    rw [prefix_iff_take_eq, (link.overlaid_patched bounded).take_eq begins,
      ← prefix_iff_take_eq] at occurs
    exact .inr ⟨place, occurs, covered⟩
  · left
    by_contra unwritten
    apply changed
    rw [link.body_eq, getElem?_overwriteAll_of_uncovered link.fit, patched,
      getElem?_overwriteAll_of_uncovered (fit_followed bounded link.lengths)]
    · rw [List.forall_mem_map, width]
      exact fun reference member covered => unwritten ⟨reference, member, covered⟩
    · rw [width]
      exact fun place member covered => replaced ⟨place, member, covered⟩

theorem written (bounded : artifact.Bounded) {earlier later : List Reference}
    {reference : Reference}
    (split : artifact.followed file library = earlier ++ reference :: later)
    {index : Nat} (covered : Covers placeholderLength reference.place index)
    (last : ∀ other ∈ later, ¬ Covers placeholderLength other.place index) :
    linked.body[index]? = target.lowerDigits[index - reference.place]? := by
  have width := target.length_lowerDigits
  have member : reference ∈ artifact.followed file library := by
    rw [split]
    simp
  have fit : ∀ place ∈ (artifact.followed file library).map Reference.place,
      place + target.lowerDigits.length ≤ artifact.body.length :=
    fit_followed bounded link.lengths
  rw [split, List.map_append, List.map_cons] at fit
  rw [link.body_eq, getElem?_overwriteAll_of_uncovered link.fit, patched, split, List.map_append,
    List.map_cons, getElem?_overwriteAll_of_last fit]
  · rw [width]
    exact covered
  · rw [List.forall_mem_map, width]
    exact last
  · rw [width]
    intro place occurs inside
    exact link.not_covers_of_occurs bounded occurs inside reference member covered

end Link

theorem mem_without {references : References} {file library : String}
    {entry : String × LibraryReferences} (member : entry ∈ without references file library) :
    entry.2 ≠ [] := by
  rw [without, List.mem_filter] at member
  simpa using member.2

theorem files_without (references : References) (file library : String) :
    (without references file library).map Prod.fst =
      (references.filter fun entry =>
        entry.2.any fun named => entry.1 != file || named.1 != library).map Prod.fst := by
  rw [without, List.filter_map, List.map_map]
  congr 1
  refine List.filter_congr fun entry _ => ?_
  rw [Function.comp_apply, Bool.eq_iff_iff, Bool.not_eq_true', List.isEmpty_eq_false_iff_exists_mem,
    List.any_eq_true]
  simp only [List.mem_filter]

/-- A template lists references for a library of a file. -/
def Lists (template : Value) (file library : String) (references : List Reference) : Prop :=
  ∃ size files entries entry, template.field "linkReferences" = .record files ∧
    (file, .record entries) ∈ files ∧ entry ∈ entries ∧ IsLibrary size entry (library, references)

theorem lists_of_holds {template : Value} {contractName : String} {artifact : Artifact}
    (parsed : parse template contractName = .ok artifact)
    (short : artifact.object.length < powerOf 2 53) {file library : String}
    {references : List Reference} (holds : artifact.Holds file library references) :
    Lists template file library references := by
  obtain ⟨_, _, object, listing, rfl, table⟩ := exists_listing_of_parse parsed short
  obtain ⟨libraries, member, named⟩ := holds_ofListing holds
  exact ⟨_, table.lists member named⟩

/-- Linking a library changes the characters to which the references to it lead and those of its
placeholder, and takes its references out of the table.  The references are what the template lists
for the library, or there are none.  A text has less than 2^53 characters, so that numbers tell its
places exactly. -/
theorem changes_what_it_links {template : Value} {contractName : String}
    {artifact current : Artifact} (parsed : parse template contractName = .ok artifact)
    (short : artifact.object.length < powerOf 2 53)
    (chain : Relation.ReflTransGen LinksTo artifact current)
    {name address : String} {linked : Artifact}
    (done : current.applyLink name address = .ok linked) :
    ∃ (file library : List Char) (target : Address),
      splitQualifiedName? name.toList = some (file, library) ∧ target.text = address ∧
      current.Changes linked name (String.ofList file) (String.ofList library) target ∧
      (current.followed (String.ofList file) (String.ofList library) = [] ∨
        Lists template (String.ofList file) (String.ofList library)
          (current.followed (String.ofList file) (String.ofList library))) := by
  have stage := stage_of_linksTo (bounded_of_parse parsed short) chain
  have bounded := stage.bounded
  obtain ⟨file, library, target, places, qualifies, given, link⟩ := exists_link bounded done
  have kept := link.bounded bounded
  refine ⟨file.toList, library.toList, target, qualifies.split, given, ?_⟩
  rw [String.ofList_toList, String.ofList_toList]
  refine ⟨⟨link.contractName, kept.marked, ?_, followed_eq, qualifies.followed_eq, ?_, ?_, ?_, ?_,
    ?_⟩, ?_⟩
  · rw [← String.length_toList, ← String.length_toList, kept.marked, bounded.marked,
      List.length_cons, List.length_cons, List.length_cons, List.length_cons,
      (link.overlaid bounded).length]
  · exact fun index => link.frame bounded
  · exact fun earlier reference later split index => link.written bounded split
  · rw [link.references, bounded.built.rows_forget]
  · rw [link.references, bounded.built.forget_eq]
    exact fun entry => mem_without
  · rw [link.references, bounded.built.forget_eq, files_without]
  · refine (current.holds_followed file library).imp_right fun holds => ?_
    exact lists_of_holds parsed short (stage.holds _ _ _ holds)

/-- An image whose placeholder starts in the middle of a byte, with references that cut through it
and that overlap each other. -/
def shifted : Value :=
  .record
    [("object", .text
      ("0x0__$0000000000000000000000000000000000$__0000000000000000000" ++
        "0000000000000000000000000000000000000000")),
      ("linkReferences", .record [("a.sol", .record
        [("A", .list [.record [("start", .number (.int 0)), ("length", .number (.int 20))]]),
          ("B", .list
            [.record [("start", .number (.int 25)), ("length", .number (.int 20))],
              .record [("start", .number (.int 30)), ("length", .number (.int 20))]])])])]

/-- What is read from it. -/
def shiftedArtifact : Artifact :=
  { contractName := "Shifted"
    object := "0x0__$0000000000000000000000000000000000$__0000000000000000000" ++
      "0000000000000000000000000000000000000000"
    references := [("a.sol",
      [("A", [⟨.int 0, .int 20⟩]), ("B", [⟨.int 25, .int 20⟩, ⟨.int 30, .int 20⟩])])] }

/-- Of the placeholder an underscore is left when the one library has been linked. -/
def shiftedOnce : Artifact :=
  { contractName := "Shifted"
    object := "0x1111111111111111111111111111111111111111_0000000000000000000" ++
      "0000000000000000000000000000000000000000"
    references := [("a.sol", [("B", [⟨.int 25, .int 20⟩, ⟨.int 30, .int 20⟩])])] }

/-- It is still there when the other has been linked too, of whose address the last reference
leaves ten digits before its own. -/
def shiftedTwice : Artifact :=
  { contractName := "Shifted"
    object := "0x1111111111111111111111111111111111111111_00000000023456789ab" ++
      "23456789abcdef0123456789abcdef0123456789"
    references := [] }

theorem parse_shifted : parse shifted "Shifted" = .ok shiftedArtifact :=
  eq_ok_of_toOption (by decide +kernel)

theorem applyLink_shiftedArtifact :
    shiftedArtifact.applyLink "a.sol:A" "0x1111111111111111111111111111111111111111" =
      .ok shiftedOnce :=
  eq_ok_of_toOption (by decide +kernel)

theorem applyLink_shiftedOnce :
    shiftedOnce.applyLink "a.sol:B" "0x23456789Abcdef0123456789abcdef0123456789" =
      .ok shiftedTwice :=
  eq_ok_of_toOption (by decide +kernel)

theorem changes_what_it_links_shifted :
    parse shifted "Shifted" = .ok shiftedArtifact ∧
      shiftedArtifact.object.length < powerOf 2 53 ∧
      Relation.ReflTransGen LinksTo shiftedArtifact shiftedOnce ∧
      shiftedOnce.applyLink "a.sol:B" "0x23456789Abcdef0123456789abcdef0123456789" =
        .ok shiftedTwice ∧
      ∃ target : Address, target.text = "0x23456789Abcdef0123456789abcdef0123456789" ∧
        shiftedOnce.Changes shiftedTwice "a.sol:B" "a.sol" "B" target ∧
        (shiftedOnce.followed "a.sol" "B" = [] ∨
          Lists shifted "a.sol" "B" (shiftedOnce.followed "a.sol" "B")) := by
  have short : shiftedArtifact.object.length < powerOf 2 53 := by decide +kernel
  have chain : Relation.ReflTransGen LinksTo shiftedArtifact shiftedOnce :=
    .single ⟨_, _, applyLink_shiftedArtifact⟩
  obtain ⟨file, library, target, split, given, changes⟩ :=
    changes_what_it_links parse_shifted short chain applyLink_shiftedOnce
  have parts : splitQualifiedName? "a.sol:B".toList = some ("a.sol".toList, "B".toList) := by
    decide +kernel
  rw [parts] at split
  cases split
  rw [String.ofList_toList, String.ofList_toList] at changes
  exact ⟨parse_shifted, short, chain, applyLink_shiftedOnce, target, given, changes⟩

end Rollout.Artifact
