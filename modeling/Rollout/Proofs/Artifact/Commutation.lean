import Mathlib.Data.List.Nodup
import Rollout.Proofs.Artifact.Completion
import Rollout.Proofs.Artifact.Replacement

/-!
# Links in any order

Linking a library fills the holes for its placeholder and takes its rows out of the table.  Both are
done to each token and to each row alone, so that libraries with different placeholders can be
linked in any order: the image and the table are the same in the end.  Orders in which a name leads
to something inherited are left out.
-/

namespace Rollout.Artifact

open Text

/-! ## Two links -/

theorem Token.fill_comm {p q : Placeholder} (different : p ≠ q) (first second : Address)
    (token : Token) :
    (token.fill p first).fill q second = (token.fill q second).fill p first := by
  cases token with
  | digit | linked => rfl
  | hole r =>
      by_cases own : r = p
      · subst own
        simp only [fill, if_neg different, if_true]
      · by_cases other : r = q
        · subst other
          simp only [fill, if_neg own, if_true]
        · simp only [fill, if_neg own, if_neg other]

/-- A link fills no hole for another library, and so links no slot for it. -/
theorem Pending.map_fill {p q : Placeholder} (different : p ≠ q) {tokens : List Token}
    (pending : Pending q tokens) (address : Address) :
    Pending q (tokens.map (Token.fill p address)) := by
  intro given member
  obtain ⟨token, listed, same⟩ := List.mem_map.mp member
  cases token with
  | digit => contradiction
  | hole r =>
      rw [Token.fill] at same
      split at same
      · cases same
        exact different rfl
      · contradiction
  | linked r other =>
      cases same
      exact pending given listed

/-- The table in which a library is struck from its file, which stays even without libraries. -/
def strike (references : References) (file library : String) : References :=
  references.map fun entry =>
    (entry.1, entry.2.filter fun named => entry.1 != file || named.1 != library)

theorem strike_comm (references : References) (file library otherFile otherLibrary : String) :
    strike (strike references file library) otherFile otherLibrary =
      strike (strike references otherFile otherLibrary) file library := by
  simp only [strike, List.map_map]
  refine List.map_congr_left fun entry _ => ?_
  simp only [Function.comp_apply, List.filter_filter, Bool.and_comm]

theorem without_cons (entry : String × LibraryReferences) (rest : References)
    (file library : String) :
    without (entry :: rest) file library =
      without [entry] file library ++ without rest file library := by
  rw [without, ← List.singleton_append, List.map_append, List.filter_append]
  rfl

/-- Files without libraries go with any library that is taken from a table. -/
theorem without_filter_isEmpty (references : References) (file library : String) :
    without (references.filter fun entry => !entry.2.isEmpty) file library =
      without references file library := by
  induction references with
  | nil => rfl
  | cons entry rest ih =>
      obtain ⟨name, _ | ⟨named, libraries⟩⟩ := entry
      · exact ih
      · rw [List.filter_cons_of_pos rfl, without_cons, ih, ← without_cons]

/-- Whichever library is taken first, both are struck before the files without libraries go. -/
theorem without_comm (references : References) (file library otherFile otherLibrary : String) :
    without (without references file library) otherFile otherLibrary =
      without (without references otherFile otherLibrary) file library := by
  have both : ∀ file library otherFile otherLibrary,
      without (without references file library) otherFile otherLibrary =
        (strike (strike references file library) otherFile otherLibrary).filter
          fun entry => !entry.2.isEmpty :=
    fun file library => without_filter_isEmpty (strike references file library)
  rw [both, both, strike_comm]

/-- Files that keep their names are entered before as after. -/
theorem without_assigned (references : References) (file library : String) :
    without (assigned references) file library = assigned (without references file library) := by
  simp only [assigned, without, List.filter_map, List.filter_filter]
  refine congrArg _ (List.filter_congr fun entry _ => ?_)
  exact Bool.and_comm _ _

theorem forget_comm (references : References) (file library otherFile otherLibrary : String) :
    forget (forget references file library) otherFile otherLibrary =
      forget (forget references otherFile otherLibrary) file library := by
  simp only [forget, without_assigned, without_comm references file library]

/-! ## Several links -/

/-- Fill the holes for the library of a link. -/
def fillLink (tokens : List Token) (link : String × Address) : List Token :=
  tokens.map (Token.fill (.of link.1) link.2)

/-- The table without the library of a link. -/
def forgetLink (references : References) (link : String × Address) : References :=
  match splitQualifiedName? link.1.toList with
  | none => references
  | some (file, library) => forget references (String.ofList file) (String.ofList library)

theorem fillLink_comm {first second : String × Address}
    (different : Placeholder.of first.1 ≠ .of second.1) (tokens : List Token) :
    fillLink (fillLink tokens first) second = fillLink (fillLink tokens second) first := by
  simp only [fillLink, List.map_map]
  exact List.map_congr_left fun token _ => Token.fill_comm different _ _ token

theorem forgetLink_comm (references : References) (first second : String × Address) :
    forgetLink (forgetLink references first) second =
      forgetLink (forgetLink references second) first := by
  simp only [forgetLink]
  cases splitQualifiedName? first.1.toList with
  | none => rfl
  | some parts =>
      cases splitQualifiedName? second.1.toList with
      | none => rfl
      | some others => exact forget_comm ..

theorem skeleton_fillLink (tokens : List Token) (link : String × Address) :
    skeleton (fillLink tokens link) = skeleton tokens :=
  (fills_map_fill _ _ tokens).skeleton_eq

theorem RecordedFor.forgetLink {slots : List (Option Placeholder)} {references : References}
    {name : String} (recorded : RecordedFor slots references name) (link : String × Address) :
    RecordedFor slots (forgetLink references link) name := by
  intro row member
  rw [Artifact.forgetLink] at member
  split at member
  · exact recorded row member
  · exact recorded row (mem_rows_forget.mp member).1

/-- The artifact that spells given tokens, after links.  Nothing is inherited from parents after the
first. -/
def afterLinks (artifact : Artifact) (tokens : List Token) (links : List (String × Address)) :
    Artifact where
  contractName := artifact.contractName
  object := String.ofList ('0' :: 'x' :: textOf (links.foldl fillLink tokens))
  references := links.foldl forgetLink artifact.references
  parents := links.foldl (fun _ _ => {}) artifact.parents

/-- Linking libraries with different placeholders fills their holes and forgets their references,
one library after the other. -/
theorem linkAll_eq_foldl {links : List (String × Address)} {artifact : Artifact}
    {tokens : List Token} (spells : artifact.Spells tokens)
    (short : (textOf tokens).length < powerOf 2 53)
    (split : ∀ link ∈ links, (splitQualifiedName? link.1.toList).isSome = true)
    (different : (links.map fun link => Placeholder.of link.1).Nodup)
    (recorded : ∀ link ∈ links, RecordedFor (skeleton tokens) artifact.references link.1)
    (pending : ∀ link ∈ links, Pending (.of link.1) tokens)
    (built : Built artifact.references) (plain : artifact.meetsInherited links = false) :
    artifact.linkAll links = .ok (artifact.afterLinks tokens links) := by
  induction links generalizing artifact tokens with
  | nil =>
      rw [afterLinks, List.foldl_nil, List.foldl_nil, List.foldl_nil, ← spells,
        String.ofList_toList]
      rfl
  | cons link rest ih =>
      rw [List.forall_mem_cons] at split recorded pending
      rw [List.map_cons, List.nodup_cons] at different
      rw [meetsInherited, Bool.or_eq_false_iff] at plain
      obtain ⟨⟨file, library⟩, parts⟩ := Option.isSome_iff_exists.mp split.1
      have table : forgetLink artifact.references link =
          forget artifact.references (String.ofList file) (String.ofList library) := by
        rw [forgetLink, parts]
      have first := applyLink_eq_fill spells short (qualifies_of_split parts) plain.1 recorded.1
        pending.1 link.2
      rw [relinked, built.parentsWithout_eq, ← table] at first
      rw [first] at plain
      rw [linkAll, first]
      have kept : (textOf (fillLink tokens link)).length = (textOf tokens).length := by
        rw [length_textOf, length_textOf, skeleton_fillLink]
      refine ih String.toList_ofList (kept ▸ short) split.2 different.2 ?_ ?_ ?_ plain.2
      · intro other member
        rw [skeleton_fillLink]
        exact (recorded.2 other member).forgetLink link
      · intro other member
        refine (pending.2 other member).map_fill (fun same => different.1 ?_) link.2
        exact List.mem_map.mpr ⟨other, member, same.symm⟩
      · rw [table]
        exact built_forget _ _ _

/-- Libraries with different placeholders can be linked in any order in which no name leads to
something inherited, to the same end.  A text has less than 2^53 characters, so that numbers tell
its places exactly. -/
theorem links_in_any_order {template : Value} {contractName : String} {artifact : Artifact}
    (parsed : parse template contractName = .ok artifact)
    (short : artifact.object.length < powerOf 2 53) {links : List (String × Address)}
    (split : ∀ link ∈ links, (splitQualifiedName? link.1.toList).isSome = true)
    (different : (links.map fun link => placeholder link.1.toList).Nodup)
    (placed : ∀ link ∈ links, artifact.Placed link.1) :
    ∃ linked, ∀ order, order.Perm links → artifact.meetsInherited order = false →
      artifact.linkAll order = .ok linked := by
  obtain ⟨tokens, read, _⟩ := exists_readAs_of_parse parsed
  have bounded := bounded_of_parse parsed short
  have width : (textOf tokens).length < powerOf 2 53 := read.spells.body_eq ▸ bounded.short
  have apart : (links.map fun link => Placeholder.of link.1).Nodup := by
    refine List.Nodup.of_map Placeholder.text ?_
    rw [List.map_map]
    exact different
  refine ⟨artifact.afterLinks tokens links, fun order permuted plain => ?_⟩
  have carried := linkAll_eq_foldl read.spells width
    (fun link member => split link (permuted.mem_iff.mp member))
    ((permuted.map _).nodup_iff.mpr apart)
    (fun link member => (placed link (permuted.mem_iff.mp member)).recordedFor bounded read.spells)
    (fun link _ => read.pending _) bounded.built plain
  have filled : order.foldl fillLink tokens = links.foldl fillLink tokens := by
    refine permuted.foldl_eq' (fun first member second listed tokens => ?_) tokens
    by_cases same : first = second
    · rw [same]
    · refine fillLink_comm (fun equal => same ?_) tokens
      exact List.inj_on_of_nodup_map apart (permuted.mem_iff.mp member) (permuted.mem_iff.mp listed)
        equal
  have table : order.foldl forgetLink artifact.references =
      links.foldl forgetLink artifact.references :=
    permuted.foldl_eq'
      (fun first _ second _ references => forgetLink_comm references first second) _
  have parents : order.foldl (fun _ _ => ({} : Parents)) artifact.parents =
      links.foldl (fun _ _ => {}) artifact.parents :=
    permuted.foldl_eq' (fun _ _ _ _ _ => rfl) _
  rw [carried, afterLinks, filled, table, parents]
  rfl

/-- Addresses for both libraries of the light client, of which a table may list one only. -/
def bothLinks : List (String × Address) :=
  [(Template.plonkVerifierLibrary,
      ⟨"0x89ABCDEF0123456789abcdef0123456789ABCDEF", by decide +kernel⟩),
    (Template.stateUpdateVKLibrary,
      ⟨"0x2222222222222222222222222222222222222222", by decide +kernel⟩)]

theorem halfListed_placed : ∀ link ∈ bothLinks, halfListedArtifact.Placed link.1 := by
  have only : rows halfListedArtifact.references =
      [⟨Template.plonkVerifierFile, "PlonkVerifier", [⟨.int 12, .int 20⟩]⟩] := rfl
  rw [bothLinks, List.forall_mem_cons, List.forall_mem_singleton]
  constructor
  · rw [Placed, only, List.forall_mem_singleton, List.forall_mem_singleton,
      placeholder_plonkVerifier]
    intro _
    decide +kernel
  · rw [Placed, only, List.forall_mem_singleton]
    intro split
    exact absurd split (by decide +kernel)

theorem links_in_any_order_halfListed :
    parse halfListed "LightClient" = .ok halfListedArtifact ∧
      halfListedArtifact.object.length < powerOf 2 53 ∧
      (∀ link ∈ bothLinks, (splitQualifiedName? link.1.toList).isSome = true) ∧
      (bothLinks.map fun link => placeholder link.1.toList).Nodup ∧
      (∀ link ∈ bothLinks, halfListedArtifact.Placed link.1) ∧
      ∃ linked, ∀ order, order.Perm bothLinks →
        halfListedArtifact.linkAll order = .ok linked := by
  have parsed : parse halfListed "LightClient" = .ok halfListedArtifact :=
    eq_ok_of_toOption (by decide +kernel)
  have short : halfListedArtifact.object.length < powerOf 2 53 := by decide +kernel
  have split : ∀ link ∈ bothLinks, (splitQualifiedName? link.1.toList).isSome = true := by
    decide +kernel
  have different : (bothLinks.map fun link => placeholder link.1.toList).Nodup := by
    rw [bothLinks, List.map_cons, List.map_singleton, placeholder_plonkVerifier,
      placeholder_stateUpdateVK]
    decide +kernel
  obtain ⟨linked, alike⟩ := links_in_any_order parsed short split different halfListed_placed
  have plain : ∀ order, order.Perm bothLinks → halfListedArtifact.meetsInherited order = false := by
    have apart : ∀ link ∈ bothLinks, isUninherited link.1 = true := by decide +kernel
    exact fun order permuted => meetsInherited_eq_false (built_of_parse parsed) rfl
      fun link member => apart link (permuted.mem_iff.mp member)
  exact ⟨parsed, short, split, different, halfListed_placed, linked,
    fun order permuted => alike order permuted (plain order permuted)⟩

/-- A library of no file that has the name of an operation of all tables. -/
def operationLink : String × Address := ("hasOwnProperty:name", makerLink.2)

/-- Names for which nothing is recorded cannot be linked in any order if they lead to inherited
operations, and to the names of those. -/
theorem refuses_in_any_order :
    parse (.text "0x00") "Plain" = .ok plainArtifact ∧
      plainArtifact.object.length < powerOf 2 53 ∧
      (splitQualifiedName? operationLink.1.toList).isSome = true ∧
      plainArtifact.Placed operationLink.1 ∧
      plainArtifact.linkAll [operationLink] =
        .error (.linking "Plain" "hasOwnProperty:name" .unplaced) := by
  have parsed : parse (.text "0x00") "Plain" = .ok plainArtifact :=
    eq_ok_of_toOption (by decide +kernel)
  have placed : plainArtifact.Placed operationLink.1 :=
    fun _ member => absurd member List.not_mem_nil
  exact ⟨parsed, by decide +kernel, by decide +kernel, placed, rfl⟩

end Rollout.Artifact
