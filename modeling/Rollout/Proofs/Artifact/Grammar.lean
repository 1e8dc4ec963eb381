import Mathlib.Data.List.Forall2
import Rollout.Proofs.Artifact.Reading
import Rollout.Proofs.Number

/-!
# The grammar of templates

A template is read exactly if it spells an image and describes a reference table that lies within
it.  The grammar says what a template holds and not how it is read: the text splits into digits and
placeholders, and the table is a record of records of lists of places.  What is read is what the
grammar finds, in the same order and with nothing besides; only what stands under the name of a
parent is no entry of the table.
-/

namespace Rollout.Artifact

open Text

/-! ## The text of an image -/

/-- A text is made of hexadecimal digits and placeholders: thirty-four digits between `__$` and
`$__`. -/
inductive Splits : List Char → Prop
  | nil : Splits []
  | digit {c : Char} {rest : List Char} (hex : isHexDigit c = true) (behind : Splits rest) :
      Splits (c :: rest)
  | placeholder {digits rest : List Char} (width : digits.length = 34)
      (hex : ∀ c ∈ digits, isHexDigit c = true) (behind : Splits rest) :
      Splits (['_', '_', '$'] ++ digits ++ ['$', '_', '_'] ++ rest)

theorem splits_textOf {tokens : List Token} (pending : ∀ p, Pending p tokens) :
    Splits (textOf tokens) := by
  induction tokens with
  | nil => exact .nil
  | cons token rest ih =>
      have behind := ih fun p address member => pending p address (List.mem_cons_of_mem _ member)
      rw [textOf_cons]
      cases token with
      | digit c hex => exact .digit hex behind
      | hole p =>
          obtain ⟨digits, width, hex, shape⟩ := exists_digits_of_isPlaceholder p.form
          rw [Token.text, shape]
          exact .placeholder width hex behind
      | linked p address => exact absurd List.mem_cons_self (pending p address)

/-- The rest of a placeholder is passed over to its end. -/
theorem splitsFrom_append {place : Nat} {front : List Char} (later : 0 < place)
    (width : place + front.length = placeholderLength)
    (allowed : ∀ index c, front[index]? = some c → placeholderAllows (place + index) c = true)
    (rest : List Char) : splitsFrom (place % placeholderLength) (front ++ rest) =
      isUnlinkedHex rest := by
  induction front generalizing place with
  | nil =>
      obtain rfl : place = placeholderLength := width
      rw [Nat.mod_self]
      rfl
  | cons c front ih =>
      rw [List.length_cons] at width
      have behind : splitsFrom ((place + 1) % placeholderLength) (front ++ rest) =
          isUnlinkedHex rest := by
        refine ih (Nat.succ_pos place) (by omega) fun index d found => ?_
        rw [Nat.add_assoc, Nat.add_comm 1 index]
        exact allowed (index + 1) d found
      have head : placeholderAllows place c = true := allowed 0 c rfl
      rw [Nat.mod_eq_of_lt (by omega), List.cons_append, splitsFrom, if_neg (by omega), behind,
        head, Bool.true_and]

theorem isUnlinkedHex_append {text : List Char} (form : isPlaceholder text = true)
    (rest : List Char) : isUnlinkedHex (text ++ rest) = isUnlinkedHex rest := by
  obtain ⟨width, allowed⟩ := isPlaceholder_iff.mp form
  obtain ⟨front, rfl⟩ := Placeholder.text_eq_cons ⟨text, form⟩
  have behind : splitsFrom (1 % placeholderLength) (front ++ rest) = isUnlinkedHex rest := by
    refine splitsFrom_append Nat.one_pos ?_ (fun index c found => ?_) rest
    · rw [← width, List.length_cons, Nat.add_comm]
    · rw [Nat.add_comm]
      exact allowed (index + 1) c found
  rw [← behind]
  rfl

theorem isUnlinkedHex_iff {body : List Char} : isUnlinkedHex body = true ↔ Splits body := by
  constructor
  · intro accepted
    obtain ⟨tokens, rfl, pending⟩ := exists_textOf_eq body accepted
    exact splits_textOf pending
  · intro splits
    induction splits with
    | nil => rfl
    | digit hex behind ih =>
        rw [isUnlinkedHex, splitsFrom, if_pos rfl, if_pos hex]
        exact ih
    | placeholder width hex behind ih =>
        rw [isUnlinkedHex_append (isPlaceholder_of_digits width hex)]
        exact ih

/-- The text of a template: the template itself, or what stands in the field `object` of a
record. -/
inductive HoldsText : Value → String → Prop
  | bare (object : String) : HoldsText (.text object) object
  | field {fields : List (String × Value)} {object : String}
      (given : (Value.record fields).field "object" = .text object) :
      HoldsText (.record fields) object

theorem templateObject?_eq_some {template : Value} {object : String} :
    templateObject? template = some object ↔ HoldsText template object := by
  constructor
  · intro found
    cases template with
    | text content =>
        obtain rfl : content = object := Option.some.inj found
        exact .bare content
    | record fields =>
        rw [templateObject?] at found
        · refine .field ?_
          generalize (Value.record fields).field "object" = value at found ⊢
          cases value with
          | text content => rw [Option.some.inj found]
          | _ => contradiction
        · exact fun content same => Value.noConfusion same
    | _ => contradiction
  · rintro (_ | given)
    · rfl
    · rw [templateObject?, given]
      · rfl
      · exact fun content same => Value.noConfusion same

/-! ## The reference table -/

theorem exists_of_mem {α β : Type} {relation : α → β → Prop} {left : List α} {right : List β}
    (related : List.Forall₂ relation left right) {value : β} (member : value ∈ right) :
    ∃ other ∈ left, relation other value := by
  induction related with
  | nil => contradiction
  | @cons other twin rest others head tail ih =>
      obtain rfl | member := List.mem_cons.mp member
      · exact ⟨other, List.mem_cons_self, head⟩
      · obtain ⟨found, listed, same⟩ := ih member
        exact ⟨found, List.mem_cons_of_mem _ listed, same⟩

/-- The first byte and the number of bytes of a reference are integers, and the bytes lie within an
image of `size` bytes. -/
def Lies (size : Nat) (reference : Reference) : Prop :=
  ∃ first count : Int, reference.start.toInt? = some first ∧
    reference.length.toInt? = some count ∧ 0 ≤ first ∧ 0 < count ∧ first + count ≤ size

/-- A value describes a place of an image of `size` bytes. -/
structure IsReference (size : Nat) (value : Value) (reference : Reference) : Prop where
  start : value.field "start" = .number reference.start
  length : value.field "length" = .number reference.length
  inside : Lies size reference

/-- A field of a file describes the places of a library. -/
structure IsLibrary (size : Nat) (field : String × Value) (library : String × List Reference) :
    Prop where
  name : field.1 = library.1
  places : ∃ items, field.2 = .list items ∧ List.Forall₂ (IsReference size) items library.2

/-- A field of a table describes the libraries of a file. -/
structure IsFile (size : Nat) (field : String × Value) (file : String × LibraryReferences) :
    Prop where
  name : field.1 = file.1
  libraries : ∃ fields, field.2 = .record fields ∧ List.Forall₂ (IsLibrary size) fields file.2

/-- A value describes a table; where there is none, there are no references. -/
inductive IsTable (size : Nat) : Value → References → Prop
  | absent : IsTable size .missing []
  | given {fields : List (String × Value)} {files : References}
      (listed : List.Forall₂ (IsFile size) fields files) : IsTable size (.record fields) files

theorem integerField?_eq_some {value : Value} {name : String} {number : Number} :
    integerField? value name = some number ↔
      value.field name = .number number ∧ number.isInteger = true := by
  rw [integerField?]
  constructor
  · intro found
    split at found
    · next shape =>
        split at found
        · next integer =>
            cases found
            exact ⟨shape, integer⟩
        · contradiction
    · contradiction
  · rintro ⟨shape, integer⟩
    simp only [shape, integer, if_true]

section Reading

variable {size : Nat} (small : size < powerOf 2 53)

include small in
/-- Numbers tell the end of a reference exactly, since no image has 2^53 bytes. -/
theorem parseReference_eq {value : Value} {library : String} {start length : Number}
    {first count : Int} (startField : integerField? value "start" = some start)
    (lengthField : integerField? value "length" = some length)
    (first_eq : start.toInt? = some first) (count_eq : length.toInt? = some count) :
    parseReference size library value =
      if first < 0 ∨ count ≤ 0 then .error (.badReference library)
      else if (size : Int) < first + count then .error (.outside library start)
      else .ok ⟨start, length⟩ := by
  have signs : (start.isBelow 0 || !length.exceeds 0) = decide (first < 0 ∨ count ≤ 0) := by
    rw [Number.isBelow_of_toInt? first_eq, Number.exceeds_of_toInt? count_eq, Bool.decide_or,
      ← decide_not]
    simp only [Int.not_lt]
  simp only [parseReference, startField, lengthField, signs, decide_eq_true_eq, count_eq,
    Option.getD_some]
  by_cases bad : first < 0 ∨ count ≤ 0
  · rw [if_pos bad, if_pos bad]
  · have bound := Number.powerOf_pos 53
    rw [if_neg bad, if_neg bad, Number.exceeds_addInt first_eq (by omega) small]
    simp only [decide_eq_true_eq]

include small in
theorem parseReference_eq_ok {value : Value} {library : String} {reference : Reference} :
    parseReference size library value = .ok reference ↔ IsReference size value reference := by
  constructor
  · intro read
    have shape := read
    rw [parseReference] at shape
    split at shape
    · next start length startField lengthField =>
        obtain ⟨startValue, startInteger⟩ := integerField?_eq_some.mp startField
        obtain ⟨lengthValue, lengthInteger⟩ := integerField?_eq_some.mp lengthField
        obtain ⟨first, first_eq⟩ := Number.exists_toInt?_of_isInteger startInteger
        obtain ⟨count, count_eq⟩ := Number.exists_toInt?_of_isInteger lengthInteger
        rw [parseReference_eq small startField lengthField first_eq count_eq] at read
        split at read
        · contradiction
        · split at read
          · contradiction
          · cases read
            exact ⟨startValue, lengthValue, first, count, first_eq, count_eq, by omega, by omega,
              by omega⟩
    · contradiction
  · rintro ⟨startValue, lengthValue, first, count, first_eq, count_eq, signs, positive, fits⟩
    have startField := integerField?_eq_some.mpr
      ⟨startValue, Number.isInteger_of_toInt? first_eq⟩
    have lengthField := integerField?_eq_some.mpr
      ⟨lengthValue, Number.isInteger_of_toInt? count_eq⟩
    rw [parseReference_eq small startField lengthField first_eq count_eq, if_neg (by omega),
      if_neg (by omega)]

include small in
theorem parseReferenceList_eq_ok {values : List Value} {library : String}
    {references : List Reference} : parseReferenceList size library values = .ok references ↔
      List.Forall₂ (IsReference size) values references := by
  induction values generalizing references with
  | nil => rw [parseReferenceList, Except.ok.injEq, List.forall₂_nil_left_iff, eq_comm]
  | cons value values ih =>
      simp only [parseReferenceList, bind_eq_ok, pure_eq_ok, parseReference_eq_ok small, ih,
        List.forall₂_cons_left_iff]
      constructor
      · rintro ⟨reference, first, others, rest, rfl⟩
        exact ⟨reference, others, first, rest, rfl⟩
      · rintro ⟨reference, others, first, rest, rfl⟩
        exact ⟨reference, first, others, rest, rfl⟩

include small in
theorem parseLibraries_eq_ok {fields : List (String × Value)} {file : String}
    {libraries : LibraryReferences} : parseLibraries size file fields = .ok libraries ↔
      List.Forall₂ (IsLibrary size) fields libraries := by
  induction fields generalizing libraries with
  | nil => rw [parseLibraries, Except.ok.injEq, List.forall₂_nil_left_iff, eq_comm]
  | cons field fields ih =>
      obtain ⟨library, value⟩ := field
      rw [List.forall₂_cons_left_iff, parseLibraries]
      constructor
      · intro read
        split at read
        · contradiction
        · next items listed =>
            obtain ⟨references, first, read⟩ := bind_eq_ok.mp read
            obtain ⟨others, rest, read⟩ := bind_eq_ok.mp read
            rw [pure_eq_ok] at read
            exact ⟨(library, references), others,
              ⟨rfl, items, Value.list?_eq_some.mp listed,
                (parseReferenceList_eq_ok small).mp first⟩,
              ih.mp rest, read.symm⟩
      · rintro ⟨⟨_, references⟩, others, ⟨rfl, items, listed, first⟩, rest, rfl⟩
        obtain rfl : value = .list items := listed
        simp only [Value.list?, bind_eq_ok, pure_eq_ok]
        exact ⟨references, (parseReferenceList_eq_ok small).mpr first, others, ih.mpr rest, rfl⟩

include small in
theorem parseFiles_eq_ok {fields : List (String × Value)} {files : References} :
    parseFiles size fields = .ok files ↔ List.Forall₂ (IsFile size) fields files := by
  induction fields generalizing files with
  | nil => rw [parseFiles, Except.ok.injEq, List.forall₂_nil_left_iff, eq_comm]
  | cons field fields ih =>
      obtain ⟨file, value⟩ := field
      rw [List.forall₂_cons_left_iff, parseFiles]
      constructor
      · intro read
        split at read
        · contradiction
        · next entries given =>
            obtain ⟨libraries, first, read⟩ := bind_eq_ok.mp read
            obtain ⟨others, rest, read⟩ := bind_eq_ok.mp read
            rw [pure_eq_ok] at read
            exact ⟨(file, libraries), others,
              ⟨rfl, entries, Value.fields?_eq_some.mp given, (parseLibraries_eq_ok small).mp first⟩,
              ih.mp rest, read.symm⟩
      · rintro ⟨⟨_, libraries⟩, others, ⟨rfl, entries, given, first⟩, rest, rfl⟩
        obtain rfl : value = .record entries := given
        simp only [Value.fields?, bind_eq_ok, pure_eq_ok]
        exact ⟨libraries, (parseLibraries_eq_ok small).mpr first, others, ih.mpr rest, rfl⟩

include small in
/-- A table is read exactly if it is one, and as the one that it describes. -/
theorem parseReferences_eq_ok {table : Value} {references : References} :
    parseReferences size table = .ok references ↔ IsTable size table references := by
  constructor
  · intro read
    cases table with
    | missing =>
        cases read
        exact .absent
    | record fields => exact .given ((parseFiles_eq_ok small).mp read)
    | _ => contradiction
  · rintro (_ | listed)
    · rfl
    · exact (parseFiles_eq_ok small).mpr listed

end Reading

/-! ## Templates -/

/-- A template describes an image: its text as it stands, and its table in the same order. -/
structure Describes (template : Value) (object : String) (listing : References) : Prop where
  text : HoldsText template object
  image : ∃ body, object.toList = '0' :: 'x' :: body ∧ Splits body ∧ body.length % 2 = 0 ∧
    IsTable (body.length / 2) (template.field "linkReferences") listing

/-- A text has less than 2^53 characters. -/
theorem parse_eq_ok {template : Value} {contractName : String} {artifact : Artifact}
    (short : ∀ object, HoldsText template object → object.length < powerOf 2 53) :
    parse template contractName = .ok artifact ↔ ∃ object listing,
      Describes template object listing ∧ artifact = ofListing contractName object listing := by
  have bytes {object : String} {body : List Char} (holds : HoldsText template object)
      (shape : object.toList = '0' :: 'x' :: body) : body.length / 2 < powerOf 2 53 := by
    have bound := short object holds
    rw [← String.length_toList, shape, List.length_cons, List.length_cons] at bound
    omega
  rw [parse, mapError_eq_ok, parseTemplate_eq_ok]
  constructor
  · rintro ⟨object, body, listing, given, shape, accepted, even, read, rfl⟩
    have holds := templateObject?_eq_some.mp given
    exact ⟨object, listing, ⟨holds, body, shape, isUnlinkedHex_iff.mp accepted, even,
      (parseReferences_eq_ok (bytes holds shape)).mp read⟩, rfl⟩
  · rintro ⟨object, listing, ⟨holds, body, shape, splits, even, table⟩, rfl⟩
    exact ⟨object, body, listing, templateObject?_eq_some.mpr holds, shape,
      isUnlinkedHex_iff.mpr splits, even, (parseReferences_eq_ok (bytes holds shape)).mpr table,
      rfl⟩

theorem eq_artifact_of_parse {template : Value} {contractName : String} {failure : Failure}
    (refused : parse template contractName = .error failure) :
    ∃ problem, failure = .artifact contractName problem := by
  obtain ⟨problem, _, same⟩ := mapError_eq_error.mp refused
  exact ⟨problem, same⟩

/-! ## Listings without parents -/

/-- Neither a file nor a library of a listing has the name of a parent. -/
structure Ordinary (listing : References) : Prop where
  files : Built listing
  libraries : ∀ file ∈ listing, Built file.2

theorem ordinary_entriesOf (listing : References) : Ordinary (entriesOf listing) := by
  refine ⟨built_entriesOf listing, fun file member => ?_⟩
  obtain ⟨other, _, rfl⟩ := List.mem_map.mp member
  exact built_assigned other.2

/-- Of a listing without parents every entry is kept, and the tables inherit nothing but what all
tables do. -/
theorem ofListing_of_ordinary {contractName object : String} {listing : References}
    (ordinary : Ordinary listing) :
    ofListing contractName object listing =
      { contractName, object, references := listing } := by
  have entries : entriesOf listing = listing := by
    rw [entriesOf, ordinary.files.assigned_eq, List.map_congr_left (g := id), List.map_id]
    exact fun file member => Prod.ext rfl (ordinary.libraries file member).assigned_eq
  have inner : listing.filterMap (fun file =>
      (lookup? file.2 parentName).map fun references => (file.1, references)) = [] := by
    refine List.filterMap_eq_nil_iff.mpr fun file member => ?_
    rw [(ordinary.libraries file member).lookup?_parentName, Option.map_none]
  have parents : parentsOf listing = {} := by
    rw [parentsOf, ordinary.files.lookup?_parentName, ordinary.files.assigned_eq, inner]
    rfl
  rw [ofListing, entries, parents]

/-! ## Reading again -/

/-- A reference as templates write it. -/
def referenceValue (reference : Reference) : Value :=
  .record [("start", .number reference.start), ("length", .number reference.length)]

/-- The libraries of a file as templates write them. -/
def librariesValue (libraries : LibraryReferences) : Value :=
  .record (libraries.map fun library => (library.1, .list (library.2.map referenceValue)))

/-- A reference table as templates write it. -/
def tableValue (references : References) : Value :=
  .record (references.map fun file => (file.1, librariesValue file.2))

/-- The template of the text and the table of an artifact, without any other field. -/
def toTemplate (artifact : Artifact) : Value :=
  .record [("object", .text artifact.object), ("linkReferences", tableValue artifact.references)]

/-- What stands in a listing is what a field of the table describes. -/
theorem IsTable.lists {size : Nat} {table : Value} {listing : References}
    (described : IsTable size table listing) {file : String} {libraries : LibraryReferences}
    (member : (file, libraries) ∈ listing) {library : String} {references : List Reference}
    (named : (library, references) ∈ libraries) :
    ∃ files entries entry, table = .record files ∧ (file, .record entries) ∈ files ∧
      entry ∈ entries ∧ IsLibrary size entry (library, references) := by
  cases described with
  | absent => contradiction
  | @given files _ listed =>
      obtain ⟨⟨_, value⟩, inside, name, entries, rfl, libraries⟩ := exists_of_mem listed member
      obtain rfl : _ = file := name
      obtain ⟨entry, entered, places⟩ := exists_of_mem libraries named
      exact ⟨files, entries, entry, rfl, inside, entered, places⟩

theorem IsTable.lies {size : Nat} {table : Value} {listing : References}
    (described : IsTable size table listing) :
    ∀ file ∈ listing, ∀ library ∈ file.2, ∀ reference ∈ library.2, Lies size reference := by
  intro file member library named reference found
  obtain ⟨_, _, _, _, _, _, entry⟩ := described.lists member named
  obtain ⟨_, _, places⟩ := entry.places
  obtain ⟨_, _, place⟩ := exists_of_mem places found
  exact place.inside

/-- A table as templates write it describes what it was written from. -/
theorem isTable_tableValue {size : Nat} {references : References}
    (lies : ∀ file ∈ references, ∀ library ∈ file.2, ∀ reference ∈ library.2,
      Lies size reference) : IsTable size (tableValue references) references := by
  refine .given (List.forall₂_map_left_iff.mpr (List.forall₂_same.mpr fun file member => ?_))
  refine ⟨rfl, _, rfl,
    List.forall₂_map_left_iff.mpr (List.forall₂_same.mpr fun library named => ?_)⟩
  refine ⟨rfl, _, rfl,
    List.forall₂_map_left_iff.mpr (List.forall₂_same.mpr fun reference found => ?_)⟩
  exact ⟨rfl, rfl, lies file member library named reference found⟩

/-- What is read is described by its own text and table. -/
theorem Describes.again {template : Value} {object : String} {listing : References}
    (described : Describes template object listing) (contractName : String) :
    Describes (ofListing contractName object listing).toTemplate object (entriesOf listing) := by
  obtain ⟨body, shape, splits, even, table⟩ := described.image
  refine ⟨.field rfl, body, shape, splits, even, isTable_tableValue ?_⟩
  intro file member library named
  obtain ⟨other, listed, rfl⟩ := List.mem_map.mp member
  exact table.lies other (mem_assigned.mp listed).1 library (mem_assigned.mp named).1

theorem eq_of_holdsText_toTemplate {artifact : Artifact} {object : String}
    (holds : HoldsText artifact.toTemplate object) : object = artifact.object := by
  cases holds with
  | field given => exact (Value.text.inj given).symm

/-- A template is read as its grammar has it. -/
structure ReadsGrammar (template : Value) (contractName : String) : Prop where
  /-- It is accepted if and only if it describes an image, and its text and its table are built into
  an artifact. -/
  read : ∀ artifact, parse template contractName = .ok artifact ↔ ∃ object listing,
    Describes template object listing ∧ artifact = ofListing contractName object listing
  /-- Unless the table has the name of a parent for a file or a library, what is read is what the
  template describes. -/
  listed : ∀ object listing, Describes template object listing → Ordinary listing →
    parse template contractName = .ok { contractName, object, references := listing }
  /-- A template that describes nothing is refused in the name of the contract. -/
  refused : (∀ object listing, ¬ Describes template object listing) →
    ∃ failure, parse template contractName = .error failure ∧
      failure.className? = some "ArtifactLoadError" ∧
      failure.context? = some [("contractName", contractName)]
  /-- What has been read is read again from its text and its table alone, up to the parents. -/
  again : ∀ artifact, parse template contractName = .ok artifact →
    parse artifact.toTemplate contractName = .ok { artifact with parents := {} }

/-- Every value is read as the grammar of templates has it, and every table that has no name of a
parent is kept as it is.  A text has less than 2^53 characters, so that numbers tell its places
exactly. -/
theorem reads_grammar {template : Value}
    (short : ∀ object, HoldsText template object → object.length < powerOf 2 53)
    (contractName : String) : ReadsGrammar template contractName where
  read := fun _ => parse_eq_ok short
  listed := by
    intro object listing described ordinary
    rw [← ofListing_of_ordinary ordinary]
    exact (parse_eq_ok short).mpr ⟨object, listing, described, rfl⟩
  refused := by
    intro undescribed
    cases outcome : parse template contractName with
    | ok artifact =>
        obtain ⟨object, listing, described, _⟩ := (parse_eq_ok short).mp outcome
        exact absurd described (undescribed object listing)
    | error failure =>
        obtain ⟨problem, rfl⟩ := eq_artifact_of_parse outcome
        exact ⟨_, rfl, rfl, rfl⟩
  again := by
    intro artifact parsed
    obtain ⟨object, listing, described, rfl⟩ := (parse_eq_ok short).mp parsed
    have small : ∀ other, HoldsText (ofListing contractName object listing).toTemplate other →
        other.length < powerOf 2 53 := by
      intro other holds
      rw [eq_of_holdsText_toTemplate holds]
      exact short _ described.text
    refine (parse_eq_ok small).mpr ⟨object, entriesOf listing, described.again contractName, ?_⟩
    rw [ofListing_of_ordinary (ordinary_entriesOf listing)]
    rfl

/-- A template with fields that no image needs, a file without libraries, a library without
references and a reference that starts at the negative zero. -/
def spare : Value :=
  .record
    [("abi", .list []),
      ("object", .text "0x__$0123456789abcdefABCDEF0123456789ab$__aF"),
      ("linkReferences", .record
        [("7", .record []),
          ("a.sol", .record
            [("A", .list
              [.record
                [("note", .null), ("length", .number (.int 20)), ("start", .number .negativeZero)],
                .record [("start", .number (.int 1)), ("length", .number (.int 20))]]),
              ("B", .list [])])])]

/-- What is read from it. -/
def spareArtifact : Artifact :=
  { contractName := "Spare"
    object := "0x__$0123456789abcdefABCDEF0123456789ab$__aF"
    references := [("7", []),
      ("a.sol", [("A", [⟨.negativeZero, .int 20⟩, ⟨.int 1, .int 20⟩]), ("B", [])])] }

theorem reads_grammar_spare :
    (∀ object, HoldsText spare object → object.length < powerOf 2 53) ∧
      ReadsGrammar spare "Spare" ∧ parse spare "Spare" = .ok spareArtifact ∧
      (∃ object listing, Describes spare object listing ∧
        spareArtifact = ofListing "Spare" object listing) ∧
      parse spareArtifact.toTemplate "Spare" = .ok spareArtifact := by
  have short : ∀ object, HoldsText spare object → object.length < powerOf 2 53 := by
    intro object holds
    cases holds with
    | field given =>
        obtain rfl := Value.text.inj given
        decide +kernel
  have grammar := reads_grammar short "Spare"
  have parsed : parse spare "Spare" = .ok spareArtifact := eq_ok_of_toOption (by decide +kernel)
  exact ⟨short, grammar, parsed, (grammar.read _).mp parsed, grammar.again _ parsed⟩

/-- A table whose only file has the name of a parent. -/
def fostered : Value :=
  .record
    [("object", .text "0x"),
      ("linkReferences", .record [(parentName, .record [("L", .list [])])])]

/-- A template is accepted, and a file that it lists is not among those that are read. -/
theorem reads_no_parent :
    Describes fostered "0x" [(parentName, [("L", [])])] ∧
      parse fostered "Fostered" = .ok
        { contractName := "Fostered", object := "0x", references := []
          parents := { table := some ([("L", [])], none) } } := by
  refine ⟨⟨.field rfl, [], rfl, .nil, rfl, .given (.cons ⟨rfl, _, rfl, ?_⟩ .nil)⟩,
    eq_ok_of_toOption (by decide +kernel)⟩
  exact .cons ⟨rfl, _, rfl, .nil⟩ .nil

end Rollout.Artifact
