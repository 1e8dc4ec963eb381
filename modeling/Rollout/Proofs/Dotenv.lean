import Mathlib.Data.List.Infix
import Rollout.Dotenv
import Rollout.Proofs.Text

/-!
# Laws of environment files

A file each of whose lines assigns a plain value to a name is read as exactly these assignments, in
their order.  Nothing in such a line can be taken for the word `export`, a quotation or a comment,
and each line is complete before the next one begins.
-/

namespace Rollout.Dotenv

open Text

/-- A character that stands for itself wherever it stands in a value. -/
def isPlain (c : Char) : Bool := !isBlank c && !isQuote c && c != '#'

/-- A name and a value that can be written on a line as they are. -/
structure Plain (entry : String × String) : Prop where
  /-- There is a name. -/
  named : entry.1.toList ≠ []
  /-- The name consists of the characters of names. -/
  name : ∀ c ∈ entry.1.toList, isNamePart c = true
  /-- There is a value. -/
  valued : entry.2.toList ≠ []
  /-- The value consists of characters that stand for themselves. -/
  value : ∀ c ∈ entry.2.toList, isPlain c = true

/-- The line that assigns a value to a name. -/
def assign (entry : String × String) : String := entry.1 ++ "=" ++ entry.2 ++ "\n"

theorem toList_assign (entry : String × String) :
    (assign entry).toList = entry.1.toList ++ '=' :: (entry.2.toList ++ ['\n']) := by
  simp [assign]

/-! ## Characters -/

theorem toNat_lt_of_isNamePart {c : Char} (part : isNamePart c = true) : c.toNat < 128 := by
  simp only [isNamePart, Bool.or_eq_true, Bool.and_eq_true, decide_eq_true_eq, beq_iff_eq,
    Char.le_def, UInt32.le_iff_toNat_le] at part
  rcases part with ((((lower | upper) | digit) | rfl) | rfl) | rfl
  · exact Nat.lt_of_le_of_lt lower.2 (by decide)
  · exact Nat.lt_of_le_of_lt upper.2 (by decide)
  · exact Nat.lt_of_le_of_lt digit.2 (by decide)
  all_goals decide

/-- No character of a name can be taken for a blank, a comment or the sign behind the name. -/
theorem apart_of_isNamePart {c : Char} (part : isNamePart c = true) :
    isBlank c = false ∧ c ≠ '#' ∧ c ≠ '=' := by
  exact of_ascii (fun c => isNamePart c = true → isBlank c = false ∧ c ≠ '#' ∧ c ≠ '=')
    (by decide) (toNat_lt_of_isNamePart part) part

theorem isPlain_iff {c : Char} :
    isPlain c = true ↔ isBlank c = false ∧ isQuote c = false ∧ c ≠ '#' := by
  simp [isPlain, and_assoc]

theorem isPlain_of_isSmallDigit {c : Char} (small : isSmallDigit c = true) : isPlain c = true := by
  exact of_ascii (fun c => isSmallDigit c = true → isPlain c = true) (by decide)
    (toNat_lt_of_isHexDigit (isHexDigit_of_isSmallDigit small)) small

/-! ## Values -/

theorem dropWhile_isBlank {text : List Char} (solid : ∀ c ∈ text.head?, isBlank c = false) :
    text.dropWhile isBlank = text := by
  cases text with
  | nil => rfl
  | cons c rest => rw [List.dropWhile_cons_of_neg (by simp [solid c rfl])]

theorem trim_eq_self {text : List Char} (solid : ∀ c ∈ text, isBlank c = false) :
    trim text = text := by
  rw [trim, trimStart, dropWhile_isBlank fun c head => solid c (List.mem_of_mem_head? head),
    trimEnd, dropWhile_isBlank fun c last => ?_, List.reverse_reverse]
  exact solid c (List.mem_reverse.mp (List.mem_of_mem_head? last))

theorem unquote_eq_self {text : List Char} (unquoted : ∀ c ∈ text, isQuote c = false)
    (fuel : Nat) (atStart : Bool) : unquote fuel atStart text = text := by
  induction text generalizing fuel atStart with
  | nil => cases fuel <;> rfl
  | cons c rest ih =>
      rw [List.forall_mem_cons] at unquoted
      cases fuel with
      | zero => rfl
      | succ fuel =>
          simp only [unquote, unquoted.1, Bool.and_false, Bool.false_eq_true, if_false,
            ih unquoted.2]

/-- A plain value means what is written. -/
theorem meaning_eq_self {value : List Char} (plain : ∀ c ∈ value, isPlain c = true) :
    meaning value = value := by
  have solid : ∀ c ∈ value, isBlank c = false :=
    fun c member => (isPlain_iff.mp (plain c member)).1
  have unquoted : ∀ c ∈ value, isQuote c = false :=
    fun c member => (isPlain_iff.mp (plain c member)).2.1
  have unmarked : value.head? ≠ some '"' := by
    intro head
    have quote := unquoted '"' (List.mem_of_mem_head? head)
    contradiction
  simp only [meaning, trim_eq_self solid, unquote_eq_self unquoted, if_neg unmarked]

/-! ## Lines -/

/-- What is left to read behind the value of a line: its end, unless nothing follows it. -/
def lineEnd : List Char → List Char
  | [] => []
  | c :: rest => '\n' :: c :: rest

/-- A text is empty or begins with something else than a blank or a comment. -/
def Opens (text : List Char) : Prop := ∀ c ∈ text.head?, isBlank c = false ∧ c ≠ '#'

theorem settle?_lineEnd {more : List Char} (opens : Opens more) :
    settle? ('\n' :: more) = some (lineEnd more) := by
  cases more with
  | nil => rfl
  | cons c rest =>
      obtain ⟨solid, uncommented⟩ := opens c rfl
      have taken : ('\n' :: c :: rest).takeWhile isBlank = ['\n'] := by
        rw [List.takeWhile_cons_of_pos rfl, List.takeWhile_cons_of_neg (by simp [solid])]
      have dropped : ('\n' :: c :: rest).dropWhile isBlank = c :: rest := by
        rw [List.dropWhile_cons_of_pos rfl, List.dropWhile_cons_of_neg (by simp [solid])]
      simp only [settle?, taken, dropped, if_neg uncommented]
      rfl

section Line

variable {name value more : List Char} (valued : value ≠ [])
  (plain : ∀ c ∈ value, isPlain c = true) (opens : Opens more)

include valued plain in
theorem quotedValue?_plain (behind : List Char) : quotedValue? (value ++ behind) = none := by
  cases value with
  | nil => contradiction
  | cons c rest =>
      obtain ⟨solid, unquoted, _⟩ := isPlain_iff.mp (plain c List.mem_cons_self)
      rw [quotedValue?, List.cons_append, List.dropWhile_cons_of_neg (by simp [solid])]
      simp only [unquoted, Bool.false_eq_true, if_false]

include valued plain opens in
theorem value?_plain : value? (value ++ '\n' :: more) = some (value, lineEnd more) := by
  have inside : ∀ c ∈ value, (c != '#' && c != '\n' && c != '\r') = true := by
    intro c member
    obtain ⟨solid, _, uncommented⟩ := isPlain_iff.mp (plain c member)
    have first : c ≠ '\n' := by
      rintro rfl
      contradiction
    have second : c ≠ '\r' := by
      rintro rfl
      contradiction
    simp [uncommented, first, second]
  simp only [value?, quotedValue?_plain valued plain]
  rw [List.takeWhile_append_of_pos inside, List.dropWhile_append_of_pos inside,
    List.takeWhile_cons_of_neg (by simp), List.dropWhile_cons_of_neg (by simp),
    settle?_lineEnd opens, List.append_nil]
  rfl

variable (named : name ≠ []) (parts : ∀ c ∈ name, isNamePart c = true)

include valued plain opens named parts in
theorem assignment?_plain :
    assignment? (name ++ '=' :: (value ++ '\n' :: more)) = some (name, value, lineEnd more) := by
  have taken : (name ++ '=' :: (value ++ '\n' :: more)).takeWhile isNamePart = name := by
    rw [List.takeWhile_append_of_pos parts, List.takeWhile_cons_of_neg (by decide),
      List.append_nil]
  have dropped : (name ++ '=' :: (value ++ '\n' :: more)).dropWhile isNamePart =
      '=' :: (value ++ '\n' :: more) := by
    rw [List.dropWhile_append_of_pos parts, List.dropWhile_cons_of_neg (by decide)]
  have start : ('=' :: (value ++ '\n' :: more)).dropWhile isBlank =
      '=' :: (value ++ '\n' :: more) := List.dropWhile_cons_of_neg (by decide)
  have sign : afterSign? ('=' :: (value ++ '\n' :: more)) = some (value ++ '\n' :: more) := by
    simp only [afterSign?, start]
  have present : name.isEmpty = false := by
    rwa [List.isEmpty_eq_false_iff]
  simp only [assignment?, taken, dropped, sign, present, Bool.false_eq_true, if_false,
    Option.bind_some, value?_plain valued plain opens, Option.map_some]

include parts in
/-- A name may begin like the word `export`, but no blank stands behind these letters. -/
theorem not_exported (rest : List Char)
    (word : "export".toList <+: name ++ '=' :: rest) :
    ((name ++ '=' :: rest).drop "export".toList.length).head?.any isBlank = false := by
  -- The word does not reach the sign, which is none of its letters.
  have short : "export".toList <+: name := by
    have both : name ++ ['='] <+: name ++ '=' :: rest :=
      (List.prefix_append_right_inj name).mpr ⟨rest, rfl⟩
    rcases List.prefix_or_prefix_of_prefix both word with longer | shorter
    · have sign : '=' ∈ "export".toList := longer.subset (by simp)
      contradiction
    · rcases List.prefix_concat_iff.mp shorter with same | shorter
      · have sign : '=' ∈ "export".toList := same ▸ by simp
        contradiction
      · exact shorter
  obtain ⟨others, rfl⟩ := short
  rw [List.append_assoc, List.drop_left]
  cases others with
  | nil => rfl
  | cons c others =>
      have part := parts c (List.mem_append_right _ List.mem_cons_self)
      simp [(apart_of_isNamePart part).1]

include valued plain opens named parts in
theorem lineAssignment?_plain :
    lineAssignment? (name ++ '=' :: (value ++ '\n' :: more)) =
      some (name, value, lineEnd more) := by
  have start : (name ++ '=' :: (value ++ '\n' :: more)).dropWhile isBlank =
      name ++ '=' :: (value ++ '\n' :: more) := by
    refine dropWhile_isBlank fun c head => ?_
    cases name with
    | nil => contradiction
    | cons d rest =>
        obtain rfl : d = c := Option.some.inj head
        exact (apart_of_isNamePart (parts d List.mem_cons_self)).1
  have unexported : ("export".toList.isPrefixOf (name ++ '=' :: (value ++ '\n' :: more)) &&
      ((name ++ '=' :: (value ++ '\n' :: more)).drop "export".toList.length).head?.any
        isBlank) = false := by
    rw [Bool.and_eq_false_iff, or_iff_not_imp_left, Bool.not_eq_false,
      List.isPrefixOf_iff_prefix]
    exact not_exported parts _
  simp only [lineAssignment?, start, unexported, Bool.false_eq_true, if_false, Option.none_or]
  exact assignment?_plain valued plain opens named parts

end Line

/-! ## Files -/

/-- The characters of the lines that make some assignments. -/
def written (entries : List (String × String)) : List Char :=
  entries.flatMap fun entry => (assign entry).toList

theorem written_cons (entry : String × String) (entries : List (String × String)) :
    written (entry :: entries) =
      entry.1.toList ++ '=' :: (entry.2.toList ++ '\n' :: written entries) := by
  rw [written, List.flatMap_cons, toList_assign]
  simp [written]

variable {entries : List (String × String)} (plain : ∀ entry ∈ entries, Plain entry)

include plain in
theorem opens_written : Opens (written entries) := by
  intro c head
  cases entries with
  | nil => contradiction
  | cons entry rest =>
      obtain ⟨named, parts, _, _⟩ := plain entry List.mem_cons_self
      rw [written_cons] at head
      cases letters : entry.1.toList with
      | nil => contradiction
      | cons d others =>
          rw [letters] at head
          obtain rfl : d = c := Option.some.inj head
          have part := parts d (letters ▸ List.mem_cons_self)
          exact ⟨(apart_of_isNamePart part).1, (apart_of_isNamePart part).2.1⟩

include plain in
theorem assignments_written {fuel : Nat} (enough : (written entries).length ≤ fuel) :
    assignments fuel true (written entries) = entries := by
  induction entries generalizing fuel with
  | nil => cases fuel <;> rfl
  | cons entry rest ih =>
      rw [List.forall_mem_cons] at plain
      obtain ⟨named, parts, valued, value⟩ := plain.1
      have line := lineAssignment?_plain valued value (opens_written plain.2) named parts
      rw [written_cons] at enough ⊢
      simp only [List.length_append, List.length_cons] at enough
      -- The line takes one step and its end another, if lines follow.
      obtain ⟨fuel, rfl⟩ : ∃ less, fuel = less + 1 + 1 := ⟨fuel - 2, by omega⟩
      have bound : (written rest).length ≤ fuel := by omega
      cases text : entry.1.toList ++ '=' :: (entry.2.toList ++ '\n' :: written rest) with
      | nil => simp at text
      | cons c others =>
          rw [text] at line
          simp only [assignments, if_true, line, meaning_eq_self value, String.ofList_toList]
          congr 1
          cases following : written rest with
          | nil =>
              have none : assignments fuel true (written rest) = rest := ih plain.2 bound
              rw [following] at none
              rw [← none]
              cases fuel <;> rfl
          | cons d next =>
              rw [lineEnd, assignments, ← following]
              exact ih plain.2 bound

theorem unifyLineEnds_eq_self {text : List Char} (absent : '\r' ∉ text) :
    unifyLineEnds text = text := by
  induction text with
  | nil => rfl
  | cons c rest ih =>
      rw [List.mem_cons, not_or] at absent
      have apart : c ≠ '\r' := Ne.symm absent.1
      rw [unifyLineEnds.eq_4 c rest (fun _ same => absurd same apart) apart, ih absent.2]

include plain in
theorem not_mem_written : '\r' ∉ written entries := by
  intro member
  obtain ⟨entry, given, member⟩ := List.mem_flatMap.mp member
  obtain ⟨_, parts, _, value⟩ := plain entry given
  rw [toList_assign] at member
  simp only [List.mem_append, List.mem_cons, List.not_mem_nil, or_false] at member
  rcases member with name | sign | inside | ending
  · have part := parts '\r' name
    contradiction
  · contradiction
  · have plain := value '\r' inside
    contradiction
  · contradiction

include plain in
/-- A file of plain lines is read as the assignments that were written. -/
theorem parse_join : parse (String.join (entries.map assign)) = entries := by
  have text : (String.join (entries.map assign)).toList = written entries := by
    rw [String.toList_join, List.flatMap_map]
    rfl
  rw [parse, text, unifyLineEnds_eq_self (not_mem_written plain)]
  exact assignments_written plain (Nat.le_refl _)

end Rollout.Dotenv
