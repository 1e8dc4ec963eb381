import Mathlib.Data.List.Forall2
import Rollout.Proofs.Artifact.Linking
import Rollout.Proofs.Artifact.Placeholder

/-!
# Images as tokens

An image that may lack libraries is made of digits and of slots for addresses: a slot is a hole,
in which the placeholder of a library stands, or linked.  No placeholder stands across two tokens.
-/

namespace Rollout

namespace Artifact

/-- A text in the form of a placeholder. -/
@[ext]
structure Placeholder where
  text : List Char
  form : isPlaceholder text = true
  deriving DecidableEq

/-- The placeholder of the library of a qualified name. -/
def Placeholder.of (name : String) : Placeholder :=
  ⟨placeholder name.toList, isPlaceholder_placeholder name.toList⟩

/-- A piece of an image. -/
inductive Token where
  | digit (c : Char) (hex : Text.isHexDigit c = true)
  | hole (placeholder : Placeholder)
  | linked (placeholder : Placeholder) (address : Address)

/-- The text of an image. -/
def Token.text : Token → List Char
  | digit c _ => [c]
  | hole placeholder => placeholder.text
  | linked _ address => address.lowerDigits

open Text

namespace Placeholder

variable (p : Placeholder)

theorem length_text : p.text.length = placeholderLength := (isPlaceholder_iff.mp p.form).1

theorem text_eq_cons : ∃ rest, p.text = '_' :: rest := by
  obtain ⟨width, allowed⟩ := isPlaceholder_iff.mp p.form
  cases shape : p.text with
  | nil => rw [shape] at width; contradiction
  | cons c rest =>
      have first := allowed 0 c (by rw [shape]; rfl)
      obtain rfl : c = '_' := by simpa [placeholderAllows] using first
      exact ⟨rest, rfl⟩

theorem narrow : Narrow p.text := by
  obtain ⟨_, allowed⟩ := isPlaceholder_iff.mp p.form
  intro c member
  obtain ⟨place, inside, rfl⟩ := List.mem_iff_getElem.mp member
  have form := allowed place _ (List.getElem?_eq_getElem inside)
  rw [placeholderAllows] at form
  split at form
  · rw [eq_of_beq form]; rfl
  · split at form
    · exact unitWidth_of_isHexDigit form
    · rw [eq_of_beq form]; rfl

theorem beginsPlaceholder_append (rest : List Char) :
    beginsPlaceholder (p.text ++ rest) = true := by
  rw [beginsPlaceholder, ← p.length_text, List.take_left]
  exact p.form

theorem not_mem_dollar : '$' ∉ p.text.take 2 := by
  intro member
  obtain ⟨place, found⟩ := List.mem_iff_getElem?.mp member
  rw [List.getElem?_take] at found
  split at found
  · have third := placeholderAllows_dollar ((isPlaceholder_iff.mp p.form).2 _ _ found)
    omega
  · contradiction

theorem placeholdersIn_append {rest : List Char} (clear : '$' ∉ rest.take 2) :
    placeholdersIn (p.text ++ rest) = p.text :: placeholdersIn rest := by
  obtain ⟨tail, shape⟩ := p.text_eq_cons
  have here := p.beginsPlaceholder_append rest
  have whole : (p.text ++ rest).take placeholderLength = p.text := by
    rw [← p.length_text, List.take_left]
  have behind : placeholdersIn (tail ++ rest) = placeholdersIn rest := by
    refine Artifact.placeholdersIn_append rest fun place inside => Bool.eq_false_iff.mpr ?_
    intro begins
    have later : place + 1 < p.text.length := by
      rw [shape]
      exact Nat.succ_lt_succ inside
    have shifted : (p.text ++ rest).drop (place + 1) = (tail ++ rest).drop place := by
      rw [shape]
      rfl
    have zero := eq_zero_of_beginsPlaceholder p.form clear later (shifted ▸ begins)
    contradiction
  rw [shape, List.cons_append] at here whole ⊢
  rw [placeholdersIn, if_pos here, whole, behind]

end Placeholder

namespace Token

/-- The placeholder in place of which an address goes or has gone. -/
def placeholder? : Token → Option Placeholder
  | digit .. => none
  | hole p => some p
  | linked p _ => some p

/-- The placeholder that is still there. -/
def hole? : Token → Option Placeholder
  | hole p => some p
  | _ => none

/-- The number of characters of a token. -/
def width : Option Placeholder → Nat
  | none => 1
  | some _ => placeholderLength

theorem length_text (token : Token) : token.text.length = width token.placeholder? := by
  cases token with
  | digit => rfl
  | hole p => exact p.length_text
  | linked p address => exact address.length_lowerDigits

theorem narrow (token : Token) : Narrow token.text := by
  cases token with
  | digit c hex => exact List.forall_mem_singleton.mpr (unitWidth_of_isHexDigit hex)
  | hole p => exact p.narrow
  | linked p address => exact address.lowerDigits_small.narrow

/-- A token is a hole, or made of hexadecimal digits. -/
theorem hole_or_hex (token : Token) :
    (∃ p, token = hole p) ∨ token.hole? = none ∧ ∀ c ∈ token.text, isHexDigit c = true := by
  cases token with
  | digit c hex => exact .inr ⟨rfl, List.forall_mem_singleton.mpr hex⟩
  | hole p => exact .inl ⟨p, rfl⟩
  | linked p address =>
      refine .inr ⟨rfl, fun c member => ?_⟩
      exact isHexDigit_of_isSmallDigit (address.lowerDigits_small c member)

theorem not_mem_dollar (token : Token) : '$' ∉ token.text.take 2 := by
  obtain ⟨p, rfl⟩ | ⟨_, hex⟩ := token.hole_or_hex
  · exact p.not_mem_dollar
  · intro member
    have digit := hex _ (List.mem_of_mem_take member)
    contradiction

/-- In an image, a placeholder begins where a hole begins, and nowhere else. -/
theorem eq_hole_of_beginsPlaceholder {token : Token} {rest : List Char} {place : Nat}
    (clear : '$' ∉ rest.take 2) (inside : place < token.text.length)
    (begins : beginsPlaceholder ((token.text ++ rest).drop place) = true) :
    place = 0 ∧ ∃ p, token = hole p := by
  obtain ⟨p, rfl⟩ | ⟨_, hex⟩ := token.hole_or_hex
  · exact ⟨eq_zero_of_beginsPlaceholder p.form clear inside begins, p, rfl⟩
  · obtain ⟨c, first, underscore⟩ := allowed_of_beginsPlaceholder begins (Nat.zero_lt_succ 39)
    rw [List.getElem?_drop, Nat.add_zero, List.getElem?_append_left inside] at first
    obtain rfl : c = '_' := by simpa [placeholderAllows] using underscore
    have digit := hex _ (List.mem_of_getElem? first)
    contradiction

end Token

/-- The text of some tokens. -/
def textOf (tokens : List Token) : List Char := tokens.flatMap Token.text

/-- The placeholders that are left in some tokens. -/
def holes (tokens : List Token) : List Placeholder := tokens.filterMap Token.hole?

/-- Which places are left for addresses, and for which libraries. -/
def skeleton (tokens : List Token) : List (Option Placeholder) := tokens.map Token.placeholder?

/-- No slot for a library is linked. -/
def Pending (p : Placeholder) (tokens : List Token) : Prop :=
  ∀ address, Token.linked p address ∉ tokens

/-- The number of characters that some places take. -/
def extent : List (Option Placeholder) → Nat
  | [] => 0
  | slot :: rest => Token.width slot + extent rest

theorem Pending.cons {p : Placeholder} {token : Token} {rest : List Token}
    (pending : Pending p rest) (other : ∀ address, token ≠ .linked p address) :
    Pending p (token :: rest) := by
  intro address member
  obtain rfl | member := List.mem_cons.mp member
  · exact other address rfl
  · exact pending address member

section Text

@[simp]
theorem textOf_nil : textOf [] = [] := rfl

@[simp]
theorem textOf_cons (token : Token) (rest : List Token) :
    textOf (token :: rest) = token.text ++ textOf rest := List.flatMap_cons

@[simp]
theorem textOf_append (left right : List Token) :
    textOf (left ++ right) = textOf left ++ textOf right := List.flatMap_append

theorem holes_cons (token : Token) (rest : List Token) :
    holes (token :: rest) = token.hole?.toList ++ holes rest := by
  cases token <;> rfl

theorem length_textOf (tokens : List Token) :
    (textOf tokens).length = extent (skeleton tokens) := by
  induction tokens with
  | nil => rfl
  | cons token rest ih =>
      rw [textOf_cons, List.length_append, ih, token.length_text]
      rfl

theorem narrow_textOf (tokens : List Token) : Narrow (textOf tokens) := by
  intro c member
  obtain ⟨token, _, inside⟩ := List.mem_flatMap.mp member
  exact token.narrow c inside

theorem not_mem_dollar (tokens : List Token) : '$' ∉ (textOf tokens).take 2 := by
  induction tokens with
  | nil => simp
  | cons token rest ih =>
      rw [textOf_cons, List.take_append, List.mem_append]
      rintro (head | tail)
      · exact token.not_mem_dollar head
      · exact ih ((List.take_subset_take_left _ (Nat.sub_le 2 _)) tail)

theorem placeholdersIn_token (token : Token) {rest : List Char} (clear : '$' ∉ rest.take 2) :
    placeholdersIn (token.text ++ rest) =
      (token.hole?.map Placeholder.text).toList ++ placeholdersIn rest := by
  obtain ⟨p, rfl⟩ | ⟨filled, _⟩ := token.hole_or_hex
  · exact p.placeholdersIn_append clear
  · rw [filled]
    refine placeholdersIn_append rest fun place inside => Bool.eq_false_iff.mpr ?_
    intro begins
    obtain ⟨_, p, rfl⟩ := Token.eq_hole_of_beginsPlaceholder clear inside begins
    contradiction

/-- The placeholders of an image are its holes. -/
theorem placeholdersIn_textOf (tokens : List Token) :
    placeholdersIn (textOf tokens) = (holes tokens).map Placeholder.text := by
  induction tokens with
  | nil => rfl
  | cons token rest ih =>
      rw [textOf_cons, placeholdersIn_token token (not_mem_dollar rest), ih, holes_cons,
        List.map_append]
      cases token <;> rfl

/-- When no hole is left, there are digits only. -/
theorem isHexDigit_of_mem_textOf {tokens : List Token} (filled : holes tokens = []) {c : Char}
    (member : c ∈ textOf tokens) : isHexDigit c = true := by
  obtain ⟨token, listed, inside⟩ := List.mem_flatMap.mp member
  obtain ⟨p, rfl⟩ | ⟨_, hex⟩ := token.hole_or_hex
  · have left : p ∈ holes tokens := List.mem_filterMap.mpr ⟨_, listed, rfl⟩
    rw [filled] at left
    contradiction
  · exact hex c inside

/-- Where a placeholder begins in an image, there is a hole. -/
theorem exists_hole_of_beginsPlaceholder {tokens : List Token} {place : Nat}
    (begins : beginsPlaceholder ((textOf tokens).drop place) = true) :
    ∃ before p after, tokens = before ++ .hole p :: after ∧ (textOf before).length = place := by
  induction tokens generalizing place with
  | nil =>
      rw [textOf_nil, List.drop_nil] at begins
      contradiction
  | cons token rest ih =>
      rw [textOf_cons] at begins
      obtain inside | beyond := Nat.lt_or_ge place token.text.length
      · obtain ⟨rfl, p, rfl⟩ :=
          Token.eq_hole_of_beginsPlaceholder (not_mem_dollar rest) inside begins
        exact ⟨[], p, rest, rfl, rfl⟩
      · rw [List.drop_append, List.drop_eq_nil_of_le beyond, List.nil_append] at begins
        obtain ⟨before, p, after, rfl, length⟩ := ih begins
        refine ⟨token :: before, p, after, rfl, ?_⟩
        rw [textOf_cons, List.length_append, length]
        omega

end Text

end Artifact

end Rollout
