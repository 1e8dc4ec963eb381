import Rollout.Proofs.Artifact.Inheritance
import Rollout.Proofs.Artifact.Reading
import Rollout.Proofs.Number

/-!
# Filling slots

Linking a library fills slots for it and changes nothing else, so that every token keeps its place:
a reference leads to the same slot before and after.  Replacing the placeholder of a library fills
every hole for it.
-/

namespace Rollout

namespace Artifact

open Text

/-- A slot for a library may have been filled; anything else is as it was. -/
inductive Token.Fills (p : Placeholder) (address : Address) : Token → Token → Prop
  | keep (token : Token) : Fills p address token token
  | fill {token : Token} (slot : token.placeholder? = some p) :
      Fills p address token (.linked p address)

namespace Token.Fills

variable {p : Placeholder} {address : Address} {token middle filled : Token}

theorem trans (first : Token.Fills p address token middle)
    (second : Token.Fills p address middle filled) : Token.Fills p address token filled := by
  cases first with
  | keep => exact second
  | fill slot =>
      cases second with
      | keep => exact .fill slot
      | fill _ => exact .fill slot

theorem placeholder?_eq (fills : Token.Fills p address token filled) :
    filled.placeholder? = token.placeholder? := by
  cases fills with
  | keep => rfl
  | fill slot => exact slot.symm

theorem filter_hole? (fills : Token.Fills p address token filled) :
    filled.hole?.toList.filter (· ≠ p) = token.hole?.toList.filter (· ≠ p) := by
  cases fills with
  | keep => rfl
  | fill slot =>
      cases token with
      | digit => rfl
      | hole q => cases slot; simp [hole?]
      | linked => rfl

end Token.Fills

/-- Some slots for a library have been filled. -/
abbrev Fills (p : Placeholder) (address : Address) : List Token → List Token → Prop :=
  List.Forall₂ (Token.Fills p address)

namespace Fills

variable {p : Placeholder} {address : Address} {tokens middle filled : List Token}

theorem refl (tokens : List Token) : Fills p address tokens tokens :=
  List.forall₂_same.mpr fun token _ => .keep token

theorem trans (first : Fills p address tokens middle) (second : Fills p address middle filled) :
    Fills p address tokens filled := by
  induction first generalizing filled with
  | nil =>
      cases second
      exact .nil
  | cons head tail ih =>
      obtain _ | ⟨next, rest⟩ := second
      exact .cons (head.trans next) (ih rest)

theorem skeleton_eq (fills : Fills p address tokens filled) :
    skeleton filled = skeleton tokens := by
  induction fills with
  | nil => rfl
  | cons head tail ih => exact congrArg₂ List.cons head.placeholder?_eq ih

/-- The holes for other libraries are left. -/
theorem filter_holes (fills : Fills p address tokens filled) :
    (holes filled).filter (· ≠ p) = (holes tokens).filter (· ≠ p) := by
  induction fills with
  | nil => rfl
  | cons head tail ih =>
      rw [holes_cons, holes_cons, List.filter_append, List.filter_append, head.filter_hole?, ih]

/-- Once no hole for a library is left, the holes are those for other libraries. -/
theorem holes_eq (fills : Fills p address tokens filled) (absent : p ∉ holes filled) :
    holes filled = (holes tokens).filter (· ≠ p) := by
  rw [← fills.filter_holes, List.filter_eq_self.mpr]
  intro q member
  rw [decide_eq_true_eq]
  rintro rfl
  exact absent member

end Fills

/-- Fill a hole for a library. -/
def Token.fill (p : Placeholder) (address : Address) : Token → Token
  | hole q => if q = p then linked p address else hole q
  | token => token

section Fill

variable (p : Placeholder) (address : Address)

variable {p} in
theorem Token.fill_of_ne {token : Token} (other : token ≠ .hole p) :
    token.fill p address = token := by
  cases token with
  | digit | linked => rfl
  | hole q => exact if_neg fun same => other (congrArg hole same)

theorem Token.fills_fill (token : Token) : token.Fills p address (token.fill p address) := by
  cases token with
  | digit | linked => exact .keep _
  | hole q =>
      rw [fill]
      split
      · next same => exact .fill (congrArg some same)
      · exact .keep _

theorem Token.hole?_fill_ne (token : Token) : (token.fill p address).hole? ≠ some p := by
  cases token with
  | digit | linked => exact Option.some_ne_none p |>.symm
  | hole q =>
      rw [fill]
      split
      · exact Option.some_ne_none p |>.symm
      · next other => exact fun same => other (Option.some.inj same)

theorem fills_map_fill (tokens : List Token) :
    Fills p address tokens (tokens.map (Token.fill p address)) := by
  induction tokens with
  | nil => exact .nil
  | cons token rest ih => exact .cons (token.fills_fill p address) ih

theorem not_mem_holes_map_fill (tokens : List Token) :
    p ∉ holes (tokens.map (Token.fill p address)) := by
  intro member
  obtain ⟨filled, listed, hole⟩ := List.mem_filterMap.mp member
  obtain ⟨token, _, rfl⟩ := List.mem_map.mp listed
  exact token.hole?_fill_ne p address hole

theorem replaceAll_token (token : Token) {rest : List Char} (clear : '$' ∉ rest.take 2) :
    replaceAll p.text address.lowerDigits (token.text ++ rest) =
      (token.fill p address).text ++ replaceAll p.text address.lowerDigits rest := by
  -- Where the placeholder begins in the token, it is the whole of it.
  have whole : ∀ place < token.text.length, p.text <+: (token.text ++ rest).drop place →
      token = .hole p := by
    rintro place inside ⟨behind, found⟩
    have begins := p.beginsPlaceholder_append behind
    rw [found] at begins
    obtain ⟨rfl, q, rfl⟩ := Token.eq_hole_of_beginsPlaceholder clear inside begins
    have same := (List.append_inj found (p.length_text.trans q.length_text.symm)).1
    exact congrArg Token.hole (Placeholder.ext same).symm
  by_cases hole : token = .hole p
  · obtain ⟨tail, shape⟩ := p.text_eq_cons
    rw [hole, Token.fill, if_pos rfl, Token.text, Token.text, shape]
    exact replaceAll_pattern_append _ _
  · rw [Token.fill_of_ne address hole]
    apply replaceAll_append_of_absent
    intro place inside occurs
    exact hole (whole place inside occurs)

/-- Replacing a placeholder in the text of an image fills the holes for its library. -/
theorem replaceAll_textOf (tokens : List Token) :
    replaceAll p.text address.lowerDigits (textOf tokens) =
      textOf (tokens.map (Token.fill p address)) := by
  induction tokens with
  | nil => rfl
  | cons token rest ih =>
      rw [textOf_cons, replaceAll_token p address token (not_mem_dollar rest), ih, List.map_cons,
        textOf_cons]

end Fill

/-! ## Filling recorded places -/

/-- A reference is as long as an address and leads to a slot for a library.  This tells nothing
about what stands in the slot: another name with the same placeholder may have been linked
already. -/
structure Recorded (slots : List (Option Placeholder)) (p : Placeholder) (reference : Reference) :
    Prop where
  length : reference.length = .int 20
  start : ∃ (place : Nat) (before after : List (Option Placeholder)),
    reference.start.toInt? = some (place : Int) ∧ slots = before ++ some p :: after ∧
      extent before = 2 * place

/-- A reference that leads to the placeholder of a library leads to a hole for it. -/
theorem recorded_of_occurs {tokens : List Token} {name : String} {reference : Reference}
    (length : reference.length = .int 20) {place : Nat}
    (start : reference.start.toInt? = some (place : Int))
    (occurs : placeholder name.toList <+: (textOf tokens).drop (2 * place)) :
    Recorded (skeleton tokens) (.of name) reference := by
  obtain ⟨before, p, after, rfl, offset⟩ :=
    exists_hole_of_beginsPlaceholder (beginsPlaceholder_of_occurs occurs)
  have here : p = .of name := by
    apply Placeholder.ext
    rw [prefix_iff_take_eq, textOf_append, textOf_cons, ← offset, List.drop_left, Token.text,
      ← p.length_text, List.take_left] at occurs
    exact occurs
  refine ⟨length, place, skeleton before, skeleton after, start, ?_, ?_⟩
  · rw [skeleton, List.map_append, List.map_cons, ← here]
    rfl
  · rw [← length_textOf, offset]

variable {p : Placeholder}

/-- Writing an address over a reference fills the slot to which it leads. -/
theorem exists_fills_of_patch {tokens : List Token} {reference : Reference}
    (recorded : Recorded (skeleton tokens) p reference)
    (short : (textOf tokens).length < powerOf 2 53) (address : Address) :
    ∃ filled, patch address.lowerDigits (textOf tokens) reference = .ok (textOf filled) ∧
      Fills p address tokens filled := by
  obtain ⟨start, length⟩ := reference
  obtain ⟨rfl, place, before, after, equals, slots, offset⟩ := recorded
  obtain ⟨front, others, rfl, rfl, shape⟩ := List.map_eq_append_iff.mp slots
  obtain ⟨slot, back, rfl, here, rfl⟩ := List.map_eq_cons_iff.mp shape
  have front_length : (textOf front).length = 2 * place := (length_textOf front).trans offset
  have width : slot.text.length = placeholderLength := by
    rw [slot.length_text, here]
    rfl
  have text : textOf (front ++ slot :: back) = textOf front ++ slot.text ++ textOf back := by
    rw [textOf_append, textOf_cons, List.append_assoc]
  have narrow := narrow_textOf (front ++ slot :: back)
  rw [text] at short narrow
  have bound : 2 * place + placeholderLength < powerOf 2 53 := by
    rw [List.length_append, List.length_append, width, front_length] at short
    omega
  have first : start.double.toInt? = some ((textOf front).length : Int) := by
    rw [Number.toInt?_double equals (by omega), front_length]
    rfl
  have last : start.double.addInt placeholderLength =
      .int ((textOf front).length + placeholderLength : Nat) := by
    rw [Number.addInt_of_toInt? first _ (by rw [front_length]; omega)]
    rfl
  refine ⟨front ++ .linked p address :: back, ?_, ?_⟩
  · rw [text, patch_eq first last width narrow, textOf_append, textOf_cons, List.append_assoc]
    rfl
  · exact List.rel_append (Fills.refl front) (.cons (.fill here) (Fills.refl back))

/-- Writing an address over several references fills slots. -/
theorem exists_fills_of_patchAll {references : List Reference} {tokens : List Token}
    (recorded : ∀ reference ∈ references, Recorded (skeleton tokens) p reference)
    (short : (textOf tokens).length < powerOf 2 53) (address : Address) :
    ∃ filled, patchAll address.lowerDigits references (textOf tokens) = .ok (textOf filled) ∧
      Fills p address tokens filled := by
  induction references generalizing tokens with
  | nil => exact ⟨tokens, rfl, .refl tokens⟩
  | cons reference rest ih =>
      rw [List.forall_mem_cons] at recorded
      obtain ⟨middle, patched, first⟩ := exists_fills_of_patch recorded.1 short address
      have slots := first.skeleton_eq
      have kept : (textOf middle).length = (textOf tokens).length := by
        rw [length_textOf, length_textOf, slots]
      obtain ⟨filled, others, second⟩ := ih (slots ▸ recorded.2) (kept ▸ short)
      refine ⟨filled, ?_, first.trans second⟩
      rw [patchAll, patched]
      exact others

/-- Linking a library whose references lead to slots for it fills slots, so that no hole for it is
left, and forgets its references. -/
theorem exists_fills_of_applyLink {artifact : Artifact} {tokens : List Token}
    (spells : artifact.Spells tokens) (short : (textOf tokens).length < powerOf 2 53)
    {name file library : String} (qualifies : Qualifies name file library)
    {references : List Reference} (found : artifact.referencesFound file library = .ok references)
    (recorded : ∀ reference ∈ references, Recorded (skeleton tokens) (.of name) reference)
    (address : Address) :
    ∃ filled,
      artifact.applyLink name address.text =
        .ok (artifact.relinked file library (textOf filled)) ∧
      Fills (.of name) address tokens filled ∧ Placeholder.of name ∉ holes filled := by
  obtain ⟨patched, written, first⟩ := exists_fills_of_patchAll recorded short address
  have body : dropUnits 2 artifact.object.toList = textOf tokens := by
    rw [spells, dropUnits_mark]
  have replaced : replaceAll (placeholder name.toList) address.lowerDigits (textOf patched) =
      textOf (patched.map (Token.fill (.of name) address)) :=
    replaceAll_textOf (.of name) address patched
  refine ⟨patched.map (Token.fill (.of name) address), ?_, ?_, ?_⟩
  · rw [qualifies.applyLink_of_found found, body, written, Except.map, replaced, Except.mapError]
  · exact first.trans (fills_map_fill _ _ _)
  · exact not_mem_holes_map_fill _ _ _

end Artifact

end Rollout
