import Rollout.Proofs.Artifact.Table
import Rollout.Proofs.Artifact.Tokens
import Rollout.Proofs.Checked

/-!
# Reading images

A template is read if its text is marked, splits into tokens and pairs up into bytes, and if its
table is one.
-/

namespace Rollout

namespace Artifact

open Text

theorem exists_rest_of_splitsFrom {text : List Char} {place : Nat} (later : 0 < place)
    (inside : place < placeholderLength) (splits : splitsFrom place text = true) :
    ∃ front back, text = front ++ back ∧ front.length = placeholderLength - place ∧
      (∀ index c, front[index]? = some c → placeholderAllows (place + index) c = true) ∧
      splitsFrom 0 back = true := by
  induction text generalizing place with
  | nil =>
      rw [splitsFrom, beq_iff_eq] at splits
      omega
  | cons c rest ih =>
      rw [splitsFrom, if_neg (by omega), Bool.and_eq_true] at splits
      obtain ⟨head, tail⟩ := splits
      obtain last | between := Nat.eq_or_lt_of_le (Nat.succ_le_of_lt inside)
      · refine ⟨[c], rest, rfl, by rw [List.length_singleton]; omega, ?_, ?_⟩
        · intro index d found
          cases index with
          | zero => cases found; exact head
          | succ index => contradiction
        · rw [show place + 1 = placeholderLength from last, Nat.mod_self] at tail
          exact tail
      · rw [Nat.mod_eq_of_lt between] at tail
        obtain ⟨front, back, rfl, length, allowed, splits⟩ := ih (Nat.succ_pos _) between tail
        refine ⟨c :: front, back, rfl, by rw [List.length_cons, length]; omega, ?_, splits⟩
        intro index d found
        cases index with
        | zero => cases found; exact head
        | succ index =>
            rw [Nat.add_comm index 1, ← Nat.add_assoc]
            exact allowed index d found

/-- A text that is accepted is that of digits and holes. -/
theorem exists_textOf_eq (text : List Char) (accepted : isUnlinkedHex text = true) :
    ∃ tokens, textOf tokens = text ∧ ∀ p, Pending p tokens := by
  match text with
  | [] => exact ⟨[], rfl, fun _ _ => List.not_mem_nil⟩
  | c :: rest =>
      rw [isUnlinkedHex, splitsFrom, if_pos rfl] at accepted
      split at accepted
      · next hex =>
          obtain ⟨tokens, rfl, pending⟩ := exists_textOf_eq rest accepted
          exact ⟨.digit c hex :: tokens, rfl, fun p => (pending p).cons fun _ => nofun⟩
      · rw [Bool.and_eq_true] at accepted
        obtain ⟨front, back, rfl, length, allowed, splits⟩ :=
          exists_rest_of_splitsFrom Nat.one_pos (by decide) accepted.2
        have form : isPlaceholder (c :: front) = true := by
          refine isPlaceholder_iff.mpr ⟨by rw [List.length_cons, length]; rfl, ?_⟩
          intro place d found
          cases place with
          | zero => cases found; exact accepted.1
          | succ place =>
              rw [Nat.add_comm]
              exact allowed place d found
        obtain ⟨tokens, rfl, pending⟩ := exists_textOf_eq back splits
        exact ⟨.hole ⟨c :: front, form⟩ :: tokens, rfl, fun p => (pending p).cons fun _ => nofun⟩
termination_by text.length
decreasing_by
  all_goals
    subst_vars
    simp only [List.length_cons, List.length_append]
    omega

theorem parseTemplate_eq_ok {template : Value} {contractName : String} {artifact : Artifact} :
    parseTemplate template contractName = .ok artifact ↔ ∃ object body references,
      templateObject? template = some object ∧ object.toList = '0' :: 'x' :: body ∧
        isUnlinkedHex body = true ∧ body.length % 2 = 0 ∧
        parseReferences (body.length / 2) (template.field "linkReferences") = .ok references ∧
        artifact = ofListing contractName object references := by
  constructor
  · intro parsed
    rw [parseTemplate] at parsed
    split at parsed
    · contradiction
    · next object given =>
        split at parsed
        · next body shape =>
            split at parsed
            · contradiction
            · next accepted =>
                split at parsed
                · contradiction
                · next even =>
                    obtain ⟨references, read, result⟩ := bind_eq_ok.mp parsed
                    refine ⟨object, body, references, given, shape, ?_, not_not.mp even, read, ?_⟩
                    · simpa using accepted
                    · exact (pure_eq_ok.mp result).symm
        · contradiction
  · rintro ⟨object, body, references, given, shape, accepted, even, read, rfl⟩
    simp only [parseTemplate, given, shape, accepted, even, read, bind, Except.bind, pure,
      Except.pure, Bool.not_true, Bool.false_eq_true, if_false, ne_eq, not_true_eq_false]

theorem built_entriesOf (listing : References) : Built (entriesOf listing) := by
  intro entry member
  obtain ⟨other, listed, rfl⟩ := List.mem_map.mp member
  exact (mem_assigned.mp listed).2

theorem built_of_parse {template : Value} {contractName : String} {artifact : Artifact}
    (parsed : parse template contractName = .ok artifact) : Built artifact.references := by
  rw [parse, mapError_eq_ok, parseTemplate_eq_ok] at parsed
  obtain ⟨object, _, listing, _, _, _, _, _, rfl⟩ := parsed
  exact built_entriesOf listing

/-- The text of an artifact is that of some tokens. -/
def Spells (artifact : Artifact) (tokens : List Token) : Prop :=
  artifact.object.toList = '0' :: 'x' :: textOf tokens

/-- An artifact spells digits and holes. -/
structure ReadAs (artifact : Artifact) (tokens : List Token) : Prop where
  spells : artifact.Spells tokens
  pending : ∀ p, Pending p tokens

theorem exists_readAs_of_parse {template : Value} {contractName : String} {artifact : Artifact}
    (parsed : parse template contractName = .ok artifact) :
    ∃ tokens, artifact.ReadAs tokens ∧ (textOf tokens).length % 2 = 0 := by
  rw [parse, mapError_eq_ok, parseTemplate_eq_ok] at parsed
  obtain ⟨object, body, references, _, shape, accepted, even, _, rfl⟩ := parsed
  obtain ⟨tokens, rfl, pending⟩ := exists_textOf_eq body accepted
  exact ⟨tokens, ⟨shape, pending⟩, even⟩

/-- A template that is read spells tokens, which pair up into bytes. -/
theorem exists_spells_of_parse {template : Value} {contractName : String} {artifact : Artifact}
    (parsed : parse template contractName = .ok artifact) :
    ∃ tokens, artifact.Spells tokens ∧ (textOf tokens).length % 2 = 0 := by
  obtain ⟨tokens, readAs, even⟩ := exists_readAs_of_parse parsed
  exact ⟨tokens, readAs.spells, even⟩

/-- The placeholders of an artifact are its holes. -/
theorem Spells.placeholdersIn_eq {artifact : Artifact} {tokens : List Token}
    (spells : artifact.Spells tokens) :
    placeholdersIn artifact.object.toList = (holes tokens).map Placeholder.text := by
  rw [spells, placeholdersIn_cons_of_ne (by decide), placeholdersIn_cons_of_ne (by decide),
    placeholdersIn_textOf]

end Artifact

end Rollout
