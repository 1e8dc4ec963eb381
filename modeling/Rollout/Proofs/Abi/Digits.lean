import Rollout.Abi.Encode
import Rollout.Proofs.Checked
import Rollout.Proofs.Text

/-!
# Encodings are digits

Whatever constructor arguments are encoded, the outcome consists of small hexadecimal digits.
-/

namespace Rollout

open Text

namespace Abi

theorem word_small (number : Nat) : SmallDigits (word number) := .hexOfWidth 64 number

theorem padded_small {digits : List Char} (small : SmallDigits digits) :
    SmallDigits (padded digits) := by
  refine small.append ?_
  intro c member
  rw [List.eq_of_mem_replicate member]
  rfl

theorem arrangeFrom_small {parts : List (Bool × List Char)}
    (small : ∀ part ∈ parts, SmallDigits part.2) (size : Nat) {tails : List Char}
    (behind : SmallDigits tails) : SmallDigits (arrangeFrom size tails parts) := by
  induction parts generalizing tails with
  | nil => exact behind
  | cons part parts ih =>
      obtain ⟨tail, digits⟩ := part
      have head : SmallDigits digits := small (tail, digits) List.mem_cons_self
      have rest : ∀ part ∈ parts, SmallDigits part.2 := fun part member =>
        small part (List.mem_cons_of_mem _ member)
      cases tail with
      | false => exact head.append (ih rest behind)
      | true => exact (word_small _).append (ih rest (behind.append head))

theorem arrange_small {parts : List (Bool × List Char)}
    (small : ∀ part ∈ parts, SmallDigits part.2) : SmallDigits (arrange parts) :=
  arrangeFrom_small small _ (by simp [SmallDigits])

theorem dataDigits_eq_ok {value : Value} {small : List Char} :
    dataDigits value = .ok small ↔ ∃ content mark digits, value = .text content ∧
      content.toList = '0' :: mark :: digits ∧ (mark = 'x' ∨ mark = 'X') ∧
      (∀ c ∈ digits, isHexDigit c = true) ∧ digits.length % 2 = 0 ∧
      digits.map lowerHex = small := by
  constructor
  · intro read
    cases found : dataDigits? value with
    | none => simp [dataDigits, found] at read
    | some given =>
        simp only [dataDigits, found, Except.ok.injEq] at read
        subst read
        simp only [dataDigits?] at found
        split at found
        · next content =>
            split at found
            · next mark digits shape =>
                split at found
                · next accepted =>
                    obtain ⟨marked, hex, even⟩ := accepted
                    exact ⟨content, mark, digits, rfl, shape, marked, List.all_eq_true.mp hex, even,
                      Option.some.inj found⟩
                · contradiction
            · contradiction
        · contradiction
  · rintro ⟨content, mark, digits, rfl, shape, marked, hex, even, rfl⟩
    have all : digits.all isHexDigit = true := List.all_eq_true.mpr hex
    simp [dataDigits, dataDigits?, shape, marked, all, even]

theorem dataDigits_small {value : Value} {digits : List Char}
    (read : dataDigits value = .ok digits) : SmallDigits digits := by
  obtain ⟨content, mark, given, -, -, -, hex, -, rfl⟩ := dataDigits_eq_ok.mp read
  exact .map_lowerHex (List.all_eq_true.mpr hex)

theorem addressWord_small {name : String} {value : Value} {digits : List Char}
    (encoded : addressWord name value = .ok digits) : SmallDigits digits := by
  cases read : addressNumber value with
  | ok number =>
      simp only [addressWord, read, Except.ok.injEq] at encoded
      exact encoded ▸ word_small number
  | error fault => simp [addressWord, read] at encoded

theorem integerWord_small {name : String} {signed : Bool} {size : Nat} {value : Value}
    {digits : List Char} (encoded : integerWord name signed size value = .ok digits) :
    SmallDigits digits := by
  obtain ⟨integer, _, encoded⟩ := bind_eq_ok.mp encoded
  simp only at encoded
  split at encoded
  all_goals
    split at encoded
    · exact pure_eq_ok.mp encoded ▸ word_small _
    · contradiction

mutual

theorem encode_small (type : AbiType) (name : String) (value : Value) (digits : List Char)
    (encoded : encode name type value = .ok digits) : SmallDigits digits := by
  match type with
  | .address =>
      rw [encode] at encoded
      exact addressWord_small encoded
  | .bool =>
      rw [encode, Except.ok.injEq] at encoded
      exact encoded ▸ word_small _
  | .text =>
      cases value with
      | text content =>
          rw [encode, Except.ok.injEq] at encoded
          exact encoded ▸ (word_small _).append (padded_small (.hexOfBytes _))
      | _ => simp [encode] at encoded
  | .bytes =>
      rw [encode, bind_eq_ok] at encoded
      obtain ⟨content, read, encoded⟩ := encoded
      exact pure_eq_ok.mp encoded ▸
        (word_small _).append (padded_small (dataDigits_small read))
  | .fixedBytes size =>
      rw [encode, bind_eq_ok] at encoded
      obtain ⟨content, read, encoded⟩ := encoded
      split at encoded
      · exact pure_eq_ok.mp encoded ▸ padded_small (dataDigits_small read)
      · contradiction
  | .integer signed size =>
      rw [encode] at encoded
      exact integerWord_small encoded
  | .array element length =>
      cases value with
      | list items =>
          rw [encode] at encoded
          simp only at encoded
          split at encoded
          · rw [bind_eq_ok] at encoded
            obtain ⟨parts, gathered, encoded⟩ := encoded
            have small : ∀ part ∈ parts, SmallDigits part :=
              forall_mem_of_mapM (fun item digits => encode_small element "" item digits) gathered
            refine pure_eq_ok.mp encoded ▸ SmallDigits.append ?_ (arrange_small ?_)
            · split
              · exact word_small _
              · simp [SmallDigits]
            · intro part member
              obtain ⟨digits, given, rfl⟩ := List.mem_map.mp member
              exact small digits given
          · contradiction
      | _ => simp [encode] at encoded
  | .tuple components =>
      rw [encode, bind_eq_ok] at encoded
      obtain ⟨values, _, encoded⟩ := encoded
      split at encoded
      · rw [bind_eq_ok] at encoded
        obtain ⟨parts, read, encoded⟩ := encoded
        exact pure_eq_ok.mp encoded ▸
          arrange_small (encodeAll_small components values parts read)
      · contradiction

theorem encodeAll_small (components : List (String × AbiType)) (values : List Value)
    (parts : List (Bool × List Char)) (encoded : encodeAll components values = .ok parts) :
    ∀ part ∈ parts, SmallDigits part.2 := by
  match components, values with
  | (name, type) :: components, value :: values =>
      rw [encodeAll, bind_eq_ok] at encoded
      obtain ⟨digits, head, encoded⟩ := encoded
      rw [bind_eq_ok] at encoded
      obtain ⟨rest, tail, encoded⟩ := encoded
      rw [← pure_eq_ok.mp encoded, List.forall_mem_cons]
      exact ⟨encode_small type name value digits head,
        encodeAll_small components values rest tail⟩
  | [], _ =>
      simp only [encodeAll, Except.ok.injEq] at encoded
      simp [← encoded]
  | _ :: _, [] =>
      simp only [encodeAll, Except.ok.injEq] at encoded
      simp [← encoded]

end

end Abi

theorem Arguments.encode_small {arguments : Arguments} {digits : List Char}
    (encoded : arguments.encode = .ok digits) : SmallDigits digits := by
  rw [encode] at encoded
  split at encoded
  · rw [Except.ok.injEq] at encoded
    simp [← encoded, SmallDigits]
  · split at encoded
    · contradiction
    · obtain ⟨parameters, _, encoded⟩ := bind_eq_ok.mp encoded
      obtain ⟨parts, read, encoded⟩ := bind_eq_ok.mp encoded
      exact pure_eq_ok.mp encoded ▸ Abi.arrange_small (Abi.encodeAll_small _ _ parts read)

theorem encodeArguments_small {arguments : Option Arguments} {digits : List Char}
    (encoded : encodeArguments arguments = .ok digits) : SmallDigits digits := by
  cases arguments with
  | none =>
      rw [encodeArguments, Except.ok.injEq] at encoded
      simp [← encoded, SmallDigits]
  | some arguments => exact Arguments.encode_small encoded

end Rollout
