import Rollout.LightClient.Deployment
import Rollout.Proofs.Artifact.Inheritance
import Rollout.Proofs.Artifact.Placeholder
import Rollout.Proofs.Creation

/-!
# Images of light clients

Both variants of the light client have one slot for each of their two libraries.  Linking writes
the small digits of the addresses over the slots and changes nothing else, and what comes out is a
complete image.
-/

namespace Rollout.LightClient

open Artifact Text

/-- The variant that a run deploys. -/
def Variant.ofMock (mock : Bool) : Variant := if mock then LightClient.mock else production

/-- The templates of the libraries. -/
def libraries : List Template := [.plonkVerifier, .stateUpdateVK, .stateUpdateVKMock]

/-- The byte at which both variants hold the address of the proof verifier. -/
def verifierByte : Nat := 12

/-- The byte at which both variants hold the address of their verification key. -/
def keyByte : Nat := 34

namespace Variant

/-- The image of a variant in which the small digits of two addresses are written over the slots of
the libraries; two characters stand in front of the first byte. -/
def linked (variant : Variant) (verifier key : Address) : List Char :=
  overwrite (2 + 2 * keyByte) key.lowerDigits
    (overwrite (2 + 2 * verifierByte) verifier.lowerDigits variant.template.object.toList)

/-- The creation image of a variant with both libraries linked. -/
def image (variant : Variant) (verifier key : Address) : CreationImage :=
  ⟨variant.template.name, String.ofList (variant.linked verifier key)⟩

/-- The artifact of a variant with both libraries linked. -/
def complete (variant : Variant) (verifier key : Address) : Artifact :=
  { contractName := variant.template.name
    object := String.ofList (variant.linked verifier key)
    references := [] }

/-- The parts of the image of a variant. -/
structure Layout (variant : Variant) where
  /-- The file of the verification key. -/
  keyFile : List Char
  /-- The name of the verification key within its file. -/
  keyName : List Char
  /-- The digits up to the slot of the proof verifier. -/
  front : List Char
  /-- What stands in the slot of the proof verifier. -/
  verifierSlot : List Char
  /-- The digits between the slots. -/
  middle : List Char
  /-- What stands in the slot of the verification key. -/
  keySlot : List Char
  /-- The digits behind the slots. -/
  back : List Char
  loaded : variant.template.load = .ok
    { contractName := variant.template.name
      object := variant.template.object
      references :=
        [(Template.plonkVerifierFile, [("PlonkVerifier", [⟨.int verifierByte, .int 20⟩])]),
          (String.ofList keyFile, [(String.ofList keyName, [⟨.int keyByte, .int 20⟩])])] }
  keyTemplate_library : variant.keyTemplate ∈ libraries
  named : splitQualifiedName? variant.keyLibrary.toList = some (keyFile, keyName)
  otherFile : String.ofList keyFile ≠ Template.plonkVerifierFile
  entered : String.ofList keyFile ≠ parentName
  object : variant.template.object.toList =
    '0' :: 'x' :: (front ++ verifierSlot ++ middle ++ keySlot ++ back)
  front_length : front.length = 2 * verifierByte
  verifierSlot_length : verifierSlot.length = placeholderLength
  middle_length : front.length + placeholderLength + middle.length = 2 * keyByte
  keySlot_length : keySlot.length = placeholderLength
  back_even : back.length % 2 = 0
  front_small : SmallDigits front
  middle_small : SmallDigits middle
  back_small : SmallDigits back
  verifierSlot_narrow : Narrow verifierSlot
  keySlot_narrow : Narrow keySlot
  keySlot_other : ¬ placeholder Template.plonkVerifierLibrary.toList <:+: keySlot ++ back

end Variant

theorem resolve_library {template : Template} (library : template ∈ libraries) :
    template.load.bind Artifact.resolve = .ok ⟨template.name, template.object⟩ := by
  have resolved : ∀ template ∈ libraries, (template.load.bind Artifact.resolve).toOption =
      some ⟨template.name, template.object⟩ := by
    decide +kernel
  exact eq_ok_of_toOption (resolved template library)

theorem library_digits {template : Template} (library : template ∈ libraries) :
    ∃ digits, template.object.toList = '0' :: 'x' :: digits ∧ SmallDigits digits ∧
      digits.length % 2 = 0 := by
  have parts : ∀ template ∈ libraries,
      template.object.toList = '0' :: 'x' :: template.object.toList.drop 2 ∧
        SmallDigits (template.object.toList.drop 2) ∧
        (template.object.toList.drop 2).length % 2 = 0 := by
    decide +kernel
  exact ⟨_, parts template library⟩

/-- A library is created by its template alone. -/
theorem creationData_library {template : Template} (library : template ∈ libraries) :
    Broadcast.creationData ⟨template.name, template.object⟩ none = .ok template.object := by
  obtain ⟨digits, shape, small, even⟩ := library_digits library
  have encoded := @Broadcast.creationData_eq ⟨template.name, template.object⟩ digits [] none
    shape small even rfl
  rwa [List.append_nil, String.ofList_toList] at encoded

def productionLayout : production.Layout where
  keyFile := Template.stateUpdateVKFile.toList
  keyName := "LightClientStateUpdateVK".toList
  front := "602d80600b6000396000f373".toList
  verifierSlot := "__$5c5c07cf4f55be9472c2b47d897172e765$__".toList
  middle := "5073".toList
  keySlot := "__$d53c34a4bb2fd34f6057e8312cdf5f1e79$__".toList
  back := "5000".toList
  loaded := eq_ok_of_toOption (by decide +kernel)
  keyTemplate_library := by decide
  named := by decide +kernel
  otherFile := by decide +kernel
  entered := by decide +kernel
  object := by decide +kernel
  front_length := by decide +kernel
  verifierSlot_length := by decide +kernel
  middle_length := by decide +kernel
  keySlot_length := by decide +kernel
  back_even := by decide +kernel
  front_small := by decide +kernel
  middle_small := by decide +kernel
  back_small := by decide +kernel
  verifierSlot_narrow := by decide +kernel
  keySlot_narrow := by decide +kernel
  keySlot_other := by
    rw [placeholder_plonkVerifier]
    decide +kernel

def mockLayout : mock.Layout where
  keyFile := Template.stateUpdateVKMockFile.toList
  keyName := "LightClientStateUpdateVKMock".toList
  front := "603080600b6000396000f373".toList
  verifierSlot := "__$5c5c07cf4f55be9472c2b47d897172e765$__".toList
  middle := "5073".toList
  keySlot := "__$d81e1b0aa3773bc0e99ebeed37b64f4ed5$__".toList
  back := "5060015000".toList
  loaded := eq_ok_of_toOption (by decide +kernel)
  keyTemplate_library := by decide
  named := by decide +kernel
  otherFile := by decide +kernel
  entered := by decide +kernel
  object := by decide +kernel
  front_length := by decide +kernel
  verifierSlot_length := by decide +kernel
  middle_length := by decide +kernel
  keySlot_length := by decide +kernel
  back_even := by decide +kernel
  front_small := by decide +kernel
  middle_small := by decide +kernel
  back_small := by decide +kernel
  verifierSlot_narrow := by decide +kernel
  keySlot_narrow := by decide +kernel
  keySlot_other := by
    rw [placeholder_plonkVerifier]
    decide +kernel

namespace Variant

def layout (mocked : Bool) : (ofMock mocked).Layout :=
  match mocked with
  | true => mockLayout
  | false => productionLayout

namespace Layout

variable {variant : Variant} (layout : variant.Layout) (verifier key : Address)

theorem named_verifier :
    splitQualifiedName? Template.plonkVerifierLibrary.toList =
      some (Template.plonkVerifierFile.toList, "PlonkVerifier".toList) := by
  decide +kernel

/-- The digits of the image when both slots are filled. -/
def digits : List Char :=
  layout.front ++ verifier.lowerDigits ++ layout.middle ++ key.lowerDigits ++ layout.back

/-- Linking has filled both slots and changed nothing else. -/
theorem linked_eq : variant.linked verifier key = '0' :: 'x' :: layout.digits verifier key := by
  have verifier_length : verifier.lowerDigits.length = layout.verifierSlot.length := by
    rw [verifier.length_lowerDigits, layout.verifierSlot_length, placeholderLength]
  have key_length : key.lowerDigits.length = layout.keySlot.length := by
    rw [key.length_lowerDigits, layout.keySlot_length, placeholderLength]
  have first_place : 2 + 2 * verifierByte = ('0' :: 'x' :: layout.front).length := by
    rw [List.length_cons, List.length_cons, layout.front_length, Nat.add_comm]
  have second_place : 2 + 2 * keyByte =
      ('0' :: 'x' :: (layout.front ++ verifier.lowerDigits ++ layout.middle)).length := by
    simp only [List.length_cons, List.length_append, verifier_length, layout.verifierSlot_length,
      layout.middle_length]
    omega
  have first := overwrite_append first_place verifier_length
    (layout.middle ++ layout.keySlot ++ layout.back)
  have second := overwrite_append second_place key_length layout.back
  simp only [List.cons_append, List.append_assoc] at first second
  simp only [linked, layout.object, digits, List.append_assoc, first, second]

theorem digits_small : SmallDigits (layout.digits verifier key) :=
  (((layout.front_small.append verifier.lowerDigits_small).append layout.middle_small).append
    key.lowerDigits_small).append layout.back_small

theorem digits_even : (layout.digits verifier key).length % 2 = 0 := by
  have ends := layout.middle_length
  have even := layout.back_even
  simp only [digits, List.length_append, Address.length_lowerDigits]
  rw [placeholderLength] at ends
  omega

/-- The artifact with only the proof verifier linked. -/
def halfLinked : Artifact :=
  { contractName := variant.template.name
    object := String.ofList ('0' :: 'x' ::
      (layout.front ++ verifier.lowerDigits ++ (layout.middle ++ layout.keySlot ++ layout.back)))
    references := [(String.ofList layout.keyFile,
      [(String.ofList layout.keyName, [⟨.int keyByte, .int 20⟩])])] }

theorem link_verifier {artifact : Artifact} (loaded : variant.template.load = .ok artifact) :
    artifact.applyLink Template.plonkVerifierLibrary verifier.text =
      .ok (layout.halfLinked verifier) := by
  obtain rfl := Except.ok.inj (layout.loaded.symm.trans loaded)
  have first : (Number.int verifierByte).double = .int layout.front.length := by
    rw [layout.front_length]
    decide +kernel
  have last : (Number.int layout.front.length).addInt placeholderLength =
      .int (layout.front.length + placeholderLength : Nat) := by
    rw [layout.front_length]
    decide +kernel
  have narrow : Narrow (layout.front ++ layout.verifierSlot ++
      (layout.middle ++ layout.keySlot ++ layout.back)) :=
    (layout.front_small.narrow.append layout.verifierSlot_narrow).append
      ((layout.middle_small.narrow.append layout.keySlot_narrow).append layout.back_small.narrow)
  have settled : replaceAll (placeholder Template.plonkVerifierLibrary.toList)
      verifier.lowerDigits (layout.front ++ verifier.lowerDigits ++
        (layout.middle ++ layout.keySlot ++ layout.back)) =
      layout.front ++ verifier.lowerDigits ++
        (layout.middle ++ layout.keySlot ++ layout.back) := by
    have small := (layout.front_small.append verifier.lowerDigits_small).append layout.middle_small
    have rest := replaceAll_eq_self layout.keySlot_other verifier.lowerDigits
    rw [← List.append_assoc, ← List.append_assoc, List.append_assoc _ layout.keySlot]
    exact (replaceAll_append (small.not_mem rfl) _ _).trans (congrArg _ rest)
  have recorded : recorded?
      [(Template.plonkVerifierFile, [("PlonkVerifier", [⟨.int verifierByte, .int 20⟩])]),
        (String.ofList layout.keyFile,
          [(String.ofList layout.keyName, [⟨.int keyByte, .int 20⟩])])]
      (String.ofList Template.plonkVerifierFile.toList)
      (String.ofList "PlonkVerifier".toList) = some [⟨.int verifierByte, .int 20⟩] := by
    simp [recorded?, lookup?]
  have object : variant.template.object.toList = '0' :: 'x' ::
      (layout.front ++ layout.verifierSlot ++
        (layout.middle ++ layout.keySlot ++ layout.back)) := by
    rw [layout.object]
    simp only [List.append_assoc]
  rw [applyLink, linkLibrary_eq named_verifier (referencesFound_of_recorded? recorded) first last
    object layout.verifierSlot_length narrow settled]
  simp [Except.mapError, relinked, halfLinked, forget, without, assigned, parentsWithout, lookup?,
    layout.otherFile, layout.entered]

theorem link_key :
    (layout.halfLinked verifier).applyLink variant.keyLibrary key.text =
      .ok (variant.complete verifier key) := by
  have filled := (layout.front_small.append verifier.lowerDigits_small).append layout.middle_small
  have length : (layout.front ++ verifier.lowerDigits ++ layout.middle).length = 2 * keyByte := by
    rw [List.length_append, List.length_append, verifier.length_lowerDigits]
    exact layout.middle_length
  have first : (Number.int keyByte).double =
      .int (layout.front ++ verifier.lowerDigits ++ layout.middle).length := by
    rw [length]
    decide +kernel
  have last : (Number.int (layout.front ++ verifier.lowerDigits ++ layout.middle).length).addInt
      placeholderLength =
      .int ((layout.front ++ verifier.lowerDigits ++ layout.middle).length +
        placeholderLength : Nat) := by
    rw [length]
    decide +kernel
  have narrow : Narrow (layout.front ++ verifier.lowerDigits ++ layout.middle ++
      layout.keySlot ++ layout.back) :=
    (filled.narrow.append layout.keySlot_narrow).append layout.back_small.narrow
  have settled : replaceAll (placeholder variant.keyLibrary.toList) key.lowerDigits
      (layout.digits verifier key) = layout.digits verifier key := by
    have absent : '_' ∉ layout.digits verifier key :=
      (layout.digits_small verifier key).not_mem rfl
    exact replaceAll_of_not_mem absent key.lowerDigits
  have recorded : recorded? (layout.halfLinked verifier).references
      (String.ofList layout.keyFile) (String.ofList layout.keyName) =
        some [⟨.int keyByte, .int 20⟩] := by
    simp [recorded?, lookup?, halfLinked]
  have object : (layout.halfLinked verifier).object.toList = '0' :: 'x' ::
      (layout.front ++ verifier.lowerDigits ++ layout.middle ++ layout.keySlot ++
        layout.back) := by
    simp [halfLinked]
  rw [applyLink, linkLibrary_eq layout.named (referencesFound_of_recorded? recorded) first last
    object layout.keySlot_length narrow settled]
  simp [Except.mapError, relinked, halfLinked, forget, without, assigned, parentsWithout, lookup?,
    complete, layout.linked_eq, digits]

include layout in
theorem image_toList :
    (variant.image verifier key).bytecode.toList = '0' :: 'x' :: layout.digits verifier key := by
  rw [image, layout.linked_eq, String.toList_ofList]

include layout in
/-- The linked image is complete. -/
theorem resolve_complete :
    (variant.complete verifier key).resolve = .ok (variant.image verifier key) :=
  resolve_eq (layout.image_toList verifier key) (layout.digits_small verifier key)
    (layout.digits_even verifier key)

include layout in
theorem creationData_image {arguments : Option Arguments} {encoded : List Char}
    (given : encodeArguments arguments = .ok encoded) :
    Broadcast.creationData (variant.image verifier key) arguments =
      .ok (String.ofList (variant.linked verifier key ++ encoded)) := by
  have data := Broadcast.creationData_eq (layout.image_toList verifier key)
    (layout.digits_small verifier key) (layout.digits_even verifier key) given
  rwa [layout.image_toList, ← layout.linked_eq] at data

end Layout

end Variant

end Rollout.LightClient
