import Rollout.LightClient.State
import Rollout.Proofs.Abi.Words

/-!
# Constructing the light client of tests

Its constructor takes a genesis state and a limit on the history, which are encoded in nine words:
the fields in the order of their declaration, then the limit.  What does not fit into its type is
refused, never cut down to it, so that the words tell the arguments apart.
-/

namespace Rollout

/-- The data of constructor arguments. -/
def argumentData (arguments : Option Arguments) : Except ArgumentFault String :=
  (encodeArguments arguments).map fun digits => String.ofList ('0' :: 'x' :: digits)

/-- The number with the sign of a zero taken off. -/
def Number.withPlainZero : Number → Number
  | negativeZero => int 0
  | number => number

theorem Number.withPlainZero_of_toInt? {number : Number} {value : Int}
    (equals : number.toInt? = some value) : number.withPlainZero = .int value := by
  cases number with
  | int => cases equals; rfl
  | negativeZero => cases equals; rfl
  | fraction | infinite | notANumber => contradiction

/-! ## The types of the arguments -/

theorem Arguments.readTypes_cons {text : String} {parameter : AbiParameter} {rest : List String}
    {parameters : List AbiParameter} (first : AbiType.ofText? text = some parameter)
    (others : readTypes rest = .ok parameters) :
    readTypes (text :: rest) = .ok (parameter :: parameters) := by
  simp only [readTypes, first, others]
  rfl

namespace LightClientState

/-- The names of the fields with their sizes in bytes, in the order of the argument type. -/
def components : List (String × Nat) :=
  [("viewNum", 8), ("blockHeight", 8), ("blockCommRoot", 32), ("feeLedgerComm", 32),
    ("stakeTableBlsKeyComm", 32), ("stakeTableSchnorrKeyComm", 32), ("stakeTableAmountComm", 32),
    ("threshold", 32)]

/-- The tokens of the argument type, the last one first. -/
def signatureTokens : List AbiType.Token :=
  [.closing, .name "threshold", .typeWord "uint256", .comma,
    .name "stakeTableAmountComm", .typeWord "uint256", .comma,
    .name "stakeTableSchnorrKeyComm", .typeWord "uint256", .comma,
    .name "stakeTableBlsKeyComm", .typeWord "uint256", .comma,
    .name "feeLedgerComm", .typeWord "uint256", .comma,
    .name "blockCommRoot", .typeWord "uint256", .comma,
    .name "blockHeight", .typeWord "uint64", .comma,
    .name "viewNum", .typeWord "uint64", .opening, .keyword "tuple"]

theorem tokens_signature :
    AbiType.tokens? (signature.length + 1) [] signature.toList = some signatureTokens := by
  decide +kernel

/-- The argument type names the fields in order, the first two with eight bytes each. -/
theorem ofText?_signature :
    AbiType.ofText? signature = some ("", .tuple (Abi.unsigned components)) := by
  rw [AbiType.ofText?, tokens_signature]
  rfl

theorem readTypes_signature :
    Arguments.readTypes [signature, "uint32"] =
      .ok [("", .tuple (Abi.unsigned components)), ("", .integer false 4)] := by
  have seconds : AbiType.ofText? "uint32" = some ("", .integer false 4) := rfl
  exact Arguments.readTypes_cons ofText?_signature (Arguments.readTypes_cons seconds rfl)

theorem components_narrow : ∀ component ∈ components, component.2 ≤ 32 := by decide

theorem length_fields (state : LightClientState) : state.fields.length = components.length := rfl

end LightClientState

/-! ## The encoded arguments -/

namespace MockArguments

open LightClientState (components)

/-- Every part of the arguments fits into its type. -/
structure Fits (arguments : MockArguments) : Prop where
  viewNum : InRange 64 arguments.genesis.viewNum
  blockHeight : InRange 64 arguments.genesis.blockHeight
  blockCommRoot : InRange 256 arguments.genesis.blockCommRoot
  feeLedgerComm : InRange 256 arguments.genesis.feeLedgerComm
  stakeTableBlsKeyComm : InRange 256 arguments.genesis.stakeTableBlsKeyComm
  stakeTableSchnorrKeyComm : InRange 256 arguments.genesis.stakeTableSchnorrKeyComm
  stakeTableAmountComm : InRange 256 arguments.genesis.stakeTableAmountComm
  threshold : InRange 256 arguments.genesis.threshold
  /-- The limit is an integer. -/
  maxHistorySeconds : ∃ seconds, arguments.maxHistorySeconds.toInt? = some seconds ∧
    InRange 32 seconds

/-- The arguments with the sign of a zero taken off. -/
def withPlainZero (arguments : MockArguments) : MockArguments :=
  { arguments with maxHistorySeconds := arguments.maxHistorySeconds.withPlainZero }

/-- Read data of nine words as arguments. -/
def ofData? (text : String) : Option MockArguments :=
  match Abi.readWords 9 (text.toList.drop 2) with
  | [viewNum, blockHeight, blockCommRoot, feeLedgerComm, stakeTableBlsKeyComm,
      stakeTableSchnorrKeyComm, stakeTableAmountComm, threshold, maxHistorySeconds] =>
      some
        { genesis :=
            { viewNum, blockHeight, blockCommRoot, feeLedgerComm, stakeTableBlsKeyComm,
              stakeTableSchnorrKeyComm, stakeTableAmountComm, threshold }
          maxHistorySeconds := .int maxHistorySeconds }
  | _ => none

/-- The integers of the words: the fields in the order of their declaration, then the limit. -/
def integers (genesis : LightClientState) (seconds : Int) : List Int := genesis.fields ++ [seconds]

/-- The mark followed by one word for each integer. -/
def layout (genesis : LightClientState) (seconds : Int) : List Char :=
  '0' :: 'x' :: (integers genesis seconds).flatMap fun value => Abi.word value.toNat

/-- Data is the mark followed by nine words of sixty-four digits each. -/
structure FillsWords (arguments : MockArguments) (text : String) : Prop where
  size : text.length = 2 + 9 * 64
  words : ∃ seconds, arguments.maxHistorySeconds.toInt? = some seconds ∧
    text.toList = layout arguments.genesis seconds

variable {arguments : MockArguments}

theorem fields_inRange :
    List.Forall₂ (fun component value => InRange (component.2 * 8) value) components
        arguments.genesis.fields ↔
      InRange 64 arguments.genesis.viewNum ∧ InRange 64 arguments.genesis.blockHeight ∧
        InRange 256 arguments.genesis.blockCommRoot ∧
        InRange 256 arguments.genesis.feeLedgerComm ∧
        InRange 256 arguments.genesis.stakeTableBlsKeyComm ∧
        InRange 256 arguments.genesis.stakeTableSchnorrKeyComm ∧
        InRange 256 arguments.genesis.stakeTableAmountComm ∧
        InRange 256 arguments.genesis.threshold := by
  simp [components, LightClientState.fields]

theorem fits_iff :
    arguments.Fits ↔
      List.Forall₂ (fun component value => InRange (component.2 * 8) value) components
          arguments.genesis.fields ∧
        ∃ seconds, arguments.maxHistorySeconds.toInt? = some seconds ∧ InRange 32 seconds := by
  rw [fields_inRange]
  constructor
  · rintro ⟨view, height, root, ledger, bls, schnorr, amount, threshold, seconds⟩
    exact ⟨⟨view, height, root, ledger, bls, schnorr, amount, threshold⟩, seconds⟩
  · rintro ⟨⟨view, height, root, ledger, bls, schnorr, amount, threshold⟩, seconds⟩
    exact ⟨view, height, root, ledger, bls, schnorr, amount, threshold, seconds⟩

/-- What is encoded fits into a word. -/
theorem Fits.inRange (fits : arguments.Fits) {seconds : Int}
    (equals : arguments.maxHistorySeconds.toInt? = some seconds) :
    ∀ value ∈ integers arguments.genesis seconds, InRange 256 value := by
  obtain ⟨given, same, range⟩ := fits.maxHistorySeconds
  obtain rfl := Option.some.inj (equals.symm.trans same)
  simp only [integers, LightClientState.fields, List.cons_append, List.nil_append,
    List.forall_mem_cons]
  exact ⟨fits.viewNum.widen (by decide), fits.blockHeight.widen (by decide), fits.blockCommRoot,
    fits.feeLedgerComm, fits.stakeTableBlsKeyComm, fits.stakeTableSchnorrKeyComm,
    fits.stakeTableAmountComm, fits.threshold, range.widen (by decide), List.forall_mem_nil _⟩

/-- A limit is encoded if and only if it is an integer that fits. -/
theorem encode_seconds {number : Number} {digits : List Char} :
    Abi.encode "" (.integer false 4) (.number number) = .ok digits ↔
      ∃ seconds, number.toInt? = some seconds ∧ InRange 32 seconds ∧
        Abi.word seconds.toNat = digits := by
  rw [Abi.encode, Abi.integerWord_eq_ok (by decide)]
  refine exists_congr fun seconds => ?_
  rw [Abi.integerOfValue_number, and_assoc]
  refine and_congr_right fun _ => and_iff_right_of_imp fun ⟨range, _⟩ => ?_
  obtain ⟨least, most⟩ := range
  have limit : powerOf 2 (4 * 8) = 4294967296 := rfl
  rw [limit] at most
  rw [Abi.largestSafeInteger]
  omega

/-- The encoding of the genesis followed by that of the limit. -/
theorem encodeArguments_eq (arguments : MockArguments) :
    encodeArguments (some arguments.toArguments) = (do
      let state ← Abi.encode "" (.tuple (Abi.unsigned components))
        (.list (arguments.genesis.fields.map .integer))
      let limit ← Abi.encode "" (.integer false 4) (.number arguments.maxHistorySeconds)
      return state ++ limit) := by
  have static : (AbiType.tuple (Abi.unsigned components)).isDynamic = false :=
    Abi.hasDynamic_unsigned components
  have arranged (state limit : List Char) :
      Abi.arrange [(false, state), (false, limit)] = state ++ limit := by
    have flat := Abi.arrange_static [state, limit]
    rwa [List.flatten_cons, List.flatten_singleton] at flat
  have nothing : Abi.encodeAll [] [] = .ok [] := by simp [Abi.encodeAll]
  rw [encodeArguments, Arguments.encode, toArguments, if_neg (by simp), if_neg (by simp),
    LightClientState.readTypes_signature]
  change (Abi.encodeAll _ _ >>= _) = _
  rw [Abi.encodeAll, Abi.encodeAll, nothing, static]
  generalize Abi.encode "" (.tuple _) _ = state
  generalize Abi.encode "" (.integer false 4) _ = limit
  cases state with
  | error fault => rfl
  | ok state =>
      cases limit with
      | error fault => rfl
      | ok limit => exact congrArg Except.ok (arranged state limit)

theorem encodeArguments_eq_ok {digits : List Char} :
    encodeArguments (some arguments.toArguments) = .ok digits ↔
      arguments.Fits ∧ ∃ seconds, arguments.maxHistorySeconds.toInt? = some seconds ∧
        ((integers arguments.genesis seconds).flatMap fun value => Abi.word value.toNat) =
          digits := by
  have state (digits : List Char) :
      Abi.encode "" (.tuple (Abi.unsigned components))
          (.list (arguments.genesis.fields.map .integer)) = .ok digits ↔
        List.Forall₂ (fun component value => InRange (component.2 * 8) value) components
            arguments.genesis.fields ∧
          (arguments.genesis.fields.flatMap fun value => Abi.word value.toNat) = digits :=
    Abi.encode_unsigned "" LightClientState.components_narrow
      (LightClientState.length_fields arguments.genesis)
  simp only [encodeArguments_eq, bind_eq_ok, pure_eq_ok, state, encode_seconds, fits_iff, integers,
    List.flatMap_append, List.flatMap_singleton]
  constructor
  · rintro ⟨_, ⟨ranges, rfl⟩, _, ⟨seconds, equals, range, rfl⟩, rfl⟩
    exact ⟨⟨ranges, seconds, equals, range⟩, seconds, equals, rfl⟩
  · rintro ⟨⟨ranges, given, same, range⟩, seconds, equals, rfl⟩
    obtain rfl := Option.some.inj (equals.symm.trans same)
    exact ⟨_, ⟨ranges, rfl⟩, _, ⟨seconds, equals, range, rfl⟩, rfl⟩

theorem encodeArguments_fault {fault : ArgumentFault}
    (refused : encodeArguments (some arguments.toArguments) = .error fault) :
    fault.code = .invalid := by
  rw [encodeArguments_eq, bind_eq_error] at refused
  obtain refused | ⟨_, _, refused⟩ := refused
  · exact Abi.encode_unsigned_fault "" (LightClientState.length_fields arguments.genesis) refused
  · obtain refused | ⟨_, _, refused⟩ := bind_eq_error.mp refused
    · rw [Abi.encode] at refused
      exact Abi.integerWord_fault refused
    · contradiction

/-- The words read back as the arguments. -/
theorem Fits.ofData?_eq (fits : arguments.Fits) {seconds : Int}
    (equals : arguments.maxHistorySeconds.toInt? = some seconds) {text : String}
    (words : text.toList = layout arguments.genesis seconds) :
    ofData? text = some arguments.withPlainZero := by
  have ranges := fits.inRange equals
  have read : Abi.readWords 9 (text.toList.drop 2) =
      (integers arguments.genesis seconds).map Int.toNat := by
    have all : ∀ number ∈ (integers arguments.genesis seconds).map Int.toNat,
        number < powerOf 2 256 := by
      intro number member
      obtain ⟨value, given, rfl⟩ := List.mem_map.mp member
      exact (ranges value given).toNat_lt
    have back := Abi.readWords_words all
    rw [List.flatMap_map] at back
    rw [words]
    exact back
  have natural (value : Int) (member : value ∈ integers arguments.genesis seconds) :
      (value.toNat : Int) = value := Int.toNat_of_nonneg (ranges value member).1
  obtain ⟨genesis, limit⟩ := arguments
  simp only [integers, LightClientState.fields, List.cons_append, List.nil_append,
    List.map_cons, List.map_nil, List.mem_cons, List.not_mem_nil, or_false, forall_eq_or_imp,
    forall_eq] at read natural
  obtain ⟨view, height, root, ledger, bls, schnorr, amount, threshold, last⟩ := natural
  simp only [ofData?, read, view, height, root, ledger, bls, schnorr, amount, threshold, last]
  rw [withPlainZero, Number.withPlainZero_of_toInt? equals]

theorem length_layout (genesis : LightClientState) (seconds : Int) :
    (layout genesis seconds).length = 2 + 9 * 64 := by
  have size := Abi.length_words ((integers genesis seconds).map Int.toNat)
  rw [List.flatMap_map, List.length_map] at size
  rw [layout, List.length_cons, List.length_cons, size]
  rfl

/-! ## The data of the arguments -/

/-- The data of the arguments. -/
def data (arguments : Option MockArguments) : Except ArgumentFault String :=
  argumentData (some (mockConstructorArguments arguments))

theorem data_eq (arguments : MockArguments) :
    data (some arguments) =
      (encodeArguments (some arguments.toArguments)).map fun digits =>
        String.ofList ('0' :: 'x' :: digits) := rfl

theorem data_eq_ok {text : String} :
    data (some arguments) = .ok text ↔
      arguments.Fits ∧ ∃ seconds, arguments.maxHistorySeconds.toInt? = some seconds ∧
        text.toList = layout arguments.genesis seconds := by
  rw [data_eq, map_eq_ok]
  constructor
  · rintro ⟨digits, encoded, rfl⟩
    obtain ⟨fits, seconds, equals, rfl⟩ := encodeArguments_eq_ok.mp encoded
    exact ⟨fits, seconds, equals, String.toList_ofList⟩
  · rintro ⟨fits, seconds, equals, words⟩
    refine ⟨_, encodeArguments_eq_ok.mpr ⟨fits, seconds, equals, rfl⟩, ?_⟩
    rw [← String.toList_inj, String.toList_ofList, words, layout]

/-- What becomes of arguments when they are encoded. -/
structure EncodesFaithfully (arguments : MockArguments) : Prop where
  /-- They have data if and only if every part fits into its type. -/
  encoded_iff : (∃ text, data (some arguments) = .ok text) ↔ arguments.Fits
  /-- The data has one word for each part. -/
  words : ∀ text, data (some arguments) = .ok text → arguments.FillsWords text
  /-- The words read back as the arguments. -/
  recovered : ∀ text, data (some arguments) = .ok text →
    ofData? text = some arguments.withPlainZero
  /-- Different arguments have different data. -/
  distinct : ∀ other text, data (some arguments) = .ok text → data (some other) = .ok text →
    arguments.withPlainZero = other.withPlainZero
  /-- Arguments of which a part does not fit are refused as invalid. -/
  refused : ¬ arguments.Fits →
    ∃ fault, data (some arguments) = .error fault ∧ fault.code = .invalid

theorem recovered {text : String} (encoded : data (some arguments) = .ok text) :
    ofData? text = some arguments.withPlainZero := by
  obtain ⟨fits, _, equals, words⟩ := data_eq_ok.mp encoded
  exact fits.ofData?_eq equals words

theorem Fits.exists_data (fits : arguments.Fits) : ∃ text, data (some arguments) = .ok text := by
  obtain ⟨seconds, equals, _⟩ := fits.maxHistorySeconds
  refine ⟨String.ofList (layout arguments.genesis seconds), ?_⟩
  exact data_eq_ok.mpr ⟨fits, seconds, equals, String.toList_ofList⟩

theorem usual_fits : usual.Fits where
  viewNum := by decide
  blockHeight := by decide
  blockCommRoot := by decide
  feeLedgerComm := by decide
  stakeTableBlsKeyComm := by decide
  stakeTableSchnorrKeyComm := by decide
  stakeTableAmountComm := by decide
  threshold := by decide
  maxHistorySeconds := ⟨_, rfl, by decide⟩

end MockArguments

open MockArguments (data) in
/-- Arguments are encoded in nine words when every part fits into its type and refused otherwise;
the words give the arguments back, and without arguments they are those of the dummy genesis with
no limit on the history. -/
theorem encodes_faithfully :
    (∀ arguments : MockArguments, arguments.EncodesFaithfully) ∧
      ∃ text, data none = .ok text ∧
        data (some ⟨LightClientState.dummyGenesis, .int (powerOf 2 32 - 1)⟩) = .ok text := by
  refine ⟨fun arguments => ?_, ?_⟩
  · refine ⟨⟨?_, MockArguments.Fits.exists_data⟩, ?_, ?_, ?_, ?_⟩
    · rintro ⟨_, encoded⟩
      exact (MockArguments.data_eq_ok.mp encoded).1
    · intro text encoded
      obtain ⟨_, seconds, equals, words⟩ := MockArguments.data_eq_ok.mp encoded
      refine ⟨?_, seconds, equals, words⟩
      rw [← String.length_toList, words, MockArguments.length_layout]
    · exact fun text => MockArguments.recovered
    · intro other text first second
      have same := (MockArguments.recovered first).symm.trans (MockArguments.recovered second)
      exact Option.some.inj same
    · intro unfit
      have none : ¬ ∃ text, data (some arguments) = .ok text := fun ⟨_, encoded⟩ =>
        unfit (MockArguments.data_eq_ok.mp encoded).1
      obtain ⟨fault, refused⟩ := exists_error_iff.mpr none
      refine ⟨fault, refused, ?_⟩
      rw [MockArguments.data_eq, map_eq_error] at refused
      exact MockArguments.encodeArguments_fault refused
  · have limit : (powerOf 2 32 - 1 : Int) = 0xffffffff := by decide
    obtain ⟨text, encoded⟩ := MockArguments.usual_fits.exists_data
    refine ⟨text, ?_, ?_⟩
    · rw [data, mockConstructorArguments] at encoded ⊢
      exact encoded
    · rw [limit]
      exact encoded

end Rollout
