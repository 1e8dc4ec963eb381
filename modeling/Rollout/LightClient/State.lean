import Rollout.Abi.Encode

/-!
# Light client states

The finalized state that a light client starts from, and the constructor arguments of the light
client of tests.
-/

namespace Rollout

/-- A finalized state. -/
structure LightClientState where
  /-- The view. -/
  viewNum : Int
  /-- The height of the block. -/
  blockHeight : Int
  /-- The commitment to the block. -/
  blockCommRoot : Int
  /-- The commitment to the fee ledger. -/
  feeLedgerComm : Int
  /-- The commitment to the stake table's signature keys. -/
  stakeTableBlsKeyComm : Int
  /-- The commitment to the stake table's state keys. -/
  stakeTableSchnorrKeyComm : Int
  /-- The commitment to the staked amounts. -/
  stakeTableAmountComm : Int
  /-- The stake that a quorum needs. -/
  threshold : Int
  deriving DecidableEq, Inhabited

namespace LightClientState

/-- The argument type of a state. -/
def signature : String :=
  "tuple(uint64 viewNum, uint64 blockHeight, uint256 blockCommRoot, uint256 feeLedgerComm, " ++
    "uint256 stakeTableBlsKeyComm, uint256 stakeTableSchnorrKeyComm, " ++
    "uint256 stakeTableAmountComm, uint256 threshold)"

/-- The fields in the order of the argument type. -/
def fields (state : LightClientState) : List Int :=
  [state.viewNum, state.blockHeight, state.blockCommRoot, state.feeLedgerComm,
    state.stakeTableBlsKeyComm, state.stakeTableSchnorrKeyComm, state.stakeTableAmountComm,
    state.threshold]

/-- The genesis of test deployments. -/
def dummyGenesis : LightClientState :=
  { viewNum := 0
    blockHeight := 0
    blockCommRoot := 0
    feeLedgerComm := 0
    stakeTableBlsKeyComm := 123
    stakeTableSchnorrKeyComm := 123
    stakeTableAmountComm := 20
    threshold := 1 }

end LightClientState

/-- What the light client of tests is constructed with. -/
structure MockArguments where
  /-- The state that it starts from. -/
  genesis : LightClientState
  /-- For how many seconds it keeps states. -/
  maxHistorySeconds : Number
  deriving DecidableEq, Inhabited

namespace MockArguments

/-- The dummy genesis with no limit on the history. -/
def usual : MockArguments := ⟨LightClientState.dummyGenesis, .int 0xffffffff⟩

/-- The constructor arguments. -/
def toArguments (arguments : MockArguments) : Arguments :=
  { types := [LightClientState.signature, "uint32"]
    values :=
      [.list (arguments.genesis.fields.map .integer), .number arguments.maxHistorySeconds] }

end MockArguments

/-- The constructor arguments of the light client of tests, by default the usual ones. -/
def mockConstructorArguments (arguments : Option MockArguments) : Arguments :=
  (arguments.getD MockArguments.usual).toArguments

end Rollout
