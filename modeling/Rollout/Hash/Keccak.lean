/-!
# Keccak-256

The sponge with a rate of 136 bytes and the padding byte 1, over a state of twenty-five
lanes of sixty-four bits listed row by row.
-/

namespace Rollout.Hash

/-- The lanes of the state, the lane in column `x` and row `y` at place `x + 5 * y`. -/
abbrev Lanes := List UInt64

/-- The lane at a place. -/
def lane (state : Lanes) (place : Nat) : UInt64 := state.getD place 0

/-- Rotate a lane toward its high end; the amount is below sixty-four. -/
def rotate (word : UInt64) (amount : Nat) : UInt64 :=
  if amount = 0 then word
  else (word <<< UInt64.ofNat amount) ||| (word >>> UInt64.ofNat (64 - amount))

/-- How far each lane is rotated. -/
def rotations : List Nat :=
  [0, 1, 62, 28, 27, 36, 44, 6, 55, 20, 3, 10, 43, 25, 39, 41, 45, 15, 21, 8, 18, 2, 61, 56, 14]

/-- The constant that each round adds to the first lane. -/
def roundConstants : List UInt64 :=
  [0x0000000000000001, 0x0000000000008082, 0x800000000000808A, 0x8000000080008000,
    0x000000000000808B, 0x0000000080000001, 0x8000000080008081, 0x8000000000008009,
    0x000000000000008A, 0x0000000000000088, 0x0000000080008009, 0x000000008000000A,
    0x000000008000808B, 0x800000000000008B, 0x8000000000008089, 0x8000000000008003,
    0x8000000000008002, 0x8000000000000080, 0x000000000000800A, 0x800000008000000A,
    0x8000000080008081, 0x8000000000008080, 0x0000000080000001, 0x8000000080008008]

/-- Add to each lane the parities of the columns beside it. -/
def theta (state : Lanes) : Lanes :=
  let parity := (List.range 5).map fun x =>
    lane state x ^^^ lane state (x + 5) ^^^ lane state (x + 10) ^^^ lane state (x + 15) ^^^
      lane state (x + 20)
  let effect := (List.range 5).map fun x =>
    lane parity ((x + 4) % 5) ^^^ rotate (lane parity ((x + 1) % 5)) 1
  (List.range 25).map fun place => lane state place ^^^ lane effect (place % 5)

/-- Rotate each lane. -/
def rho (state : Lanes) : Lanes :=
  List.zipWith rotate state rotations

/-- Permute the lanes: column `x` and row `y` receive the lane of row `x`. -/
def pi (state : Lanes) : Lanes :=
  (List.range 25).map fun place =>
    let x := place % 5
    let y := place / 5
    lane state ((x + 3 * y) % 5 + 5 * x)

/-- Combine each lane with the next two of its row. -/
def chi (state : Lanes) : Lanes :=
  (List.range 25).map fun place =>
    let x := place % 5
    let row := place - x
    lane state place ^^^
      ((lane state (row + (x + 1) % 5) ^^^ 0xFFFFFFFFFFFFFFFF) &&& lane state (row + (x + 2) % 5))

/-- Add a round constant to the first lane. -/
def iota (constant : UInt64) : Lanes → Lanes
  | [] => []
  | first :: rest => (first ^^^ constant) :: rest

/-- The permutation of twenty-four rounds. -/
def permute (state : Lanes) : Lanes :=
  roundConstants.foldl (fun state constant => iota constant (chi (pi (rho (theta state))))) state

/-- Eight bytes, least significant first, as a lane. -/
def laneOfBytes (bytes : List UInt8) : UInt64 :=
  bytes.foldr (fun byte word => (word <<< 8) ||| byte.toUInt64) 0

/-- The eight bytes of a lane, least significant first. -/
def bytesOfLane (word : UInt64) : List UInt8 :=
  (List.range 8).map fun i => (word >>> UInt64.ofNat (8 * i)).toUInt8

/-- The number of bytes absorbed at a time. -/
def rate : Nat := 136

/-- Cut a list into pieces of a length, at most `fuel` of them. -/
def pieces {α : Type} (size : Nat) : Nat → List α → List (List α)
  | 0, _ => []
  | fuel + 1, items =>
      if items.isEmpty then [] else items.take size :: pieces size fuel (items.drop size)

/-- Pad a message to whole blocks: a one byte, zeros, and the top bit of the last byte. -/
def pad (message : List UInt8) : List UInt8 :=
  let room := rate - message.length % rate
  if room = 1 then message ++ [0x81]
  else message ++ 0x01 :: List.replicate (room - 2) 0x00 ++ [0x80]

/-- Mix a block into the state and permute. -/
def absorb (state : Lanes) (block : List UInt8) : Lanes :=
  let words := (pieces 8 17 block).map laneOfBytes
  permute ((List.range 25).map fun place => lane state place ^^^ lane words place)

/-- The hash of a message, thirty-two bytes. -/
def keccak256 (message : List UInt8) : List UInt8 :=
  let padded := pad message
  let state := (pieces rate (padded.length / rate) padded).foldl absorb (List.replicate 25 0)
  (state.take 4).flatMap bytesOfLane

/-- The hash of the UTF-8 bytes of a text. -/
def keccak256Text (text : List Char) : List UInt8 :=
  keccak256 (text.flatMap String.utf8EncodeChar)

end Rollout.Hash
