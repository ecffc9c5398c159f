/-
# Rollout.Keccak — the 256-bit hash of Ethereum

The sponge of Keccak with a rate of 136 bytes and the padding `0x01 … 0x80`.
A state is twenty-five lanes of 64 bits; lane `x + 5 y` is the lane at column
`x` and row `y`.  One round applies the five layers in order: column parities,
rotations, lane permutation, the row non-linearity and the round constant.
-/

namespace Rollout.Keccak

set_option autoImplicit false

abbrev State := Array UInt64

/-- The lane at an index; lanes beyond the state are zero. -/
def lane (s : State) (i : Nat) : UInt64 := s.getD i 0

/-- A lane turned left by `n` bits, for `n` below 64. -/
def rotate (w : UInt64) (n : Nat) : UInt64 :=
  if n = 0 then w else (w <<< n.toUInt64) ||| (w >>> (64 - n).toUInt64)

def rotations : Array Nat :=
  #[0, 1, 62, 28, 27, 36, 44, 6, 55, 20, 3, 10, 43, 25, 39, 41, 45, 15, 21, 8, 18, 2, 61, 56, 14]

def roundConstants : List UInt64 :=
  [0x0000000000000001, 0x0000000000008082, 0x800000000000808A, 0x8000000080008000,
   0x000000000000808B, 0x0000000080000001, 0x8000000080008081, 0x8000000000008009,
   0x000000000000008A, 0x0000000000000088, 0x0000000080008009, 0x000000008000000A,
   0x000000008000808B, 0x800000000000008B, 0x8000000000008089, 0x8000000000008003,
   0x8000000000008002, 0x8000000000000080, 0x000000000000800A, 0x800000008000000A,
   0x8000000080008081, 0x8000000000008080, 0x0000000080000001, 0x8000000080008008]

def parity (s : State) (x : Nat) : UInt64 :=
  lane s x ^^^ lane s (x + 5) ^^^ lane s (x + 10) ^^^ lane s (x + 15) ^^^ lane s (x + 20)

/-- Adds to each lane the parities of the two columns beside it. -/
def mixColumns (s : State) : State :=
  let parities := (List.range 5).toArray.map (parity s)
  (List.range 25).toArray.map fun i =>
    let x := i % 5
    lane s i ^^^ lane parities ((x + 4) % 5) ^^^ rotate (lane parities ((x + 1) % 5)) 1

/-- Turns every lane and moves the lane at `(x, y)` to `(y, 2 x + 3 y)`; the lane
that arrives at `(x, y)` comes from `(x + 3 y, x)`. -/
def spread (s : State) : State :=
  (List.range 25).toArray.map fun i =>
    let source := (i % 5 + 3 * (i / 5)) % 5 + 5 * (i % 5)
    rotate (lane s source) (rotations.getD source 0)

/-- Adds to each lane the conjunction of the complement of the next lane of its
row and the one after that. -/
def mixRows (s : State) : State :=
  (List.range 25).toArray.map fun i =>
    let x := i % 5
    let row := i - x
    lane s i ^^^ ((~~~ lane s (row + (x + 1) % 5)) &&& lane s (row + (x + 2) % 5))

def round (s : State) (constant : UInt64) : State :=
  let mixed := mixRows (spread (mixColumns s))
  mixed.setIfInBounds 0 (lane mixed 0 ^^^ constant)

def permute (s : State) : State := roundConstants.foldl round s

/-- The number of bytes taken in per permutation. -/
def rate : Nat := 136

/-- The bytes of a message with the padding that fills its last block. -/
def pad (message : List UInt8) : List UInt8 :=
  let free := rate - message.length % rate
  if free = 1 then message ++ [0x81]
  else message ++ 0x01 :: List.replicate (free - 2) 0 ++ [0x80]

/-- Eight bytes as a lane, lowest byte first. -/
def laneOfBytes (bytes : List UInt8) : UInt64 :=
  bytes.foldr (fun b w => (w <<< 8) ||| b.toUInt64) 0

/-- The eight bytes of a lane, lowest byte first. -/
def bytesOfLane (w : UInt64) : List UInt8 :=
  (List.range 8).map fun i => (w >>> (8 * i).toUInt64).toUInt8

def absorb (s : State) (block : List UInt8) : State :=
  permute ((List.range 25).toArray.map fun i =>
    lane s i ^^^ laneOfBytes ((block.drop (8 * i)).take 8))

def absorbAll (s : State) : List UInt8 → State
  | [] => s
  | first :: rest =>
      absorbAll (absorb s ((first :: rest).take rate)) ((first :: rest).drop rate)
termination_by bytes => bytes.length
decreasing_by
  simp only [List.length_drop, List.length_cons, rate]
  omega

def hash (message : List UInt8) : List UInt8 :=
  let s := absorbAll (Array.replicate 25 0) (pad message)
  (List.range 4).flatMap fun i => bytesOfLane (lane s i)

end Rollout.Keccak
