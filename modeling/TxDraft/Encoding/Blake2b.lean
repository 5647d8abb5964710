import TxDraft.Bytes

/-!
# BLAKE2b

The hash function without a key, for digests of up to sixty-four bytes.
-/

namespace TxDraft.Blake2b

/-- The initial chain value. -/
def initial : List UInt64 :=
  [0x6a09e667f3bcc908, 0xbb67ae8584caa73b, 0x3c6ef372fe94f82b, 0xa54ff53a5f1d36f1,
   0x510e527fade682d1, 0x9b05688c2b3e6c1f, 0x1f83d9abfb41bd6b, 0x5be0cd19137e2179]

/-- The order in which each round takes the words of a block. -/
def schedule : List (List Nat) :=
  [[0, 1, 2, 3, 4, 5, 6, 7, 8, 9, 10, 11, 12, 13, 14, 15],
   [14, 10, 4, 8, 9, 15, 13, 6, 1, 12, 0, 2, 11, 7, 5, 3],
   [11, 8, 12, 0, 5, 2, 15, 13, 10, 14, 3, 6, 7, 1, 9, 4],
   [7, 9, 3, 1, 13, 12, 11, 14, 2, 6, 5, 10, 4, 0, 15, 8],
   [9, 0, 5, 7, 2, 4, 10, 15, 14, 1, 11, 12, 6, 8, 3, 13],
   [2, 12, 6, 10, 0, 11, 8, 3, 4, 13, 7, 5, 15, 14, 1, 9],
   [12, 5, 1, 15, 14, 13, 4, 10, 0, 7, 6, 3, 9, 2, 8, 11],
   [13, 11, 7, 14, 12, 1, 3, 9, 5, 0, 15, 4, 8, 6, 2, 10],
   [6, 15, 14, 9, 11, 3, 0, 8, 12, 2, 13, 7, 1, 4, 10, 5],
   [10, 2, 8, 4, 7, 6, 1, 5, 15, 11, 9, 14, 3, 12, 13, 0],
   [0, 1, 2, 3, 4, 5, 6, 7, 8, 9, 10, 11, 12, 13, 14, 15],
   [14, 10, 4, 8, 9, 15, 13, 6, 1, 12, 0, 2, 11, 7, 5, 3]]

/-- The four positions that each of the eight mixings of a round works on. -/
def positions : List (Nat × Nat × Nat × Nat) :=
  [(0, 4, 8, 12), (1, 5, 9, 13), (2, 6, 10, 14), (3, 7, 11, 15),
   (0, 5, 10, 15), (1, 6, 11, 12), (2, 7, 8, 13), (3, 4, 9, 14)]

/-- A word turned right. -/
def rotate (x : UInt64) (n : UInt64) : UInt64 :=
  (x >>> n) ||| (x <<< (64 - n))

/-- Mixes two words of the block into four words of the state. -/
def mix (v : Array UInt64) (p : Nat × Nat × Nat × Nat) (x y : UInt64) : Array UInt64 :=
  let (ia, ib, ic, id) := p
  let a := v.getD ia 0
  let b := v.getD ib 0
  let c := v.getD ic 0
  let d := v.getD id 0
  let a := a + b + x
  let d := rotate (d ^^^ a) 32
  let c := c + d
  let b := rotate (b ^^^ c) 24
  let a := a + b + y
  let d := rotate (d ^^^ a) 16
  let c := c + d
  let b := rotate (b ^^^ c) 63
  (((v.setIfInBounds ia a).setIfInBounds ib b).setIfInBounds ic c).setIfInBounds id d

/-- One round: eight mixings with the words of the block in the order of the round. -/
def round (block : Array UInt64) (v : Array UInt64) (order : List Nat) : Array UInt64 :=
  (positions.zipIdx).foldl
    (fun v p => mix v p.1 (block.getD (order.getD (2 * p.2) 0) 0)
      (block.getD (order.getD (2 * p.2 + 1) 0) 0)) v

/-- Takes a block into the chain value; `count` bytes have been taken with it. -/
def compress (chain : List UInt64) (block : Array UInt64) (count : Nat) (last : Bool) :
    List UInt64 :=
  let counter := UInt64.ofNat count
  let high := UInt64.ofNat (count / Nat.pow 2 64)
  let tail :=
    match initial with
    | [a, b, c, d, e, f, g, h] =>
      [a, b, c, d, e ^^^ counter, f ^^^ high, (if last then ~~~g else g), h]
    | other => other
  let v := schedule.foldl (round block) (chain ++ tail).toArray
  (chain.zipIdx).map fun h => h.1 ^^^ v.getD h.2 0 ^^^ v.getD (h.2 + 8) 0

/-- A word from at most eight bytes, the least significant first. -/
def word (bytes : Bytes) : UInt64 :=
  UInt64.ofNat (Bytes.toNat bytes.reverse)

/-- The sixteen words of a block of at most 128 bytes, padded with zeros. -/
def blockWords (bytes : Bytes) : Array UInt64 :=
  ((List.range 16).map fun i => word ((bytes.drop (8 * i)).take 8)).toArray

/-- Takes all blocks; `fuel` bounds their number. -/
def absorb : (fuel : Nat) → List UInt64 → (taken : Nat) → Bytes → List UInt64
  | 0, chain, _, _ => chain
  | fuel + 1, chain, taken, bytes =>
    if bytes.length ≤ 128 then compress chain (blockWords bytes) (taken + bytes.length) true
    else
      absorb fuel (compress chain (blockWords (bytes.take 128)) (taken + 128) false) (taken + 128)
        (bytes.drop 128)

/-- The eight bytes of a word, the least significant first. -/
def wordBytes (x : UInt64) : Bytes :=
  (Bytes.bigEndian 8 x.toNat).reverse

/-- The digest of `size` bytes. -/
def hash (size : Nat) (bytes : Bytes) : Bytes :=
  let chain :=
    match initial with
    | h :: rest => (h ^^^ (0x01010000 ^^^ UInt64.ofNat size)) :: rest
    | [] => []
  ((absorb (bytes.length / 128 + 1) chain 0 bytes).flatMap wordBytes).take size

end TxDraft.Blake2b
