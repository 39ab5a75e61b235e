/-
Module: ModemLink.Random
Purpose: Reproducible random words, reals and truth values.
Main exports: Random, Random.ofSeed, Random.word, Random.chance
-/

namespace ModemLink

/-!
The words come from the ChaCha stream cipher with eight rounds.  The key is spread from a seed of 64
bits by a congruential generator whose output is permuted, and the cipher's blocks are cut into words
of 64 bits, the low half first.
-/

/-- A generator: the key, the number of the next block, and the words left of the last one. -/
structure Random where
  key : List UInt32
  block : UInt64
  words : List UInt64
deriving DecidableEq, Repr, Inhabited

namespace Random

/-! ## Keys -/

/-- The state of the congruential generator after this one. -/
def advance (state : UInt64) : UInt64 :=
  state * 6364136223846793005 + 11634580027462260723

/-- The 32 bits that a state stands for. -/
def permuted (state : UInt64) : UInt32 :=
  let folded := (((state >>> 18) ^^^ state) >>> 27).toUInt32
  let turn := (state >>> 59).toUInt32
  (folded >>> turn) ||| (folded <<< ((32 - turn) % 32))

/-- The next `n` outputs of the congruential generator. -/
def spread (state : UInt64) : Nat → List UInt32
  | 0 => []
  | n + 1 => permuted (advance state) :: spread (advance state) n

/-- The generator of a seed. -/
def ofSeed (seed : UInt64) : Random :=
  ⟨spread seed 8, 0, []⟩

/-! ## Blocks -/

/-- Turn a word left. -/
def rotate (x : UInt32) (n : UInt32) : UInt32 :=
  (x <<< n) ||| (x >>> (32 - n))

/-- Stir four words of a block. -/
def quarterRound (s : Vector UInt32 16) (a b c d : Fin 16) : Vector UInt32 16 :=
  let s := s.set a (s[a] + s[b])
  let s := s.set d (rotate (s[d] ^^^ s[a]) 16)
  let s := s.set c (s[c] + s[d])
  let s := s.set b (rotate (s[b] ^^^ s[c]) 12)
  let s := s.set a (s[a] + s[b])
  let s := s.set d (rotate (s[d] ^^^ s[a]) 8)
  let s := s.set c (s[c] + s[d])
  s.set b (rotate (s[b] ^^^ s[c]) 7)

/-- Two rounds: the columns of the block, then its diagonals. -/
def doubleRound (s : Vector UInt32 16) : Vector UInt32 16 :=
  let s := quarterRound s 0 4 8 12
  let s := quarterRound s 1 5 9 13
  let s := quarterRound s 2 6 10 14
  let s := quarterRound s 3 7 11 15
  let s := quarterRound s 0 5 10 15
  let s := quarterRound s 1 6 11 12
  let s := quarterRound s 2 7 8 13
  quarterRound s 3 4 9 14

/-- The words in front of the key in every block. -/
def constants : List UInt32 :=
  [0x61707865, 0x3320646e, 0x79622d32, 0x6b206574]

/-- The block before any round: four constants, the key, and the number of the block. -/
def initial (key : List UInt32) (block : UInt64) : Vector UInt32 16 :=
  let words := constants ++ key ++ [block.toUInt32, (block >>> 32).toUInt32]
  Vector.ofFn fun i => words.getD i 0

/-- A block of the cipher: its rounds added to where they began. -/
def cipher (key : List UInt32) (block : UInt64) : Vector UInt32 16 :=
  let start := initial key block
  let stirred := doubleRound (doubleRound (doubleRound (doubleRound start)))
  Vector.zipWith (· + ·) start stirred

/-- Pairs of 32 bits as words, the low half first. -/
def paired : List UInt32 → List UInt64
  | low :: high :: rest => (low.toUInt64 ||| (high.toUInt64 <<< 32)) :: paired rest
  | _ => []

/-! ## Values -/

/-- The next word. -/
def word (random : Random) : UInt64 × Random :=
  match random.words with
  | word :: rest => (word, { random with words := rest })
  | [] =>
    match paired (cipher random.key random.block).toList with
    | word :: rest => (word, ⟨random.key, random.block + 1, rest⟩)
    | [] => (0, random)

/-- A float with the given fraction between `2 ^ exponent` and its double. -/
def withExponent (exponent : UInt64) (fraction : UInt64) : Float :=
  Float.ofBits (((1023 + exponent) <<< 52) ||| fraction)

/-- A real from 0 inclusive to 1 exclusive, on a grid of 53 bits. -/
def unit (random : Random) : Float × Random :=
  let (bits, random) := random.word
  ((bits >>> 11).toFloat * Float.ofBits 0x3CA0000000000000, random)

/-- A real between 0 and 1, both exclusive, on a grid of 52 bits. -/
def openUnit (random : Random) : Float × Random :=
  let (bits, random) := random.word
  (withExponent 0 (bits >>> 12) - Float.ofBits 0x3FEFFFFFFFFFFFFF, random)

/-- True with a probability above 0.  Nothing is drawn for certainty. -/
def chance (random : Random) (probability : Float) : Bool × Random :=
  if probability == 1 then (true, random)
  else
    let (bits, random) := random.word
    (bits < (probability * Float.ofBits 0x43F0000000000000).toUInt64, random)

end Random

end ModemLink
