import DocQuery.Number.Power

/-! The SHA-1 digest.

A message is padded to blocks of sixteen words of 32 bits. Each block is stretched to
eighty words, which are mixed into five words of state one by one. -/
namespace DocQuery.Sha1

structure State where
  a : UInt32
  b : UInt32
  c : UInt32
  d : UInt32
  e : UInt32
  deriving DecidableEq, Repr

def start : State := ⟨0x67452301, 0xEFCDAB89, 0x98BADCFE, 0x10325476, 0xC3D2E1F0⟩

def rotate (word : UInt32) (bits : UInt32) : UInt32 :=
  (word <<< bits) ||| (word >>> (32 - bits))

/-! ### Bytes and words -/

/-- The bytes of a number, the highest first. -/
def bigEndian : (count : Nat) → Nat → List UInt8
  | 0, _ => []
  | count + 1, n => UInt8.ofNat (n / 256 ^ count) :: bigEndian count n

/-- The message, one bit, zeros to the next block, and the length in bits. -/
def pad (message : List UInt8) : List UInt8 :=
  let zeros := (119 - message.length % 64) % 64
  message ++ [0x80] ++ List.replicate zeros 0 ++ bigEndian 8 (8 * message.length)

def word (bytes : List UInt8) : UInt32 :=
  bytes.foldl (fun sum byte => sum <<< 8 ||| byte.toUInt32) 0

/-- Words of four bytes each. -/
def words : List UInt8 → List UInt32
  | a :: b :: c :: d :: rest => word [a, b, c, d] :: words rest
  | _ => []

/-! ### Mixing -/

/-- Eighty words from the last sixteen, which are kept last first. -/
def stretch : (count : Nat) → List UInt32 → List UInt32
  | 0, recent => recent
  | count + 1, recent =>
    let ago (i : Nat) : UInt32 := recent[i]?.getD 0
    stretch count (rotate (ago 2 ^^^ ago 7 ^^^ ago 13 ^^^ ago 15) 1 :: recent)

/-- The function and the constant of a round. -/
def mixer (round : Nat) (b c d : UInt32) : UInt32 × UInt32 :=
  if round < 20 then ((b &&& c) ||| (~~~b &&& d), 0x5A827999)
  else if round < 40 then (b ^^^ c ^^^ d, 0x6ED9EBA1)
  else if round < 60 then ((b &&& c) ||| (b &&& d) ||| (c &&& d), 0x8F1BBCDC)
  else (b ^^^ c ^^^ d, 0xCA62C1D6)

def step (s : State) (round : Nat) (word : UInt32) : State :=
  let (f, k) := mixer round s.b s.c s.d
  ⟨rotate s.a 5 + f + s.e + k + word, s.a, rotate s.b 30, s.c, s.d⟩

def steps : (round : Nat) → State → List UInt32 → State
  | _, s, [] => s
  | round, s, word :: rest => steps (round + 1) (step s round word) rest

def block (s : State) (words : List UInt32) : State :=
  let mixed := steps 0 s (stretch 64 words.reverse).reverse
  ⟨s.a + mixed.a, s.b + mixed.b, s.c + mixed.c, s.d + mixed.d, s.e + mixed.e⟩

/-- The state after a number of blocks. -/
def blocks : (count : Nat) → State → List UInt32 → State
  | 0, s, _ => s
  | count + 1, s, words => blocks count (block s (words.take 16)) (words.drop 16)

/-- The twenty bytes of the digest. -/
def digest (message : List UInt8) : List UInt8 :=
  let words := words (pad message)
  let s := blocks (words.length / 16) start words
  [s.a, s.b, s.c, s.d, s.e].flatMap fun word => bigEndian 4 word.toNat

end DocQuery.Sha1
