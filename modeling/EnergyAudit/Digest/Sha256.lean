/-! # SHA-256

The digest of a list of bytes.  The bytes are padded to whole blocks of sixteen 32-bit words, and
each block in turn is worked into a state of eight words, which in the end is the digest. -/

namespace EnergyAudit.Sha256

/-- The eight words that the blocks are worked into. -/
structure State where
  a : UInt32
  b : UInt32
  c : UInt32
  d : UInt32
  e : UInt32
  f : UInt32
  g : UInt32
  h : UInt32
deriving DecidableEq

def State.words (s : State) : List UInt32 :=
  [s.a, s.b, s.c, s.d, s.e, s.f, s.g, s.h]

/-- Sum of the states, word by word. -/
def State.add (s t : State) : State :=
  ⟨s.a + t.a, s.b + t.b, s.c + t.c, s.d + t.d, s.e + t.e, s.f + t.f, s.g + t.g, s.h + t.h⟩

def initial : State :=
  ⟨0x6a09e667, 0xbb67ae85, 0x3c6ef372, 0xa54ff53a, 0x510e527f, 0x9b05688c, 0x1f83d9ab, 0x5be0cd19⟩

def roundConstants : List UInt32 :=
  [0x428a2f98, 0x71374491, 0xb5c0fbcf, 0xe9b5dba5, 0x3956c25b, 0x59f111f1, 0x923f82a4, 0xab1c5ed5,
   0xd807aa98, 0x12835b01, 0x243185be, 0x550c7dc3, 0x72be5d74, 0x80deb1fe, 0x9bdc06a7, 0xc19bf174,
   0xe49b69c1, 0xefbe4786, 0x0fc19dc6, 0x240ca1cc, 0x2de92c6f, 0x4a7484aa, 0x5cb0a9dc, 0x76f988da,
   0x983e5152, 0xa831c66d, 0xb00327c8, 0xbf597fc7, 0xc6e00bf3, 0xd5a79147, 0x06ca6351, 0x14292967,
   0x27b70a85, 0x2e1b2138, 0x4d2c6dfc, 0x53380d13, 0x650a7354, 0x766a0abb, 0x81c2c92e, 0x92722c85,
   0xa2bfe8a1, 0xa81a664b, 0xc24b8b70, 0xc76c51a3, 0xd192e819, 0xd6990624, 0xf40e3585, 0x106aa070,
   0x19a4c116, 0x1e376c08, 0x2748774c, 0x34b0bcb5, 0x391c0cb3, 0x4ed8aa4a, 0x5b9cca4f, 0x682e6ff3,
   0x748f82ee, 0x78a5636f, 0x84c87814, 0x8cc70208, 0x90befffa, 0xa4506ceb, 0xbef9a3f7, 0xc67178f2]

/-- The word turned right by `n` bits. -/
def rotate (x : UInt32) (n : UInt32) : UInt32 :=
  (x >>> n) ||| (x <<< (32 - n))

/-- The next word of the schedule, where `back` holds those before it, last one first. -/
def nextWord (back : List UInt32) : UInt32 :=
  let x := back.getD 14 0
  let y := back.getD 1 0
  let small := rotate x 7 ^^^ rotate x 18 ^^^ (x >>> 3)
  let large := rotate y 17 ^^^ rotate y 19 ^^^ (y >>> 10)
  back.getD 15 0 + small + back.getD 6 0 + large

/-- The words of a block and the 48 that are derived from them. -/
def schedule (block : List UInt32) : List UInt32 :=
  ((List.range 48).foldl (fun back _ => nextWord back :: back) block.reverse).reverse

/-- One round with its constant and its word. -/
def round (s : State) (k w : UInt32) : State :=
  let large := rotate s.e 6 ^^^ rotate s.e 11 ^^^ rotate s.e 25
  let choice := (s.e &&& s.f) ^^^ ((~~~s.e) &&& s.g)
  let first := s.h + large + choice + k + w
  let small := rotate s.a 2 ^^^ rotate s.a 13 ^^^ rotate s.a 22
  let majority := (s.a &&& s.b) ^^^ (s.a &&& s.c) ^^^ (s.b &&& s.c)
  ⟨first + (small + majority), s.a, s.b, s.c, s.d + first, s.e, s.f, s.g⟩

def compress (s : State) (block : List UInt32) : State :=
  s.add ((roundConstants.zip (schedule block)).foldl (fun t (k, w) => round t k w) s)

/-- Works `count` blocks of sixteen words into the state. -/
def compressAll : Nat → State → List UInt32 → State
  | 0, s, _ => s
  | count + 1, s, words => compressAll count (compress s (words.take 16)) (words.drop 16)

/-- The bytes of a number, `width` of them, the most significant first. -/
def bigEndian (width n : Nat) : List UInt8 :=
  (List.range width).reverse.map fun place => UInt8.ofNat ((n >>> (8 * place)) % 256)

/-- The bytes with a final one bit, zeros, and their count of bits, in whole blocks. -/
def padded (bytes : List UInt8) : List UInt8 :=
  bytes ++ 0x80 :: List.replicate ((119 - bytes.length % 64) % 64) 0
    ++ bigEndian 8 (8 * bytes.length)

/-- Joins each four bytes to a word. -/
def words : List UInt8 → List UInt32
  | a :: b :: c :: d :: rest =>
      ((a.toUInt32 <<< 24) ||| (b.toUInt32 <<< 16) ||| (c.toUInt32 <<< 8) ||| d.toUInt32)
        :: words rest
  | _ => []

/-- The eight words of the digest. -/
def digest (bytes : List UInt8) : List UInt32 :=
  let blocks := words (padded bytes)
  (compressAll (blocks.length / 16) initial blocks).words

/-- The eight hexadecimal digits of a word. -/
def hexWord (word : UInt32) : List Char :=
  (List.range 8).reverse.map fun place =>
    let digit := (word.toNat >>> (4 * place)) % 16
    if digit < 10 then Char.ofNat ('0'.toNat + digit) else Char.ofNat ('a'.toNat + (digit - 10))

/-- The digest in hexadecimal, 64 digits in small letters. -/
def hex (bytes : List UInt8) : List Char :=
  (digest bytes).flatMap hexWord

theorem hexWord_length (word : UInt32) : (hexWord word).length = 8 := by
  simp [hexWord]

theorem hex_length (bytes : List UInt8) : (hex bytes).length = 64 := by
  simp [hex, digest, State.words, hexWord_length]

-- The digest that the standard gives for the letters "abc".
example : hex [0x61, 0x62, 0x63] =
    "ba7816bf8f01cfea414140de5dae2223b00361a396177a9cb410ff61f20015ad".toList := by
  decide +kernel

end EnergyAudit.Sha256
