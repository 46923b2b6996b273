/-
  SHA-256 (FIPS 180-4) over byte lists.

  The message is padded to a multiple of 64 bytes, cut into blocks of sixteen 32-bit words, and
  folded through the compression function; the digest is the eight state words in big-endian
  order.  Everything is structurally recursive, so the kernel can evaluate it.
-/
import Mathlib.Algebra.Group.Nat.Defs
import Mathlib.Data.List.Basic

namespace Aurora

/-- A byte string. -/
abbrev Bytes := List UInt8

namespace Sha256

/-- The words SHA-256 computes with. -/
abbrev Word := BitVec 32

/-- The largest `r` with `r ^ k ≤ n`, looked for bit by bit below `2 ^ bits`. -/
def integerRoot (k n : Nat) : Nat → Nat → Nat
  | 0, r => r
  | bits + 1, r => integerRoot k n bits (if (r + 2 ^ bits) ^ k ≤ n then r + 2 ^ bits else r)

/-- The first 64 primes: no prime below 18 divides them properly. -/
def primes : List Nat :=
  (List.range 312).filter fun n =>
    2 ≤ n && [2, 3, 5, 7, 11, 13, 17].all fun d => n ≤ d || n % d ≠ 0

/-- The first 32 bits of the fractional part of the `k`-th root of `p`. -/
def rootFraction (k p : Nat) : Word := BitVec.ofNat 32 (integerRoot k (p * 2 ^ (32 * k)) 40 0)

/-- The round constants: fractional parts of the cube roots of the first 64 primes. -/
def roundConstants : List Word := primes.map (rootFraction 3)

/-- The eight working variables. -/
structure State where
  (a b c d e f g h : Word)

/-- The initial state: fractional parts of the square roots of the first eight primes. -/
def initial : State :=
  ⟨rootFraction 2 2, rootFraction 2 3, rootFraction 2 5, rootFraction 2 7,
    rootFraction 2 11, rootFraction 2 13, rootFraction 2 17, rootFraction 2 19⟩

/-- The first sum of a round, -/
def bigSigma0 (x : Word) : Word := x.rotateRight 2 ^^^ x.rotateRight 13 ^^^ x.rotateRight 22

/-- and the second one. -/
def bigSigma1 (x : Word) : Word := x.rotateRight 6 ^^^ x.rotateRight 11 ^^^ x.rotateRight 25

/-- The first sum of the schedule, -/
def smallSigma0 (x : Word) : Word := x.rotateRight 7 ^^^ x.rotateRight 18 ^^^ (x >>> 3)

/-- and the second one. -/
def smallSigma1 (x : Word) : Word := x.rotateRight 17 ^^^ x.rotateRight 19 ^^^ (x >>> 10)

/-- The first word chooses between the two others. -/
def choose (x y z : Word) : Word := (x &&& y) ^^^ (~~~x &&& z)

/-- What two of the three words agree on. -/
def majority (x y z : Word) : Word := (x &&& y) ^^^ (x &&& z) ^^^ (y &&& z)

/-- One round, with its constant and its schedule word. -/
def round (s : State) (kw : Word × Word) : State :=
  let t₁ := s.h + bigSigma1 s.e + choose s.e s.f s.g + kw.1 + kw.2
  let t₂ := bigSigma0 s.a + majority s.a s.b s.c
  ⟨t₁ + t₂, s.a, s.b, s.c, s.d + t₁, s.e, s.f, s.g⟩

/-- Extend the message schedule by `n` words; `recent` holds the schedule so far, newest first. -/
def extend : Nat → List Word → List Word
  | 0, recent => recent
  | n + 1, recent =>
    extend n ((smallSigma1 (recent.getD 1 0) + recent.getD 6 0 + smallSigma0 (recent.getD 14 0)
      + recent.getD 15 0) :: recent)

/-- The sixty-four words of a block. -/
def schedule (block : List Word) : List Word := (extend 48 block.reverse).reverse

/-- One block. -/
def compress (s : State) (block : List Word) : State :=
  let r := (roundConstants.zip (schedule block)).foldl round s
  ⟨s.a + r.a, s.b + r.b, s.c + r.c, s.d + r.d, s.e + r.e, s.f + r.f, s.g + r.g, s.h + r.h⟩

/-- The `n` low bytes of a number, most significant first. -/
def bigEndian (n value : Nat) : Bytes :=
  (List.range n).reverse.map fun i => UInt8.ofNat (value / 256 ^ i)

/-- Append a one bit, zeros and the bit length, up to a multiple of 64 bytes. -/
def pad (message : Bytes) : Bytes :=
  message ++ 0x80 :: List.replicate ((119 - message.length % 64) % 64) 0
    ++ bigEndian 8 (8 * message.length)

/-- Four bytes a word. -/
def words : Bytes → List Word
  | a :: b :: c :: d :: rest =>
    BitVec.ofNat 32 (((a.toNat * 256 + b.toNat) * 256 + c.toNat) * 256 + d.toNat) :: words rest
  | _ => []

/-- Cut a word list into `n` blocks of sixteen. -/
def blocks : Nat → List Word → List (List Word)
  | 0, _ => []
  | n + 1, ws => ws.take 16 :: blocks n (ws.drop 16)

end Sha256

/-- The SHA-256 digest of a message. -/
def sha256 (message : Bytes) : Bytes :=
  let ws := Sha256.words (Sha256.pad message)
  let s := (Sha256.blocks (ws.length / 16) ws).foldl Sha256.compress Sha256.initial
  [s.a, s.b, s.c, s.d, s.e, s.f, s.g, s.h].flatMap fun w => Sha256.bigEndian 4 w.toNat

/-- Every digest has 32 bytes. -/
theorem length_sha256 (message : Bytes) : (sha256 message).length = 32 := by
  simp [sha256, Sha256.bigEndian]

/-- The digest of `abc` in the standard's appendix. -/
example : sha256 [97, 98, 99] =
    [0xba, 0x78, 0x16, 0xbf, 0x8f, 0x01, 0xcf, 0xea, 0x41, 0x41, 0x40, 0xde, 0x5d, 0xae, 0x22, 0x23,
     0xb0, 0x03, 0x61, 0xa3, 0x96, 0x17, 0x7a, 0x9c, 0xb4, 0x10, 0xff, 0x61, 0xf2, 0x00, 0x15, 0xad] := by
  decide +kernel

end Aurora
