/-!
# The hash functions SHA-256, SHA-384 and SHA-512

One compression function over words of 32 or 64 bits.

**Constants.**  The initial values are fraction bits of the square roots of the first primes, and
the round constants those of their cube roots; both are computed as integer roots, so no table is
written down.
-/

namespace EntityTrust
namespace Sha2

/-- The hash functions of the family. -/
inductive Variant
  | sha256
  | sha384
  | sha512
  deriving DecidableEq

/-- Number of octets of a digest. -/
def Variant.size : Variant → Nat
  | .sha256 => 32
  | .sha384 => 48
  | .sha512 => 64

section Constants

/-- Least divisor above one, tried from `d` on. -/
def hasDivisor (n : Nat) : Nat → Bool
  | 0 | 1 => false
  | d + 2 => n % (d + 2) == 0 || hasDivisor n (d + 1)

/-- The primes below 410, which are the first 80. -/
def primes : List Nat :=
  (List.range 410).filter fun n => 2 ≤ n && !hasDivisor n (n - 1)

/-- The largest `r` with `r ^ k ≤ n`, settled bit by bit. -/
def rootBits (k n : Nat) : Nat → Nat → Nat
  | 0, r => r
  | b + 1, r =>
      let r' := r + Nat.pow 2 b
      rootBits k n b (if Nat.pow r' k ≤ n then r' else r)

/-- The first 64 fraction bits of the `k`-th root of `p`. -/
def rootFraction (k p : Nat) : Nat :=
  rootBits k (p * Nat.pow 2 (64 * k)) 70 0 % Nat.pow 2 64

/-- Round constants at 64 bits. -/
def roundConstants : Array Nat :=
  ((primes.take 80).map (rootFraction 3)).toArray

/-- Initial values at 64 bits, from the first 16 primes. -/
def rootConstants : Array Nat :=
  ((primes.take 16).map (rootFraction 2)).toArray

end Constants

/-- The words that the compression function works on. -/
class Word (w : Type) extends Add w, XorOp w, AndOp w, Complement w where
  octets : Nat
  ofNat : Nat → w
  toNat : w → Nat
  shiftRight : w → Nat → w
  rotateRight : w → Nat → w

instance : Word UInt32 where
  octets := 4
  ofNat n := UInt32.ofNat n
  toNat := UInt32.toNat
  shiftRight x n := x >>> UInt32.ofNat n
  rotateRight x n := (x >>> UInt32.ofNat n) ||| (x <<< UInt32.ofNat (32 - n))

instance : Word UInt64 where
  octets := 8
  ofNat n := UInt64.ofNat n
  toNat := UInt64.toNat
  shiftRight x n := x >>> UInt64.ofNat n
  rotateRight x n := (x >>> UInt64.ofNat n) ||| (x <<< UInt64.ofNat (64 - n))

/-- Rotations and shifts of a hash function. -/
structure Amounts where
  sum0 : Nat × Nat × Nat
  sum1 : Nat × Nat × Nat
  mix0 : Nat × Nat × Nat
  mix1 : Nat × Nat × Nat

/-- The amounts for words of 32 bits. -/
def amounts32 : Amounts where
  sum0 := (2, 13, 22)
  sum1 := (6, 11, 25)
  mix0 := (7, 18, 3)
  mix1 := (17, 19, 10)

/-- The amounts for words of 64 bits. -/
def amounts64 : Amounts where
  sum0 := (28, 34, 39)
  sum1 := (14, 18, 41)
  mix0 := (1, 8, 7)
  mix1 := (19, 61, 6)

/-- The eight words between blocks. -/
structure State (w : Type) where
  a : w
  b : w
  c : w
  d : w
  e : w
  f : w
  g : w
  h : w

section Compression

variable {w : Type} [Word w]

/-- Exclusive or of three rotations. -/
@[specialize]
def sum (r : Nat × Nat × Nat) (x : w) : w :=
  Word.rotateRight x r.1 ^^^ Word.rotateRight x r.2.1 ^^^ Word.rotateRight x r.2.2

/-- Exclusive or of two rotations and a shift. -/
@[specialize]
def mix (r : Nat × Nat × Nat) (x : w) : w :=
  Word.rotateRight x r.1 ^^^ Word.rotateRight x r.2.1 ^^^ Word.shiftRight x r.2.2

/-- Extends the words of a block by `n` more. -/
@[specialize]
def extend (m : Amounts) : Nat → Array w → Array w
  | 0, ws => ws
  | n + 1, ws =>
      let k := ws.size
      let at' (i : Nat) : w := ws.getD (k - i) (Word.ofNat 0)
      extend m n (ws.push (mix m.mix1 (at' 2) + at' 7 + mix m.mix0 (at' 15) + at' 16))

/-- One round with its constant and schedule word. -/
@[specialize]
def round (m : Amounts) (s : State w) (k x : w) : State w :=
  let t1 := s.h + sum m.sum1 s.e + ((s.e &&& s.f) ^^^ (~~~s.e &&& s.g)) + k + x
  let t2 := sum m.sum0 s.a + ((s.a &&& s.b) ^^^ (s.a &&& s.c) ^^^ (s.b &&& s.c))
  ⟨t1 + t2, s.a, s.b, s.c, s.d + t1, s.e, s.f, s.g⟩

/-- The word in big-endian octets. -/
def wordOf (bs : List UInt8) : w :=
  Word.ofNat (bs.foldl (fun n b => n * 256 + b.toNat) 0)

/-- The leading words of a list of octets. -/
def wordsOf : Nat → List UInt8 → List w
  | 0, _ => []
  | n + 1, bs => wordOf (bs.take (Word.octets w)) :: wordsOf n (bs.drop (Word.octets w))

/-- Works one block into the state. -/
@[specialize]
def compress (m : Amounts) (ks : List w) (s : State w) (block : List UInt8) : State w :=
  let ws := extend m (ks.length - 16) (wordsOf 16 block).toArray
  let t := (ks.zip ws.toList).foldl (fun t kx => round m t kx.1 kx.2) s
  ⟨s.a + t.a, s.b + t.b, s.c + t.c, s.d + t.d, s.e + t.e, s.f + t.f, s.g + t.g, s.h + t.h⟩

/-- Works `n` blocks into the state. -/
@[specialize]
def compressAll (m : Amounts) (ks : List w) : Nat → State w → List UInt8 → State w
  | 0, s, _ => s
  | n + 1, s, bs =>
      let size := 16 * Word.octets w
      compressAll m ks n (compress m ks s (bs.take size)) (bs.drop size)

/-- `count` big-endian octets of a number. -/
def octetsOf : Nat → Nat → List UInt8
  | 0, _ => []
  | count + 1, n => UInt8.ofNat (n / Nat.pow 256 count) :: octetsOf count n

/-- The message with a one bit, zeros and its length in bits, up to whole blocks. -/
def padded (word : Nat) (message : List UInt8) : List UInt8 :=
  let block := 16 * word
  let used := message.length + 1 + 2 * word
  let fill := (block - used % block) % block
  message ++ 0x80 :: (List.replicate fill 0 ++ octetsOf (2 * word) (message.length * 8))

/-- The octets of a state. -/
def State.octets (s : State w) : List UInt8 :=
  [s.a, s.b, s.c, s.d, s.e, s.f, s.g, s.h].flatMap fun x =>
    octetsOf (Word.octets w) (Word.toNat x)

/-- A state from eight numbers. -/
def State.ofArray (xs : Array Nat) : State w :=
  let at' (i : Nat) : w := Word.ofNat (xs.getD i 0)
  ⟨at' 0, at' 1, at' 2, at' 3, at' 4, at' 5, at' 6, at' 7⟩

/-- The final state of a message. -/
@[specialize]
def run (m : Amounts) (ks : List w) (initial : State w) (message : List UInt8) : State w :=
  let bs := padded (Word.octets w) message
  compressAll m ks (bs.length / (16 * Word.octets w)) initial bs

end Compression

/-- The upper 32 bits of a number of 64 bits. -/
def upper (n : Nat) : Nat :=
  n / Nat.pow 2 32

/-- Round constants for words of 32 bits. -/
def constants32 : List UInt32 :=
  (roundConstants.toList.take 64).map fun n => UInt32.ofNat (upper n)

/-- Round constants for words of 64 bits. -/
def constants64 : List UInt64 :=
  roundConstants.toList.map UInt64.ofNat

/-- The digest of a message. -/
def hash (v : Variant) (message : List UInt8) : List UInt8 :=
  match v with
  | .sha256 =>
      (run amounts32 constants32 (.ofArray (rootConstants.map upper)) message).octets
  | .sha384 =>
      ((run amounts64 constants64 (.ofArray (rootConstants.extract 8 16)) message).octets).take 48
  | .sha512 => (run amounts64 constants64 (.ofArray rootConstants) message).octets

end Sha2
end EntityTrust
