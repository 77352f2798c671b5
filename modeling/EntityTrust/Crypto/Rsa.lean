import EntityTrust.Crypto.Modular
import EntityTrust.Crypto.Sha2

/-!
# RSA signatures

Verification with the paddings of PKCS #1: the deterministic one and PSS with a salt as long as the
digest.

**Keys.**  The modulus has 2048 to 8192 bits (the lower bound counts whole octets) and is odd; the
exponent is odd, at least 3 and below 2^33.  Both are written without leading zeros.
-/

namespace EntityTrust
namespace Rsa

/-- How a digest is laid out in the signed number. -/
inductive Scheme
  | deterministic
  | pss
  deriving DecidableEq

/-- An admissible public key. -/
structure PublicKey where
  modulus : Nat
  exponent : Nat
  size : Nat

/-- The key given by a modulus and an exponent in big-endian octets. -/
def publicKey? (n e : List UInt8) : Option PublicKey :=
  let modulus := Modular.ofBig n
  let exponent := Modular.ofBig e
  if n.head? = some 0 ∨ n.isEmpty ∨ modulus % 2 = 0 ∨ n.length < 256 ∨
      Modular.bits modulus > 8192 then none
  else if e.head? = some 0 ∨ e.isEmpty ∨ e.length > 5 ∨ exponent % 2 = 0 ∨ exponent < 3 ∨
      exponent ≥ Nat.pow 2 33 then none
  else some ⟨modulus, exponent, n.length⟩

/-- What stands before the digest in the deterministic padding. -/
def digestHeader : Sha2.Variant → List UInt8
  | .sha256 => header 49 1 32
  | .sha384 => header 65 2 48
  | .sha512 => header 81 3 64
where
  header (length algorithm size : UInt8) : List UInt8 :=
    [0x30, length, 0x30, 13, 6, 9, 0x60, 0x86, 0x48, 1, 0x65, 3, 4, 2, algorithm, 5, 0, 4, size]

/-- The deterministic padding of a message digest in `size` octets. -/
def deterministicPadding (v : Sha2.Variant) (size : Nat) (message : List UInt8) : List UInt8 :=
  let tail := digestHeader v ++ Sha2.hash v message
  0 :: 1 :: (List.replicate (size - 3 - tail.length) 0xFF ++ 0 :: tail)

/-- The mask of `blocks` digests generated from a seed. -/
def mask (v : Sha2.Variant) (seed : List UInt8) (blocks : Nat) : List UInt8 :=
  (List.range blocks).flatMap fun i => Sha2.hash v (seed ++ Modular.toBig 4 i)

/-- Whether `block` is a PSS padding of the message, for a modulus of `modulusBits` bits. -/
def isPssPadding (v : Sha2.Variant) (modulusBits : Nat) (message block : List UInt8) : Bool :=
  let size := v.size
  let length := (modulusBits - 1 + 7) / 8
  let spareBits := 8 * length - (modulusBits - 1)
  let lead := block.take (block.length - length)
  let padded := block.drop (block.length - length)
  let dataLength := length - size - 1
  let masked := padded.take dataLength
  let digest := (padded.drop dataLength).take size
  let topLimit := Nat.pow 2 (8 - spareBits)
  let unmasked := (masked.zip (mask v digest ((dataLength + size - 1) / size))).map
    fun p => p.1 ^^^ p.2
  let cleared :=
    match unmasked with
    | [] => []
    | b :: bs => UInt8.ofNat (b.toNat % topLimit) :: bs
  let fill := dataLength - size - 1
  let salt := cleared.drop (fill + 1)
  lead.all (· == 0) && 2 * size + 2 ≤ length && padded.getLast? == some 0xBC &&
    (masked.head?.map fun b => decide (b.toNat < topLimit)) == some true &&
    (cleared.take fill).all (· == 0) && (cleared.drop fill).head? == some 1 &&
    Sha2.hash v (List.replicate 8 0 ++ Sha2.hash v message ++ salt) == digest

/-- Whether a signature of a message is valid under a key. -/
def verify (scheme : Scheme) (v : Sha2.Variant) (n e message signature : List UInt8) : Bool :=
  match publicKey? n e with
  | none => false
  | some key =>
      let s := Modular.ofBig signature
      if signature.length = key.size ∧ s < key.modulus ∧ s ≠ 0 then
        let block := Modular.toBig key.size (Modular.pow key.modulus s key.exponent)
        match scheme with
        | .deterministic => block == deterministicPadding v key.size message
        | .pss => isPssPadding v (Modular.bits key.modulus) message block
      else false

end Rsa
end EntityTrust
