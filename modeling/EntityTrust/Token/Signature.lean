import EntityTrust.Crypto.Ecdsa
import EntityTrust.Crypto.Ed25519
import EntityTrust.Crypto.Rsa
import EntityTrust.Token.Basic

/-!
# Signatures of tokens

**Verifiers.**  A `Verifier` decides whether a compact token verifies under a key, in a monad of its
own, so that a caller may count, record or replace the decisions.

**Real verification.**  `verifySignature` takes only asymmetric algorithms that agree with the kind
of the key and with the algorithm it declares.

**Choice of key.**  `verifyWith` takes the key that the header names; a token without a name, or
with one that the key set lacks, does not verify.
-/

namespace EntityTrust

/-- Decides whether a compact token verifies under a key. -/
abbrev Verifier (m : Type → Type) := String → Jwk → m Bool

namespace Signature

/-- Whether an algorithm belongs to a kind of key. -/
def suits (a : Algorithm) : KeyMaterial → Bool
  | .rsa .. =>
      match a with
      | .rs256 | .rs384 | .rs512 | .ps256 | .ps384 | .ps512 => true
      | _ => false
  | .ellipticCurve .. =>
      match a with
      | .es256 | .es384 => true
      | _ => false
  | .octetPair .. => a == .edDsa
  | .octets _ => false

/-- Whether an algorithm is usable with a key. -/
def matchesKey (a : Algorithm) (k : Jwk) : Bool :=
  (match k.algorithm with
    | some declared => declared == .signing a
    | none => true) && suits a k.material

/-- The octets of the numbers or coordinates of a key. -/
inductive KeyOctets
  | pair (first second : List UInt8)
  | single (octets : List UInt8)

/-- The octets of a key. -/
def keyOctets : KeyMaterial → Except TokenError KeyOctets
  | .rsa n e => do pure (.pair (← Header.segment n) (← Header.segment e))
  | .ellipticCurve _ x y => do pure (.pair (← Header.segment x) (← Header.segment y))
  | .octetPair _ x => do pure (.single (← Header.segment x))
  | .octets k => do pure (.single (← Header.segment k))

/-- Whether a signature of a message is valid by an algorithm under key octets. -/
def check (a : Algorithm) (key : KeyOctets) (message signature : List UInt8) : Bool :=
  match a, key with
  | .rs256, .pair n e => Rsa.verify .deterministic .sha256 n e message signature
  | .rs384, .pair n e => Rsa.verify .deterministic .sha384 n e message signature
  | .rs512, .pair n e => Rsa.verify .deterministic .sha512 n e message signature
  | .ps256, .pair n e => Rsa.verify .pss .sha256 n e message signature
  | .ps384, .pair n e => Rsa.verify .pss .sha384 n e message signature
  | .ps512, .pair n e => Rsa.verify .pss .sha512 n e message signature
  | .es256, .pair x y => Ecdsa.verify Ecdsa.p256 x y message signature
  | .es384, .pair x y => Ecdsa.verify Ecdsa.p384 x y message signature
  | .edDsa, .single k => Ed25519.verify k message signature
  | _, _ => false

/-- Checks the signature of a compact token under a key. -/
def verifySignature (text : String) (k : Jwk) : Except StatementError Unit := do
  let header ← Token.headerOf text
  let a := header.algorithm
  if !matchesKey a k then
    throw (.unsupportedAlgorithm
      (a.name ++ " cannot be used with key '" ++ k.id.getD "<no kid>" ++ "'"))
  match Text.splitLast '.' (Text.trimBlank text) with
  | none => throw (.malformedToken "missing signature segment")
  | some (message, signature) =>
      let valid : Except TokenError Bool := do
        let key ← keyOctets k.material
        let octets ← Header.segment signature
        pure (check a key (Utf8.encode message) octets)
      match valid with
      | .error e => throw e.toStatement
      | .ok true => pure ()
      | .ok false => throw (.invalidSignature "signature does not match key")

/-- Whether a compact token verifies under a key. -/
def verifies (text : String) (k : Jwk) : Bool :=
  (verifySignature text k).toBool

/-- Whether a token verifies under the key of a set that its header names. -/
def verifyWith {m : Type → Type} [Monad m] (check : Verifier m) (t : Token) (keys : KeySet) :
    m Bool :=
  match t.keyId with
  | none => pure false
  | some id =>
      match keys.find? id with
      | none => pure false
      | some k => check t.raw k

end Signature
end EntityTrust
