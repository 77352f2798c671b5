import EntityTrust.Error
import EntityTrust.Key.Algorithm

/-!
# Public keys and key sets

A key as a JSON object: members common to all kinds of keys, and the members of one kind.

**Reading.**  The common members are read first.  The kind is the first of elliptic curve, RSA,
octets and octet pair whose members can all be read; no other member counts.

**Choice.**  `KeySet.find` takes the first key with the wanted identifier.
-/

namespace EntityTrust

/-- Curves that a key may name. -/
inductive CurveName
  | p256 | p384 | p521 | ed25519
  deriving DecidableEq

namespace CurveName

/-- The registered name. -/
def name : CurveName → String
  | p256 => "P-256"
  | p384 => "P-384"
  | p521 => "P-521"
  | ed25519 => "Ed25519"

/-- The curves by name. -/
def cases : List (String × CurveName) :=
  [p256, p384, p521, ed25519].map fun c => (c.name, c)

end CurveName

/-- The members of one kind of key. -/
inductive KeyMaterial
  | ellipticCurve (curve : CurveName) (x y : String)
  | rsa (modulus exponent : String)
  | octets (secret : String)
  | octetPair (curve : CurveName) (x : String)
  deriving DecidableEq

/-- A key. -/
structure Jwk where
  usage : Option String
  operations : Option (List String)
  algorithm : Option KeyAlgorithm
  id : Option String
  certificateUrl : Option String
  certificates : Option (List String)
  thumbprint : Option String
  thumbprint256 : Option String
  material : KeyMaterial
  deriving DecidableEq

namespace KeyMaterial

open Json Record

/-- The member that names the kind. -/
def kind (name : String) : Record Unit :=
  required "kty" (asCase [(name, ())])

/-- Keys on an elliptic curve. -/
def ellipticCurveRecord : Record KeyMaterial :=
  (fun _ => ellipticCurve) <$> kind "EC" <*> required "crv" (asCase CurveName.cases) <*>
    required "x" asText <*> required "y" asText

/-- RSA keys. -/
def rsaRecord : Record KeyMaterial :=
  (fun _ => rsa) <$> kind "RSA" <*> required "n" asText <*> required "e" asText

/-- Symmetric keys. -/
def octetsRecord : Record KeyMaterial :=
  (fun _ => octets) <$> kind "oct" <*> required "k" asText

/-- Keys of an octet pair. -/
def octetPairRecord : Record KeyMaterial :=
  (fun _ => octetPair) <$> kind "OKP" <*> required "crv" (asCase CurveName.cases) <*>
    required "x" asText

/-- The kinds in the order in which they are tried. -/
def kinds : List (Record KeyMaterial) :=
  [ellipticCurveRecord, rsaRecord, octetsRecord, octetPairRecord]

/-- The first kind whose members can be read. -/
def ofMembers (ms : List Member) : Except Issue KeyMaterial :=
  match kinds.findSome? fun r => (r.readMembers ms).toOption with
  | some m => .ok m
  | none => .error (.noVariantMatches "AlgorithmParameters")

/-- The members of a kind. -/
def toMembers : KeyMaterial → List Member
  | ellipticCurve c x y =>
      [("kty", .string "EC"), ("crv", .string c.name), ("x", .string x), ("y", .string y)]
  | rsa n e => [("kty", .string "RSA"), ("n", .string n), ("e", .string e)]
  | octets k => [("kty", .string "oct"), ("k", .string k)]
  | octetPair c x => [("kty", .string "OKP"), ("crv", .string c.name), ("x", .string x)]

end KeyMaterial

namespace Jwk

open Json Record

/-- An algorithm declared by a key; an empty map counts as the absence of details. -/
def asAlgorithm : As KeyAlgorithm :=
  asCaseWith (fun v => v matches .null || v matches .object []) KeyAlgorithm.cases

/-- The members common to all kinds, followed by the kind. -/
def commonRecord : Record (KeyMaterial → Jwk) :=
  Jwk.mk <$> nullable "use" asText <*> nullable "key_ops" (asList asText) <*>
    nullable "alg" asAlgorithm <*> nullable "kid" asText <*> nullable "x5u" asText <*>
    nullable "x5c" (asList asText) <*> nullable "x5t" asText <*> nullable "x5t#S256" asText

/-- Reads a key. -/
def ofJson : As Jwk
  | .object ms => do
      let build ← commonRecord.readMembers ms
      let material ← KeyMaterial.ofMembers ms
      pure (build material)
  | v => mismatch "struct Jwk" v

/-- The written form of a key, without absent members. -/
def toJson (k : Jwk) : Json :=
  let texts (xs : List String) : Json := .array (xs.map .string)
  .object (ofMembers (present "use" (k.usage.map .string) ++
    present "key_ops" (k.operations.map texts) ++
    present "alg" (k.algorithm.map fun a => .string a.name) ++
    present "kid" (k.id.map .string) ++ present "x5u" (k.certificateUrl.map .string) ++
    present "x5c" (k.certificates.map texts) ++ present "x5t" (k.thumbprint.map .string) ++
    present "x5t#S256" (k.thumbprint256.map .string) ++ k.material.toMembers))

end Jwk

/-- A published set of keys. -/
structure KeySet where
  keys : List Jwk
  deriving DecidableEq

namespace KeySet

open Json Record

/-- Reads a key set. -/
def ofJson : As KeySet :=
  Record.read "JwkSet" (KeySet.mk <$> required "keys" (asList Jwk.ofJson))

/-- The written form of a key set. -/
def toJson (s : KeySet) : Json :=
  .object [("keys", .array (s.keys.map Jwk.toJson))]

/-- The first key with an identifier. -/
def find? (s : KeySet) (id : String) : Option Jwk :=
  s.keys.find? fun k => k.id == some id

/-- The first key with an identifier, or the failure that names it. -/
def find (s : KeySet) (id : String) : Except StatementError Jwk :=
  match s.find? id with
  | some k => .ok k
  | none => .error (.keyNotFound id)

/-- Whether some key has an identifier. -/
def contains (s : KeySet) (id : String) : Bool :=
  (s.find? id).isSome

/-- The identifiers that a set has are those of its keys. -/
theorem contains_iff {s : KeySet} {id : String} :
    s.contains id = true ↔ ∃ k ∈ s.keys, k.id = some id := by
  simp [contains, find?]

end KeySet
end EntityTrust
