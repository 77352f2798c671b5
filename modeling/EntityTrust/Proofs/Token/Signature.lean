import EntityTrust.Proofs.Token.Compact
import EntityTrust.Token.Signature

/-!
# What a signature covers

Decoding cuts the trimmed text of a token at all its dots; the reader of headers and the check of a
signature cut it at the last ones.  An attacker chooses the text, its header included.

**Families.**  `Algorithm.family` and `KeyMaterial.family` sort algorithms and keys by the kind of
cryptography.  An algorithm is usable with a key when both are of one family, which is not the
symmetric one (`Signature.suits_iff`).

**Primitive.**  `Signature.Accepts` is the answer of the cryptographic primitive about octets; nothing
here depends on what that answer is.

**Results.**
* `Signature.verifySignature_eq_ok`: when a text verifies under a key.
* `Signature.verified_is_parsed`: a decoded token verifies exactly when the primitive accepts its
  first two segments, those that were read as header and claims, with the third one as signature, by
  the algorithm that the header names, and the key is meant for that algorithm.
-/

namespace EntityTrust

/-- Kinds of signature cryptography. -/
inductive SignatureFamily
  | symmetric
  | rsa
  | ellipticCurve
  | octetPair
  deriving DecidableEq

/-- The family of an algorithm. -/
def Algorithm.family : Algorithm → SignatureFamily
  | hs256 | hs384 | hs512 => .symmetric
  | es256 | es384 => .ellipticCurve
  | rs256 | rs384 | rs512 | ps256 | ps384 | ps512 => .rsa
  | edDsa => .octetPair

/-- The family of a key. -/
def KeyMaterial.family : KeyMaterial → SignatureFamily
  | ellipticCurve .. => .ellipticCurve
  | rsa .. => .rsa
  | octets _ => .symmetric
  | octetPair .. => .octetPair

namespace Signature

/-- The primitive accepts a signature segment for a message by an algorithm under a key. -/
def Accepts (a : Algorithm) (k : Jwk) (message signature : String) : Prop :=
  ∃ key octets, keyOctets k.material = .ok key ∧ Header.segment signature = .ok octets ∧
    check a key (Utf8.encode message) octets = true

/-- A key is meant for an algorithm: both are of one family, which is not the symmetric one, and the
algorithm is the one that the key declares, if it declares any. -/
structure MeantFor (k : Jwk) (a : Algorithm) : Prop where
  asymmetric : a.family ≠ .symmetric
  family : k.material.family = a.family
  declared : ∀ d, k.algorithm = some d → d = .signing a

theorem suits_iff {a : Algorithm} {m : KeyMaterial} :
    suits a m = true ↔ a.family ≠ .symmetric ∧ m.family = a.family := by
  cases m <;> cases a <;> simp [suits, Algorithm.family, KeyMaterial.family]

theorem matchesKey_iff {a : Algorithm} {k : Jwk} : matchesKey a k = true ↔ MeantFor k a := by
  unfold matchesKey
  rw [Bool.and_eq_true, suits_iff]
  constructor
  · rintro ⟨hdeclared, hasymmetric, hfamily⟩
    refine ⟨hasymmetric, hfamily, fun d hd => ?_⟩
    simpa [hd] using hdeclared
  · intro h
    refine ⟨?_, h.asymmetric, h.family⟩
    cases hd : k.algorithm with
    | none => rfl
    | some d => simpa using h.declared d hd

/-- What the answer of the primitive amounts to. -/
def outcome (a : Algorithm) (k : Jwk) (message signature : String) : Except StatementError Unit :=
  match (do
      let key ← keyOctets k.material
      let octets ← Header.segment signature
      pure (check a key (Utf8.encode message) octets) : Except TokenError Bool) with
  | .error e => .error e.toStatement
  | .ok true => .ok ()
  | .ok false => .error (.invalidSignature "signature does not match key")

theorem outcome_eq_ok {a : Algorithm} {k : Jwk} {message signature : String} :
    outcome a k message signature = .ok () ↔ Accepts a k message signature := by
  unfold outcome Accepts
  cases hkey : keyOctets k.material with
  | error e => simp [bind, Except.bind]
  | ok key =>
      cases hoctets : Header.segment signature with
      | error e => simp [bind, Except.bind]
      | ok octets =>
          cases hcheck : check a key (Utf8.encode message) octets <;>
            simp [bind, Except.bind, pure, Except.pure, hcheck]

/-- When a text verifies under a key. -/
theorem verifySignature_eq_ok {text : String} {k : Jwk} :
    verifySignature text k = .ok () ↔
      ∃ h message signature, Token.headerOf text = .ok h ∧ MeantFor k h.algorithm ∧
        Text.splitLast '.' (Text.trimBlank text) = some (message, signature) ∧
        Accepts h.algorithm k message signature := by
  unfold verifySignature
  rw [Outcome.bind_eq_ok]
  refine exists_congr fun h => ?_
  by_cases hkey : matchesKey h.algorithm k = true
  · have hmeant := matchesKey_iff.mp hkey
    cases hsplit : Text.splitLast '.' (Text.trimBlank text) with
    | none => simp [hkey, throw, throwThe, MonadExceptOf.throw]
    | some parts =>
        simp only [hkey, Bool.not_true]
        change Token.headerOf text = .ok h ∧ outcome h.algorithm k parts.1 parts.2 = .ok () ↔ _
        rw [outcome_eq_ok]
        constructor
        · rintro ⟨hheader, haccepts⟩
          exact ⟨parts.1, parts.2, hheader, hmeant, rfl, haccepts⟩
        · rintro ⟨_, _, hheader, -, ⟨⟩, haccepts⟩
          exact ⟨hheader, haccepts⟩
  · have hmeant := mt matchesKey_iff.mpr hkey
    simp [hkey, hmeant, throw, throwThe, MonadExceptOf.throw, bind, Except.bind]

/-- A decoded token verifies under a key exactly when the key is meant for the algorithm of its header
and the primitive accepts, by that algorithm, its first two segments with the third as signature.
Whatever text verifies, its algorithm is an asymmetric one of the family of the key. -/
theorem verified_is_parsed {text : String} {t : Token} (decoded : Token.decode text = .ok t) :
    (∃ header payload signature, Token.Segments text t header payload signature ∧
        ∀ k, verifySignature t.raw k = .ok () ↔
          MeantFor k t.header.algorithm ∧
            Accepts t.header.algorithm k (header ++ "." ++ payload) signature) ∧
      ∀ raw k, verifySignature raw k = .ok () →
        ∃ h, Token.headerOf raw = .ok h ∧ h.algorithm.family ≠ .symmetric ∧
          k.material.family = h.algorithm.family := by
  constructor
  · obtain ⟨header, payload, signature, hsegments⟩ := Token.exists_segments decoded
    obtain ⟨hcompact, hp, hs⟩ := Token.eq_compact_of_fields hsegments.fields
    have hraw : t.raw = Token.compact header payload signature := hsegments.raw.trans hcompact
    have htrim : Text.trimBlank t.raw = t.raw := by
      rw [hsegments.raw]
      exact Text.trimBy_trimBy _ _
    have hheader : Token.headerOf t.raw = .ok t.header := by
      rw [Token.headerOf_eq_ok, hraw, Token.headerOf_compact hs hp, hsegments.header]
    have hsplit : Text.splitLast '.' (Text.trimBlank t.raw) =
        some (header ++ "." ++ payload, signature) := by
      rw [htrim, hraw, Token.splitLast_compact hs]
    refine ⟨header, payload, signature, hsegments, fun k => ?_⟩
    rw [verifySignature_eq_ok, hsplit]
    constructor
    · rintro ⟨h, _, _, hh, hmeant, ⟨⟩, haccepts⟩
      obtain rfl := Except.ok.inj (hheader.symm.trans hh)
      exact ⟨hmeant, haccepts⟩
    · rintro ⟨hmeant, haccepts⟩
      exact ⟨t.header, _, _, hheader, hmeant, rfl, haccepts⟩
  · intro raw k h
    obtain ⟨header, _, _, hheader, hmeant, -⟩ := verifySignature_eq_ok.mp h
    exact ⟨header, hheader, hmeant.asymmetric, hmeant.family⟩

namespace Sample

/-- A token with a header that names the algorithm and the key, no claims, and white space. -/
def text : String :=
  "\n eyJhbGciOiJFZERTQSIsImtpZCI6ImsifQ.e30.c2ln\t"

def token : Token :=
  ⟨"eyJhbGciOiJFZERTQSIsImtpZCI6ImsifQ.e30.c2ln",
    ⟨none, .edDsa, none, none, none, some "k", none, none, none, none⟩, []⟩

theorem decoded : Token.decode text = .ok token := by
  decide +kernel

theorem fields_text : Text.fields '.' (Text.trimBlank text) =
    ["eyJhbGciOiJFZERTQSIsImtpZCI6ImsifQ", "e30", "c2ln"] := by
  decide +kernel

end Sample

/-- The white space around a token is not covered by its signature. -/
theorem verified_is_parsed_sample :
    Token.decode Sample.text = .ok Sample.token ∧
      ∀ k, verifySignature Sample.token.raw k = .ok () ↔
        MeantFor k .edDsa ∧
          Accepts .edDsa k "eyJhbGciOiJFZERTQSIsImtpZCI6ImsifQ.e30" "c2ln" := by
  obtain ⟨header, payload, signature, hsegments, hverified⟩ := (verified_is_parsed Sample.decoded).1
  have hfields := hsegments.fields.symm.trans Sample.fields_text
  simp only [List.cons.injEq, and_true] at hfields
  obtain ⟨rfl, rfl, rfl⟩ := hfields
  exact ⟨Sample.decoded, hverified⟩

end Signature
end EntityTrust
