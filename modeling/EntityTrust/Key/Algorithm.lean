import EntityTrust.Json.Record

/-!
# Signature algorithms

The algorithms that a token header may name, and those that a key may declare.
-/

namespace EntityTrust

/-- Algorithms of signed tokens. -/
inductive Algorithm
  | hs256 | hs384 | hs512
  | es256 | es384
  | rs256 | rs384 | rs512
  | ps256 | ps384 | ps512
  | edDsa
  deriving DecidableEq

namespace Algorithm

/-- The registered name. -/
def name : Algorithm → String
  | hs256 => "HS256"
  | hs384 => "HS384"
  | hs512 => "HS512"
  | es256 => "ES256"
  | es384 => "ES384"
  | rs256 => "RS256"
  | rs384 => "RS384"
  | rs512 => "RS512"
  | ps256 => "PS256"
  | ps384 => "PS384"
  | ps512 => "PS512"
  | edDsa => "EdDSA"

/-- All algorithms, in the order in which messages list them. -/
def all : List Algorithm :=
  [hs256, hs384, hs512, es256, es384, rs256, rs384, rs512, ps256, ps384, ps512, edDsa]

/-- The algorithms by name. -/
def cases : List (String × Algorithm) :=
  all.map fun a => (a.name, a)

end Algorithm

/-- Algorithms that a key may be declared for. -/
inductive KeyAlgorithm
  | signing (a : Algorithm)
  | rsaPkcs
  | rsaOaep
  | rsaOaep256
  deriving DecidableEq

namespace KeyAlgorithm

/-- The registered name. -/
def name : KeyAlgorithm → String
  | signing a => a.name
  | rsaPkcs => "RSA1_5"
  | rsaOaep => "RSA-OAEP"
  | rsaOaep256 => "RSA-OAEP-256"

/-- The algorithms by name. -/
def cases : List (String × KeyAlgorithm) :=
  (Algorithm.all.map signing ++ [rsaPkcs, rsaOaep, rsaOaep256]).map fun a => (a.name, a)

end KeyAlgorithm
end EntityTrust
