import Gatehouse.Digest.Sha2
import Gatehouse.Json.Record
import Gatehouse.Json.Value

/-!
# Token headers

The header of a token names the algorithm of its signature. Of the other members only the form is
checked, down to the parameters of a key that the header may carry.

* `Algorithm` and `Algorithm.hash?`: the algorithms by name, and the hash of those that are accepted.
* `Key.isWellFormed`: the form of an embedded key.
* `Header.read`: the algorithm of a header.
-/

namespace Gatehouse.Token

open Json

/-- The algorithms that a header may name. -/
inductive Algorithm
  | hs256
  | hs384
  | hs512
  /-- A signature by a pair of keys. It is known by name and never accepted. -/
  | keyPair
  deriving DecidableEq, Repr

namespace Algorithm

def keyPairNames : List String :=
  ["ES256", "ES384", "RS256", "RS384", "RS512", "PS256", "PS384", "PS512", "EdDSA"]

def ofName? : String → Option Algorithm
  | "HS256" => some hs256
  | "HS384" => some hs384
  | "HS512" => some hs512
  | name => if keyPairNames.contains name then some keyPair else none

/-- The hash function of an accepted algorithm. -/
def hash? : Algorithm → Option Digest.Sha2.Variant
  | hs256 => some Digest.Sha2.sha256
  | hs384 => some Digest.Sha2.sha384
  | hs512 => some Digest.Sha2.sha512
  | keyPair => none

end Algorithm

/-! ### Embedded keys -/

namespace Key

abbrev Members := List (String × Value)

/-- Whether a member is left out, or stands once and passes a test. -/
def atMostOnce (members : Members) (name : String) (test : Value → Bool) : Bool :=
  match members.filter fun m => m.1 == name with
  | [] => true
  | [m] => test m.2
  | _ => false

/-- Whether a member stands exactly once and passes a test. -/
def once (members : Members) (name : String) (test : Value → Bool) : Bool :=
  match members.filter fun m => m.1 == name with
  | [m] => test m.2
  | _ => false

def orNull (test : Value → Bool) : Value → Bool
  | .null => true
  | v => test v

def isText (v : Value) : Bool := v.text?.isSome

def isTexts (v : Value) : Bool := v.texts?.isSome

/-- Whether a value is one of some names: a string, or an object with the name as its only key and
`null` behind it. -/
def isOneOf (names : List String) : Value → Bool
  | .text s => names.contains s
  | .object [(s, .null)] => names.contains s
  | _ => false

/-- The names of the algorithms that a key may be meant for: those of signatures and three of
encryption. -/
def algorithms : List String :=
  ["HS256", "HS384", "HS512"] ++ Algorithm.keyPairNames ++ ["RSA1_5", "RSA-OAEP", "RSA-OAEP-256"]

/-- Whether a value names the algorithm of a key. In the form of an object an empty object may stand in
place of `null`. -/
def isAlgorithmName : Value → Bool
  | .object [(s, .object [])] => algorithms.contains s
  | v => isOneOf algorithms v

def curves : List String := ["P-256", "P-384", "P-521", "Ed25519"]

/-- Whether the parameters that any key may have are in form. -/
def hasCommonForm (members : Members) : Bool :=
  atMostOnce members "use" (orNull isText) && atMostOnce members "key_ops" (orNull isTexts) &&
    atMostOnce members "alg" (orNull isAlgorithmName) && atMostOnce members "kid" (orNull isText) &&
    atMostOnce members "x5u" (orNull isText) && atMostOnce members "x5c" (orNull isTexts) &&
    atMostOnce members "x5t" (orNull isText) && atMostOnce members "x5t#S256" (orNull isText)

/-- Whether the parameters of one of the four kinds of keys are there. -/
def hasKind (members : Members) : Bool :=
  let kind (name : String) := once members "kty" (isOneOf [name])
  let text (name : String) := once members name isText
  let curve := once members "crv" (isOneOf curves)
  (kind "EC" && curve && text "x" && text "y") || (kind "RSA" && text "n" && text "e") ||
    (kind "oct" && text "k") || (kind "OKP" && curve && text "x")

/-- Whether an object has the form of a key. -/
def isWellFormed (members : Members) : Bool := hasCommonForm members && hasKind members

/-- Reads a key and keeps nothing of it. -/
def read : Reader Unit := do
  let members ← Reader.pairsOf (Reader.value (maxNesting - 2))
  if isWellFormed members then pure () else throw .mismatch

end Key

/-! ### Headers -/

/-- A header while it is read: the members seen and the algorithm. -/
structure Header where
  seen : List String := []
  algorithm : Option Algorithm := none

namespace Header

/-- A member of which only the form is checked; it may be `null`. -/
def formOnly {α : Type} (key : String) (value : Reader α) : Member Header where
  key := key
  presence := .nullable
  isSet h := h.seen.contains key
  read h := do
    let _value ← Reader.nullable value
    pure { h with seen := key :: h.seen }

/-- The members of a header. -/
def members : List (Member Header) :=
  [formOnly "typ" Reader.string,
    .field "alg" .required algorithm (fun a h => { h with algorithm := some a })
      (Reader.variant Algorithm.ofName?),
    formOnly "cty" Reader.string, formOnly "jku" Reader.string, formOnly "jwk" Key.read,
    formOnly "kid" Reader.string, formOnly "x5u" Reader.string,
    formOnly "x5c" (Reader.listOf Reader.string), formOnly "x5t" Reader.string,
    formOnly "x5t#S256" Reader.string]

/-- Reads the algorithm of a header. -/
def read : Reader Algorithm := do
  match (← Record.read members {}).algorithm with
  | some a => pure a
  | none => throw .mismatch

end Header

end Gatehouse.Token
