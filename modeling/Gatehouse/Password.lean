import Gatehouse.Digest.Argon2
import Gatehouse.Fault
import Gatehouse.Phc

/-!
# Passwords

How passwords are hashed and checked. A `Scheme` adds its pepper to every password; what is hashed is
the password followed by the pepper.

* `Scheme.hash` makes the text of a fresh hash, and `Scheme.verify` checks a password against a text.
* `Stretching` is the slow function beneath both. `argon2` is the one in use; a scheme takes it as a
  parameter, because nothing here depends on how it computes.
-/

namespace Gatehouse.Password

open Digest

/-- The number of bytes from which on a password is too long. -/
def maxBytes : Nat := 72

def checkLength (password : String) : Except Fault Unit :=
  if maxBytes ≤ password.utf8ByteSize then .error (.validation "password is too long") else .ok ()

/-- A slow hash with the parameters of Argon2; it may refuse a password, and gives tags of the length
that is asked for. -/
structure Stretching where
  tag? : Argon2.Params → (salt password : Bytes) → Option Bytes
  length_tag? : ∀ {p : Argon2.Params} {salt password tag : Bytes},
    tag? p salt password = some tag → tag.length = p.tagLength

def argon2 : Stretching := ⟨Argon2.tag?, Argon2.length_tag?⟩

def saltBytes : Nat := 16

abbrev Salt := Vector UInt8 saltBytes

/-! ### Parameters -/

/-- The parameters of fresh hashes. -/
def freshParams : Argon2.Params := ⟨.hybrid, 19, 19456, 2, 1, 32, []⟩

/-- The variant that an algorithm names. -/
def kind? (algorithm : List Char) : Option Argon2.Kind :=
  if algorithm = "argon2d".toList then some .dependent
  else if algorithm = "argon2i".toList then some .independent
  else if algorithm = "argon2id".toList then some .hybrid
  else none

def kindName : Argon2.Kind → List Char
  | .dependent => "argon2d".toList
  | .independent => "argon2i".toList
  | .hybrid => "argon2id".toList

/-- Sets one parameter by its name. The id of a key is checked and not used. -/
def setParam (p : Argon2.Params) (param : List Char × List Char) : Option Argon2.Params := do
  let (name, value) := param
  if name = ['m'] then pure { p with memory := ← Phc.decimal? value }
  else if name = ['t'] then pure { p with passes := ← Phc.decimal? value }
  else if name = ['p'] then pure { p with lanes := ← Phc.decimal? value }
  else if name = "keyid".toList then
    let id ← Base64.decode? Base64.standard value
    if 8 < id.length then none else pure p
  else if name = "data".toList then
    let data ← Base64.decode? Base64.standard value
    if 32 < data.length then none else pure { p with associated := data }
  else none

def isInRange (p : Argon2.Params) : Bool :=
  8 ≤ p.memory && 8 * p.lanes ≤ p.memory && 1 ≤ p.passes && 1 ≤ p.lanes && p.lanes < 0x1000000

/-- The parameters that a hash with an output of `tagLength` bytes was made with. -/
def paramsOf? (h : Phc) (tagLength : Nat) : Option Argon2.Params := do
  let kind ← kind? h.algorithm
  let version := h.version.getD 19
  guard (version = 16 ∨ version = 19)
  let start : Argon2.Params := { freshParams with kind, version, tagLength }
  let params ← h.params.foldlM setParam start
  guard (isInRange params)
  pure params

/-! ### Hashing and checking -/

/-- A pepper, which follows every password, and the stretching in use. -/
structure Scheme where
  pepper : String
  stretching : Stretching

namespace Scheme

/-- What is stretched for a password. -/
def secret (scheme : Scheme) (plain : String) : Bytes := utf8 (plain ++ scheme.pepper)

/-- The text of a tag under a fresh salt. -/
def freshText (salt : Salt) (tag : Bytes) : String :=
  let digits (n : Nat) := Nat.toDigits 10 n
  Phc.write {
    algorithm := kindName freshParams.kind
    version := some freshParams.version
    params := [(['m'], digits freshParams.memory), (['t'], digits freshParams.passes),
      (['p'], digits freshParams.lanes)]
    salt := some (Base64.encode Base64.standard salt.toList)
    output := some tag }

def hash (scheme : Scheme) (salt : Salt) (plain : String) : Except Fault String :=
  match scheme.stretching.tag? freshParams salt.toList (scheme.secret plain) with
  | some tag => .ok (freshText salt tag)
  | none => .error (.internal "the password is too long to be hashed")

/-- Whether a password is the one that a hash was made from. A hash that lacks salt or output, or whose
parameters make no sense, is that of no password. -/
def isTagOf (scheme : Scheme) (h : Phc) (plain : String) : Bool :=
  match h.salt, h.output with
  | some saltText, some output =>
    let computed : Option Bytes := do
      let params ← paramsOf? h output.length
      let salt ← Base64.decode? Base64.standard saltText
      guard (8 ≤ salt.length)
      scheme.stretching.tag? params salt (scheme.secret plain)
    computed == some output
  | _, _ => false

/-- Checks a password against the text of a hash, which has to be readable. -/
def verify (scheme : Scheme) (stored plain : String) : Except Fault Bool :=
  match Phc.parse? stored with
  | some h => .ok (scheme.isTagOf h plain)
  | none => .error (.internal "the stored hash cannot be read")

end Scheme

end Gatehouse.Password
