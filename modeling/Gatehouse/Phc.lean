import Gatehouse.Bytes
import Gatehouse.Text.Integer

/-!
# Hashes as text

The text form of a password hash: fields behind dollar signs for the algorithm, the version, the
parameters, the salt and the output. All but the first may be left out.

`Phc.parse?` reads the form and `Phc.write` writes it.
-/

namespace Gatehouse

/-- A hash taken apart. The salt is kept as it is written; the output is decoded. -/
structure Phc where
  algorithm : List Char
  version : Option Nat
  params : List (List Char × List Char)
  salt : Option (List Char)
  output : Option Bytes

namespace Phc

/-! ### Fields -/

def isNameChar (c : Char) : Bool :=
  ('a' ≤ c && c ≤ 'z') || ('0' ≤ c && c ≤ '9') || c == '-'

def isValueChar (c : Char) : Bool :=
  ('a' ≤ c && c ≤ 'z') || ('A' ≤ c && c ≤ 'Z') || ('0' ≤ c && c ≤ '9') || c == '/' || c == '+' ||
    c == '.' || c == '-'

def isName (cs : List Char) : Bool := 1 ≤ cs.length && cs.length ≤ 32 && cs.all isNameChar

def isValue (cs : List Char) : Bool := cs.length ≤ 64 && cs.all isValueChar

/-- The number of a value in decimal, without zeros in front, of at most 32 bits. -/
def decimal? (cs : List Char) : Option Nat :=
  if cs.head? = some '0' ∧ 1 < cs.length then none
  else (Text.digits? cs).filter (· < 0x100000000)

def version? (cs : List Char) : Option Nat := if isValue cs then decimal? cs else none

def param? (cs : List Char) : Option (List Char × List Char) :=
  match cs.splitOn '=' with
  | [name, value] => if isName name && isValue value then some (name, value) else none
  | _ => none

def params? (cs : List Char) : Option (List (List Char × List Char)) :=
  if 127 < cs.length then none else (cs.splitOn ',').mapM param?

def salt? (cs : List Char) : Option (List Char) :=
  if 4 ≤ cs.length && isValue cs then some cs else none

def output? (cs : List Char) : Option Bytes :=
  (Base64.decode? Base64.standard cs).filter fun b => 10 ≤ b.length && b.length ≤ 64

/-! ### Reading -/

/-- Takes a version field off the front, if there is one. -/
def takeVersion : List (List Char) → Option (Option Nat × List (List Char))
  | ('v' :: '=' :: value) :: fields =>
    if value.contains ',' then some (none, ('v' :: '=' :: value) :: fields)
    else (version? value).map fun n => (some n, fields)
  | fields => some (none, fields)

/-- Takes a parameter field off the front, if there is one. -/
def takeParams : List (List Char) → Option (List (List Char × List Char) × List (List Char))
  | field :: fields =>
    if field.contains '=' then (params? field).map fun params => (params, fields)
    else some ([], field :: fields)
  | [] => some ([], [])

/-- Reads the text form of a hash. -/
def parse? (s : String) : Option Phc :=
  match s.toList.splitOn '$' with
  | [] :: algorithm :: fields => do
    guard (isName algorithm)
    let (version, fields) ← takeVersion fields
    let (params, fields) ← takeParams fields
    match fields with
    | [] => pure ⟨algorithm, version, params, none, none⟩
    | [salt] => pure ⟨algorithm, version, params, some (← salt? salt), none⟩
    | [salt, output] => pure ⟨algorithm, version, params, some (← salt? salt), some (← output? output)⟩
    | _ => none
  | _ => none

/-! ### Writing -/

def writeParams : List (List Char × List Char) → List Char
  | [] => []
  | [(name, value)] => name ++ '=' :: value
  | (name, value) :: params => name ++ '=' :: value ++ ',' :: writeParams params

def fields (h : Phc) : List (List Char) :=
  h.algorithm :: (h.version.map fun n => 'v' :: '=' :: Nat.toDigits 10 n).toList ++
    (if h.params.isEmpty then [] else [writeParams h.params]) ++ h.salt.toList ++
    (h.output.map (Base64.encode Base64.standard)).toList

def write (h : Phc) : String := String.ofList (h.fields.flatMap ('$' :: ·))

end Phc

end Gatehouse
