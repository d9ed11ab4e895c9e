import Gatehouse.Http.Message

/-!
# Media types

The value of a content type header: a type, a subtype that may end in a suffix behind a plus sign, and
parameters. `MediaType.isJson` says whether it announces JSON.
-/

namespace Gatehouse.Http

/-- A media type without its parameters, as it is written. -/
structure MediaType where
  type : List Char
  subtype : List Char
  deriving DecidableEq

namespace MediaType

def isNameChar (c : Char) : Bool :=
  c.isAlphanum || "!#$%&'*+-.^_`|~".toList.contains c

def isQuotedChar (c : Char) : Bool := 32 ≤ c.toNat && c.toNat < 127

/-- The text behind a quoted value whose opening quote is taken. The value is not empty, and its first
character may be a quote. -/
def behindQuoted? : List Char → Option (List Char)
  | [] => none
  | first :: rest =>
    if isQuotedChar first && (rest.takeWhile (· != '"')).all isQuotedChar then
      match rest.dropWhile (· != '"') with
      | _ :: behind => some behind
      | [] => none
    else none

/-- The text behind one parameter and its semicolon. -/
def behindParameter? (text : List Char) : Option (List Char) :=
  let name := text.takeWhile isNameChar
  match text.dropWhile isNameChar with
  | '=' :: '"' :: rest =>
    if name.isEmpty then none
    else match (behindQuoted? rest).map (List.dropWhile (· == ' ')) with
      | some [] => some []
      | some (';' :: behind) => some behind
      | _ => none
  | '=' :: rest =>
    if name.isEmpty then none
    else match rest.dropWhile isNameChar with
      | [] => some []
      | ';' :: behind => if (rest.takeWhile isNameChar).isEmpty then none else some behind
      | _ => none
  | _ => none

/-- Whether a text is a list of parameters. Spaces may stand in front of each. -/
def areParameters : (fuel : Nat) → List Char → Bool
  | 0, _ => false
  | fuel + 1, text =>
    match text.dropWhile (· == ' ') with
    | [] => true
    | rest =>
      match behindParameter? rest with
      | some behind => areParameters fuel behind
      | none => false

def parse? (s : String) : Option MediaType :=
  let type := s.toList.takeWhile isNameChar
  match s.toList.dropWhile isNameChar with
  | '/' :: rest =>
    let subtype := rest.takeWhile isNameChar
    if type.isEmpty then none
    else match rest.dropWhile isNameChar with
      | [] => some ⟨type, subtype⟩
      | ';' :: parameters =>
        if subtype.isEmpty || !areParameters (parameters.length + 1) parameters then none
        else some ⟨type, subtype⟩
      | _ => none
  | _ => none

/-- The subtype cut at its last plus sign, unless that is its first character: what is in front and what
is behind. -/
def cutSubtype (subtype : List Char) : List Char × Option (List Char) :=
  let suffix := (subtype.reverse.takeWhile (· != '+')).reverse
  let front := subtype.length - suffix.length
  if front ≤ 1 then (subtype, none) else (subtype.take (front - 1), some suffix)

/-- Whether a media type announces JSON: an application type whose subtype or suffix is JSON. -/
def isJson (m : MediaType) : Bool :=
  let lower (cs : List Char) := String.ofList (cs.map Char.toLower)
  let (subtype, suffix) := cutSubtype m.subtype
  lower m.type == "application" && (lower subtype == "json" || suffix.any fun s => lower s == "json")

end MediaType

/-- Whether the first content type header announces JSON. -/
def announcesJson (headers : Headers) : Bool :=
  (((headers.first? "content-type").bind headerText?).bind MediaType.parse?).any MediaType.isJson

end Gatehouse.Http
