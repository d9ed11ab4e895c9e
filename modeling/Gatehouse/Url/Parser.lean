import Gatehouse.Url.Basic

/-!
# Reading URLs

* `Url.parse?` reads a URL, and `Url.join?` reads one that may be relative to another.
* `Url.addSegments` is the rule for the segments of a path: dots are resolved while they are added.

Blanks and controls at the ends of a text are dropped, and so are tabs and line ends inside.
-/

namespace Gatehouse.Url

/-! ### Characters that separate -/

/-- Whether a character separates the segments of a path. -/
def isSlash (special : Bool) (c : Char) : Bool := c == '/' || (special && c == '\\')

/-- Whether a character ends the path. -/
def endsPath (c : Char) : Bool := c == '?' || c == '#'

/-- Whether a character ends host and port. -/
def endsAuthority (special : Bool) (c : Char) : Bool := isSlash special c || endsPath c

/-- A text as it is read: without blanks and controls at its ends and without tabs and line ends. -/
def tidy (text : List Char) : List Char :=
  let drop (cs : List Char) := cs.dropWhile fun c => c.toNat ≤ 0x20
  ((drop (drop text).reverse).reverse).filter fun c => c != '\t' && c != '\n' && c != '\r'

/-! ### Query and fragment -/

/-- Adds the query and the fragment that a text starts with. -/
def withTail (u : Url) (text : List Char) : Url :=
  let encodeQuery := Percent.encode (Percent.inQuery (isSpecial u.scheme))
  let encodeFragment := Percent.encode Percent.inFragment
  match text with
  | '?' :: rest =>
    match rest.dropWhile (· != '#') with
    | '#' :: fragment =>
      { u with
        query := some (encodeQuery (rest.takeWhile (· != '#')))
        fragment := some (encodeFragment fragment) }
    | _ => { u with query := some (encodeQuery rest) }
  | '#' :: fragment => { u with fragment := some (encodeFragment fragment) }
  | _ => u

/-! ### Paths -/

/-- Whether a text is the name of a drive: a letter and a colon, or a bar in its place. -/
def isDrive : List Char → Bool
  | [letter, mark] => letter.isAlpha && (mark == ':' || mark == '|')
  | _ => false

/-- Whether a text starts with the name of a drive as a whole segment. -/
def startsWithDrive (text : List Char) : Bool :=
  isDrive (text.take 2) &&
    match text.drop 2 with
    | [] => true
    | c :: _ => endsAuthority true c

/-- Whether a segment is the name of a drive as it is kept. -/
def isKeptDrive : List Char → Bool
  | [letter, ':'] => letter.isAlpha
  | _ => false

/-- Whether a segment is a dot, which may be encoded. -/
def isSingleDot (segment : List Char) : Bool :=
  ([".", "%2e"].map String.toList).contains (segment.map Char.toLower)

/-- Whether a segment is two dots, which may be encoded. -/
def isDoubleDot (segment : List Char) : Bool :=
  (["..", ".%2e", "%2e.", "%2e%2e"].map String.toList).contains (segment.map Char.toLower)

/-- The name of a drive as it is kept, with a colon. -/
def keepDrive (segment : List Char) : List Char := segment.take 1 ++ [':']

/-- Drops the last segment, but not a drive that is the whole path of a file. -/
def shorten (file : Bool) (path : List (List Char)) : List (List Char) :=
  match path with
  | [segment] => if file && isKeptDrive segment then [segment] else []
  | _ => path.dropLast

/-- Takes the last segment of a path back, unless it looks like a drive. -/
def stepBack (path : List (List Char)) : List (List Char) :=
  if path.getLast?.any startsWithDrive then path else path.dropLast

/-- Adds segments to a path. A segment of one dot adds nothing and one of two dots takes the last
segment back; at the end of a path either leaves an empty segment. -/
def addSegments (file : Bool) : (path : List (List Char)) → List (List Char) → List (List Char)
  | path, [] => path
  | path, segment :: rest =>
    let segment := Percent.encode Percent.inPath segment
    let atEnd : List (List Char) := if rest.isEmpty then [[]] else []
    if isDoubleDot segment then addSegments file (stepBack path ++ atEnd) rest
    else if isSingleDot segment then addSegments file (path ++ atEnd) rest
    else if file && path.isEmpty && isDrive segment then
      addSegments file [keepDrive segment] rest
    else addSegments file (path ++ [segment]) rest

def cutSegments (special : Bool) (text : List Char) : List (List Char) :=
  text.splitOnP (isSlash special)

/-- A path of a file without empty segments in front. -/
def dropEmptyFront : List (List Char) → List (List Char)
  | [] :: segment :: rest => dropEmptyFront (segment :: rest)
  | path => path

/-- The path that a text in front of query and fragment leads to from another path. -/
def pathFrom (scheme : List Char) (start : List (List Char)) (text : List Char) : List (List Char) :=
  addSegments (isFile scheme) start (cutSegments (isSpecial scheme) (text.takeWhile fun c => !endsPath c))

/-- Reads segments behind a path, then query and fragment. -/
def withPath (u : Url) (start : List (List Char)) (text : List Char) : Url :=
  let path := pathFrom u.scheme start text
  let path := if isFile u.scheme then dropEmptyFront path else path
  { u with path := .segments path }.withTail (text.dropWhile fun c => !endsPath c)

def dropSlash (special : Bool) : List Char → List Char
  | c :: rest => if isSlash special c then rest else c :: rest
  | [] => []

/-- Reads the path behind a host. That of a special scheme is never empty. -/
def withPathStart (u : Url) (text : List Char) : Url :=
  let special := isSpecial u.scheme
  if !special && text.head?.all endsPath then u.withTail text
  else u.withPath [] (dropSlash special text)

/-! ### Host and port -/

/-- Cuts a text at its last at sign. -/
def cutAtSign (text : List Char) : Option (List Char × List Char) :=
  let behind := (text.reverse.takeWhile (· != '@')).reverse
  if behind.length = text.length then none
  else some (text.take (text.length - behind.length - 1), behind)

/-- The length of the host in front of a text that may go on with a port. A colon between square
brackets does not end it. -/
def hostLength : (inBrackets : Bool) → List Char → Nat
  | _, [] => 0
  | inBrackets, c :: rest =>
    if c == ':' && !inBrackets then 0
    else hostLength (c == '[' || (inBrackets && c != ']')) rest + 1

/-- The number of a port and the text behind its digits. -/
def port? (text : List Char) : Option (Option Nat × List Char) :=
  let digits := text.takeWhile Char.isDigit
  let rest := text.dropWhile Char.isDigit
  let port := Nat.ofDigitChars 10 digits 0
  if 65535 < port then none
  else if rest.isEmpty || rest.head? == some '\\' then
    some (if digits.isEmpty then none else some port, rest)
  else none

/-- Reads user name, password, host and port of a URL, then what stands behind them. -/
def authority? (scheme text : List Char) : Option Url := do
  let special := isSpecial scheme
  let front := text.takeWhile fun c => !endsAuthority special c
  let rest := text.dropWhile fun c => !endsAuthority special c
  let (credentials, place) :=
    match cutAtSign front with
    | some (credentials, place) => (some credentials, place)
    | none => (none, front)
  let encode := Percent.encode Percent.inUserinfo
  let username := encode ((credentials.getD []).takeWhile (· != ':'))
  let password := encode (((credentials.getD []).dropWhile (· != ':')).drop 1)
  let hostText := place.take (hostLength false place)
  let portText := place.drop (hostLength false place)
  let (port, behind) ← port? (portText.drop 1)
  let host ← if special then (if hostText.isEmpty then none else Host.parse? hostText)
    else Host.parseOther? hostText
  if host = .empty ∧ (!portText.isEmpty ∨ !username.isEmpty ∨ !password.isEmpty ∨
      (credentials = some [] ∧ !rest.isEmpty)) then none
  else
    let url : Url := {
      scheme, username, password, host := some host
      port := port.filter fun n => defaultPort? scheme != some n
      path := .segments [], query := none, fragment := none }
    pure (url.withPathStart (behind ++ rest))

/-! ### The parts of schemes -/

/-- The scheme of a text and what stands behind its colon. -/
def cutScheme (text : List Char) : Option (List Char × List Char) :=
  let isSchemeChar (c : Char) := c.isAlphanum || c == '+' || c == '-' || c == '.'
  match text.dropWhile isSchemeChar with
  | ':' :: rest =>
    let scheme := text.takeWhile isSchemeChar
    if (scheme.head?.any Char.isAlpha) then some (scheme.map Char.toLower, rest) else none
  | _ => none

def dropSlashes (text : List Char) : List Char := text.dropWhile (isSlash true)

/-- A URL of a file on this host. -/
def fileUrl : Url :=
  { scheme := "file".toList, username := [], password := [], host := some .empty, port := none
    path := .segments [], query := none, fragment := none }

def Path.list : Path → List (List Char)
  | segments list => list
  | plain _ => []

/-- Reads the host of a file behind two slashes, and its path. A drive in its place is part of the
path, and with a drive at the start of its path a file is on this host. -/
def fileHost? (text : List Char) : Option Url := do
  let front := text.takeWhile fun c => !endsAuthority true c
  let rest := text.dropWhile fun c => !endsAuthority true c
  if isDrive front then pure (fileUrl.withPath [] text)
  else if front.isEmpty then pure (fileUrl.withPath [] rest)
  else
    let host ← Host.parse? front
    if host = .domain "localhost".toList then pure (fileUrl.withPath [] rest)
    else
      let path := dropSlash true rest
      let onDrive := (pathFrom fileUrl.scheme [] path).head?.any isKeptDrive
      pure ({ fileUrl with host := some (if onDrive then .empty else host) }.withPath [] path)

/-- The drive that the path of a base starts with. -/
def driveOf (base : Url) : List (List Char) :=
  match base.path.list with
  | first :: _ => if isKeptDrive first then [first] else []
  | [] => []

/-- Reads the URL of a file, relative to that of another if there is one. -/
def file? (base : Option Url) (text : List Char) : Option Url :=
  match text, base with
  | c :: d :: rest, _ =>
    if isSlash true c && isSlash true d then fileHost? rest
    else if isSlash true c then some (behindSlash base (d :: rest))
    else some (plain base (c :: d :: rest))
  | [c], _ => if isSlash true c then some (behindSlash base []) else some (plain base [c])
  | [], _ => some (plain base [])
where
  /-- Behind a single slash. -/
  behindSlash (base : Option Url) (rest : List Char) : Url :=
    match base with
    | some b =>
      if startsWithDrive rest then fileUrl.withPath [] rest
      else if driveOf b = [] then { fileUrl with host := b.host }.withPath [] rest
      else fileUrl.withPath (driveOf b) rest
    | none => fileUrl.withPath [] rest
  /-- Without a slash in front. -/
  plain (base : Option Url) (text : List Char) : Url :=
    match base with
    | some b =>
      let b := { b with fragment := none }
      match text with
      | [] => b
      | '#' :: _ => b.withTail text
      | '?' :: _ => { b with query := none }.withTail text
      | _ =>
        if startsWithDrive text then fileUrl.withPath [] text
        else { b with query := none }.withPath (shorten true b.path.list) text
    | none => fileUrl.withPath [] text

/-- Reads a text relative to a base with segments. In front of it, slashes of either kind count. -/
def relative? (base : Url) (text : List Char) : Option Url :=
  let base := { base with fragment := none }
  match text with
  | [] => some base
  | '#' :: _ => some (base.withTail text)
  | '?' :: _ => some ({ base with query := none }.withTail text)
  | c :: rest =>
    let base := { base with query := none }
    if !isSlash true c then some (base.withPath (shorten (isFile base.scheme) base.path.list) text)
    else if !rest.head?.any (isSlash true) then some (base.withPath [] rest)
    else
      match text with
      | '/' :: '/' :: behind => authority? base.scheme behind
      | _ => authority? base.scheme (dropSlashes text)

/-- Reads a URL behind a scheme that is not special. -/
def ordinary? (scheme text : List Char) : Option Url :=
  let url : Url := {
    scheme, username := [], password := [], host := none, port := none, path := .plain []
    query := none, fragment := none }
  match text with
  | '/' :: '/' :: rest => authority? scheme rest
  | '/' :: rest => some (url.withPath [] rest)
  | _ =>
    let front := text.takeWhile fun c => !endsPath c
    some ({ url with path := .plain (Percent.encode Percent.inControls front) }.withTail
      (text.dropWhile fun c => !endsPath c))

/-- Reads a URL behind its scheme. A base of the same special scheme counts as long as there are not two
slashes. -/
def withScheme? (base : Option Url) (scheme text : List Char) : Option Url :=
  if isFile scheme then file? (base.filter fun b => b.scheme == scheme) text
  else if isSpecial scheme then
    let slashes := (text.takeWhile (isSlash true)).length
    match base.filter fun b => b.scheme == scheme && slashes < 2 with
    | some b => relative? b text
    | none => authority? scheme (dropSlashes text)
  else ordinary? scheme text

/-- Reads a URL without a scheme, which has to be relative to a base. To a base with a plain path only a
fragment can be added. -/
def withoutScheme? (base : Url) (text : List Char) : Option Url :=
  match base.path with
  | .plain _ =>
    match text with
    | '#' :: _ => some ({ base with fragment := none }.withTail text)
    | _ => none
  | .segments _ => if isFile base.scheme then file? (some base) text else relative? base text

def parse? (text : String) : Option Url := do
  let (scheme, rest) ← cutScheme (tidy text.toList)
  withScheme? none scheme rest

/-- Reads a URL that may be relative to a base. -/
def join? (base : Url) (text : String) : Option Url :=
  let text := tidy text.toList
  match cutScheme text with
  | some (scheme, rest) => withScheme? (some base) scheme rest
  | none => withoutScheme? base text

end Gatehouse.Url
