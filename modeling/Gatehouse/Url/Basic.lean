import Gatehouse.Url.Host

/-!
# URLs

A URL taken apart, and its text. The path of most URLs is a list of segments; a URL such as `mailto:`
has a path of plain text instead and cannot be the base of another.
-/

namespace Gatehouse

inductive Url.Path
  /-- Segments, each behind a slash. -/
  | segments (list : List (List Char))
  /-- Plain text. -/
  | plain (text : List Char)
  deriving DecidableEq, Repr

structure Url where
  scheme : List Char
  username : List Char
  password : List Char
  host : Option Url.Host
  port : Option Nat
  path : Url.Path
  query : Option (List Char)
  fragment : Option (List Char)
  deriving DecidableEq, Repr

namespace Url

/-! ### Schemes -/

/-- The special schemes, for which hosts have a meaning, and their default ports. -/
def specialSchemes : List (List Char × Option Nat) :=
  [("http".toList, some 80), ("https".toList, some 443), ("ws".toList, some 80),
    ("wss".toList, some 443), ("ftp".toList, some 21), ("file".toList, none)]

def isSpecial (scheme : List Char) : Bool := (specialSchemes.lookup scheme).isSome

def defaultPort? (scheme : List Char) : Option Nat := (specialSchemes.lookup scheme).join

def isFile (scheme : List Char) : Bool := scheme == "file".toList

/-! ### Writing -/

def Path.write : Path → List Char
  | segments list => list.flatMap ('/' :: ·)
  | plain text => text

/-- User name and password with the at sign behind them, if there are any. -/
def writeCredentials (u : Url) : List Char :=
  if u.username.isEmpty && u.password.isEmpty then []
  else
    u.username ++ (if u.password.isEmpty then [] else ':' :: u.password) ++ ['@']

/-- Host and port with two slashes in front, if there is a host. Without one, a path that starts with an
empty segment is kept apart from the slashes by a dot. -/
def writeAuthority (u : Url) : List Char :=
  match u.host with
  | some host =>
    '/' :: '/' :: u.writeCredentials ++ host.write ++
      (match u.port with
      | some port => ':' :: Nat.toDigits 10 port
      | none => [])
  | none =>
    match u.path with
    | .segments ([] :: _ :: _) => ['/', '.']
    | _ => []

def write (u : Url) : List Char :=
  u.scheme ++ ':' :: u.writeAuthority ++ u.path.write ++
    (match u.query with
    | some query => '?' :: query
    | none => []) ++
    (match u.fragment with
    | some fragment => '#' :: fragment
    | none => [])

def toText (u : Url) : String := String.ofList u.write

end Url

end Gatehouse
