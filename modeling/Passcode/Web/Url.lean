import Passcode.Web.Address
import Passcode.Web.Domain

/-!
Absolute URLs. A few schemes are special: they always have a host, and a backslash separates like a
slash. Of a URL its parts are kept as far as a request over the network needs them.
-/

set_option autoImplicit false

namespace Passcode.Web

inductive Host where
  | domain (name : List Char)
  | address4 (address : Nat)
  | address6 (units : List Nat)
  /-- A host of a scheme that is not special, as it is written. -/
  | verbatim (text : List Char)
  deriving DecidableEq, Repr

inductive SchemeKind where
  | special
  | file
  | other
  deriving DecidableEq, Repr

structure Url where
  /-- In lower case. -/
  scheme : String
  host : Option Host := none
  port : Option Nat := none
  /-- As it is written. -/
  path : List Char
  query : Option (List Char) := none
  deriving DecidableEq, Repr

/-! ### Hosts -/

def bracketed? (cs : List Char) : Option Host :=
  if cs.getLast? = some ']' then (address6? cs.dropLast).map .address6 else none

def specialHost? : List Char → Option Host
  | '[' :: cs => bracketed? cs
  | cs => do
    let name ← domain? cs
    if endsInNumber name then (address4? name).map .address4 else some (.domain name)

def verbatimDelimiters : List Char :=
  "\x00\t\n\x0d #/:<>?@[\\]^|".toList

/-- The host of another scheme; it may be empty. -/
def verbatimHost? : List Char → Option Host
  | '[' :: cs => bracketed? cs
  | cs => if cs.any verbatimDelimiters.contains then none else some (.verbatim cs)

/-! ### Authorities -/

/-- Cuts at the last `@`; what stands before it are credentials. -/
def cutCredentials (cs : List Char) : Option (List Char) × List Char :=
  let host := (cs.reverse.takeWhile (· ≠ '@')).reverse
  if host.length = cs.length then (none, cs)
  else (some (cs.take (cs.length - host.length - 1)), host)

/-- Cuts at the first colon that is not between brackets. -/
def cutPort : Bool → List Char → List Char × Option (List Char)
  | _, [] => ([], none)
  | inside, c :: cs =>
    if c = ':' ∧ !inside then ([], some cs)
    else
      let r := cutPort (if c = '[' then true else if c = ']' then false else inside) cs
      (c :: r.1, r.2)

def port? (cs : List Char) : Option (Option Nat) :=
  if cs.isEmpty then some none else ((Text.natural? cs).filter (· ≤ 65535)).map some

def portAfter? : Option (List Char) → Option (Option Nat)
  | none => some none
  | some cs => port? cs

def isSlash (c : Char) : Bool :=
  c == '/' || c == '\\'

/-- A special URL after its scheme: any number of slashes, the authority and the path. -/
def special? (scheme : String) (cs : List Char) (query : Option (List Char)) : Option Url := do
  let cs := cs.dropWhile isSlash
  let (_, authority) := cutCredentials (cs.takeWhile (!isSlash ·))
  let (host, port) := cutPort false authority
  let host ← specialHost? host
  let port ← portAfter? port
  return { scheme, host := some host, port, path := cs.dropWhile (!isSlash ·), query }

def identifies : Option (List Char) → Bool
  | none => false
  | some cs => !(cs.isEmpty || cs == [':'])

/-- The ports of other schemes may also end at a backslash, where the path starts. -/
def cutPath (port : Option (List Char)) : Option (List Char) × List Char :=
  match port with
  | none => (none, [])
  | some cs => (some (cs.takeWhile (!isSlash ·)), cs.dropWhile (!isSlash ·))

/-- Another URL after its scheme. With two slashes it has an authority, whose host may be empty if
nothing goes with it. -/
def other? (scheme : String) (cs : List Char) (query : Option (List Char)) (last : Bool) :
    Option Url :=
  match cs with
  | '/' :: '/' :: cs => do
    let (credentials, authority) := cutCredentials (cs.takeWhile (· ≠ '/'))
    let (name, port) := cutPort false authority
    let rest := cs.dropWhile (· ≠ '/')
    let host ← verbatimHost? name
    let (port, start) := cutPath port
    let number ← portAfter? port
    if name.isEmpty ∧ (port.isSome ∨ identifies credentials ∨
        credentials = some [] ∧ !(last && rest.isEmpty)) then none
    else some { scheme, host := some host, port := number, path := start ++ rest, query }
  | cs => some { scheme, path := cs, query }

/-- A letter and a colon or a bar name a drive, not a host. -/
def isDrive : List Char → Bool
  | [a, b] => a.isAlpha && (b == ':' || b == '|')
  | _ => false

def file? (scheme : String) (cs : List Char) (query : Option (List Char)) : Option Url :=
  match cs with
  | a :: b :: rest =>
    if isSlash a && isSlash b then
      let name := rest.takeWhile (!isSlash ·)
      if name.isEmpty || isDrive name then some { scheme, path := rest, query }
      else do
        let host ← specialHost? name
        return { scheme, host := some host, path := rest.dropWhile (!isSlash ·), query }
    else some { scheme, path := cs, query }
  | cs => some { scheme, path := cs, query }

/-! ### Whole URLs -/

def cutAt (sep : Char) (cs : List Char) : List Char × Option (List Char) :=
  match cs.dropWhile (· ≠ sep) with
  | [] => (cs, none)
  | _ :: after => (cs.takeWhile (· ≠ sep), some after)

/-- Control characters and spaces at the ends do not count, tabs and line breaks nowhere. -/
def tidy (cs : List Char) : List Char :=
  let inner := cs.dropWhile (·.toNat ≤ 0x20)
  (inner.reverse.dropWhile (·.toNat ≤ 0x20)).reverse.filter
    fun c => c ≠ '\t' ∧ c ≠ '\n' ∧ c ≠ '\x0d'

def isSchemeChar (c : Char) : Bool :=
  c.isAlphanum || c == '+' || c == '-' || c == '.'

def cutScheme? (cs : List Char) : Option (String × List Char) :=
  match cs.head?, cs.dropWhile isSchemeChar with
  | some c, ':' :: rest =>
    if c.isAlpha then
      some (String.ofList ((cs.takeWhile isSchemeChar).map Char.toLower), rest)
    else none
  | _, _ => none

def schemeKind (scheme : String) : SchemeKind :=
  if scheme = "file" then .file
  else if ["http", "https", "ws", "wss", "ftp"].contains scheme then .special
  else .other

/-- Reads an absolute URL. -/
def Url.parse? (s : String) : Option Url := do
  let (scheme, rest) ← cutScheme? (tidy s.toList)
  let (rest, fragment) := cutAt '#' rest
  let (rest, query) := cutAt '?' rest
  match schemeKind scheme with
  | .special => special? scheme rest query
  | .file => file? scheme rest query
  | .other => other? scheme rest query (query.isNone && fragment.isNone)

/-! ### Targets of requests -/

/-- Dots written as percent escapes count as dots. -/
def plainDots : List Char → List Char
  | '%' :: '2' :: 'e' :: cs => '.' :: plainDots cs
  | '%' :: '2' :: 'E' :: cs => '.' :: plainDots cs
  | c :: cs => c :: plainDots cs
  | [] => []

/-- Settles the segments after `done`, which is reversed: one dot stays, two dots go up. -/
def settle : List (List Char) → List (List Char) → List (List Char)
  | done, [] => done.reverse
  | done, s :: rest =>
    let last := if rest.isEmpty then [[]] else []
    if plainDots s = ['.'] then settle (last ++ done) rest
    else if plainDots s = ['.', '.'] then settle (last ++ done.drop 1) rest
    else settle (s :: done) rest

def pathReserved : List Char :=
  " \"#<>?^`\x7b\x7d".toList

def queryReserved : List Char :=
  " \"#<>'".toList

def writePath (segments : List (List Char)) : List Char :=
  segments.flatMap fun s => '/' :: percentEncode pathReserved s

/-- What a request for a special URL asks its host for. -/
def Url.target (u : Url) : String :=
  let slashes := u.path.map fun c => if isSlash c then '/' else c
  let path := writePath (settle [] (Text.splitChars '/' (slashes.drop 1)))
  match u.query with
  | none => String.ofList path
  | some q => String.ofList (path ++ '?' :: percentEncode queryReserved q)

end Passcode.Web
