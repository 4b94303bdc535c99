/- The reader of URLs. -/
import TenantScope.Domain.Name
import TenantScope.Net.Address
import TenantScope.Net.UrlPath

namespace TenantScope

inductive UrlError
  | relative | emptyHost | badNumber | badIpv6 | badIpv4 | badDomain | badHostChar
  deriving DecidableEq, Repr

def UrlError.message : UrlError → Text
  | .relative => "relative URL without a base".toList
  | .emptyHost => "empty host".toList
  | .badNumber => "invalid port number".toList
  | .badIpv6 => "invalid IPv6 address".toList
  | .badIpv4 => "invalid IPv4 address".toList
  | .badDomain => "invalid international domain name".toList
  | .badHostChar => "invalid domain character".toList

namespace Url

/-! Hosts -/

/-- A number of an IPv4 address in decimal, in octal behind a zero, or in hexadecimal behind `0x`.
The inner value is absent when it takes more than thirty-two bits. -/
def ipv4Number? (s : Text) : Option (Option Nat) :=
  let (base, digits) := match s with
    | '0' :: 'x' :: ds => (16, ds)
    | '0' :: 'X' :: ds => (16, ds)
    | '0' :: d :: ds => (8, d :: ds)
    | ds => (10, ds)
  if s = [] then none
  else if !digits.all (Text.isDigitIn base) then none
  else
    let n := Text.toNat base digits
    some (if n < 2 ^ 32 then some n else none)

/-- The labels of a domain without the empty one behind a final point. -/
def domainLabels (s : Text) : List Text :=
  let labels := splitAll (· == '.') s
  if labels.getLast? = some [] then labels.dropLast else labels

/-- Whether the last label of a domain is a number, so that it must be an IPv4 address. -/
def endsInNumber (s : Text) : Bool :=
  match (domainLabels s).getLast? with
  | some last => (last ≠ [] && last.all Char.isDigit) || (ipv4Number? last).isSome
  | none => false

/-- Reads an IPv4 address of one to four numbers, the last of which fills the octets left. -/
def ipv4? (s : Text) : Option Ipv4 := do
  let labels := domainLabels s
  let numbers ← labels.mapM fun l => (ipv4Number? l).bind id
  let last ← numbers.getLast?
  let others := numbers.dropLast
  if 4 < numbers.length ∨ others.any (255 < ·) ∨ 256 ^ (4 - others.length) ≤ last then none
  else
    let high := others.foldl (fun n octet => n * 256 + octet) 0
    return ⟨.ofNat (high * 256 ^ (4 - others.length) + last)⟩

/-- Reads an IPv6 address in brackets. -/
def bracketed (s : Text) : Except UrlError Text :=
  match s.getLast?, Ipv6.ofText? (s.drop 1).dropLast with
  | some ']', some a => .ok ('[' :: a.print ++ [']'])
  | _, _ => .error .badIpv6

/-- Reads a host where the scheme is known: percent-decoded, and in ASCII. -/
def domainHost (s : Text) : Except UrlError Text :=
  if s.head? = some '[' then bracketed s
  else
    match Domain.ascii? (Utf8.decodeLossy (Percent.decode (Utf8.encode s))) with
    | none => .error .badDomain
    | some [] => .error .emptyHost
    | some domain =>
      if endsInNumber domain then
        match ipv4? domain with
        | some a => .ok a.print
        | none => .error .badIpv4
      else .ok domain

/-- The characters that a host of any other URL may not hold. -/
def isForbiddenInHost (c : Char) : Bool :=
  ['\x00', ' ', '#', '/', ':', '<', '>', '?', '@', '[', '\\', ']', '^', '|'].contains c

/-- Reads a host of any other URL, which is kept as it is written. -/
def opaqueHost (s : Text) : Except UrlError Text :=
  if s.head? = some '[' then bracketed s
  else if s.any isForbiddenInHost then .error .badHostChar
  else .ok (Percent.encode isOpaqueChar s)

/-! Authorities -/

/-- The texts before and after the last at sign. -/
def splitUserinfo (s : Text) : Option Text × Text :=
  match splitFirst (· == '@') s.reverse with
  | (host, some user) => (some user.reverse, host.reverse)
  | (host, none) => (none, host.reverse)

/-- Written user information: a name and a password with a colon between them, which is left out
with an empty password. -/
def userinfoOf (s : Text) : Text :=
  let encode := Percent.encode isUserinfoChar
  match splitFirst (· == ':') s with
  | (name, none) => encode name
  | (name, some password) =>
    if password = [] then encode name else encode name ++ ':' :: encode password

/-- The host in front of the first colon outside brackets, and what follows that colon. -/
def splitHost : (inside : Bool) → Text → Text × Option Text
  | _, [] => ([], none)
  | inside, c :: s =>
    if c = ':' ∧ !inside then ([], some s)
    else
      let rest := splitHost (if c = '[' then true else if c = ']' then false else inside) s
      (c :: rest.1, rest.2)

/-- Reads the number behind a host and its colon; an empty one, and the one that the scheme implies,
are left out. A backslash ends it. -/
def numberOf (scheme s : Text) : Except UrlError (Option Nat × Text) :=
  let digits := s.takeWhile Char.isDigit
  let rest := s.dropWhile Char.isDigit
  let n := Text.toNat 10 digits
  if 2 ^ 16 ≤ n ∨ rest.head? ∉ [none, some '\\'] then .error .badNumber
  else .ok (if digits = [] ∨ hostSchemes.contains (scheme, n) then none else some n, rest)

/-- Reads an authority, and returns what it leaves of the text; `followed` tells whether more of the
URL stands behind the text. -/
def authorityOf (scheme : Text) (followed : Bool) (s : Text) :
    Except UrlError (Authority × Text) := do
  let (user, s) := splitUserinfo s
  let userinfo := userinfoOf (user.getD [])
  let (host, number) := splitHost false s
  if host = [] ∧ (kindOf scheme ≠ .other ∨ number.isSome ∨ userinfo ≠ [] ∨
      (user = some [] ∧ followed)) then
    throw .emptyHost
  let host ← if kindOf scheme = .other then opaqueHost host else domainHost host
  let (number, rest) ← match number with
    | some s => numberOf scheme s
    | none => .ok (none, [])
  return (⟨userinfo, host, number⟩, rest)

/-! Whole URLs -/

/-- Whether a character may stand in a scheme behind its first letter. -/
def isSchemeChar (c : Char) : Bool := c.isAlphanum || c == '+' || c == '-' || c == '.'

/-- Reads a scheme with its colon. -/
def scheme? (s : Text) : Option (Text × Text) :=
  match s, splitFirst (· == ':') s with
  | c :: _, (scheme, some rest) =>
    if c.isAlpha ∧ scheme.all isSchemeChar then some (Text.lower scheme, rest) else none
  | _, _ => none

/-- The end of a URL: its query and its fragment. -/
structure Tail where
  query : Option Text
  fragment : Option Text
  deriving DecidableEq, Repr

def Tail.isPresent (t : Tail) : Bool := t.query.isSome || t.fragment.isSome

/-- The text before the query, and the end of the URL, percent-encoded. -/
def splitTail (kind : SchemeKind) (s : Text) : Text × Tail :=
  let (s, fragment) := splitFirst (· == '#') s
  let (s, query) := splitFirst (· == '?') s
  (s, ⟨query.map (Percent.encode (isQueryChar kind)), fragment.map (Percent.encode isFragmentChar)⟩)

/-- Reads a URL whose scheme has a host; any number of slashes may stand in front of it. -/
def ofHostText (scheme s : Text) : Except UrlError Url := do
  let isSlash := SchemeKind.web.isSlash
  let (s, tail) := splitTail .web s
  let s := s.dropWhile isSlash
  let rest := s.dropWhile fun c => !isSlash c
  let (a, _) ← authorityOf scheme (rest ≠ [] || tail.isPresent) (s.takeWhile fun c => !isSlash c)
  return ⟨scheme, .authority a, pathOf .web (.authority a) rest, tail.query, tail.fragment⟩

/-- The host of a local file that is the same as none. -/
def ownHost : Text := "localhost".toList

/-- Reads the host of a local file and returns the path behind it. -/
def fileHost (s : Text) : Except UrlError (Text × Text) := do
  let isSlash := SchemeKind.file.isSlash
  let host := s.takeWhile fun c => !isSlash c
  let rest := s.dropWhile fun c => !isSlash c
  -- what looks like a drive belongs to the path
  if host = [] ∨ (host.length = 2 ∧ beginsWithDrive host) then return ([], s)
  else
    let host ← domainHost host
    let path := segmented .file (rooted .file rest)
    -- and a drive in the path leaves no host
    let drive := (path.drop 1).takeWhile (· ≠ '/')
    return (if host = ownHost ∨ (drive.length = 2 ∧ beginsWithDrive drive) then [] else host, rest)

/-- Reads a URL of a local file, whose host may be absent. -/
def ofFileText (s : Text) : Except UrlError Url := do
  let isSlash := SchemeKind.file.isSlash
  let (s, tail) := splitTail .file s
  let (host, path) ← match s with
    | a :: b :: rest => if isSlash a ∧ isSlash b then fileHost rest else .ok ([], s)
    | s => .ok ([], s)
  let front := Front.authority ⟨[], host, none⟩
  return ⟨fileScheme, front, pathOf .file front path, tail.query, tail.fragment⟩

/-- Reads a URL of any other scheme. -/
def ofOtherText (scheme s : Text) : Except UrlError Url := do
  let (s, tail) := splitTail .other s
  match s with
  | '/' :: '/' :: s =>
    let rest := s.dropWhile (· ≠ '/')
    let (a, more) ← authorityOf scheme (rest ≠ [] || tail.isPresent) (s.takeWhile (· ≠ '/'))
    let path := pathOf .other (.authority a) (more ++ rest)
    return ⟨scheme, .authority a, path, tail.query, tail.fragment⟩
  | '/' :: _ =>
    let path := pathOf .other .bare s
    let front := if path.take 2 = ['/', '/'] then .guarded else .bare
    return ⟨scheme, front, path, tail.query, tail.fragment⟩
  | s => return ⟨scheme, .bare, opaquePathOf s, tail.query, tail.fragment⟩

/-- Reads a URL; blanks and control characters around it are dropped. -/
def ofText (s : Text) : Except UrlError Url :=
  let s := Text.trimBy (fun c => c.toNat ≤ 0x20) s
  match scheme? (s.filter fun c => !isIgnored c) with
  | none => .error .relative
  | some (scheme, rest) =>
    match kindOf scheme with
    | .web => ofHostText scheme rest
    | .file => ofFileText rest
    | .other => ofOtherText scheme rest

end Url
end TenantScope
