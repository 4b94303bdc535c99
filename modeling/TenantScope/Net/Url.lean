/- URLs of the kinds that an HTTP client calls: their parts and their text. -/
import TenantScope.Text.Percent
import TenantScope.Text.Split

namespace TenantScope

/-- The part of a URL between the double slash and the path; `userinfo` and `host` are as they are
written in it. -/
structure Authority where
  userinfo : Text
  host : Text
  number : Option Nat
  deriving DecidableEq, Repr

/-- What stands between the scheme and the path of a URL: nothing, the two characters that keep a
path with an empty first segment from being taken for an authority, or an authority. -/
inductive Front
  | bare | guarded | authority (a : Authority)
  deriving DecidableEq, Repr

/-- A URL by its written parts. -/
structure Url where
  scheme : Text
  front : Front
  path : Text
  query : Option Text
  fragment : Option Text
  deriving DecidableEq, Repr

/-- The kinds of schemes: those of URLs with a host, that of local files, and all others. -/
inductive SchemeKind
  | web | file | other
  deriving DecidableEq, Repr

namespace SchemeKind

/-- Whether a character divides the path of a URL; backslashes count as slashes where a scheme is
known. -/
def isSlash (kind : SchemeKind) (c : Char) : Bool := c == '/' || (kind != .other && c == '\\')

end SchemeKind

namespace Authority

/-- The text of an authority; the user information stands in front of an at sign. -/
def print (a : Authority) : Text :=
  (if a.userinfo = [] then [] else a.userinfo ++ ['@']) ++ a.host ++
    match a.number with
    | some n => ':' :: Text.ofNat n
    | none => []

/-- The authority without its user information. What cannot be read as a name or a password stays in
place. -/
def anonymous (a : Authority) : Authority :=
  let decode s := Utf8.decode? (Percent.decode (Utf8.encode s))
  let (name, password) := splitFirst (· == ':') a.userinfo
  match decode name, password.bind decode with
  | some (_ :: _), _ | some [], some _ => { a with userinfo := [] }
  | _, _ => a

end Authority

namespace Front

def print : Front → Text
  | bare => []
  | guarded => ['/', '.']
  | authority a => '/' :: '/' :: a.print

def authority? : Front → Option Authority
  | authority a => some a
  | _ => none

end Front

namespace Url

/-- The schemes of URLs with a host, with the number that is understood when none is written. -/
def hostSchemes : List (Text × Nat) :=
  [("http".toList, 80), ("https".toList, 443), ("ws".toList, 80), ("wss".toList, 443),
    ("ftp".toList, 21)]

def fileScheme : Text := "file".toList

def kindOf (scheme : Text) : SchemeKind :=
  if hostSchemes.any fun s => s.1 = scheme then .web
  else if scheme = fileScheme then .file
  else .other

def kind (u : Url) : SchemeKind := kindOf u.scheme

def print (u : Url) : Text :=
  u.scheme ++ ':' :: u.front.print ++ u.path ++
    (match u.query with
      | some q => '?' :: q
      | none => []) ++
    match u.fragment with
    | some f => '#' :: f
    | none => []

/-- The URL without its user information. -/
def anonymous (u : Url) : Url :=
  match u.front with
  | .authority a => { u with front := .authority a.anonymous }
  | _ => u

/-- Whether the path of a URL has no segments: nothing but the scheme stands in front of it, and it
does not begin with a slash. -/
def isOpaque (u : Url) : Bool := u.front = .bare && u.path.head? != some '/'

/-! Characters that stay as they are -/

/-- Printable ASCII without the blank. -/
def isGraph (c : Char) : Bool := 0x20 < c.toNat && c.toNat < 0x7F

/-- The characters of a path that are not percent-encoded. -/
def isPathChar (c : Char) : Bool :=
  isGraph c && !(['"', '#', '<', '>', '?', '`', '{', '}'].contains c)

/-- The characters of user information that are not percent-encoded. -/
def isUserinfoChar (c : Char) : Bool :=
  isPathChar c && !(['/', ':', ';', '=', '@', '[', '\\', ']', '^', '|'].contains c)

/-- The characters of a query that are not percent-encoded; quotes are, unless the scheme is any
other than the known ones. -/
def isQueryChar (kind : SchemeKind) (c : Char) : Bool :=
  isGraph c && !(['"', '#', '<', '>'].contains c) && !(kind != .other && c == '\'')

/-- The characters of a fragment that are not percent-encoded. -/
def isFragmentChar (c : Char) : Bool := isGraph c && !(['"', '<', '>', '`'].contains c)

/-- The characters of an opaque path that are not percent-encoded. -/
def isOpaqueChar (c : Char) : Bool := 0x20 ≤ c.toNat && c.toNat < 0x7F

/-- Tabs and line ends are left out of every part of a URL. -/
def isIgnored (c : Char) : Bool := c == '\t' || c == '\n' || c == '\r'

end Url
end TenantScope
