/- The paths of URLs, and URLs with another path. -/
import TenantScope.Net.Url

namespace TenantScope.Url

/-! Segments -/

/-- Whether a segment stands for its own directory. -/
def isSingleDot (segment : Text) : Bool :=
  Text.lower segment ∈ [['.'], ['%', '2', 'e']]

/-- Whether a segment stands for the directory above. -/
def isDoubleDot (segment : Text) : Bool :=
  Text.lower segment ∈ ["..".toList, ".%2e".toList, "%2e.".toList, "%2e%2e".toList]

/-- Whether a segment begins like a drive: a letter, then a colon or a bar, then nothing or a
backslash. -/
def beginsWithDrive : Text → Bool
  | c :: d :: rest =>
    c.isAlpha && (d == ':' || d == '|') && (rest.isEmpty || rest.head? == some '\\')
  | _ => false

/-- A drive with a colon; any other segment stays as it is. -/
def driveOf : Text → Text
  | [c, d] => if c.isAlpha ∧ d = '|' then [c, ':'] else [c, d]
  | segment => segment

/-- Leaves the last directory. The first one, which is the root, and drives are not left. -/
def climb : List Text → List Text
  | segment :: parent :: rest =>
    if beginsWithDrive segment then segment :: parent :: rest else parent :: rest
  | closed => closed

/-- The segments without those that stand for directories; `closed` holds the directories so far,
last first. -/
def resolve (kind : SchemeKind) (closed : List Text) : List Text → List Text
  | [] => closed.reverse
  | segment :: rest =>
    -- a path that ends in a directory's segment ends in a slash
    let last := if rest = [] then [[]] else []
    if isDoubleDot segment then resolve kind (last ++ climb closed) rest
    else if isSingleDot segment then resolve kind (last ++ closed) rest
    else
      -- only the first segment behind the root of a file's path is a drive
      let segment := if kind = .file ∧ closed = [[]] then driveOf segment else segment
      resolve kind (segment :: closed) rest

/-! Paths -/

/-- The segments of a text, percent-encoded and resolved, with slashes between them. -/
def segmented (kind : SchemeKind) (s : Text) : Text :=
  Text.join ['/'] (resolve kind [] ((splitAll kind.isSlash s).map (Percent.encode isPathChar)))

/-- A text with a slash in front where none is. -/
def rooted (kind : SchemeKind) (s : Text) : Text :=
  match s with
  | c :: _ => if kind.isSlash c then s else '/' :: s
  | [] => ['/']

/-- The path of a file without the slashes behind its first. -/
def filePath (path : Text) : Text := '/' :: path.dropWhile (· == '/')

/-- The written path of a text behind the given front. -/
def pathOf (kind : SchemeKind) (front : Front) (s : Text) : Text :=
  let s := s.filter fun c => !isIgnored c
  match kind with
  | .web => segmented .web (rooted .web s)
  | .file =>
    let hasHost := front.authority?.any fun a => a.host ≠ []
    filePath (segmented .file (if hasHost then rooted .file s else s))
  | .other =>
    -- what is empty or begins like a query or a fragment is no path
    if s.head? ∈ [none, some '?', some '#'] then [] else segmented .other (rooted .other s)

/-- The written path of a text without segments, which keeps all but control characters. -/
def opaquePathOf (s : Text) : Text := Percent.encode isOpaqueChar (s.filter fun c => !isIgnored c)

/-- The opaque path of a text that nothing follows: no blanks stand at its end, and a slash at its
front is percent-encoded. -/
def lastOpaquePathOf (s : Text) : Text :=
  let path := match s with
    | '/' :: rest => "%2F".toList ++ opaquePathOf rest
    | s => opaquePathOf s
  (path.reverse.dropWhile (· == ' ')).reverse

/-- The URL with another path and nothing behind it. -/
def withPath (u : Url) (path : Text) : Url :=
  { u with
    path := if u.isOpaque then lastOpaquePathOf path else pathOf u.kind u.front path
    query := none
    fragment := none }

end TenantScope.Url
