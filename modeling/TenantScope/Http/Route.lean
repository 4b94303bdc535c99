/- The classification of request paths. -/
import TenantScope.Http.Error
import TenantScope.Query.Lexeme

namespace TenantScope

/-- How an operation of the query API carries its queries: in one required parameter, in a
repeatable one, or not necessarily at all. -/
inductive ApiType
  | query | series | plain
  deriving DecidableEq, Repr

/-- A request path split into its tenant and the path of an API operation. -/
structure Route where
  tenant : Text
  apiPath : Text
  apiType : ApiType
  deriving DecidableEq, Repr

namespace Route

/-- The operations with one required query. The one that the others begin with stands last, for the
first that stands in front of a text is taken. -/
def queryOperations : List Text :=
  ["query_range".toList, "query_exemplars".toList, "query".toList]

/-- The operations with a repeatable selector, apart from the one that names a label. -/
def seriesOperations : List Text := ["series".toList, "labels".toList]

/-- The operations that need no query. -/
def plainOperations : List Text := ["format_query".toList]

/-- Drops the first of some operations that stands in front of a text. -/
def dropOperation? (operations : List Text) (s : Text) : Option Text :=
  operations.findSome? fun operation => Text.dropLead? operation s

/-- Drops the operation that lists the values of one label. -/
def dropLabelValues? (s : Text) : Option Text := do
  let s ← Text.dropLead? "label/".toList s
  if s.takeWhile Query.isLabelChar = [] then none
  else Text.dropLead? "/values".toList (s.dropWhile Query.isLabelChar)

/-- Reads an operation. The choices are tried in order, and the first that stands in front is taken
whatever follows it. -/
def operation? : Query.Lexer ApiType := fun s =>
  ((dropOperation? queryOperations s).map (ApiType.query, ·)).or <|
  (((dropOperation? seriesOperations s).or (dropLabelValues? s)).map (ApiType.series, ·)).or <|
  (dropOperation? plainOperations s).map (ApiType.plain, ·)

/-- The type of an API path that is on the list of operations, with nothing behind it. -/
def apiType? (apiPath : Text) : Option ApiType := do
  let s ← Text.dropLead? "/api/v1/".toList apiPath
  let (apiType, rest) ← operation? s
  if rest = [] then some apiType else none

/-- Splits a path at the slash behind its first segment; what follows must look like the path of
some version of the API. -/
def split? : Text → Option (Text × Text)
  | '/' :: s =>
    let tenant := s.takeWhile (· ≠ '/')
    let apiPath := s.dropWhile (· ≠ '/')
    match tenant, Text.dropLead? "/api/v".toList apiPath with
    | _ :: _, some (_ :: _) => some (tenant, apiPath)
    | _, _ => none
  | _ => none

def ofPath (path : Text) : Except RequestError Route :=
  match split? path with
  | none => .error (.badTarget path)
  | some (tenant, apiPath) =>
    match apiType? apiPath with
    | none => .error (.badPath apiPath)
    | some apiType => .ok ⟨tenant, apiPath, apiType⟩

end Route
end TenantScope
