import AppServer.Http.Message
import AppServer.Text.Cut

/-!
# Targets as URIs

The target of a request is a URI: a path with or without a query, the same behind a
scheme and an authority, or an authority by itself. It can be taken apart and made
again of its parts, which fails for characters that a URI does not hold and for
parts that do not go together.
-/

namespace AppServer.Http

/-! ### Characters -/

/-- A character that a path may hold. Quotes and braces are let through although they should be escaped. -/
def isPathChar (c : Char) : Bool :=
  c = '!' || ('$' ≤ c && c ≤ ';') || c = '=' || ('@' ≤ c && c ≤ '_') || ('a' ≤ c && c ≤ '~') || c = '"' ||
    0x7F ≤ c.toNat

def isQueryChar (c : Char) : Bool :=
  c = '!' || ('$' ≤ c && c ≤ ';') || c = '=' || '?' ≤ c

/-! ### Paths with queries -/

structure PathAndQuery where
  path : String
  query : Option String
deriving DecidableEq, Repr

def PathAndQuery.text (p : PathAndQuery) : String :=
  match p.query with
  | some query => p.path ++ "?" ++ query
  | none => p.path

/-- The path and the query of a text, unless it holds a character that they may not hold; a fragment is left out. -/
def PathAndQuery.ofText? (text : String) : Option PathAndQuery :=
  let kept := text.toList.takeWhile (· ≠ '#')
  match Text.cutFirst '?' kept with
  | some (path, query) =>
    if path.all isPathChar && query.all isQueryChar then some ⟨String.ofList path, some (String.ofList query)⟩
    else none
  | none => if kept.all isPathChar then some ⟨String.ofList kept, none⟩ else none

/-! ### URIs -/

/-- A target that is a URI. Only an authority by itself has no scheme, and it has no path either. -/
structure Target.IsUri (target : Target) : Prop where
  path : target.path.toList.all isPathChar = true
  query : target.query.all (fun query => query.toList.all isQueryChar) = true
  pathless : target.path = "" → target.query = none
  form : ∀ origin ∈ target.origin, origin.scheme = none ↔ target.path = ""

instance (target : Target) : Decidable target.IsUri :=
  decidable_of_iff
    (target.path.toList.all isPathChar = true ∧
      target.query.all (fun query => query.toList.all isQueryChar) = true ∧
      (target.path = "" → target.query = none) ∧
      ∀ origin ∈ target.origin, origin.scheme = none ↔ target.path = "")
    ⟨fun ⟨path, query, pathless, form⟩ => ⟨path, query, pathless, form⟩,
      fun h => ⟨h.path, h.query, h.pathless, h.form⟩⟩

structure UriParts where
  scheme : Option String
  authority : Option String
  pathAndQuery : Option PathAndQuery

def Target.parts (target : Target) : UriParts where
  scheme := target.origin.bind (·.scheme)
  authority := target.origin.map (·.authority)
  pathAndQuery := if target.path = "" then none else some ⟨target.path, target.query⟩

/-- The target of these parts, unless one is missing: a scheme goes with an authority and a path, and a path behind
an authority goes with a scheme. An empty path is read as a slash. -/
def Target.ofParts? (parts : UriParts) : Option Target :=
  match parts.scheme, parts.authority, parts.pathAndQuery with
  | some _, none, _ => none
  | some _, some _, none => none
  | none, some _, some _ => none
  | scheme, authority, found =>
    some {
      origin := authority.map (⟨scheme, ·⟩)
      path := found.elim "" fun found => if found.path = "" then "/" else found.path
      query := found.bind (·.query) }

/-! ### The root of a context path -/

/-- Whether a path is a context path with one slash behind it; the lengths are those in bytes. -/
def isContextRoot (contextPath path : String) : Bool :=
  contextPath ≠ "" && path.utf8ByteSize = contextPath.utf8ByteSize + 1 &&
    contextPath.toList.isPrefixOf path.toList && path.toList.getLast? = some '/'

/-- The target with the slash removed that follows the whole context path, so that the application's root is found
at the context path with and without a slash. What is no URI, which no request has for a target, stays as it is. -/
def Target.withContextRoot (target : Target) (contextPath : String) : Target :=
  if target.IsUri ∧ isContextRoot contextPath target.path then
    let rewritten := PathAndQuery.ofText? (PathAndQuery.text ⟨contextPath, target.query⟩)
    (Target.ofParts? ⟨target.parts.scheme, target.parts.authority, rewritten⟩).getD target
  else target

/-- The request with the slash removed that follows the whole context path. -/
def Request.withContextRoot (request : Request) (contextPath : String) : Request :=
  { request with target := request.target.withContextRoot contextPath }

end AppServer.Http
