import AppServer.Http.Form
import AppServer.Http.Handler

/-!
# Routes

A route is a path with places that capture: a name in braces captures one part
of the path, a name with a star in front of it the whole rest. Of all routes
that a path matches the one counts that captures last. A router can be nested
below a path; the handlers below it see the rest of the path.
-/

namespace AppServer.Http

/-! ### Patterns -/

inductive RoutePiece where
  | literal (c : Char)
  | part (name : String)
  | rest (name : String)
deriving DecidableEq, Repr

abbrev Captures := List (String × String)

/-- The characters of a route; a doubled brace stands for itself, which the mark beside it tells. -/
def unescapeRoute : List Char → List (Char × Bool)
  | '{' :: '{' :: rest => ('{', true) :: unescapeRoute rest
  | '}' :: '}' :: rest => ('}', true) :: unescapeRoute rest
  | c :: rest => (c, false) :: unescapeRoute rest
  | [] => []

/-- The name of a capture up to its closing brace, and the route behind it. Only the first character
of a name may be a star or a slash, and only a slash may follow the brace. -/
def captureName? : List Char → List (Char × Bool) → Option (List Char × List (Char × Bool))
  | _, [] => none
  | [], ('}', _) :: _ => none
  | [], (c, _) :: rest => captureName? [c] rest
  | name, (c, escaped) :: rest =>
    if c = '*' ∨ c = '/' then none
    else if c = '}' ∧ !escaped then
      if name = ['*'] ∨ rest.head?.any (·.1 ≠ '/') then none else some (name.reverse, rest)
    else captureName? (c :: name) rest

/-- The pieces of a route; `afterSlash` tells that a slash precedes, `fuel` bounds the length. -/
def readPieces : Nat → Bool → List (Char × Bool) → Option (List RoutePiece)
  | _, _, [] => some []
  | 0, _, _ => none
  | _, _, ('}', false) :: _ => none
  | fuel + 1, afterSlash, ('{', false) :: rest => do
    let (name, after) ← captureName? [] rest
    match name with
    | '*' :: name => if afterSlash ∧ after = [] then some [.rest (String.ofList name)] else none
    | name => some (.part (String.ofList name) :: (← readPieces fuel false after))
  | fuel + 1, _, (c, _) :: rest => do
    some (.literal c :: (← readPieces fuel (c = '/') rest))

/-- Whether a part of a path starts with one of the marks that captures had in older routes. -/
def isOldCapture : List Char → Bool
  | ':' :: _ => true
  | '*' :: _ => true
  | _ => false

/-- Whether a text starts with a slash and no part of it looks like a capture of older routes. -/
def isRoutePath : List Char → Bool
  | '/' :: rest => !(Text.cutAll '/' rest).any isOldCapture
  | _ => false

/-- The pieces of a route, unless its path or its braces are malformed. -/
def readRoute? (path : String) : Option (List RoutePiece) :=
  let cs := unescapeRoute path.toList
  if isRoutePath path.toList then readPieces cs.length false cs else none

/-- What a path holds in the places that capture, if it matches. Nothing is captured as empty. -/
def matchPieces : List RoutePiece → List Char → Option Captures
  | [], [] => some []
  | [], _ :: _ => none
  | .literal c :: pieces, d :: rest => if c = d then matchPieces pieces rest else none
  | .literal _ :: _, [] => none
  | .part name :: pieces, path =>
    let found := path.takeWhile (· ≠ '/')
    if found = [] then none
    else (matchPieces pieces (path.dropWhile (· ≠ '/'))).map ((name, String.ofList found) :: ·)
  | .rest name :: _, path => if path = [] then none else some [(name, String.ofList path)]

def RoutePiece.rank : RoutePiece → Nat
  | .literal _ => 0
  | .part _ => 1
  | .rest _ => 2

/-- Whether one route captures later than another, where both match a path. -/
def capturesLater : List RoutePiece → List RoutePiece → Bool
  | a :: as, b :: bs => a.rank < b.rank || (a.rank = b.rank && capturesLater as bs)
  | _, _ => false

/-! ### Routers -/

abbrev Endpoint (ν : Type) := Captures → Handler ν

structure Route (ν : Type) where
  path : String
  pieces : List RoutePiece
  endpoint : Endpoint ν

structure Router (ν : Type) where
  routes : List (Route ν) := []

def notFound : Response := ⟨404, [], []⟩

def methodNotAllowed (allowed : String) : Response := ⟨405, [("allow", Bytes.ofText allowed)], []⟩

def Endpoint.forMethods (methods : List String) (inner : Endpoint ν) : Endpoint ν :=
  fun captures request context realm =>
    if request.method ∈ methods then inner captures request context realm
    else ⟨methodNotAllowed (Text.join "," methods), realm, none⟩

def Endpoint.onGet (inner : Endpoint ν) : Endpoint ν := inner.forMethods ["GET", "HEAD"]

def Endpoint.onPost (inner : Endpoint ν) : Endpoint ν := inner.forMethods ["POST"]

namespace Router

/-- A router with these routes, unless a path among them is malformed. -/
def ofList? (routes : List (String × Endpoint ν)) : Option (Router ν) :=
  (routes.mapM fun (route : String × Endpoint ν) =>
    (readRoute? route.1).map fun pieces => ⟨route.1, pieces, route.2⟩).map Router.mk

def find? (router : Router ν) (path : String) : Option (Route ν × Captures) :=
  let found := router.routes.filterMap fun route =>
    (matchPieces route.pieces path.toList).map fun captures => (route, captures)
  found.foldl (fun best next => match best with
    | none => some next
    | some held => if capturesLater next.1.pieces held.1.pieces then some next else some held) none

def handler (router : Router ν) : Handler ν :=
  fun request context realm =>
    match router.find? request.target.path with
    | some (route, captures) => route.endpoint captures request context realm
    | none => ⟨notFound, realm, none⟩

def layer (router : Router ν) (wrap : Handler ν → Handler ν) : Router ν :=
  ⟨router.routes.map fun route => { route with endpoint := fun captures => wrap (route.endpoint captures) }⟩

/-! ### Nesting -/

/-- Whether a path may have routers nested below it, apart from its braces: no part of it captures the
rest of a path or looks like a capture of older routes. -/
def mayNest (path : String) : Bool :=
  (Text.cutAll '/' path.toList).all fun part =>
    !isOldCapture part &&
      !((Text.dropStart? ['{', '*'] part).isSome && part.getLast? = some '}' &&
        (Text.dropEnd? ['}', '}'] part).isNone)

/-- The path of a route below another path. -/
def nestedPath (outer inner : String) : String := if inner = "/" then outer else outer ++ inner

/-- What is left of a path behind as many parts as another path has and behind the slash that follows them. A slash
is put in front unless there is one. -/
def restBelow (outer path : String) : String :=
  let behind := (Text.cutAll '/' path.toList).drop (Text.cutAll '/' outer.toList).length
  let rest := (behind.flatMap fun part => '/' :: part).tail
  String.ofList (if rest.head? = some '/' then rest else '/' :: rest)

/-- The router with all its routes below a path; none when the path cannot be part of a route. -/
def nest? (router : Router ν) (outer : String) : Option (Router ν) :=
  if !mayNest outer then none
  else ofList? (router.routes.map fun route =>
    (nestedPath outer route.path, fun captures request =>
      route.endpoint captures
        { request with target := { request.target with path := restBelow outer request.target.path } }))

end Router

end AppServer.Http
