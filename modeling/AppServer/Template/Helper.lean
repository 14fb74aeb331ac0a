import AppServer.Template.Scope

/-!
# Helpers

The helpers that templates may call, under their names. Some of them only
compute a value from their arguments, some test them, which yields a truth value
or chooses a part of a block; the others write, or choose what is written.
-/

namespace AppServer.Template

inductive Comparison where
  | equal
  | different
  | greater
  | atLeast
  | less
  | atMost
deriving DecidableEq, Repr

def Comparison.holds (c : Comparison) (a b : Json) : Bool :=
  match c with
  | .equal => a.same b
  | .different => !a.same b
  | .greater => compareValues a b == some .gt
  | .atLeast => (compareValues a b).any (· != .lt)
  | .less => compareValues a b == some .lt
  | .atMost => (compareValues a b).any (· != .gt)

inductive Action where
  | authenticityForm
  | authenticityToken
  /-- Renders its body if a value counts as true (or does not). -/
  | conditional (positive : Bool)
  | each
  | within
  | raw
  | log
deriving DecidableEq, Repr

inductive Test where
  | compare (comparison : Comparison)
  | all
  | any
  /-- Whether a value does not count as true. -/
  | negation
deriving DecidableEq, Repr

inductive Function where
  | lookup
  | size
deriving DecidableEq, Repr

inductive Helper where
  | action (action : Action)
  | test (test : Test)
  | function (function : Function)
deriving DecidableEq, Repr

def authenticityFormName : String := "authenticity_form"

def authenticityTokenName : String := "authenticity_token"

def helpers : List (String × Helper) :=
  [(authenticityFormName, .action .authenticityForm), (authenticityTokenName, .action .authenticityToken),
    ("if", .action (.conditional true)), ("unless", .action (.conditional false)),
    ("each", .action .each), ("with", .action .within), ("raw", .action .raw), ("log", .action .log),
    ("lookup", .function .lookup), ("len", .function .size), ("eq", .test (.compare .equal)),
    ("ne", .test (.compare .different)), ("gt", .test (.compare .greater)),
    ("gte", .test (.compare .atLeast)), ("lt", .test (.compare .less)),
    ("lte", .test (.compare .atMost)), ("and", .test .all), ("or", .test .any),
    ("not", .test .negation)]

def Helper.ofName? (name : String) : Option Helper := helpers.lookup name

/-! ### Arguments -/

structure Inputs where
  /-- The positional arguments; one that leads nowhere is null. -/
  params : List Json
  hash : List (String × Json)

def Inputs.param (inputs : Inputs) (helper : String) (index : Nat) : Except RenderError Json :=
  match inputs.params[index]? with
  | some value => .ok value
  | none => .error (.missingArgument helper index)

def Test.holds (t : Test) (name : String) (inputs : Inputs) : Except RenderError Bool :=
  match t with
  | .compare c => do .ok (c.holds (← inputs.param name 0) (← inputs.param name 1))
  | .all => .ok (inputs.params.all (isTruthy false))
  | .any => .ok (inputs.params.any (isTruthy false))
  | .negation => do .ok (!isTruthy false (← inputs.param name 0))

def Function.apply (f : Function) (name : String) (inputs : Inputs) : Except RenderError Json :=
  match f with
  | .lookup => do .ok (lookupValue (← inputs.param name 0) (← inputs.param name 1))
  | .size => match inputs.params with
    | value :: _ => .ok (.nat (sizeOfValue value))
    | [] => .error (.missingNamed name "x")

/-! ### Logging -/

def loggingLevels : List String := ["error", "warn", "info", "debug", "trace"]

/-- The level of logging that a call names; a value that is no text names none. -/
def Inputs.loggingLevel (inputs : Inputs) : Except RenderError Unit :=
  match inputs.hash.lookup "level" with
  | some (.string level) =>
    if String.ofList (level.toList.map Char.toLower) ∈ loggingLevels then .ok ()
    else .error (.badLoggingLevel level)
  | _ => .ok ()

end AppServer.Template
