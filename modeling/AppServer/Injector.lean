import AppServer.Text.Cut

/-!
# Service bindings

Services are bound under the type they are asked for by. Bindings are gathered
in steps, some of them grouped into modules that may install further modules,
and then built into an injector. The last binding of a type counts, and a
module's steps count as if they stood in its place.
-/

namespace AppServer

abbrev TypeName := String

/-- A service with its identity: two instances may have equal values. -/
structure Instance (α : Type) where
  /-- Tells this instance from all others. -/
  id : Nat
  value : α
deriving DecidableEq, Repr

/-- A service held without its type, which only the value itself still knows. -/
structure Erased (α : Type) where
  type : TypeName
  service : Instance α

/-- The service as one of a type; none when it is of another. -/
def Erased.downcast? (held : Erased α) (type : TypeName) : Option (Instance α) :=
  if held.type = type then some held.service else none

structure Binding (α : Type) where
  /-- The type as descriptions name it. -/
  typeName : TypeName
  held : Erased α

structure Bindings (α : Type) where
  entries : List (TypeName × Binding α) := []

namespace Bindings

/-- The service of a type. What is held under the type has to be of it. -/
def get? (b : Bindings α) (type : TypeName) : Option (Instance α) :=
  (b.entries.lookup type).bind fun binding => binding.held.downcast? type

/-- Whether something is held under a type, whatever it is. -/
def contains (b : Bindings α) (type : TypeName) : Bool := (b.entries.lookup type).isSome

def bind (b : Bindings α) (type : TypeName) (service : Instance α) : Bindings α :=
  ⟨(type, ⟨type, ⟨type, service⟩⟩) :: b.entries.filter fun entry => entry.1 ≠ type⟩

theorem get?_bind_self (b : Bindings α) (type : TypeName) (service : Instance α) :
    (b.bind type service).get? type = some service := by
  simp [get?, bind, Erased.downcast?]

end Bindings

/-! ### Modules -/

inductive BindingStep (α : Type) where
  /-- Binds an instance; one that is handed over is as good as one that is shared. -/
  | bind (type : TypeName) (service : Instance α)
  | contains (type : TypeName)
  | install (steps : List (BindingStep α))

inductive BindingAnswer where
  | done
  | found (present : Bool)
  | installed (answers : List BindingAnswer)

mutual

def BindingStep.run : BindingStep α → Bindings α → Bindings α × BindingAnswer
  | .bind type service, b => (b.bind type service, .done)
  | .contains type, b => (b, .found (b.contains type))
  | .install steps, b =>
    let (b, answers) := runSteps steps b
    (b, .installed answers)

def runSteps : List (BindingStep α) → Bindings α → Bindings α × List BindingAnswer
  | [], b => (b, [])
  | step :: rest, b =>
    let (b, answer) := step.run b
    let (b, answers) := runSteps rest b
    (b, answer :: answers)

end

mutual

/-- The bindings that a step makes, with modules written out in place. -/
def BindingStep.bindings : BindingStep α → List (TypeName × Instance α)
  | .bind type service => [(type, service)]
  | .contains _ => []
  | .install steps => stepBindings steps

def stepBindings : List (BindingStep α) → List (TypeName × Instance α)
  | [] => []
  | step :: rest => step.bindings ++ stepBindings rest

end

/-! ### Injectors -/

structure UnboundError where
  type : TypeName
deriving DecidableEq, Repr

def UnboundError.message (e : UnboundError) : String := "no binding for " ++ e.type

structure Injector (α : Type) where
  /-- The bindings it was built from. -/
  bindings : Bindings α := {}

def Bindings.build (b : Bindings α) : Injector α := ⟨b⟩

namespace Injector

def get? (i : Injector α) (type : TypeName) : Option (Instance α) := i.bindings.get? type

def require (i : Injector α) (type : TypeName) : Except UnboundError (Instance α) :=
  match i.get? type with
  | some service => .ok service
  | none => .error ⟨type⟩

def size (i : Injector α) : Nat := i.bindings.entries.length

def clone (i : Injector α) : Injector α := ⟨i.bindings⟩

/-- The bound types in the order of their names. -/
def types (i : Injector α) : List TypeName :=
  (i.bindings.entries.map fun entry => entry.2.typeName).mergeSort fun a b => a ≤ b

def describe (i : Injector α) : String :=
  "Injector \x7b bindings: [" ++
    Text.join ", " (i.types.map fun name => "\"" ++ name ++ "\"") ++ "] \x7d"

/-- Whether two injectors share the service of a type; none when one of them lacks it. -/
def shares? (i j : Injector α) (type : TypeName) : Option Bool := do
  some ((← i.get? type).id = (← j.get? type).id)

end Injector

end AppServer
