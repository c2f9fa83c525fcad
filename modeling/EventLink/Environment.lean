/-!
The environment bindings that a program was started with.
-/
namespace EventLink

/-- Variables and their values.  A variable that is not listed is not set. -/
structure Environment where
  bindings : List (String × String)
  deriving Repr

def Environment.get? (env : Environment) (name : String) : Option String :=
  env.bindings.lookup name

end EventLink
