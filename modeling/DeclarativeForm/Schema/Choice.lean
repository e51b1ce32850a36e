/-!
The choices a field offers and the sources they are fetched from. A source names a function, the
paths its answer depends on and further paths whose values it is given.
-/

set_option autoImplicit false

namespace DeclarativeForm

structure Choice where
  value : String
  label : String
  description : Option String
  icon : Option String
deriving DecidableEq, Repr, Inhabited

/-- The paths a source depends on, written as one text or as a list. -/
inductive Dependencies
  | one (path : String)
  | many (paths : List String)
deriving DecidableEq, Repr

namespace Dependencies

def paths : Dependencies → List String
  | one path => [path]
  | many paths => paths

/-- Whether the dependency is written as exactly this one path. -/
def isSingle (dependencies : Dependencies) (path : String) : Bool :=
  match dependencies with
  | one single => single == path
  | many _ => false

end Dependencies

structure OptionsSource where
  function : String
  dependsOn : Option Dependencies
  params : List String
  cache : Option Bool
deriving DecidableEq, Repr

namespace OptionsSource

/-- Answers are kept unless the source says otherwise. -/
def caches (source : OptionsSource) : Bool := source.cache.getD true

/-- The paths that have to hold a value before the source is asked. -/
def dependencies (source : OptionsSource) : List String :=
  match source.dependsOn with
  | some dependencies => dependencies.paths
  | none => []

end OptionsSource

end DeclarativeForm
