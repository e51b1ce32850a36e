import DeclarativeForm.Coercion
import DeclarativeForm.Tree.Walk

/-!
Fields whose options come from a source, with the arguments the source is asked with: the values of
the paths it depends on, all of which have to be there, and then the values of its parameters,
null where there is none.
-/

set_option autoImplicit false

namespace DeclarativeForm

/-- A visible field fed by a source, and its arguments if all of them are there. -/
structure OptionBinding where
  path : FieldPath
  field : Leaf
  source : OptionsSource
  args : Option (List Json)
deriving Repr

namespace OptionBinding

def key (binding : OptionBinding) : String := binding.path.text

def dependencies (binding : OptionBinding) : List String := binding.source.dependencies

end OptionBinding

/-- The values of paths a source depends on; nothing if one of them is missing. -/
def dependencyValues (scope : Scope) : List String → Option (List Json)
  | [] => some []
  | path :: rest =>
    let found := scope.lookup path
    if isMissing found then none
    else (dependencyValues scope rest).map (found.toList ++ ·)

/-- The arguments of a source in a scope. -/
def OptionsSource.argsIn (source : OptionsSource) (scope : Scope) : Option (List Json) :=
  (dependencyValues scope source.dependencies).map
    (· ++ source.params.map scope.lookupOrNull)

def optionBindings (fields : List Node) (values : Json) : List OptionBinding :=
  (walk .visible values .root fields).filterMap fun visit =>
    match visit.node with
    | .leaf leaf =>
      leaf.optionsSource.map fun source =>
        { path := visit.path, field := leaf, source,
          args := source.argsIn (visit.context.scope values) }
    | _ => none

def optionBindingNotices (fields : List Node) (values : Json) : List Notice :=
  walkNotices .visible values (fun _ => []) .root fields

end DeclarativeForm
