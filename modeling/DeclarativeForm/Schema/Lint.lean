import DeclarativeForm.Notice
import DeclarativeForm.Schema.Form
import DeclarativeForm.Tree.Find

/-!
Notices about a form that can be mounted but holds a mistake: names that are used twice in one
namespace, flows without their output step, wizard steps that list unknown fields.
-/

set_option autoImplicit false

namespace DeclarativeForm.Lint

/-- A name is noticed when it was used before; the node's own notices follow. -/
def named (parent : String) (seen : List String) (name : String) (own : List Notice) :
    List Notice × List String :=
  if seen.contains name then (.duplicateName name parent :: own, seen)
  else (own, name :: seen)

mutual

/-- The notices about a node and the names used up to and including it. -/
def node (parent : String) (seen : List String) : Node → List Notice × List String
  | .group _ fields => siblings parent seen fields
  | .leaf field => named parent seen field.name []
  | .repeatable head template => named parent seen head.name (siblings head.name [] template).1
  | .flow field =>
    named parent seen field.name
      (if (field.stepIndex field.outputStepId).isNone then
        [.missingOutputStep field.name field.outputStepId]
      else [])
termination_by structural node => node

/-- The notices about a list of nodes. Sections share the namespace of the list. -/
def siblings (parent : String) (seen : List String) : List Node → List Notice × List String
  | [] => ([], seen)
  | first :: rest =>
    let (notices, seen) := node parent seen first
    let (later, seen) := siblings parent seen rest
    (notices ++ later, seen)
termination_by structural nodes => nodes

end

/-- The fields a wizard lists that it does not have. -/
def wizardSteps (form : Form) : List Notice :=
  form.steps.flatMap fun step =>
    (step.fields.filter fun name => (findByName name form.fields).isNone).map fun name =>
      .unknownStepField step.id name

def form (form : Form) : List Notice :=
  (siblings "<root>" [] form.fields).1 ++ if form.isWizard then wizardSteps form else []

end DeclarativeForm.Lint
