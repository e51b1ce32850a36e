import DeclarativeForm.Proofs.Fetch.Operation

/-!
A host and a mounted form. The host performs operations, takes tickets out of the queue and
completes tickets, in any order. A session is the engine together with a log of what the host has
seen: the tickets that were ever in the queue, those handed out, those completed, the answers that
were taken, and the generations of the tickets that lost their slots to the removal of an item
while the host held them.
-/

set_option autoImplicit false

namespace DeclarativeForm

deriving instance DecidableEq for Ticket

structure HostLog where
  /-- Every ticket that was ever in the queue. -/
  issued : List Ticket
  /-- Every ticket that was taken out of the queue by the host. -/
  handed : List Ticket
  /-- Every ticket that the host has completed, whether its answer was taken or not. -/
  answered : List Ticket
  /-- The options that were taken, with the tickets they were fetched for. -/
  delivered : List (Ticket × List Choice)
  /-- The generations of tickets whose slots were moved while the host held them. -/
  stranded : List Nat

namespace HostLog

def empty : HostLog := ⟨[], [], [], [], []⟩

/-- Whether a ticket has been completed. Tickets are told apart by target and generation. -/
def isAnswered (log : HostLog) (ticket : Ticket) : Bool :=
  log.answered.any fun other =>
    other.target = ticket.target && other.generation = ticket.generation

def held (log : HostLog) : List Ticket := log.handed.filter fun ticket => !log.isAnswered ticket

def awaits (slots : FetchTarget → Option OptionsSlot) (ticket : Ticket) : Bool :=
  match slots ticket.target with
  | some slot => slot.loading && slot.generation == ticket.generation
  | none => false

def isMoved (repeatable : String) (removed : Nat) (ticket : Ticket) : Bool :=
  match ticket.target.reindex repeatable removed with
  | some target => target ≠ ticket.target
  | none => false

/-- The tickets that lose their slots to the removal of an item: they are in the hands of the host,
their slots wait for them, and the slots are moved. -/
def strandedBy (log : HostLog) (slots : FetchTarget → Option OptionsSlot) (repeatable : String)
    (removed : Nat) : List Nat :=
  (log.held.filter fun ticket => awaits slots ticket && isMoved repeatable removed ticket).map
    Ticket.generation

def complete (log : HostLog) (ticket : Ticket) (result : FetchResult) (taken : Bool) : HostLog :=
  { log with
    answered := log.answered ++ [ticket]
    delivered :=
      match taken, result with
      | true, .ok options => log.delivered ++ [(ticket, options)]
      | _, _ => log.delivered }

end HostLog

structure Session where
  engine : Engine
  log : HostLog

inductive HostStep
  | operate (operation : HostOperation)
  | take
  | complete (ticket : Ticket) (result : FetchResult)

namespace Session

def mount (mounting : Engine.Mounting) : Session :=
  ⟨Engine.mount mounting, { HostLog.empty with issued := (Engine.mount mounting).pending }⟩

def operate (session : Session) (operation : HostOperation) : Session :=
  let engine := (session.engine.perform operation).1
  { engine
    log := { session.log with
      issued := session.log.issued ++ engine.pending
      stranded := session.log.stranded ++
        match session.engine.removal? operation with
        | some (repeatable, removed) =>
          session.log.strandedBy session.engine.store.slotAt? repeatable removed
        | none => [] } }

def take (session : Session) : Session :=
  { engine := session.engine.takePending.1
    log := { session.log with handed := session.log.handed ++ session.engine.takePending.2 } }

def complete (session : Session) (ticket : Ticket) (result : FetchResult) : Session :=
  let (engine, taken) := session.engine.completeFetch ticket result
  ⟨engine, session.log.complete ticket result taken⟩

def step (session : Session) : HostStep → Session
  | .operate operation => session.operate operation
  | .take => session.take
  | .complete ticket result => session.complete ticket result

/-- A host completes no tickets but those that were issued. -/
def Allows (session : Session) : HostStep → Prop
  | .complete ticket _ => ticket ∈ session.log.issued
  | .operate _ => True
  | .take => True

inductive Reachable (mounting : Engine.Mounting) : Session → Prop
  | mounted : Reachable mounting (mount mounting)
  | stepped {session : Session} (step : HostStep) (reachable : Reachable mounting session)
      (allowed : session.Allows step) : Reachable mounting (session.step step)

def run (session : Session) (steps : List HostStep) : Session := steps.foldl step session

def Honest : Session → List HostStep → Prop
  | _, [] => True
  | session, step :: rest => session.Allows step ∧ Honest (session.step step) rest

instance (session : Session) (step : HostStep) : Decidable (session.Allows step) :=
  match step with
  | .complete _ _ => inferInstanceAs (Decidable (_ ∈ _))
  | .operate _ => instDecidableTrue
  | .take => instDecidableTrue

instance decidableHonest : (session : Session) → (steps : List HostStep) →
    Decidable (session.Honest steps)
  | _, [] => instDecidableTrue
  | session, step :: rest =>
    @instDecidableAnd _ _ inferInstance (decidableHonest (session.step step) rest)

theorem Reachable.run {mounting : Engine.Mounting} {session : Session} {steps : List HostStep}
    (reachable : Reachable mounting session) (honest : session.Honest steps) :
    Reachable mounting (session.run steps) := by
  induction steps generalizing session with
  | nil => exact reachable
  | cons step rest ih => exact ih (.stepped step reachable honest.1) honest.2

end Session

/-! ### Small forms -/

def Leaf.fed (name : String) (source : OptionsSource) : Leaf where
  name
  kind := .select
  label := none
  placeholder := none
  helpText := none
  tooltip := none
  defaultValue := none
  validation := none
  showWhen := none
  options := []
  optionsSource := some source
  crossValidation := []
  showPasswordStrength := false
  characterCounter := false

def OptionsSource.dependingOn (names : List String) : OptionsSource :=
  ⟨"options", some (.many names), [], none⟩

def Repeatable.named (name : String) : Repeatable :=
  ⟨name, none, none, none, none, none, none, none, none, none⟩

def Engine.Mounting.ofFields (fields : List Node) (data : Json) : Engine.Mounting where
  form := ⟨"", none, .standard, [], fields, none, none, none⟩
  functions := []
  validators := .empty
  options := .standard
  data := some data

def Session.countryAndCity : Engine.Mounting :=
  .ofFields
    [.leaf (.fed "country" (.dependingOn [])), .leaf (.fed "city" (.dependingOn ["country"]))]
    (.object [("city", .string "Rome")])

end DeclarativeForm
