import SupplierSwitch.Outbox.Handling

namespace SupplierSwitch

/-!
# Routing of commands

A router sends a command to the handler of its kind: the payload is read into the type that the
handler takes, and the handler answers with an outcome.
-/

/-- What a handler made of a command. -/
inductive CommandOutcome where
  | completed
  /-- The command was processed and its request turned down. -/
  | rejected (codes : List String)
  deriving DecidableEq, Repr

/-- Why a router cannot be set up. -/
inductive RouterError where
  | duplicateHandler (kind : String)
  | missingHandlers (kinds : List String)
  deriving DecidableEq, Repr

/-- The wording of a router error. -/
def RouterError.message : RouterError → String
  | .duplicateHandler kind => "a handler is already registered for command kind " ++ kind
  | .missingHandlers kinds => "command kinds without a handler: " ++ ", ".intercalate kinds

/-- The name of a cause. -/
def RouterError.name : RouterError → String
  | .duplicateHandler _ => "DuplicateHandler"
  | .missingHandlers _ => "MissingHandlers"

/-- Why a command has no outcome. -/
inductive DispatchError where
  | unknownKind (kind : String)
  | malformedPayload (kind reason : String)
  | handler (e : HandlerError)
  deriving DecidableEq

/-- The wording of a dispatch error. -/
def DispatchError.message : DispatchError → String
  | .unknownKind kind => "no handler registered for command kind " ++ kind
  | .malformedPayload kind reason => "malformed " ++ kind ++ " payload: " ++ reason
  | .handler e => "handler failed: " ++ e.message

/-- The name of a cause. -/
def DispatchError.name : DispatchError → String
  | .unknownKind _ => "UnknownKind"
  | .malformedPayload _ _ => "Deserialize"
  | .handler _ => "Handler"

/-- What a handler knows of the command apart from its payload. -/
structure HandlerContext where
  commandId : CommandId
  createdAt : Timestamp
  /-- The instant at which the command is handled. -/
  now : Timestamp

/-- The handler of a kind of command, which reads the payload itself. -/
structure Route (m : Type → Type) where
  kind : String
  handle : HandlerContext → Json → m (Except DispatchError CommandOutcome)

/-- Handlers by kind, in order of registration. -/
structure Router (m : Type → Type) where
  routes : List (Route m)

namespace Route

/-- The route of a kind, from a reader of its payloads and a handler. -/
def ofHandler {m : Type → Type} [Monad m] (kind : String) (read : Reader α)
    (handle : HandlerContext → α → m (Except HandlerError CommandOutcome)) : Route m where
  kind := kind
  handle context payload :=
    match read payload with
    | .error e => pure (.error (.malformedPayload kind e.message))
    | .ok a => do pure ((← handle context a).mapError .handler)

/-- Give the programs of the handler another meaning. -/
def interpret {m n : Type → Type} (route : Route m) (meaning : {α : Type} → m α → n α) :
    Route n where
  kind := route.kind
  handle context payload := meaning (route.handle context payload)

end Route

namespace Router

variable {m n : Type → Type}

/-- No handlers. -/
def empty : Router m := ⟨[]⟩

/-- The route of a kind. -/
def find? (r : Router m) (kind : String) : Option (Route m) :=
  r.routes.find? (·.kind = kind)

/-- There is a handler of the kind. -/
def handles (r : Router m) (kind : String) : Bool :=
  (r.find? kind).isSome

/-- Add the route of a kind that has none yet. -/
def register (r : Router m) (route : Route m) : Except RouterError (Router m) :=
  if r.handles route.kind then .error (.duplicateHandler route.kind)
  else .ok ⟨r.routes ++ [route]⟩

/-- Add several routes, up to the first kind that has one already. -/
def registerAll (r : Router m) (routes : List (Route m)) : Except RouterError (Router m) :=
  routes.foldlM register r

/-- The sorted kinds that have a handler. -/
def kinds (r : Router m) : List String :=
  (r.routes.map (·.kind)).mergeSort

/-- Complain about the kinds of a list that have no handler. -/
def ensureComplete (r : Router m) (kinds : List String) : Except RouterError Unit :=
  match kinds.filter fun kind => !r.handles kind with
  | [] => .ok ()
  | missing => .error (.missingHandlers missing)

/-- Hand a command to the handler of its kind. -/
def dispatch [Monad m] (r : Router m) (command : InternalCommand) (now : Timestamp) :
    m (Except DispatchError CommandOutcome) :=
  match r.find? command.kind with
  | none => pure (.error (.unknownKind command.kind))
  | some route => route.handle ⟨command.id, command.createdAt, now⟩ command.payload

/-- Give the programs of the handlers another meaning. -/
def interpret (r : Router m) (meaning : {α : Type} → m α → n α) : Router n :=
  ⟨r.routes.map (·.interpret meaning)⟩

/-- A router in diagnostics. -/
def describe (r : Router m) : String :=
  "CommandRouter \x7b kinds: " ++ Text.quotedList r.kinds ++ " \x7d"

end Router

end SupplierSwitch
