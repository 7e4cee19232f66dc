import HttpDispatch.Dispatch.Filter

/-!
# Chains

The filters of a route stand in a chain before its handler: first those that stand before
the filters of all handlers, then those of the handler, then those that stand after them.
A chain is run from a place in it: the filter at that place is started, and what is behind it
is run if the filter delegates.
-/

namespace HttpDispatch

/-- Where a filter of a chain comes from. -/
inductive Placement where
  /-- It stands before the filters of every handler. -/
  | before
  /-- It is a filter of the handler. -/
  | handler
  /-- It stands after the filters of every handler. -/
  | after
  deriving DecidableEq, Repr

/-- The name of the placement inside messages. -/
def Placement.name : Placement → String
  | .before => "GlobalBefore"
  | .handler => "Handler"
  | .after => "GlobalAfter"

/-- A filter in a chain. -/
structure Stage (σ μ : Type) where
  placement : Placement
  filter : Filter σ μ

/-- The filters of a route and its handler. -/
structure Chain (σ μ : Type) where
  stages : List (Stage σ μ)
  handlerName : String
  handler : Handler σ μ

variable {σ μ : Type}

namespace Stage

/-- The name of the filter. -/
def name (s : Stage σ μ) : String := s.filter.name

/-- The stage inside messages. -/
def debugText (s : Stage σ μ) : String :=
  "FilterStage \x7b name: " ++ Text.quoted s.name
    ++ ", placement: " ++ s.placement.name ++ " \x7d"

/-- The outcome of the stage with an error marked by its name. -/
def conclude (s : Stage σ μ) : Outcome → Except DispatchError Response :=
  Except.mapError (Fault.mark (.filter s.name))

end Stage

namespace Chain

/-- The chain of a handler with three groups of filters. -/
def ofGroups (handlerName : String) (handler : Handler σ μ)
    (before ofHandler after : List (Filter σ μ)) : Chain σ μ where
  stages :=
    before.map (⟨.before, ·⟩) ++ ofHandler.map (⟨.handler, ·⟩) ++ after.map (⟨.after, ·⟩)
  handlerName
  handler

/-- What stands at a place of the chain. -/
def next (c : Chain σ μ) (index : Nat) : Next where
  stageName := (c.stages[index]?.map Stage.name).getD c.handlerName
  index

/-- The handler's outcome with an error marked by its name. -/
def runHandler (c : Chain σ μ) (context : Context μ) : Act σ (Except DispatchError Response) := do
  return (← c.handler context).mapError (Fault.mark (.handler c.handlerName))

/-- Runs the chain from a place in it. -/
def runFrom (c : Chain σ μ) (index : Nat) (context : Context μ) :
    Act σ (Except DispatchError Response) :=
  match _h : c.stages[index]? with
  | none => c.runHandler context
  | some stage => do
    match ← stage.filter.start context (c.next (index + 1)) with
    | .answer outcome => return stage.conclude outcome
    | .delegate context finish =>
      let result ← c.runFrom (index + 1) context
      return stage.conclude (← finish result)
termination_by c.stages.length - index
decreasing_by
  have := (List.getElem?_eq_some_iff.1 _h).1
  omega

/-- Runs the whole chain. -/
def run (c : Chain σ μ) (context : Context μ) : Act σ (Except DispatchError Response) :=
  c.runFrom 0 context

/-- The chain inside messages. -/
def debugText (c : Chain σ μ) : String :=
  "FilterChain \x7b stages: [" ++ ", ".intercalate (c.stages.map Stage.debugText)
    ++ "], handler: " ++ Text.quoted c.handlerName ++ " \x7d"

end Chain

end HttpDispatch
