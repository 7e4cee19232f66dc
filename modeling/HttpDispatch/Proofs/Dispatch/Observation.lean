import HttpDispatch.Proofs.Dispatch.Folding

/-!
# Observing a chain

The observed chain runs the filters and the handler of a chain and notes what each of them does, in
order, beside the state of the application.  Otherwise it does what the chain does.  From the
observations one reads off in which order the stages run, which of them do, and where an error
comes from.
-/

namespace HttpDispatch

variable {σ μ α β : Type}

/-! ### Observations -/

/-- What a stage of a chain does at one time. -/
inductive Deed where
  /-- It is handed the request, and answers it, delegates it (then there is no outcome) or
  panics. -/
  | start (result : Except Panic (Option Outcome))
  /-- It is given the result of its delegation, and makes an outcome of its own or panics. -/
  | finish (given : Except DispatchError Response) (result : Except Panic Outcome)

/-- Whether a stage is handed the request. -/
def Deed.isStart : Deed → Bool
  | .start _ => true
  | .finish _ _ => false

/-- A deed of the stage at a place of a chain, behind whose filters stands the handler, with the
headers queued in it. -/
structure Observation where
  place : ℕ
  deed : Deed
  queued : Headers

namespace Observation

/-- The stage ends with an error that did not come from behind it. -/
def Raises (o : Observation) (f : Fault) : Prop :=
  o.deed = .start (.ok (some (.error f)))
    ∨ ∃ given, o.deed = .finish given (.ok (.error f)) ∧ ∀ e, f = .marked e → given ≠ .error e

/-- The stage ends with the error that came from behind it. -/
def PassesOn (o : Observation) (e : DispatchError) : Prop :=
  o.deed = .finish (.error e) (.ok (.error (.marked e)))

end Observation

/-- The headers queued in a row of observations. -/
def queuedIn (seen : List Observation) : Headers := ⟨seen.flatMap (·.queued.fields)⟩

/-- The world with observations beside the state of the application. -/
def World.observe (w : World σ) (seen : List Observation) : World (σ × List Observation) :=
  ⟨(w.app, seen), w.log⟩

/-- The end of an act, with observations beside the state of the application. -/
def Turn.observe (t : Turn σ α) (seen : List Observation) : Turn (σ × List Observation) α :=
  ⟨t.result, t.queued, t.world.observe seen⟩

/-- The act, after which it is noted what it ended with. -/
def Act.observed (m : Act σ α) (note : Except Panic α → Headers → Observation) :
    Act (σ × List Observation) α where
  run queued w :=
    let turn := m.run queued ⟨w.app.1, w.log⟩
    turn.observe (w.app.2 ++ [note turn.result turn.queued])

/-- The outcome of a filter that does not delegate. -/
def FilterStep.outcome? : FilterStep σ μ → Option Outcome
  | .answer outcome => some outcome
  | .delegate _ _ => none

/-- What the filter at a place does with a request, observed. -/
def FilterStep.observed (place : ℕ) : FilterStep σ μ → FilterStep (σ × List Observation) μ
  | .answer outcome => .answer outcome
  | .delegate context finish =>
    .delegate context fun given =>
      (finish given).observed fun result queued => ⟨place, .finish given result, queued⟩

/-- The stage at a place, observed. -/
def Stage.observed (place : ℕ) (s : Stage σ μ) : Stage (σ × List Observation) μ where
  placement := s.placement
  filter :=
    { name := s.name
      start context next := do
        let step ← (s.filter.start context next).observed fun result queued =>
          ⟨place, .start (result.map FilterStep.outcome?), queued⟩
        return step.observed place }

namespace Chain

/-- The chain, observed. -/
def observed (c : Chain σ μ) : Chain (σ × List Observation) μ where
  stages := c.stages.mapIdx Stage.observed
  handlerName := c.handlerName
  handler context := (c.handler context).observed fun result queued =>
    ⟨c.stages.length, .start (result.map some), queued⟩

/-- The mark of the stage at a place. -/
def markAt (c : Chain σ μ) (place : ℕ) : String → DispatchError :=
  match c.stages[place]? with
  | some stage => .filter stage.name
  | none => .handler c.handlerName

/-- The outcome of the stage at a place with an error marked by its name. -/
def concludeAt (c : Chain σ μ) (place : ℕ) : Outcome → Except DispatchError Response :=
  Except.mapError (Fault.mark (c.markAt place))

/-- What is observed of a run of the chain from a place in it, and what the run ends with. -/
inductive Course (c : Chain σ μ) :
    ℕ → List Observation → Except Panic (Except DispatchError Response) → Prop
  /-- The stage answers or panics. -/
  | ends {place : ℕ} (hplace : place ≤ c.stages.length) (result : Except Panic Outcome)
      (queued : Headers) :
    Course c place [⟨place, .start (result.map some), queued⟩] (result.map (c.concludeAt place))
  /-- The stage delegates, and there is a panic behind it. -/
  | breaks {place : ℕ} (hplace : place < c.stages.length) (queued : Headers)
      {seen : List Observation} {p : Panic} (behind : Course c (place + 1) seen (.error p)) :
    Course c place (⟨place, .start (.ok none), queued⟩ :: seen) (.error p)
  /-- The stage delegates, and is given the result. -/
  | resumes {place : ℕ} (hplace : place < c.stages.length) (queued : Headers)
      {seen : List Observation} {given : Except DispatchError Response}
      (behind : Course c (place + 1) seen (.ok given)) (result : Except Panic Outcome)
      (queued' : Headers) :
    Course c place
      (⟨place, .start (.ok none), queued⟩ :: (seen ++ [⟨place, .finish given result, queued'⟩]))
      (result.map (c.concludeAt place))

end Chain

/-! ### The observed chain does what the chain does -/

theorem Act.run_observed {m : Act σ α} {queued q : Headers} {w w' : World σ}
    {result : Except Panic α} (h : m.run queued w = ⟨result, q, w'⟩)
    (note : Except Panic α → Headers → Observation) (seen : List Observation) :
  (m.observed note).run queued (w.observe seen)
    = ⟨result, q, w'.observe (seen ++ [note result q])⟩
  := by
  change (m.run queued w).observe (seen ++ [note (m.run queued w).result (m.run queued w).queued])
    = _
  rw [h]
  rfl

theorem queuedIn_append (seen more : List Observation) :
  queuedIn (seen ++ more) = queuedIn seen ++ queuedIn more
  := congrArg Headers.mk List.flatMap_append

theorem queuedIn_cons (o : Observation) (seen : List Observation) :
  queuedIn (o :: seen) = o.queued ++ queuedIn seen
  := rfl

theorem queuedIn_singleton (o : Observation) :
  queuedIn [o] = o.queued
  := Headers.append_empty o.queued

/-- The stage at a place notes how it was started. -/
theorem Stage.run_start_observed {s : Stage σ μ} {context : Context μ} {next : Next}
    {queued q : Headers} {w w' : World σ} {result : Except Panic (FilterStep σ μ)}
    (h : (s.filter.start context next).run queued w = ⟨result, q, w'⟩) (place : ℕ)
    (seen : List Observation) :
  ((s.observed place).filter.start context next).run queued (w.observe seen)
    = ⟨result.map (FilterStep.observed place), q,
      w'.observe (seen ++ [⟨place, .start (result.map FilterStep.outcome?), q⟩])⟩
  := Act.run_map (Act.run_observed h _ seen)

namespace Chain

variable {c : Chain σ μ} {place : ℕ}

theorem stage_observed :
  c.observed.stages[place]? = c.stages[place]?.map (Stage.observed place)
  := List.getElem?_mapIdx

theorem next_observed :
  c.observed.next place = c.next place
  := by
  rw [next, next, stage_observed]
  cases c.stages[place]? <;> rfl

theorem concludeAt_of_stage {stage : Stage σ μ} (h : c.stages[place]? = some stage) :
  c.concludeAt place = stage.conclude
  := by
  rw [concludeAt, markAt, h]
  rfl

theorem run_runHandler {context : Context μ} {queued q : Headers} {w w' : World σ}
    {result : Except Panic Outcome} (h : (c.handler context).run queued w = ⟨result, q, w'⟩) :
  (c.runHandler context).run queued w
    = ⟨result.map (Except.mapError (Fault.mark (.handler c.handlerName))), q, w'⟩
  := Act.run_map h

/-- The observed chain does from every place what the chain does, and notes its course. -/
theorem run_runFrom_observed {n : ℕ} (h : place + n = c.stages.length) (context : Context μ)
    (queued : Headers) (w : World σ) (before : List Observation) :
  ∃ seen, (c.observed.runFrom place context).run queued (w.observe before)
        = ((c.runFrom place context).run queued w).observe (before ++ seen)
      ∧ c.Course place seen ((c.runFrom place context).run queued w).result
      ∧ ((c.runFrom place context).run queued w).queued = queuedIn seen
  := by
  induction n generalizing place context queued w before with
  | zero =>
    have hnone : c.stages[place]? = none := by simp [← h]
    have hnone' : c.observed.stages[place]? = none := by rw [stage_observed, hnone]; rfl
    rw [runFrom_of_handler hnone, runFrom_of_handler hnone']
    generalize hrun : (c.handler context).run queued w = turn
    obtain ⟨result, q, w'⟩ := turn
    have hrun' := Act.run_observed hrun
      (fun result queued => ⟨c.stages.length, .start (result.map some), queued⟩) before
    have hconclude : c.concludeAt place
        = Except.mapError (Fault.mark (.handler c.handlerName)) := by
      rw [concludeAt, markAt, hnone]
    rw [run_runHandler hrun, run_runHandler (c := c.observed) hrun']
    change ∃ seen, (⟨result.map (Except.mapError (Fault.mark (.handler c.handlerName))), q,
      w'.observe (before ++ [⟨c.stages.length, .start (result.map some), q⟩])⟩ : Turn _ _) = _ ∧ _
    rw [← hconclude, ← h]
    use [⟨place, .start (result.map some), q⟩], rfl, .ends (by omega) result q
    rw [queuedIn_singleton]
  | succ n ih =>
    have hlt : place < c.stages.length := by omega
    have hstage : c.stages[place]? = some c.stages[place] := List.getElem?_eq_getElem hlt
    have hstage' : c.observed.stages[place]? = some (c.stages[place].observed place) := by
      rw [stage_observed, hstage]
      rfl
    have hconclude := concludeAt_of_stage hstage
    have hplace : place + 1 + n = c.stages.length := by omega
    rw [runFrom_of_stage hstage, runFrom_of_stage hstage']
    generalize hstart : (c.stages[place].filter.start context (c.next (place + 1))).run queued w
      = turn
    obtain ⟨result, q₁, w₁⟩ := turn
    have hstart' := Stage.run_start_observed hstart place before
    rw [← next_observed] at hstart'
    cases result with
    | error p =>
      have hplain := Stage.run_around_of_panic (k := c.continuation (place + 1)) hstart
      rw [hplain, Stage.run_around_of_panic hstart']
      use [⟨place, .start (.error p), q₁⟩], rfl, .ends (Nat.le_of_lt hlt) (.error p) q₁
      rw [queuedIn_singleton]
    | ok step =>
      cases step with
      | answer outcome =>
        have hplain := Stage.run_around_of_answer (k := c.continuation (place + 1)) hstart
        rw [hplain, Stage.run_around_of_answer hstart', ← hconclude]
        use [⟨place, .start (.ok (some outcome)), q₁⟩]
        refine ⟨?_, .ends (Nat.le_of_lt hlt) (.ok outcome) q₁, ?_⟩
        · rw [hconclude]
          rfl
        · rw [queuedIn_singleton]
      | delegate context' finish =>
        obtain ⟨seen, hbehind', hcourse, hqueued⟩ := ih hplace context' (queued ++ q₁) w₁
          (before ++ [⟨place, .start (.ok none), q₁⟩])
        generalize hbehind : (c.runFrom (place + 1) context').run (queued ++ q₁) w₁ = turn
          at hbehind' hcourse hqueued
        obtain ⟨result, q₂, w₂⟩ := turn
        cases result with
        | error p =>
          have hplain := Stage.run_around_of_break (k := c.continuation (place + 1)) hstart hbehind
          rw [hplain, Stage.run_around_of_break hstart' hbehind']
          use ⟨place, .start (.ok none), q₁⟩ :: seen
          refine ⟨?_, .breaks hlt q₁ hcourse, ?_⟩
          · rw [List.append_assoc]
            rfl
          · rw [queuedIn_cons, ← hqueued]
        | ok given =>
          generalize hfinish : (finish given).run (queued ++ q₁ ++ q₂) w₂ = turn
          obtain ⟨result, q₃, w₃⟩ := turn
          have hfinish' := Act.run_observed hfinish
            (fun result queued => ⟨place, .finish given result, queued⟩)
            (before ++ [⟨place, .start (.ok none), q₁⟩] ++ seen)
          have hplain :=
            Stage.run_around_of_resume (k := c.continuation (place + 1)) hstart hbehind hfinish
          rw [hplain, Stage.run_around_of_resume hstart' hbehind' hfinish', ← hconclude]
          use ⟨place, .start (.ok none), q₁⟩ :: (seen ++ [⟨place, .finish given result, q₃⟩])
          refine ⟨?_, .resumes hlt q₁ hcourse result q₃, ?_⟩
          · rw [hconclude, List.append_assoc, List.append_assoc]
            rfl
          · rw [queuedIn_cons, queuedIn_append, queuedIn_singleton, ← hqueued]

/-- The observed chain does what the chain does, and notes its course. -/
theorem run_run_observed (c : Chain σ μ) (context : Context μ) (queued : Headers) (w : World σ) :
  ∃ seen, (c.observed.run context).run queued (w.observe [])
        = ((c.run context).run queued w).observe seen
      ∧ c.Course 0 seen ((c.run context).run queued w).result
      ∧ ((c.run context).run queued w).queued = queuedIn seen
  := run_runFrom_observed (Nat.zero_add c.stages.length) context queued w []

end Chain

end HttpDispatch
