import HttpDispatch.Dispatch.Chain
import Mathlib.Data.List.Basic

/-!
# Chains as folds

What stands behind a filter is a continuation: the filter knows a little of it and may hand a
request to it once.  A stage makes a continuation of the one behind it, and running a chain from a
place in it is running the right fold of the stages from there on over the handler.
-/

namespace HttpDispatch

variable {σ μ α β : Type}

/-! ### Acts in a row -/

theorem Headers.append_empty (h : Headers) :
  h ++ Headers.empty = h
  := congrArg Headers.mk (List.append_nil h.fields)

namespace Act

variable {m : Act σ α} {f : α → Act σ β} {queued q : Headers} {w w' : World σ}

theorem run_bind_of_ok {a : α} (h : m.run queued w = ⟨.ok a, q, w'⟩) :
  (m >>= f).run queued w
    = ⟨((f a).run (queued ++ q) w').result, q ++ ((f a).run (queued ++ q) w').queued,
      ((f a).run (queued ++ q) w').world⟩
  := by
  change (Act.bind m f).run queued w = _
  rw [Act.bind]
  simp only [h]

theorem run_bind_of_error {p : Panic} (h : m.run queued w = ⟨.error p, q, w'⟩) :
  (m >>= f).run queued w = ⟨.error p, q, w'⟩
  := by
  change (Act.bind m f).run queued w = _
  rw [Act.bind]
  simp only [h]

/-- A result that is only changed queues nothing. -/
theorem run_map {g : α → β} {result : Except Panic α} (h : m.run queued w = ⟨result, q, w'⟩) :
  (m >>= fun a => pure (g a)).run queued w = ⟨result.map g, q, w'⟩
  := by
  cases result with
  | error p => apply run_bind_of_error h
  | ok a =>
    rw [run_bind_of_ok h]
    change (⟨.ok (g a), q ++ .empty, w'⟩ : Turn σ β) = _
    rw [Headers.append_empty]
    rfl

end Act

/-! ### Stages -/

/-- What stands behind a filter: what the filter knows of it, and what it does with a request. -/
structure Continuation (σ μ : Type) where
  next : Next
  run : Context μ → Act σ (Except DispatchError Response)

namespace Stage

/-- What a stage does with a request if `k` stands behind it. -/
def around (s : Stage σ μ) (k : Continuation σ μ) (context : Context μ) :
    Act σ (Except DispatchError Response) := do
  match ← s.filter.start context k.next with
  | .answer outcome => return s.conclude outcome
  | .delegate context finish =>
    let result ← k.run context
    return s.conclude (← finish result)

/-- The continuation of a stage and what stands behind it. -/
def before (s : Stage σ μ) (k : Continuation σ μ) : Continuation σ μ where
  next := ⟨s.name, k.next.index - 1⟩
  run := s.around k

variable {s : Stage σ μ} {k : Continuation σ μ} {context context' : Context μ}
  {queued q₁ q₂ q₃ : Headers} {w w₁ w₂ w₃ : World σ} {p : Panic}

theorem run_around_of_panic
    (hstart : (s.filter.start context k.next).run queued w = ⟨.error p, q₁, w₁⟩) :
  (s.around k context).run queued w = ⟨.error p, q₁, w₁⟩
  := Act.run_bind_of_error hstart

theorem run_around_of_answer {outcome : Outcome}
    (hstart : (s.filter.start context k.next).run queued w = ⟨.ok (.answer outcome), q₁, w₁⟩) :
  (s.around k context).run queued w = ⟨.ok (s.conclude outcome), q₁, w₁⟩
  := by
  rw [around, Act.run_bind_of_ok hstart]
  change (⟨_, q₁ ++ .empty, _⟩ : Turn σ _) = _
  rw [Headers.append_empty]
  rfl

variable {finish : Except DispatchError Response → Act σ Outcome}

/-- A panic behind a stage ends what the stage does. -/
theorem run_around_of_break
    (hstart : (s.filter.start context k.next).run queued w
      = ⟨.ok (.delegate context' finish), q₁, w₁⟩)
    (hbehind : (k.run context').run (queued ++ q₁) w₁ = ⟨.error p, q₂, w₂⟩) :
  (s.around k context).run queued w = ⟨.error p, q₁ ++ q₂, w₂⟩
  := by
  rw [around, Act.run_bind_of_ok hstart]
  simp only [Act.run_bind_of_error hbehind]

/-- A stage that delegates is given the result from behind it and makes its own outcome of it. -/
theorem run_around_of_resume {given : Except DispatchError Response}
    {result : Except Panic Outcome}
    (hstart : (s.filter.start context k.next).run queued w
      = ⟨.ok (.delegate context' finish), q₁, w₁⟩)
    (hbehind : (k.run context').run (queued ++ q₁) w₁ = ⟨.ok given, q₂, w₂⟩)
    (hfinish : (finish given).run (queued ++ q₁ ++ q₂) w₂ = ⟨result, q₃, w₃⟩) :
  (s.around k context).run queued w = ⟨result.map s.conclude, q₁ ++ (q₂ ++ q₃), w₃⟩
  := by
  rw [around, Act.run_bind_of_ok hstart]
  simp only [Act.run_bind_of_ok hbehind, Act.run_map hfinish]

end Stage

namespace Chain

variable {c : Chain σ μ}

/-- The continuation of the handler. -/
def terminal (c : Chain σ μ) : Continuation σ μ where
  next := ⟨c.handlerName, c.stages.length⟩
  run := c.runHandler

/-- The continuation of what stands at a place of the chain and behind it. -/
def continuation (c : Chain σ μ) (place : ℕ) : Continuation σ μ where
  next := c.next place
  run := c.runFrom place

theorem runFrom_of_stage {place : ℕ} {stage : Stage σ μ} (h : c.stages[place]? = some stage) :
  c.runFrom place = stage.around (c.continuation (place + 1))
  := by
  funext context
  rw [runFrom]
  split
  · rename_i hnone
    cases h.symm.trans hnone
  · rename_i stage' hstage
    obtain rfl := Option.some.inj (h.symm.trans hstage)
    rfl

theorem runFrom_of_handler {place : ℕ} (h : c.stages[place]? = none) :
  c.runFrom place = c.runHandler
  := by
  funext context
  rw [runFrom]
  split
  · rfl
  · rename_i stage hstage
    cases h.symm.trans hstage

/-- The stages from a place on make the continuation of the place. -/
theorem foldr_of_append {front back : List (Stage σ μ)} (h : c.stages = front ++ back) :
  back.foldr Stage.before c.terminal = c.continuation front.length
  := by
  induction back generalizing front with
  | nil =>
    rw [List.append_nil] at h
    have hnone : c.stages[front.length]? = none := by simp [h]
    rw [List.foldr_nil, terminal, continuation, next, runFrom_of_handler hnone, hnone, h]
    rfl
  | cons stage back ih =>
    have hstage : c.stages[front.length]? = some stage := by rw [h]; simp
    have hrest := @ih (front ++ [stage]) (by rw [h, List.append_assoc]; rfl)
    rw [List.length_append, List.length_singleton] at hrest
    rw [List.foldr_cons, hrest, Stage.before, ← runFrom_of_stage hstage, continuation,
      continuation, next, next, hstage]
    rfl

/-- Running a chain is running the right fold of its stages over its handler. -/
theorem run_eq_foldr (c : Chain σ μ) :
  c.run = (c.stages.foldr Stage.before c.terminal).run
  := by
  rw [foldr_of_append (List.nil_append c.stages).symm]
  rfl

end Chain

end HttpDispatch
