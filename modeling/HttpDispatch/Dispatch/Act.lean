import HttpDispatch.Dispatch.Failure
import HttpDispatch.Http.Headers
import HttpDispatch.Log

/-!
# Acts

What filters and handlers do is an act: it reads and changes the state of the application,
writes to the log, queues headers for the response, and may panic.  An act sees the headers
queued before it and cannot take one of them back, and what it queued before a panic stays
queued.
-/

namespace HttpDispatch

/-- What outlives a request: the state of the application and the log. -/
structure World (σ : Type) where
  app : σ
  /-- The records in the order in which they were written. -/
  log : List LogRecord

namespace World

variable {σ : Type}

/-- The world with one more record in its log. -/
def record (w : World σ) (r : LogRecord) : World σ := { w with log := w.log ++ [r] }

/-- The world with more records in its log. -/
def recordAll (w : World σ) (rs : List LogRecord) : World σ := { w with log := w.log ++ rs }

end World

/-- Work outside the processing of a request, which may panic. -/
abbrev Work (σ : Type) := ExceptT Panic (StateM (World σ))

/-- What an act ends with. -/
structure Turn (σ α : Type) where
  result : Except Panic α
  /-- The headers that the act queued. -/
  queued : Headers
  world : World σ

/-- An act, as a function of the headers queued before it and the world. -/
structure Act (σ α : Type) where
  run : Headers → World σ → Turn σ α

namespace Act

variable {σ α β : Type}

/-- The act that does nothing. -/
protected def pure (a : α) : Act σ α := ⟨fun _ w => ⟨.ok a, .empty, w⟩⟩

/-- One act after the other; the second does not happen if the first panics. -/
protected def bind (m : Act σ α) (f : α → Act σ β) : Act σ β where
  run queued w :=
    let first := m.run queued w
    match first.result with
    | .error p => ⟨.error p, first.queued, first.world⟩
    | .ok a =>
      let second := (f a).run (queued ++ first.queued) first.world
      ⟨second.result, first.queued ++ second.queued, second.world⟩

instance : Monad (Act σ) where
  pure := Act.pure
  bind := Act.bind

/-- Work as an act. -/
def ofWork (m : Work σ α) : Act σ α where
  run _ w :=
    let (result, w) := m.run.run w
    ⟨result, .empty, w⟩

/-- The act that panics. -/
def panic (p : Panic) : Act σ α := ⟨fun _ w => ⟨.error p, .empty, w⟩⟩

/-- Queues a header for the response. -/
def queue (name value : String) : Act σ Unit :=
  ⟨fun _ w => ⟨.ok (), ⟨[(name, value)]⟩, w⟩⟩

/-- The headers queued so far. -/
def queued : Act σ Headers := ⟨fun queued w => ⟨.ok queued, .empty, w⟩⟩

/-- Writes a record to the log. -/
def record (r : LogRecord) : Act σ Unit := ⟨fun _ w => ⟨.ok (), .empty, w.record r⟩⟩

/-- The state of the application. -/
def get : Act σ σ := ⟨fun _ w => ⟨.ok w.app, .empty, w⟩⟩

/-- Changes the state of the application. -/
def modify (f : σ → σ) : Act σ Unit :=
  ⟨fun _ w => ⟨.ok (), .empty, { w with app := f w.app }⟩⟩

end Act

end HttpDispatch
