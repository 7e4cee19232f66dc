import HttpDispatch.Dispatch.Chain

/-!
# Handlers by name

The handlers that a route table can name, and the filters declared for a name.  Filters may
be declared for a name before it has a handler.
-/

namespace HttpDispatch

/-- Handlers and filters by the names of handlers. -/
structure Handlers (σ μ : Type) where
  /-- The handlers, at most one for a name. -/
  entries : List (String × Handler σ μ)
  /-- The filters in the order of their declaration. -/
  filters : List (String × Filter σ μ)

namespace Handlers

variable {σ μ : Type}

/-- No handlers. -/
def empty : Handlers σ μ := ⟨[], []⟩

/-- The handlers with one under the given name, in place of any before. -/
def register (h : Handlers σ μ) (name : String) (handler : Handler σ μ) : Handlers σ μ :=
  { h with entries := (name, handler) :: h.entries.filter (·.1 != name) }

/-- The handlers with one more filter for a name. -/
def addFilter (h : Handlers σ μ) (name : String) (filter : Filter σ μ) : Handlers σ μ :=
  { h with filters := h.filters ++ [(name, filter)] }

/-- The handler of a name. -/
def get? (h : Handlers σ μ) (name : String) : Option (Handler σ μ) := h.entries.lookup name

/-- Whether a name has a handler. -/
def contains (h : Handlers σ μ) (name : String) : Bool := (h.get? name).isSome

/-- The filters of a name. -/
def filtersOf (h : Handlers σ μ) (name : String) : List (Filter σ μ) :=
  h.filters.filterMap fun f => if f.1 = name then some f.2 else none

/-- The number of handlers. -/
def size (h : Handlers σ μ) : Nat := h.entries.length

/-- The names of the handlers, in order. -/
def names (h : Handlers σ μ) : List String :=
  (h.entries.map (·.1)).mergeSort fun a b => decide (a ≤ b)

/-- The handlers inside messages. -/
def debugText (h : Handlers σ μ) : String :=
  "HandlerRegistry \x7b handlers: [" ++ ", ".intercalate (h.names.map Text.quoted) ++ "] \x7d"

end Handlers

end HttpDispatch
