/-!
# Values by type

A map that holds at most one value of every type.  The types are given by their codes, and a
value is found by the code of its type alone.
-/

namespace HttpDispatch

/-- At most one value for every code in `κ`; the values for `k` are those of `β k`. -/
structure TypedMap {κ : Type} (β : κ → Type) where
  entries : List ((k : κ) × β k)

namespace TypedMap

variable {κ : Type} {β : κ → Type} [DecidableEq κ]

/-- The map without values. -/
def empty : TypedMap β := ⟨[]⟩

/-- The first value of the type `k` among entries. -/
def find (k : κ) : List ((k : κ) × β k) → Option (β k)
  | [] => none
  | ⟨l, v⟩ :: es => if h : l = k then some (h ▸ v) else find k es

/-- The value of the type `k`. -/
def get? (m : TypedMap β) (k : κ) : Option (β k) := find k m.entries

/-- Whether there is a value of the type `k`. -/
def contains (m : TypedMap β) (k : κ) : Bool := (m.get? k).isSome

/-- The map without the value of the type `k`. -/
def remove (m : TypedMap β) (k : κ) : TypedMap β := ⟨m.entries.filter fun e => e.1 != k⟩

/-- The map with `v` as the value of the type `k`. -/
def insert (m : TypedMap β) (k : κ) (v : β k) : TypedMap β := ⟨⟨k, v⟩ :: (m.remove k).entries⟩

/-- The map with the value of the type `k`, if there is one, changed. -/
def modify (m : TypedMap β) (k : κ) (f : β k → β k) : TypedMap β :=
  match m.get? k with
  | some v => m.insert k (f v)
  | none => m

/-- The number of values. -/
def size (m : TypedMap β) : Nat := m.entries.length

/-- The map inside messages. -/
def debugText (m : TypedMap β) : String :=
  "Extensions \x7b len: " ++ toString m.size ++ " \x7d"

end TypedMap

end HttpDispatch
