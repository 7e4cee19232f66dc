/-!
# Headers

A list of named values in the order in which they were added.  Names that differ only in the
case of ASCII letters are the same name, and a name may have several values.
-/

namespace HttpDispatch

/-- Whether two texts are the same but for the case of ASCII letters. -/
def sameName (a b : String) : Bool :=
  a.toList.map Char.toLower == b.toList.map Char.toLower

/-- Headers in the order in which they were added. -/
structure Headers where
  fields : List (String × String)
  deriving DecidableEq, Repr

namespace Headers

/-- No headers. -/
def empty : Headers := ⟨[]⟩

/-- The most values for which there can be room at once; each takes 48 bytes. -/
def maxCapacity : Nat := (Nat.pow 2 63 - 1) / 48

/-- No headers, with room for `n` values if there can be so much. -/
def withCapacity? (n : Nat) : Option Headers := if n ≤ maxCapacity then some empty else none

/-- The headers with one more value at the end. -/
def insert (h : Headers) (name value : String) : Headers := ⟨h.fields ++ [(name, value)]⟩

/-- The headers without the values of a name. -/
def remove (h : Headers) (name : String) : Headers :=
  ⟨h.fields.filter fun f => ! sameName f.1 name⟩

/-- The headers with `value` at the end as the only value of the name. -/
def set (h : Headers) (name value : String) : Headers := (h.remove name).insert name value

/-- The headers followed by others. -/
def append (h k : Headers) : Headers := ⟨h.fields ++ k.fields⟩

instance : Append Headers := ⟨append⟩

/-- All values of a name. -/
def getAll (h : Headers) (name : String) : List String :=
  (h.fields.filter fun f => sameName f.1 name).map (·.2)

/-- The first value of a name. -/
def get? (h : Headers) (name : String) : Option String := (h.getAll name).head?

/-- Whether a name has a value. -/
def contains (h : Headers) (name : String) : Bool := h.fields.any fun f => sameName f.1 name

/-- The number of values of all names. -/
def size (h : Headers) : Nat := h.fields.length

/-- Whether headers get lost when a name is removed. -/
def removes (h : Headers) (name : String) : Bool := (h.remove name).size < h.size

/-- The headers as they are sent, each on a line of its own. -/
def text (h : Headers) : String :=
  String.join (h.fields.map fun f => f.1 ++ ": " ++ f.2 ++ "\r\n")

end Headers

end HttpDispatch
