import HttpDispatch.Http.Headers
import Mathlib.Data.List.Basic

/-!
# The values of a name

What adding, setting and removing a header does to the values of every name.  A name stands for all
names that differ from it only in the case of letters.
-/

namespace HttpDispatch

variable {a b : String}

theorem sameName_iff :
  sameName a b = true ↔ a.toList.map Char.toLower = b.toList.map Char.toLower
  := beq_iff_eq

theorem sameName_comm (a b : String) :
  sameName a b = sameName b a
  := by
  rw [Bool.eq_iff_iff, sameName_iff, sameName_iff]
  exact eq_comm

/-- Names that are the same are the same as every other name. -/
theorem sameName_congr (h : sameName a b = true) (c : String) :
  sameName a c = sameName b c
  := by rw [sameName, sameName, sameName_iff.1 h]

namespace Headers

variable (h k : Headers) (name other value : String)

theorem getAll_append :
  (h ++ k).getAll name = h.getAll name ++ k.getAll name
  := by
  rw [getAll, getAll, getAll, ← List.map_append, ← List.filter_append]
  rfl

theorem getAll_insert :
  (h.insert name value).getAll other
    = h.getAll other ++ if sameName name other then [value] else []
  := by
  change (h ++ (⟨[(name, value)]⟩ : Headers)).getAll other = _
  rw [getAll_append]
  cases hsame : sameName name other <;> simp [getAll, hsame]

theorem getAll_remove :
  (h.remove name).getAll other = if sameName name other then [] else h.getAll other
  := by
  rw [getAll, getAll, remove, List.filter_filter]
  cases hsame : sameName name other with
  | true =>
    rw [if_pos rfl, List.map_eq_nil_iff, List.filter_eq_nil_iff]
    intro f _
    rw [sameName_comm f.1 name, sameName_congr hsame, sameName_comm]
    simp
  | false =>
    rw [if_neg Bool.false_ne_true]
    congr 1
    apply List.filter_congr
    intro f _
    cases hother : sameName f.1 other with
    | false => rfl
    | true =>
      rw [sameName_congr hother, sameName_comm, hsame]
      rfl

theorem getAll_set :
  (h.set name value).getAll other = if sameName name other then [value] else h.getAll other
  := by
  rw [set, getAll_insert, getAll_remove]
  cases sameName name other
  · apply List.append_nil
  · rfl

/-! ### All headers -/

section

variable {h : Headers} {P : String × String → Prop}

theorem forall_remove (hall : ∀ f ∈ h.fields, P f) (name : String) :
  ∀ f ∈ (h.remove name).fields, P f
  := fun f hf => hall f (List.mem_of_mem_filter hf)

theorem forall_insert (hall : ∀ f ∈ h.fields, P f) {name value : String} (hp : P (name, value)) :
  ∀ f ∈ (h.insert name value).fields, P f
  := by
  intro f hf
  rcases List.mem_append.1 hf with hf | hf
  · apply hall f hf
  · obtain rfl := List.mem_singleton.1 hf
    exact hp

theorem forall_set (hall : ∀ f ∈ h.fields, P f) {name value : String} (hp : P (name, value)) :
  ∀ f ∈ (h.set name value).fields, P f
  := forall_insert (forall_remove hall name) hp

end

end Headers

end HttpDispatch
