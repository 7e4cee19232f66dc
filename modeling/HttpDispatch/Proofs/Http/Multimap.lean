import HttpDispatch.Proofs.Http.Headers
import Mathlib.Algebra.BigOperators.Group.Finset.Basic
import Mathlib.Data.List.Forall2

/-!
# Headers as a map

Headers stand for a map from names, in which the case of letters does not count, to lists of values.
Every edit of headers is one of the map, and what headers answer is read off the map:
`Headers.refines_multimap`.
-/

namespace HttpDispatch

/-- A name without the case of its letters. -/
def foldName (name : String) : List Char := name.toList.map Char.toLower

theorem sameName_eq (a b : String) :
  sameName a b = (foldName a == foldName b)
  := rfl

/-- A list of values for every name without the case of its letters. -/
abbrev Multimap := List Char → List String

namespace Multimap

/-- The map with one more value at the end of those of a name. -/
def insert (m : Multimap) (name value : String) : Multimap :=
  Function.update m (foldName name) (m (foldName name) ++ [value])

/-- The map with one value for a name. -/
def set (m : Multimap) (name value : String) : Multimap :=
  Function.update m (foldName name) [value]

/-- The map without values for a name. -/
def remove (m : Multimap) (name : String) : Multimap := Function.update m (foldName name) []

theorem insert_remove (m : Multimap) (name value : String) :
  (m.remove name).insert name value = m.set name value
  := by
  rw [insert, remove, Function.update_self, Function.update_idem]
  rfl

end Multimap

namespace Headers

/-- A change of headers. -/
inductive Edit where
  | insert (name value : String)
  | set (name value : String)
  | extend (other : Headers)
  | remove (name : String)

namespace Edit

/-- The headers after an edit. -/
def apply (h : Headers) : Edit → Headers
  | .insert name value => h.insert name value
  | .set name value => h.set name value
  | .extend other => h ++ other
  | .remove name => h.remove name

/-- The map after an edit.  Other headers are inserted one after the other. -/
def applyTo (m : Multimap) : Edit → Multimap
  | .insert name value => m.insert name value
  | .set name value => m.set name value
  | .extend other => other.fields.foldl (fun m f => m.insert f.1 f.2) m
  | .remove name => m.remove name

/-- The names of an edit. -/
def names : Edit → List String
  | .insert name _ => [name]
  | .set name _ => [name]
  | .extend other => other.fields.map (·.1)
  | .remove name => [name]

/-- Two edits are the same but for the case of letters in names. -/
inductive Respelled : Edit → Edit → Prop
  | insert {name name' : String} (h : foldName name = foldName name') (value : String) :
    Respelled (.insert name value) (.insert name' value)
  | set {name name' : String} (h : foldName name = foldName name') (value : String) :
    Respelled (.set name value) (.set name' value)
  | extend {other other' : Headers}
      (h : List.Forall₂ (fun f f' => foldName f.1 = foldName f'.1 ∧ f.2 = f'.2)
        other.fields other'.fields) :
    Respelled (.extend other) (.extend other')
  | remove {name name' : String} (h : foldName name = foldName name') :
    Respelled (.remove name) (.remove name')

theorem foldl_insert_congr {fields fields' : List (String × String)}
    (h : List.Forall₂ (fun f f' => foldName f.1 = foldName f'.1 ∧ f.2 = f'.2) fields fields')
    (m : Multimap) :
  fields.foldl (fun m f => m.insert f.1 f.2) m = fields'.foldl (fun m f => m.insert f.1 f.2) m
  := by
  induction h generalizing m with
  | nil => rfl
  | cons hfield _ ih =>
    rw [List.foldl_cons, List.foldl_cons, Multimap.insert, Multimap.insert, hfield.1, hfield.2]
    apply ih

/-- The map does not see how names are spelled. -/
theorem Respelled.applyTo_eq {e e' : Edit} (h : Respelled e e') (m : Multimap) :
  e.applyTo m = e'.applyTo m
  := by
  cases h with
  | insert h value => rw [applyTo, applyTo, Multimap.insert, Multimap.insert, h]
  | set h value => rw [applyTo, applyTo, Multimap.set, Multimap.set, h]
  | extend h => apply foldl_insert_congr h
  | remove h => rw [applyTo, applyTo, Multimap.remove, Multimap.remove, h]

end Edit

/-! ### The map of headers -/

/-- The map that headers stand for. -/
def values (h : Headers) : Multimap :=
  fun key => (h.fields.filter fun f => foldName f.1 == key).map (·.2)

variable (h k : Headers) (name value : String)

theorem getAll_eq_values :
  h.getAll name = h.values (foldName name)
  := rfl

theorem values_append (key : List Char) :
  (h ++ k).values key = h.values key ++ k.values key
  := by
  rw [values, values, values, ← List.map_append, ← List.filter_append]
  rfl

theorem values_insert :
  (h.insert name value).values = h.values.insert name value
  := by
  ext key : 1
  change (h ++ (⟨[(name, value)]⟩ : Headers)).values key = _
  rw [values_append, Multimap.insert, Function.update_apply]
  by_cases hkey : key = foldName name
  · simp [values, hkey]
  · simp [values, hkey, Ne.symm hkey]

theorem values_remove :
  (h.remove name).values = h.values.remove name
  := by
  ext key : 1
  rw [values, Headers.remove, List.filter_filter, Multimap.remove, Function.update_apply]
  by_cases hkey : key = foldName name
  · simp [sameName_eq, hkey]
  · rw [if_neg hkey, values]
    congr 1
    apply List.filter_congr
    intro f _
    cases hf : foldName f.1 == key with
    | false => rfl
    | true =>
      rw [sameName_eq, beq_iff_eq.1 hf, beq_false_of_ne hkey]
      rfl

theorem values_set :
  (h.set name value).values = h.values.set name value
  := by rw [Headers.set, values_insert, values_remove, Multimap.insert_remove]

theorem values_extend :
  (h ++ k).values = k.fields.foldl (fun m f => m.insert f.1 f.2) h.values
  := by
  obtain ⟨fields⟩ := k
  induction fields generalizing h with
  | nil =>
    ext key : 1
    rw [values_append]
    apply List.append_nil
  | cons f fields ih =>
    have hcons : h ++ (⟨f :: fields⟩ : Headers) = h.insert f.1 f.2 ++ (⟨fields⟩ : Headers) :=
      congrArg Headers.mk (List.append_cons h.fields f fields)
    rw [hcons, ih, values_insert, List.foldl_cons]

/-- An edit of headers is one of their map. -/
theorem values_apply (e : Edit) :
  (e.apply h).values = e.applyTo h.values
  := by
  cases e with
  | insert name value => apply values_insert
  | set name value => apply values_set
  | extend other => apply values_extend
  | remove name => apply values_remove

/-- The headers after some edits. -/
def edited (h : Headers) (edits : List Edit) : Headers := edits.foldl Edit.apply h

/-- Edits of headers are edits of their map. -/
theorem values_edited (edits : List Edit) :
  (h.edited edits).values = edits.foldl Edit.applyTo h.values
  := by
  induction edits generalizing h with
  | nil => rfl
  | cons e edits ih =>
    rw [List.foldl_cons, ← values_apply]
    apply ih

/-! ### What headers answer -/

/-- The names of headers. -/
def names : Finset (List Char) := (h.fields.map fun f => foldName f.1).toFinset

theorem length_values (key : List Char) :
  (h.values key).length = (h.fields.map fun f => foldName f.1).count key
  := by
  rw [values, List.length_map, List.count, List.countP_map, List.countP_eq_length_filter]
  rfl

theorem mem_names_iff (key : List Char) :
  key ∈ h.names ↔ h.values key ≠ []
  := by
  rw [names, List.mem_toFinset, ← List.count_pos_iff, ← length_values, List.length_pos_iff]

/-- There are as many headers as values of all names. -/
theorem size_eq_sum :
  h.size = ∑ key ∈ h.names, (h.values key).length
  := by
  rw [size, ← List.length_map fun f => foldName f.1, ← List.sum_toFinset_count_eq_length]
  apply Finset.sum_congr rfl
  intro key _
  rw [length_values]
  congr 1
  apply lawful_beq_subsingleton

/-- What headers answer about a name with the given values. -/
structure Answers (h : Headers) (name : String) (values : List String) : Prop where
  getAll : h.getAll name = values
  get? : h.get? name = values.head?
  contains : h.contains name = true ↔ values ≠ []
  removes : h.removes name = true ↔ values ≠ []

/-- Headers answer what their map says. -/
theorem answers_values :
  h.Answers name (h.values (foldName name))
  := by
  have hmem : (∃ f ∈ h.fields, sameName f.1 name = true) ↔ h.values (foldName name) ≠ [] := by
    rw [values, ne_eq, List.map_eq_nil_iff, List.filter_eq_nil_iff]
    simp [sameName_eq]
  refine ⟨h.getAll_eq_values name, rfl, ?_, ?_⟩
  · rw [Headers.contains, List.any_eq_true, hmem]
  · rw [Headers.removes, decide_eq_true_iff, size, size, Headers.remove,
      List.length_filter_lt_length_iff_exists, ← hmem]
    simp

/-! ### Other headers -/

/-- The headers that have none of the names. -/
def others (names : List String) : List (String × String) :=
  h.fields.filter fun f => ! names.any (sameName f.1)

variable {names names' : List String}

/-- Headers that are the same but for some names are the same but for more. -/
theorem others_of_subset (hsub : names ⊆ names') (hsame : h.others names = k.others names) :
  h.others names' = k.others names'
  := by
  have hfilter : ∀ h : Headers,
      h.others names' = (h.others names).filter fun f => ! names'.any (sameName f.1) := by
    intro h
    rw [others, others, List.filter_filter]
    apply List.filter_congr
    intro f _
    cases hany : names.any (sameName f.1) with
    | false => symm; apply Bool.and_true
    | true =>
      obtain ⟨name, hname, hf⟩ := List.any_eq_true.1 hany
      have hany' : names'.any (sameName f.1) = true := List.any_eq_true.2 ⟨name, hsub hname, hf⟩
      rw [hany']
      rfl
  rw [hfilter, hfilter, hsame]

theorem others_remove (hname : name ∈ names) :
  (h.remove name).others names = h.others names
  := by
  rw [others, others, Headers.remove, List.filter_filter]
  apply List.filter_congr
  intro f _
  cases hsame : sameName f.1 name with
  | false => apply Bool.and_true
  | true =>
    have hany : names.any (sameName f.1) = true := List.any_eq_true.2 ⟨name, hname, hsame⟩
    rw [hany]
    rfl

/-- Headers that are added under the names are no others. -/
theorem others_extend (hnames : ∀ f ∈ k.fields, f.1 ∈ names) :
  (h ++ k).others names = h.others names
  := by
  have hnone : k.others names = [] := by
    apply List.filter_eq_nil_iff.2
    intro f hf
    have hany : names.any (sameName f.1) = true :=
      List.any_eq_true.2 ⟨f.1, hnames f hf, beq_self_eq_true _⟩
    rw [hany]
    exact Bool.false_ne_true
  calc (h ++ k).others names = h.others names ++ k.others names := List.filter_append ..
    _ = h.others names := by rw [hnone, List.append_nil]

theorem others_insert (hname : name ∈ names) :
  (h.insert name value).others names = h.others names
  := by
  apply others_extend h ⟨[(name, value)]⟩
  intro f hf
  rwa [List.mem_singleton.1 hf]

/-- An edit keeps the headers that have none of its names. -/
theorem others_apply (e : Edit) :
  (e.apply h).others e.names = h.others e.names
  := by
  cases e with
  | insert name value => apply others_insert h name value List.mem_cons_self
  | set name value =>
    apply Eq.trans (others_insert _ name value List.mem_cons_self)
    apply others_remove h name List.mem_cons_self
  | extend other =>
    apply others_extend
    intro f hf
    apply List.mem_map_of_mem hf
  | remove name => apply others_remove h name List.mem_cons_self

/-- Edits keep the headers that have none of their names. -/
theorem others_edited (edits : List Edit) :
  (h.edited edits).others (edits.flatMap Edit.names) = h.others (edits.flatMap Edit.names)
  := by
  induction edits generalizing h with
  | nil => rfl
  | cons e edits ih =>
    rw [List.flatMap_cons]
    calc ((e.apply h).edited edits).others (e.names ++ edits.flatMap Edit.names)
        = (e.apply h).others (e.names ++ edits.flatMap Edit.names) :=
          others_of_subset _ _ (List.subset_append_right _ _) (ih _)
      _ = h.others (e.names ++ edits.flatMap Edit.names) :=
          others_of_subset _ _ (List.subset_append_left _ _) (others_apply h e)

/-! ### Headers and maps -/

theorem foldl_applyTo_congr {edits edits' : List Edit} (h : List.Forall₂ Edit.Respelled edits edits')
    (m : Multimap) :
  edits.foldl Edit.applyTo m = edits'.foldl Edit.applyTo m
  := by
  induction h generalizing m with
  | nil => rfl
  | cons hedit _ ih =>
    rw [List.foldl_cons, List.foldl_cons, hedit.applyTo_eq]
    apply ih

/-- After any edits, headers answer about every name what the edited map says, in whatever case the
names of the edits and of the question are spelled.  There are as many headers as values in the map,
and the headers of other names are kept as they are. -/
theorem refines_multimap (h : Headers) (edits : List Edit) :
  let m := edits.foldl Edit.applyTo h.values
  (∀ name, (h.edited edits).Answers name (m (foldName name)))
    ∧ (∀ edits' name name', List.Forall₂ Edit.Respelled edits edits' →
        foldName name = foldName name' → (h.edited edits').Answers name' (m (foldName name)))
    ∧ (∀ key, key ∈ (h.edited edits).names ↔ m key ≠ [])
    ∧ (h.edited edits).size = ∑ key ∈ (h.edited edits).names, (m key).length
    ∧ (h.edited edits).others (edits.flatMap Edit.names) = h.others (edits.flatMap Edit.names)
  := by
  intro m
  have hvalues : (h.edited edits).values = m := values_edited h edits
  refine ⟨?_, ?_, ?_, ?_, others_edited h edits⟩
  · intro name
    rw [← hvalues]
    apply answers_values
  · intro edits' name name' hedits hname
    have hvalues' : (h.edited edits').values = m :=
      (values_edited h edits').trans (foldl_applyTo_congr hedits h.values).symm
    rw [← hvalues', hname]
    apply answers_values
  · intro key
    rw [← hvalues]
    apply mem_names_iff
  · rw [← hvalues]
    apply size_eq_sum

/-- Headers are added under two spellings of a name, one of them is set among others, and a name
that is there and one that is not are removed. -/
def varyEdits : List Edit := [
  .insert "Vary" "Origin", .extend ⟨[("vary", "Accept"), ("X-Tx", "open")]⟩, .set "x-tx" "done",
  .remove "X-TRACE", .remove "Date"]

/-- The same edits with other spellings. -/
def shoutedEdits : List Edit := [
  .insert "VARY" "Origin", .extend ⟨[("VARY", "Accept"), ("X-TX", "open")]⟩, .set "X-TX" "done",
  .remove "X-TRACE", .remove "DATE"]

theorem refines_multimap_vary :
  List.Forall₂ Edit.Respelled varyEdits shoutedEdits ∧ foldName "Vary" = foldName "vArY"
    ∧ Answers (edited ⟨[("x-trace", "1"), ("Host", "a")]⟩ shoutedEdits) "vArY" ["Origin", "Accept"]
  := by
  have hedits : List.Forall₂ Edit.Respelled varyEdits shoutedEdits := by
    refine .cons ?_ (.cons ?_ (.cons ?_ (.cons ?_ (.cons ?_ .nil))))
    · apply Edit.Respelled.insert (by decide)
    · apply Edit.Respelled.extend
      refine .cons ⟨by decide, rfl⟩ (.cons ⟨by decide, rfl⟩ .nil)
    · apply Edit.Respelled.set (by decide)
    · apply Edit.Respelled.remove rfl
    · apply Edit.Respelled.remove (by decide)
  have hname : foldName "Vary" = foldName "vArY" := by decide
  obtain ⟨-, hanswers, -⟩ := refines_multimap ⟨[("x-trace", "1"), ("Host", "a")]⟩ varyEdits
  have hvalues : varyEdits.foldl Edit.applyTo (values ⟨[("x-trace", "1"), ("Host", "a")]⟩)
      (foldName "Vary") = ["Origin", "Accept"] := by decide
  use hedits, hname
  rw [← hvalues]
  apply hanswers _ _ _ hedits hname

end Headers

end HttpDispatch
