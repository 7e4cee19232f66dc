import Mathlib.Data.List.Forall2

/-!
# Steps that may fail

Steps in a sequence give a result if each of them does.  A list of steps gives the list of their
results, and otherwise the error of the first step that fails: `mapM_eq_ok_iff` and
`mapM_eq_error_iff`.
-/

namespace HttpDispatch.Fallible

variable {ε α β : Type}

theorem bind_eq_ok_iff {x : Except ε α} {f : α → Except ε β} {b : β} :
  x >>= f = .ok b ↔ ∃ a, x = .ok a ∧ f a = .ok b
  := by
  cases x <;> simp [bind, Except.bind]

theorem bind_eq_error_iff {x : Except ε α} {f : α → Except ε β} {e : ε} :
  x >>= f = .error e ↔ x = .error e ∨ ∃ a, x = .ok a ∧ f a = .error e
  := by
  cases x <;> simp [bind, Except.bind]

theorem map_eq_ok_iff {x : Except ε α} {f : α → β} {b : β} :
  x.map f = .ok b ↔ ∃ a, x = .ok a ∧ f a = b
  := by
  cases x <;> simp [Except.map]

theorem map_eq_error_iff {x : Except ε α} {f : α → β} {e : ε} :
  x.map f = .error e ↔ x = .error e
  := by
  cases x <;> simp [Except.map]

/-- A list of steps gives the results of the steps. -/
theorem mapM_eq_ok_iff {f : α → Except ε β} {as : List α} {bs : List β} :
  as.mapM f = .ok bs ↔ List.Forall₂ (fun a b => f a = .ok b) as bs
  := by
  induction as generalizing bs with
  | nil => simp [pure, Except.pure, eq_comm]
  | cons a as ih =>
    rw [List.mapM_cons, bind_eq_ok_iff, List.forall₂_cons_left_iff]
    constructor
    · rintro ⟨b, hb, h⟩
      obtain ⟨cs, hcs, h⟩ := bind_eq_ok_iff.1 h
      use b, cs, hb, ih.1 hcs
      apply (Except.ok.inj h).symm
    · rintro ⟨b, cs, hb, hcs, rfl⟩
      use b, hb
      rw [ih.2 hcs]
      rfl

/-- A list of steps fails as the first step that does. -/
theorem mapM_eq_error_iff {f : α → Except ε β} {as : List α} {e : ε} :
  as.mapM f = .error e ↔ ∃ front a back bs, as = front ++ a :: back
    ∧ List.Forall₂ (fun a b => f a = .ok b) front bs ∧ f a = .error e
  := by
  induction as with
  | nil => simp [pure, Except.pure]
  | cons a as ih =>
    rw [List.mapM_cons, bind_eq_error_iff]
    constructor
    · rintro (h | ⟨b, hb, h⟩)
      · use [], a, as, [], rfl, .nil
      · rcases bind_eq_error_iff.1 h with h | ⟨_, _, h⟩
        · obtain ⟨front, a', back, bs, rfl, hbs, ha'⟩ := ih.1 h
          use a :: front, a', back, b :: bs, rfl, .cons hb hbs
        · exact nomatch h
    · rintro ⟨front, a', back, bs, h, hbs, ha'⟩
      cases hbs with
      | nil =>
        obtain ⟨rfl, rfl⟩ := List.cons.inj h
        exact .inl ha'
      | @cons _ b front bs hb hbs =>
        obtain ⟨rfl, rfl⟩ := List.cons.inj h
        use .inr ⟨b, hb, ?_⟩
        rw [ih.2 ⟨front, a', back, bs, rfl, hbs, ha'⟩]
        rfl

theorem mapM_eq_some_iff {f : α → Option β} {as : List α} {bs : List β} :
  as.mapM f = some bs ↔ List.Forall₂ (fun a b => f a = some b) as bs
  := by
  induction as generalizing bs with
  | nil => simp [eq_comm]
  | cons a as ih =>
    rw [List.mapM_cons, List.forall₂_cons_left_iff]
    apply Option.bind_eq_some_iff.trans
    constructor
    · rintro ⟨b, hb, h⟩
      obtain ⟨cs, hcs, h⟩ := Option.bind_eq_some_iff.1 h
      use b, cs, hb, ih.1 hcs
      apply (Option.some.inj h).symm
    · rintro ⟨b, cs, hb, hcs, rfl⟩
      use b, hb
      rw [ih.2 hcs]
      rfl

theorem isSome_mapM_iff {f : α → Option β} {as : List α} :
  (as.mapM f).isSome ↔ ∀ a ∈ as, (f a).isSome
  := by
  induction as with
  | nil => simp
  | cons a as ih =>
    rw [List.mapM_cons, List.forall_mem_cons, ← ih]
    cases f a with
    | none => simp
    | some b => cases as.mapM f <;> simp

/-- Every result of a list of steps is the result of one of them. -/
theorem exists_mem_of_forall₂ {R : α → β → Prop} {as : List α} {bs : List β} {b : β}
    (h : List.Forall₂ R as bs) (hb : b ∈ bs) :
  ∃ a ∈ as, R a b
  := by
  induction h with
  | nil => exact nomatch hb
  | cons hab _ ih =>
    rcases List.mem_cons.1 hb with rfl | hb
    · exact ⟨_, List.mem_cons_self, hab⟩
    · obtain ⟨a, ha, hab⟩ := ih hb
      exact ⟨a, List.mem_cons_of_mem _ ha, hab⟩

/-- Each step has a result, so the list of steps has results. -/
theorem exists_forall₂_of_mem {R : α → β → Prop} {as : List α} (h : ∀ a ∈ as, ∃ b, R a b) :
  ∃ bs, List.Forall₂ R as bs
  := by
  induction as with
  | nil => exact ⟨[], .nil⟩
  | cons a as ih =>
    rw [List.forall_mem_cons] at h
    obtain ⟨b, hb⟩ := h.1
    obtain ⟨bs, hbs⟩ := ih h.2
    exact ⟨b :: bs, .cons hb hbs⟩

/-- A list of steps gives results if each of its steps gives one. -/
theorem exists_mapM_eq_ok {f : α → Except ε β} {as : List α} (h : ∀ a ∈ as, ∃ b, f a = .ok b) :
  ∃ bs, as.mapM f = .ok bs
  := by
  obtain ⟨bs, hbs⟩ := exists_forall₂_of_mem h
  use bs, mapM_eq_ok_iff.2 hbs

/-- Lists are related by what relates their elements. -/
theorem forall₂_iff_of_mem {R S : α → β → Prop} {as : List α} {bs : List β}
    (h : ∀ a ∈ as, ∀ b, R a b ↔ S a b) :
  List.Forall₂ R as bs ↔ List.Forall₂ S as bs
  := by
  induction as generalizing bs with
  | nil => simp
  | cons a as ih =>
    rw [List.forall_mem_cons] at h
    rw [List.forall₂_cons_left_iff, List.forall₂_cons_left_iff]
    simp only [h.1, ih h.2]

/-- What each result has in common with its step, the results have with the steps. -/
theorem map_eq_map_of_forall₂ {γ : Type} {R : α → β → Prop} {f : α → γ} {g : β → γ}
    {as : List α} {bs : List β} (h : List.Forall₂ R as bs) (hR : ∀ a b, R a b → g b = f a) :
  bs.map g = as.map f
  := by
  induction h with
  | nil => rfl
  | cons hab _ ih => rw [List.map_cons, List.map_cons, ih, hR _ _ hab]

end HttpDispatch.Fallible
