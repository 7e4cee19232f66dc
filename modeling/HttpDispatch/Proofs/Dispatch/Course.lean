import HttpDispatch.Proofs.Dispatch.Observation
import HttpDispatch.Proofs.Fallible
import Mathlib.Data.List.Nodup

/-!
# The course of a chain

In what order the stages of a chain run, which of them do, and which of them an error names.  The
stages are started in their order, each at most once, and one behind another only if that one
delegates; after a stage has answered or panicked, nothing at or behind its place happens.  An error
is marked where it is raised, and the stages before that either pass it on or raise another.
-/

namespace HttpDispatch.Chain

variable {σ μ : Type} {c : Chain σ μ} {place : ℕ} {seen : List Observation}
  {result : Except Panic (Except DispatchError Response)}

/-- The stages run in order: what is observed of a run of the chain. -/
structure Ordered (c : Chain σ μ) (seen : List Observation) : Prop where
  /-- The stages from the first to some other are started, one after the other. -/
  starts : ∃ n ≤ c.stages.length,
    (seen.filter (·.deed.isStart)).map (·.place) = List.range (n + 1)
  /-- Something behind a stage is done only if the stage delegates. -/
  delegated : ∀ o ∈ seen, ∀ place < o.place,
    ∃ queued, ⟨place, .start (.ok none), queued⟩ ∈ seen
  /-- Nothing behind a stage is ever done if the stage does not delegate. -/
  stops : ∀ o ∈ seen, ∀ result, o.deed = .start result → result ≠ .ok none →
    ∀ o' ∈ seen, o'.place ≤ o.place
  /-- After a stage has ended, only stages before it do something. -/
  ended : seen.Pairwise fun o o' => o.deed ≠ .start (.ok none) → o'.place < o.place

/-- What an error that is raised at a place of the chain becomes. -/
inductive Marks (c : Chain σ μ) (place : ℕ) : Fault → DispatchError → Prop
  /-- An error of a filter's own gets the name of the filter. -/
  | filter {stage : Stage σ μ} (hstage : c.stages[place]? = some stage) (message : String) :
    Marks c place (.own message) (.filter stage.filter.name message)
  /-- An error of the handler's own gets the name of the handler. -/
  | handler (hnone : c.stages[place]? = none) (message : String) :
    Marks c place (.own message) (.handler c.handlerName message)
  /-- An error that is marked already stays as it is. -/
  | marked (e : DispatchError) : Marks c place (.marked e) e

/-- Where errors come from: what is observed of a run of the chain that ends with `result`. -/
structure Attributes (c : Chain σ μ) (seen : List Observation)
    (result : Except Panic (Except DispatchError Response)) : Prop where
  /-- An error was raised at some stage, marked there, and passed on by all stages before. -/
  origin : ∀ e, result = .ok (.error e) → ∃ o ∈ seen, ∃ f, o.Raises f ∧ c.Marks o.place f e
    ∧ ∀ place < o.place, ∃ o' ∈ seen, o'.place = place ∧ o'.PassesOn e
  /-- An error that is raised at some stage and marked there is what the chain ends with if all
  stages before pass it on. -/
  carried : ∀ o ∈ seen, ∀ f e, o.Raises f → c.Marks o.place f e →
    (∀ o' ∈ seen, o'.place < o.place → ∀ result, o'.deed = .finish (.error e) result →
      o'.PassesOn e) →
    result = .ok (.error e)

/-- What an error becomes at a place is the error with the mark of the stage there. -/
theorem marks_iff {f : Fault} {e : DispatchError} :
  c.Marks place f e ↔ e = f.mark (c.markAt place)
  := by
  rw [markAt]
  constructor
  · intro h
    cases h with
    | filter hstage message => rw [hstage]; rfl
    | handler hnone message => rw [hnone]; rfl
    | marked e => rfl
  · rintro rfl
    cases f with
    | own message =>
      cases hstage : c.stages[place]? with
      | some stage => exact .filter hstage message
      | none => exact .handler hstage message
    | marked e => exact .marked e

namespace Course

/-! ### Order -/

theorem le_place (h : Course c place seen result) :
  ∀ o ∈ seen, place ≤ o.place
  := by
  induction h with
  | ends hplace result queued =>
    intro o ho
    obtain rfl := List.mem_singleton.1 ho
    apply Nat.le_refl
  | breaks hplace queued behind ih =>
    intro o ho
    rcases List.mem_cons.1 ho with rfl | ho
    · apply Nat.le_refl
    · apply Nat.le_of_succ_le (ih o ho)
  | resumes hplace queued behind result queued' ih =>
    intro o ho
    rcases List.mem_cons.1 ho with rfl | ho
    · apply Nat.le_refl
    · rcases List.mem_append.1 ho with ho | ho
      · apply Nat.le_of_succ_le (ih o ho)
      · obtain rfl := List.mem_singleton.1 ho
        apply Nat.le_refl

theorem starts (h : Course c place seen result) :
  ∃ n, place + n ≤ c.stages.length
    ∧ (seen.filter (·.deed.isStart)).map (·.place) = List.range' place (n + 1)
  := by
  induction h with
  | ends hplace result queued => exact ⟨0, hplace, rfl⟩
  | @breaks place hplace queued seen p behind ih =>
    obtain ⟨n, hn, hseen⟩ := ih
    use n + 1, by omega
    rw [List.range'_succ, ← hseen]
    rfl
  | @resumes place hplace queued seen given behind result queued' ih =>
    obtain ⟨n, hn, hseen⟩ := ih
    use n + 1, by omega
    have hlast : [(⟨place, .finish given result, queued'⟩ : Observation)].filter (·.deed.isStart)
        = [] := rfl
    rw [List.range'_succ, ← hseen, List.filter_cons_of_pos rfl, List.filter_append, hlast,
      List.append_nil, List.map_cons]

theorem delegated (h : Course c place seen result) :
  ∀ o ∈ seen, ∀ place' < o.place, place ≤ place' →
    ∃ queued, ⟨place', .start (.ok none), queued⟩ ∈ seen
  := by
  induction h with
  | ends hplace result queued =>
    intro o ho place' hlt hle
    obtain rfl := List.mem_singleton.1 ho
    exact absurd hlt (Nat.not_lt_of_le hle)
  | @breaks place hplace queued seen p behind ih =>
    intro o ho place' hlt hle
    rcases Nat.eq_or_lt_of_le hle with rfl | hle
    · use queued
      apply List.mem_cons_self
    · rcases List.mem_cons.1 ho with rfl | ho
      · exact absurd hlt (Nat.lt_asymm hle)
      · obtain ⟨queued', hmem⟩ := ih o ho place' hlt hle
        use queued'
        apply List.mem_cons_of_mem _ hmem
  | @resumes place hplace queued seen given behind result queued' ih =>
    intro o ho place' hlt hle
    rcases Nat.eq_or_lt_of_le hle with rfl | hle
    · use queued
      apply List.mem_cons_self
    · rcases List.mem_cons.1 ho with rfl | ho
      · exact absurd hlt (Nat.lt_asymm hle)
      · rcases List.mem_append.1 ho with ho | ho
        · obtain ⟨queued', hmem⟩ := ih o ho place' hlt hle
          use queued'
          apply List.mem_cons_of_mem _ (List.mem_append_left _ hmem)
        · obtain rfl := List.mem_singleton.1 ho
          exact absurd hlt (Nat.lt_asymm hle)

theorem stops (h : Course c place seen result) :
  ∀ o ∈ seen, ∀ started, o.deed = .start started → started ≠ .ok none →
    ∀ o' ∈ seen, o'.place ≤ o.place
  := by
  intro o ho started hdeed hne o' ho'
  apply Nat.le_of_not_lt
  intro hlt
  obtain ⟨queued, hmem⟩ := h.delegated o' ho' o.place hlt (h.le_place o ho)
  -- the stage is started only once, so that it would have delegated
  have honce : ((seen.filter (·.deed.isStart)).map (·.place)).Nodup := by
    obtain ⟨n, -, hstarts⟩ := h.starts
    rw [hstarts]
    exact List.nodup_range'
  have hstart : o.deed.isStart = true := by rw [hdeed]; rfl
  have heq := List.inj_on_of_nodup_map honce (List.mem_filter.2 ⟨ho, hstart⟩)
    (List.mem_filter.2 ⟨hmem, rfl⟩) rfl
  rw [heq] at hdeed
  apply hne (Deed.start.inj hdeed).symm

theorem ended (h : Course c place seen result) :
  seen.Pairwise fun o o' => o.deed ≠ .start (.ok none) → o'.place < o.place
  := by
  induction h with
  | ends hplace result queued => apply List.pairwise_singleton
  | breaks hplace queued behind ih =>
    apply List.pairwise_cons.2 ⟨_, ih⟩
    intro o _ hdeed
    exact absurd rfl hdeed
  | resumes hplace queued behind result queued' ih =>
    apply List.pairwise_cons.2 ⟨_, List.pairwise_append.2 ⟨ih, List.pairwise_singleton _ _, _⟩⟩
    · intro o _ hdeed
      exact absurd rfl hdeed
    · intro o ho o' ho' _
      obtain rfl := List.mem_singleton.1 ho'
      apply behind.le_place o ho

/-! ### Errors -/

theorem concludeAt_eq_error_iff {outcome : Except Panic Outcome} {e : DispatchError} :
  outcome.map (c.concludeAt place) = .ok (.error e)
    ↔ ∃ f, outcome = .ok (.error f) ∧ c.Marks place f e
  := by
  constructor
  · intro h
    obtain ⟨outcome, rfl, hconclude⟩ := Fallible.map_eq_ok_iff.1 h
    cases outcome with
    | ok response => cases hconclude
    | error f => exact ⟨f, rfl, marks_iff.2 (Except.error.inj hconclude).symm⟩
  · rintro ⟨f, rfl, hmarks⟩
    rw [marks_iff.1 hmarks]
    rfl

theorem origin (h : Course c place seen result) {e : DispatchError} (he : result = .ok (.error e)) :
  ∃ o ∈ seen, ∃ f, o.Raises f ∧ c.Marks o.place f e
    ∧ ∀ place' < o.place, place ≤ place' → ∃ o' ∈ seen, o'.place = place' ∧ o'.PassesOn e
  := by
  induction h with
  | @ends place hplace result queued =>
    obtain ⟨f, rfl, hmarks⟩ := concludeAt_eq_error_iff.1 he
    use ⟨place, .start (.ok (some (.error f))), queued⟩, List.mem_singleton_self _, f, .inl rfl,
      hmarks
    intro place' hlt hle
    exact absurd hlt (Nat.not_lt_of_le hle)
  | breaks hplace queued behind ih => cases he
  | @resumes place hplace queued seen given behind result queued' ih =>
    obtain ⟨f, rfl, hmarks⟩ := concludeAt_eq_error_iff.1 he
    have hlast : (⟨place, .finish given (.ok (.error f)), queued'⟩ : Observation)
        ∈ ⟨place, .start (.ok none), queued⟩ ::
          (seen ++ [⟨place, .finish given (.ok (.error f)), queued'⟩]) := by
      simp
    by_cases hpass : ∃ e, f = .marked e ∧ given = .error e
    · obtain ⟨e', rfl, rfl⟩ := hpass
      cases hmarks
      obtain ⟨o, ho, f, hraises, hmarks, houter⟩ := ih rfl
      use o, List.mem_cons_of_mem _ (List.mem_append_left _ ho), f, hraises, hmarks
      intro place' hlt hle
      rcases Nat.eq_or_lt_of_le hle with rfl | hle
      · exact ⟨_, hlast, rfl, rfl⟩
      · obtain ⟨o', ho', hplace', hpass⟩ := houter place' hlt hle
        use o', List.mem_cons_of_mem _ (List.mem_append_left _ ho'), hplace', hpass
    · have hraises : Observation.Raises ⟨place, .finish given (.ok (.error f)), queued'⟩ f :=
        .inr ⟨given, rfl, fun e hmarked hgiven => hpass ⟨e, hmarked, hgiven⟩⟩
      refine ⟨_, hlast, f, hraises, hmarks, ?_⟩
      intro place' hlt hle
      exact absurd hlt (Nat.not_lt_of_le hle)

theorem carried (h : Course c place seen result) {o : Observation} (ho : o ∈ seen) {f : Fault}
    {e : DispatchError} (hraises : o.Raises f) (hmarks : c.Marks o.place f e)
    (houter : ∀ o' ∈ seen, o'.place < o.place → ∀ result, o'.deed = .finish (.error e) result →
      o'.PassesOn e) :
  result = .ok (.error e)
  := by
  induction h with
  | @ends place hplace result queued =>
    obtain rfl := List.mem_singleton.1 ho
    rcases hraises with hdeed | ⟨given, hdeed, -⟩
    · obtain ⟨_, rfl, houtcome⟩ := Fallible.map_eq_ok_iff.1 (Deed.start.inj hdeed)
      obtain rfl := Option.some.inj houtcome
      exact concludeAt_eq_error_iff.2 ⟨f, rfl, hmarks⟩
    · cases hdeed
  | @breaks place hplace queued seen p behind ih =>
    rcases List.mem_cons.1 ho with rfl | ho
    · rcases hraises with hdeed | ⟨given, hdeed, -⟩
      · cases hdeed
      · cases hdeed
    · apply ih ho
      intro o' ho'
      apply houter o' (List.mem_cons_of_mem _ ho')
  | @resumes place hplace queued seen given behind result queued' ih =>
    rcases List.mem_cons.1 ho with rfl | ho
    · rcases hraises with hdeed | ⟨given, hdeed, -⟩
      · cases hdeed
      · cases hdeed
    rcases List.mem_append.1 ho with hmem | hmem
    · have hgiven := ih hmem fun o' ho' =>
        houter o' (List.mem_cons_of_mem _ (List.mem_append_left _ ho'))
      obtain rfl := Except.ok.inj hgiven
      have hlt : place < o.place := behind.le_place o hmem
      have hpass := houter ⟨place, .finish _ result, queued'⟩ (by simp) hlt result rfl
      obtain ⟨-, rfl⟩ := Deed.finish.inj hpass
      rfl
    · obtain rfl := List.mem_singleton.1 hmem
      rcases hraises with hdeed | ⟨given, hdeed, -⟩
      · cases hdeed
      · obtain ⟨-, rfl⟩ := Deed.finish.inj hdeed
        exact concludeAt_eq_error_iff.2 ⟨f, rfl, hmarks⟩

end Course

/-- An error of a stage's own names the stage. -/
theorem Marks.stage?_eq {message : String} {e : DispatchError}
    (h : c.Marks place (.own message) e) :
  e.stage? = some (c.next place).stageName
  := by
  rw [next]
  cases h with
  | filter hstage => rw [hstage]; rfl
  | handler hnone => rw [hnone]; rfl

/-- Running a chain is running the right fold of its stages over its handler, and whatever the
filters and the handler do, they run in order, and errors name the stage where they were raised. -/
theorem run_eq_foldr_observed (c : Chain σ μ) :
  c.run = (c.stages.foldr Stage.before c.terminal).run
    ∧ (∀ context queued (w : World σ), ∃ seen,
      (c.observed.run context).run queued (w.observe [])
          = ((c.run context).run queued w).observe seen
        ∧ c.Ordered seen ∧ c.Attributes seen ((c.run context).run queued w).result)
    ∧ ∀ place message e, c.Marks place (.own message) e →
      e.stage? = some (c.next place).stageName
  := by
  refine ⟨run_eq_foldr c, ?_, fun _ _ _ => Marks.stage?_eq⟩
  intro context queued w
  obtain ⟨seen, hrun, hcourse, -⟩ := c.run_run_observed context queued w
  use seen, hrun
  constructor
  · constructor
    · obtain ⟨n, hn, hstarts⟩ := hcourse.starts
      use n, by omega
      rw [hstarts, List.range_eq_range']
    · intro o ho place hlt
      apply hcourse.delegated o ho place hlt (Nat.zero_le place)
    · exact hcourse.stops
    · exact hcourse.ended
  · constructor
    · intro e he
      obtain ⟨o, ho, f, hraises, hmarks, houter⟩ := hcourse.origin he
      use o, ho, f, hraises, hmarks
      intro place hlt
      apply houter place hlt (Nat.zero_le place)
    · intro o ho f e hraises hmarks houter
      apply hcourse.carried ho hraises hmarks houter

/-- A filter that passes on whatever comes from behind it. -/
def passing : Filter Unit Unit where
  name := "passing"
  start context _ := return .delegate context fun result => return Filter.passOn result

/-- A filter that puts an error of its own in place of any other. -/
def masking : Filter Unit Unit where
  name := "masking"
  start context _ :=
    return .delegate context fun result => return result.mapError fun _ => .own "out of order"

/-- A chain of filters before a handler that fails. -/
def failing (filters : List (Filter Unit Unit)) : Chain Unit Unit :=
  .ofGroups "Printer.status" (fun _ => return .error (.own "out of paper")) [] filters []

/-- The handler's error names the handler if the filters pass it on, and the error that a filter
puts in its place names the filter. -/
theorem run_eq_foldr_observed_failing :
  (∀ context queued w, ∃ seen,
      ((failing [passing]).observed.run context).run queued (w.observe [])
          = (((failing [passing]).run context).run queued w).observe seen
        ∧ (∃ o ∈ seen, o.place = 1 ∧ o.Raises (.own "out of paper"))
        ∧ (((failing [passing]).run context).run queued w).result
          = .ok (.error (.handler "Printer.status" "out of paper")))
    ∧ ∀ context queued w, ∃ seen,
      ((failing [passing, masking]).observed.run context).run queued (w.observe [])
          = (((failing [passing, masking]).run context).run queued w).observe seen
        ∧ (∃ o ∈ seen, o.place = 1 ∧ o.Raises (.own "out of order"))
        ∧ (((failing [passing, masking]).run context).run queued w).result
          = .ok (.error (.filter "masking" "out of order"))
  := by
  constructor
  · intro context queued w
    obtain ⟨seen, hrun, -, hattributes⟩ :=
      (run_eq_foldr_observed (failing [passing])).2.1 context queued w
    have hseen : [⟨0, .start (.ok none), .empty⟩,
        ⟨1, .start (.ok (some (.error (.own "out of paper")))), .empty⟩,
        ⟨0, .finish (.error (.handler "Printer.status" "out of paper"))
          (.ok (.error (.marked (.handler "Printer.status" "out of paper")))), .empty⟩] = seen := by
      rw [run_eq_foldr] at hrun
      exact congrArg (fun turn => turn.world.app.2) hrun
    have hraised : ⟨1, .start (.ok (some (.error (.own "out of paper")))), .empty⟩ ∈ seen := by
      simp [← hseen]
    refine ⟨seen, hrun, ⟨_, hraised, rfl, .inl rfl⟩, ?_⟩
    apply hattributes.carried _ hraised _ _ (.inl rfl) (.handler rfl "out of paper")
    intro o ho hlt result hdeed
    rw [← hseen] at ho
    simp only [List.mem_cons, List.not_mem_nil, or_false] at ho
    rcases ho with rfl | rfl | rfl
    · cases hdeed
    · cases hdeed
    · rfl
  · intro context queued w
    obtain ⟨seen, hrun, -, hattributes⟩ :=
      (run_eq_foldr_observed (failing [passing, masking])).2.1 context queued w
    have hseen : [⟨0, .start (.ok none), .empty⟩, ⟨1, .start (.ok none), .empty⟩,
        ⟨2, .start (.ok (some (.error (.own "out of paper")))), .empty⟩,
        ⟨1, .finish (.error (.handler "Printer.status" "out of paper"))
          (.ok (.error (.own "out of order"))), .empty⟩,
        ⟨0, .finish (.error (.filter "masking" "out of order"))
          (.ok (.error (.marked (.filter "masking" "out of order")))), .empty⟩] = seen := by
      rw [run_eq_foldr] at hrun
      exact congrArg (fun turn => turn.world.app.2) hrun
    have hraised : ⟨1, .finish (.error (.handler "Printer.status" "out of paper"))
        (.ok (.error (.own "out of order"))), .empty⟩ ∈ seen := by
      simp [← hseen]
    have hraises : (⟨1, .finish (.error (.handler "Printer.status" "out of paper"))
        (.ok (.error (.own "out of order"))), .empty⟩ : Observation).Raises
          (.own "out of order") := by
      right
      refine ⟨_, rfl, ?_⟩
      intro e he
      cases he
    refine ⟨seen, hrun, ⟨_, hraised, rfl, hraises⟩, ?_⟩
    apply hattributes.carried _ hraised _ _ hraises (.filter rfl "out of order")
    intro o ho hlt result hdeed
    rw [← hseen] at ho
    simp only [List.mem_cons, List.not_mem_nil, or_false] at ho
    rcases ho with rfl | rfl | rfl | rfl | rfl
    · cases hdeed
    · cases hdeed
    · cases hdeed
    · cases hdeed
    · rfl

end HttpDispatch.Chain
