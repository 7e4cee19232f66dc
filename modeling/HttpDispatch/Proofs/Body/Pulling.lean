import HttpDispatch.Proofs.Http.Delivery
import Mathlib.Algebra.GroupWithZero.Nat
import Mathlib.Logic.Function.Iterate

/-!
# Pulling the chunks of a body

An encoder that is pulled again and again gives the outcomes of its source: a chunk for every piece
of data before the first failure that is not empty, then what ends them, and then nothing.  A pull
is made of turns, each of which polls the source at most once; over all pulls the source is polled
up to its end or its first failure.
-/

namespace HttpDispatch

/-! ### What a source gives -/

/-- The error of a failure. -/
def Event.failure? : Event → Option SourceError
  | .failure e => some e
  | _ => none

/-- What a pull gives ends the chunks. -/
def endsChunks : Except SourceError Chunk → Bool
  | .ok chunk => chunk.isLast
  | .error _ => true

/-- The number of bytes of data in what a pull gives. -/
def dataLength : Except SourceError Chunk → ℕ
  | .ok chunk => chunk.length
  | .error _ => 0

namespace Source

/-- The events before the first failure. -/
def front (s : Source) : Source := s.takeWhile (·.failure?.isNone)

/-- The first failure. -/
def failure? (s : Source) : Option SourceError := s.findSome? Event.failure?

/-- What ends the chunks of a source before which `total` bytes of data came: its first failure, or
the length of all data. -/
def ending (total : ℕ) (s : Source) : Except SourceError Chunk :=
  match s.failure? with
  | some e => .error e
  | none => .ok (.last (total + (s.front.chunkItems.map List.length).sum))

/-- What the pulls give of a source before which `total` bytes of data came. -/
def outcomes (total : ℕ) (s : Source) : List (Except SourceError Chunk) :=
  s.front.chunkItems.map (fun data => .ok (.data data)) ++ [s.ending total]

/-- The answers of a source to polls up to the one that is its last: its events and then its first
failure or, if it does not fail, nothing. -/
def answers (s : Source) : List (Option Event) :=
  s.front.map some ++ [s.failure?.map .failure]

/-- The answer of a source to a poll, which is nothing if the source has ended, and what remains of
the source. -/
def poll : Source → Option Event × Source
  | [] => (none, [])
  | event :: s => (some event, s)

end Source

/-! ### Turns of an encoder -/

/-- What an encoder does in one turn. -/
structure Turning where
  /-- The answer of the source, if the turn polls it. -/
  polled : Option (Option Event)
  /-- What the pull gives, if the turn ends it. -/
  given : Option (Option (Except SourceError Chunk))
  /-- The encoder after the turn. -/
  encoder : Encoder

namespace Encoder

/-- One turn of an encoder. -/
def turn (e : Encoder) : Turning :=
  match e.state with
  | .streaming =>
    match e.source.poll with
    | (none, s) => ⟨some none, none, ⟨s, .draining, e.total⟩⟩
    | (some .pending, s) => ⟨some (some .pending), none, ⟨s, .streaming, e.total⟩⟩
    | (some (.item []), s) => ⟨some (some (.item [])), none, ⟨s, .streaming, e.total⟩⟩
    | (some (.item (b :: data)), s) =>
      ⟨some (some (.item (b :: data))), some (some (.ok (.data (b :: data)))),
        ⟨s, .streaming, e.total + (b :: data).length⟩⟩
    | (some (.failure f), s) =>
      ⟨some (some (.failure f)), some (some (.error f)), ⟨s, .done, e.total⟩⟩
  | .draining => ⟨none, some (some (.ok (.last e.total))), { e with state := .done }⟩
  | .done => ⟨none, some none, e⟩

/-- Turns in a row up to the first that ends the pull: the answers of the source, what the pull
gives, and the encoder after it. -/
inductive Turns :
    Encoder → List (Option Event) → Option (Except SourceError Chunk) → Encoder → Prop
  | last {e : Encoder} {given : Option (Except SourceError Chunk)}
      (h : e.turn.given = some given) :
    Turns e e.turn.polled.toList given e.turn.encoder
  | next {e e' : Encoder} {answers : List (Option Event)}
      {given : Option (Except SourceError Chunk)}
      (h : e.turn.given = none) (rest : Turns e.turn.encoder answers given e') :
    Turns e (e.turn.polled.toList ++ answers) given e'

/-- The answers of a source during a pull. -/
def polledOf : Source → List (Option Event)
  | [] => [none]
  | .pending :: s => some .pending :: polledOf s
  | .item [] :: s => some (.item []) :: polledOf s
  | .item (b :: data) :: _ => [some (.item (b :: data))]
  | .failure e :: _ => [some (.failure e)]

/-- The answers of the source during a pull of an encoder. -/
def polled (e : Encoder) : List (Option Event) :=
  match e.state with
  | .streaming => polledOf e.source
  | .draining => []
  | .done => []

theorem turns_pullSource (total : ℕ) (s : Source) :
  Turns ⟨s, .streaming, total⟩ (polledOf s) (pullSource total s).1 (pullSource total s).2
  := by
  induction s with
  | nil =>
    apply Turns.next (e := ⟨[], .streaming, total⟩) rfl
    apply Turns.last (e := ⟨[], .draining, total⟩) rfl
  | cons event s ih =>
    cases event with
    | pending => apply Turns.next (e := ⟨.pending :: s, .streaming, total⟩) rfl ih
    | item data =>
      cases data with
      | nil => apply Turns.next (e := ⟨.item [] :: s, .streaming, total⟩) rfl ih
      | cons b data => apply Turns.last (e := ⟨.item (b :: data) :: s, .streaming, total⟩) rfl
    | failure e => apply Turns.last (e := ⟨.failure e :: s, .streaming, total⟩) rfl

/-- A pull is made of turns. -/
theorem turns_pull (e : Encoder) :
  Turns e e.polled e.pull.1 e.pull.2
  := by
  obtain ⟨s, state, total⟩ := e
  cases state with
  | streaming => apply turns_pullSource
  | draining => apply Turns.last (e := ⟨s, .draining, total⟩) rfl
  | done => apply Turns.last (e := ⟨s, .done, total⟩) rfl

/-! ### Pulls in a row -/

/-- A source that begins with a pause or an empty piece of data gives what the rest of it gives. -/
theorem idle_cons {event : Event} (h : event = .pending ∨ event = .item []) (total : ℕ)
    (s : Source) :
  Source.outcomes total (event :: s) = s.outcomes total
    ∧ Source.ending total (event :: s) = s.ending total
    ∧ Source.answers (event :: s) = some event :: s.answers
    ∧ pullSource total (event :: s) = pullSource total s
    ∧ polledOf (event :: s) = some event :: polledOf s
  := by
  rcases h with rfl | rfl
  · exact ⟨rfl, rfl, rfl, rfl, rfl⟩
  · exact ⟨rfl, rfl, rfl, rfl, rfl⟩

/-- A source that begins with a piece of data gives it and goes on with the rest. -/
theorem outcomes_item {data : Bytes} (hdata : data ≠ []) (total : ℕ) (s : Source) :
  Source.outcomes total (.item data :: s) = .ok (.data data) :: s.outcomes (total + data.length)
  := by
  have hfront : Source.front (.item data :: s) = .item data :: s.front := rfl
  have hitems : Source.chunkItems (.item data :: s.front) = data :: s.front.chunkItems :=
    List.filter_cons_of_pos (by simpa using hdata)
  have hending : Source.ending total (.item data :: s) = s.ending (total + data.length) := by
    rw [Source.ending, Source.ending, hfront, hitems, List.map_cons, List.sum_cons, Nat.add_assoc]
    rfl
  rw [Source.outcomes, hending, hfront, hitems]
  rfl

/-- A pull gives the first outcome of the source, and the source is polled as far as that takes. -/
theorem pullSource_cases (total : ℕ) (s : Source) :
  (∃ data s', s.outcomes total = .ok (.data data) :: s'.outcomes (total + data.length)
      ∧ pullSource total s = (some (.ok (.data data)), ⟨s', .streaming, total + data.length⟩)
      ∧ s.answers = polledOf s ++ s'.answers)
    ∨ ∃ s', s.outcomes total = [s.ending total]
      ∧ pullSource total s = (some (s.ending total), ⟨s', .done, total⟩)
      ∧ s.answers = polledOf s
  := by
  induction s with
  | nil => exact .inr ⟨[], rfl, rfl, rfl⟩
  | cons event s ih =>
    by_cases hidle : event = .pending ∨ event = .item []
    · obtain ⟨houtcomes, hending, hanswers, hpull, hpolled⟩ := idle_cons hidle total s
      rw [houtcomes, hending, hanswers, hpull, hpolled]
      apply ih.imp
      · rintro ⟨data, s', houtcomes, hpull, hanswers⟩
        use data, s', houtcomes, hpull
        rw [hanswers]
        rfl
      · rintro ⟨s', houtcomes, hpull, hanswers⟩
        use s', houtcomes, hpull
        rw [hanswers]
    · cases event with
      | pending => exact absurd (.inl rfl) hidle
      | item data =>
        cases data with
        | nil => exact absurd (.inr rfl) hidle
        | cons b data =>
          left
          use b :: data, s, outcomes_item (List.cons_ne_nil b data) total s, rfl
          rfl
      | failure e => exact .inr ⟨s, rfl, rfl, rfl⟩

/-- The encoder after some pulls. -/
def after (e : Encoder) (n : ℕ) : Encoder := (fun e => e.pull.2)^[n] e

/-- What the source answered during some pulls. -/
def polledIn (e : Encoder) (n : ℕ) : List (Option Event) :=
  (List.range n).flatMap fun i => (e.after i).polled

theorem after_succ (e : Encoder) (n : ℕ) :
  e.after (n + 1) = e.pull.2.after n
  := rfl

theorem after_add (e : Encoder) (m n : ℕ) :
  e.after (m + n) = (e.after m).after n
  := by
  rw [after, Nat.add_comm, Function.iterate_add_apply]
  rfl

theorem polledIn_succ (e : Encoder) (n : ℕ) :
  e.polledIn (n + 1) = e.polled ++ e.pull.2.polledIn n
  := by
  rw [polledIn, List.range_succ_eq_map, List.flatMap_cons, List.flatMap_map]
  rfl

theorem after_of_done {e : Encoder} (h : e.state = .done) (n : ℕ) :
  e.after n = e
  := by
  have hpull : e.pull.2 = e := by rw [pull, h]
  induction n with
  | zero => rfl
  | succ n ih => rw [after_succ, hpull, ih]

theorem polledIn_of_done {e : Encoder} (h : e.state = .done) (n : ℕ) :
  e.polledIn n = []
  := by
  rw [polledIn, List.flatMap_eq_nil_iff]
  intro i _
  rw [after_of_done h, polled, h]

/-- An encoder after `n` pulls, as the outcomes and the answers of its source tell, before which
`total` bytes of data came. -/
structure Pulled (outcomes : List (Except SourceError Chunk)) (answers : List (Option Event))
    (total n : ℕ) (e : Encoder) : Prop where
  given : (e.after n).pull.1 = outcomes[n]?
  total : (e.after n).total = total + ((outcomes.take n).map dataLength).sum
  state : (e.after n).state = if n < outcomes.length then .streaming else .done
  polled : e.polledIn n <+: answers

theorem pulled_streaming (total : ℕ) (s : Source) (n : ℕ) :
  Pulled (s.outcomes total) s.answers total n ⟨s, .streaming, total⟩
  := by
  induction n generalizing total s with
  | zero =>
    constructor
    · change (pullSource total s).1 = _
      rcases pullSource_cases total s with
        ⟨data, s', houtcomes, hpull, -⟩ | ⟨s', houtcomes, hpull, -⟩
      · rw [hpull, houtcomes]
        rfl
      · rw [hpull, houtcomes]
        rfl
    · rfl
    · rw [if_pos (by simp [Source.outcomes])]
      rfl
    · apply List.nil_prefix
  | succ n ih =>
    have hafter : after ⟨s, .streaming, total⟩ (n + 1) = (pullSource total s).2.after n := rfl
    have hpolled : polledIn ⟨s, .streaming, total⟩ (n + 1)
        = polledOf s ++ (pullSource total s).2.polledIn n := polledIn_succ _ n
    rcases pullSource_cases total s with
      ⟨data, s', houtcomes, hpull, hanswers⟩ | ⟨s', houtcomes, hpull, hanswers⟩
    · have h := ih (total + data.length) s'
      rw [hpull] at hafter hpolled
      constructor
      · rw [hafter, h.given, houtcomes]
        rfl
      · rw [hafter, h.total, houtcomes, List.take_succ_cons, List.map_cons, List.sum_cons,
          Nat.add_assoc]
        rfl
      · rw [hafter, h.state, houtcomes]
        simp
      · rw [hpolled, hanswers]
        apply (List.prefix_append_right_inj _).2 h.polled
    · rw [hpull] at hafter hpolled
      have hdone : (⟨s', .done, total⟩ : Encoder).state = .done := rfl
      rw [after_of_done hdone] at hafter
      rw [polledIn_of_done hdone, List.append_nil] at hpolled
      constructor
      · rw [hafter, houtcomes]
        rfl
      · have hlength : dataLength (s.ending total) = 0 := by
          rw [Source.ending]
          cases s.failure? <;> rfl
        rw [hafter, houtcomes]
        simp [hlength]
      · rw [hafter, houtcomes]
        simp
      · simp only [hpolled, hanswers, List.prefix_rfl]

/-- Only what comes last among the outcomes of a source ends the chunks. -/
theorem any_endsChunks_take_outcomes (s : Source) (total n : ℕ) :
  ((s.outcomes total).take n).any endsChunks = ! decide (n < (s.outcomes total).length)
  := by
  have hending : endsChunks (s.ending total) = true := by
    rw [Source.ending]
    cases s.failure? <;> rfl
  rw [Source.outcomes, List.length_append, List.length_map, List.length_singleton]
  by_cases h : n ≤ s.front.chunkItems.length
  · rw [List.take_append_of_le_length (by rwa [List.length_map]),
      decide_eq_true (Nat.lt_succ_of_le h), ← List.map_take, List.any_map]
    simp [endsChunks, Chunk.isLast]
  · have hlt : s.front.chunkItems.length < n := Nat.lt_of_not_le h
    rw [List.take_of_length_le (by rwa [List.length_append, List.length_map]), List.any_append,
      decide_eq_false (by omega)]
    simp [hending]

/-- Pulls of an encoder, each made of turns, give the outcomes of its source one by one and then
nothing.  The total is the length of the data given so far.  Between pulls the encoder is streaming
or done, and it is done, for good, as soon as the end or the failure of the source was given.  The
answers of the source end with its first failure or its end. -/
theorem pull_after_ofSource (source : Source) :
  ∃ answers : ℕ → List (Option Event), ∀ n,
    Turns ((ofSource source).after n) (answers n) ((ofSource source).after n).pull.1
        ((ofSource source).after (n + 1))
      ∧ ((ofSource source).after n).pull.1 = (source.outcomes 0)[n]?
      ∧ ((ofSource source).after n).total = (((source.outcomes 0).take n).map dataLength).sum
      ∧ ((ofSource source).after n).state
        = (if ((ofSource source).after n).isTerminated then .done else .streaming)
      ∧ ((ofSource source).after n).isTerminated = ((source.outcomes 0).take n).any endsChunks
      ∧ (((ofSource source).after n).isTerminated →
        ∀ m, (ofSource source).after (n + m) = (ofSource source).after n)
      ∧ (List.range n).flatMap answers <+: source.answers
  := by
  use fun n => ((ofSource source).after n).polled
  intro n
  have h : Pulled (source.outcomes 0) source.answers 0 n (ofSource source) :=
    pulled_streaming 0 source n
  have hsucc : ((ofSource source).after n).pull.2 = (ofSource source).after (n + 1) :=
    (after_add _ n 1).symm
  have hterminated : ((ofSource source).after n).isTerminated
      = ! decide (n < (source.outcomes 0).length) := by
    rw [isTerminated, h.state]
    split <;> simp_all
  refine ⟨?_, h.given, ?_, ?_, ?_, ?_, h.polled⟩
  · rw [← hsucc]
    apply turns_pull
  · rw [h.total, Nat.zero_add]
  · rw [h.state, hterminated]
    split <;> simp_all
  · rw [hterminated, any_endsChunks_take_outcomes]
  · intro hdone m
    rw [after_add]
    apply after_of_done
    simpa [isTerminated] using hdone

end Encoder

end HttpDispatch
