import HttpDispatch.Http.Head
import Mathlib.Data.List.Basic

/-!
# Scans of arriving bytes

What a scan has read it reads again when more bytes follow, and what it has refused it refuses
again: `Scan.Steady`.  Where a steady scan reads something off a sequence of bytes, it waits on
every beginning that is too short.
-/

namespace HttpDispatch.Scan

variable {α β : Type}

/-- The result of a scan when more bytes follow. -/
def extend (s : Scan α) (more : Bytes) : Scan α :=
  match s with
  | .done a rest => .done a (rest ++ more)
  | .incomplete => .incomplete
  | .failed e => .failed e

/-- More bytes change the result of a scan of `bs` only if it waits for them; what it leaves is
the end of `bs`, before those bytes. -/
structure SteadyAt (scan : Bytes → Scan α) (bs : Bytes) : Prop where
  extend : ∀ more, scan bs ≠ .incomplete → scan (bs ++ more) = (scan bs).extend more
  suffix : ∀ a rest, scan bs = .done a rest → rest <:+ bs

/-- More bytes change the result of a scan only if it waits for them. -/
def Steady (scan : Bytes → Scan α) : Prop := ∀ bs, SteadyAt scan bs

theorem map_eq_done_iff {s : Scan α} {f : α → β} {b : β} {rest : Bytes} :
  s.map f = .done b rest ↔ ∃ a, s = .done a rest ∧ f a = b
  := by
  cases s with
  | done a bs =>
    simp only [map, done.injEq]
    constructor
    · rintro ⟨rfl, rfl⟩
      exact ⟨a, ⟨rfl, rfl⟩, rfl⟩
    · rintro ⟨_, ⟨rfl, rfl⟩, rfl⟩
      exact ⟨rfl, rfl⟩
  | incomplete => simp [map]
  | failed e => simp [map]

theorem andThen_eq_done_iff {s : Scan α} {next : α → Bytes → Scan β} {b : β} {rest : Bytes} :
  s.andThen next = .done b rest ↔ ∃ a bs, s = .done a bs ∧ next a bs = .done b rest
  := by
  cases s with
  | done a bs =>
    simp only [andThen, done.injEq]
    constructor
    · intro h
      exact ⟨a, bs, ⟨rfl, rfl⟩, h⟩
    · rintro ⟨_, _, ⟨rfl, rfl⟩, h⟩
      exact h
  | incomplete => simp [andThen]
  | failed e => simp [andThen]

theorem extend_map (s : Scan α) (f : α → β) (more : Bytes) :
  (s.map f).extend more = (s.extend more).map f
  := by
  cases s <;> rfl

namespace SteadyAt

/-- A scan that reads nothing leaves everything. -/
theorem done (a : α) (bs : Bytes) :
  SteadyAt (Scan.done a) bs
  := by
  constructor
  · intro more _
    rfl
  · intro b rest h
    obtain ⟨-, rfl⟩ := Scan.done.inj h
    apply List.suffix_rfl

theorem failed (e : HeadError) (bs : Bytes) :
  SteadyAt (fun _ => (Scan.failed e : Scan α)) bs
  := by
  constructor
  · intro more _
    rfl
  · exact nofun

theorem incomplete {scan : Bytes → Scan α} {bs : Bytes} (h : scan bs = .incomplete) :
  SteadyAt scan bs
  := by
  constructor
  · intro more hne
    exact absurd h hne
  · intro a rest hrest
    exact nomatch h.symm.trans hrest

/-- Scans that agree on the bytes and on all that may follow are steady alike. -/
theorem congr {scan other : Bytes → Scan α} {bs : Bytes} (h : SteadyAt other bs)
    (heq : ∀ more, scan (bs ++ more) = other (bs ++ more)) :
  SteadyAt scan bs
  := by
  have hbs : scan bs = other bs := by simpa using heq []
  constructor
  · intro more hne
    rw [hbs] at hne ⊢
    rw [heq more]
    apply h.extend more hne
  · intro a rest hrest
    rw [hbs] at hrest
    apply h.suffix a rest hrest

/-- A scan that goes on after the first byte. -/
theorem cons {scan next : Bytes → Scan α} {b : UInt8} {bs : Bytes} (h : SteadyAt next bs)
    (hcons : ∀ cs, scan (b :: cs) = next cs) :
  SteadyAt scan (b :: bs)
  := by
  constructor
  · intro more hne
    rw [hcons] at hne
    rw [List.cons_append, hcons, hcons]
    apply h.extend more hne
  · intro a rest hrest
    rw [hcons] at hrest
    apply (h.suffix a rest hrest).trans (List.suffix_cons b bs)

theorem map {scan : Bytes → Scan α} {bs : Bytes} (h : SteadyAt scan bs) (f : α → β) :
  SteadyAt (fun bs => (scan bs).map f) bs
  := by
  constructor
  · intro more hne
    have hscan : scan bs ≠ .incomplete := by
      intro hscan
      rw [hscan] at hne
      apply hne rfl
    rw [h.extend more hscan, extend_map]
  · intro b rest hb
    obtain ⟨a, ha, -⟩ := map_eq_done_iff.1 hb
    apply h.suffix a rest ha

theorem andThen {scan : Bytes → Scan α} {next : α → Bytes → Scan β} {bs : Bytes}
    (h : SteadyAt scan bs)
    (hnext : ∀ a rest, scan bs = .done a rest → SteadyAt (next a) rest) :
  SteadyAt (fun bs => (scan bs).andThen next) bs
  := by
  constructor
  · intro more hne
    have hscan : scan bs ≠ .incomplete := by
      intro hscan
      rw [hscan] at hne
      apply hne rfl
    rw [h.extend more hscan]
    cases hbs : scan bs with
    | done a rest =>
      rw [hbs] at hne
      apply (hnext a rest hbs).extend more hne
    | incomplete => exact absurd hbs hscan
    | failed e => rfl
  · intro b rest hb
    obtain ⟨a, bs', ha, hb⟩ := andThen_eq_done_iff.1 hb
    apply ((hnext a bs' ha).suffix b rest hb).trans (h.suffix a bs' ha)

/-- A scan that reads something off the bytes waits on a beginning of them that ends before what
it leaves. -/
theorem incomplete_of_append {scan : Bytes → Scan α} {front : Bytes} (h : SteadyAt scan front)
    {back rest : Bytes} {a : α} (hscan : scan (front ++ back) = .done a rest)
    (hlt : rest.length < back.length) :
  scan front = .incomplete
  := by
  cases hfront : scan front with
  | done b rest' =>
    have hextend := h.extend back (by simp [hfront])
    rw [hscan, hfront] at hextend
    obtain ⟨-, rfl⟩ := Scan.done.inj hextend
    rw [List.length_append] at hlt
    omega
  | incomplete => rfl
  | failed e =>
    have hextend := h.extend back (by simp [hfront])
    rw [hscan, hfront] at hextend
    exact nomatch hextend

end SteadyAt

end HttpDispatch.Scan
