import HttpDispatch.Proofs.Body.Pulling

/-!
# Reading a body

The stream over a reader gives the bytes of the reader in pieces of bounded length, and the reader
is not read again after its end or its failure: `Body.ofReader_delivers`.  For each piece the stream
needs room for the greatest length, so it fails at once if there cannot be as much.
-/

namespace HttpDispatch

/-! ### Cutting data -/

namespace Bytes

variable (n : ℕ) (data : Bytes)

theorem cut_nil :
  cut n [] = []
  := by rw [cut, List.isEmpty_nil, if_pos rfl]

variable {data} in
theorem cut_of_ne_nil (h : data ≠ []) :
  cut n data = data.take (max n 1) :: cut n (data.drop (max n 1))
  := by rw [cut, if_neg (by simpa using h)]

theorem cut_eq_nil_iff :
  cut n data = [] ↔ data = []
  := by
  constructor
  · intro h
    by_contra hne
    rw [cut_of_ne_nil n hne] at h
    cases h
  · rintro rfl
    apply cut_nil

variable {data} in
theorem cut_of_length_le (hne : data ≠ []) (h : data.length ≤ max n 1) :
  cut n data = [data]
  := by rw [cut_of_ne_nil n hne, List.take_of_length_le h, List.drop_of_length_le h, cut_nil]

/-- The pieces make up the data.  All of them are full but the last, which is not empty. -/
structure Cuts (n : ℕ) (data : Bytes) (pieces : List Bytes) : Prop where
  flatten : pieces.flatten = data
  empty : data = [] → pieces = []
  full : ∀ piece ∈ pieces.dropLast, piece.length = max n 1
  last : ∀ piece ∈ pieces.getLast?, 0 < piece.length ∧ piece.length ≤ max n 1

theorem Cuts.bounds {n : ℕ} {data : Bytes} {pieces : List Bytes} (h : Cuts n data pieces)
    {piece : Bytes} (hpiece : piece ∈ pieces) :
  0 < piece.length ∧ piece.length ≤ max n 1
  := by
  have hne : pieces ≠ [] := List.ne_nil_of_mem hpiece
  rw [← List.dropLast_append_getLast hne, List.mem_append, List.mem_singleton] at hpiece
  rcases hpiece with hfront | rfl
  · have hfull := h.full piece hfront
    omega
  · apply h.last _ (List.getLast?_eq_some_getLast hne)

theorem cuts_cut :
  Cuts n data (cut n data)
  := by
  fun_induction cut n data with
  | case1 data hempty =>
    obtain rfl := List.isEmpty_iff.1 hempty
    constructor <;> simp
  | case2 data hne ih =>
    have hpos : 0 < data.length := List.length_pos_iff.2 (by simpa using hne)
    by_cases hle : data.length ≤ max n 1
    · rw [List.take_of_length_le hle, List.drop_of_length_le hle, cut_nil]
      constructor
      · apply List.flatten_singleton
      · rintro rfl
        cases hpos
      · rintro piece ⟨⟩
      · rintro piece ⟨⟩
        exact ⟨hpos, hle⟩
    · have hrest : cut n (data.drop (max n 1)) ≠ [] := by
        rw [ne_eq, cut_eq_nil_iff, List.drop_eq_nil_iff]
        exact hle
      constructor
      · rw [List.flatten_cons, ih.flatten, List.take_append_drop]
      · rintro rfl
        cases hpos
      · rw [List.dropLast_cons_of_ne_nil hrest, List.forall_mem_cons]
        use List.length_take_of_le (Nat.le_of_not_le hle), ih.full
      · rw [List.getLast?_cons_of_ne_nil hrest]
        apply ih.last

end Bytes

/-! ### What a reader gives -/

/-- A reader that answers this goes on. -/
def Event.goesOn : Event → Bool
  | .pending => true
  | .item data => ! data.isEmpty
  | .failure _ => false

namespace Source

/-- The bytes that a reader gives before it ends or fails. -/
def given (reader : Source) : Bytes := (items (reader.takeWhile Event.goesOn)).flatten

/-- The error with which a reader fails. -/
def error? (reader : Source) : Option SourceError :=
  (reader.dropWhile Event.goesOn).head?.bind Event.failure?

/-- A stream gives what a reader gives: its bytes, in pieces of at most `max n 1` of them and none
empty, then its error if it fails, and then nothing. -/
structure Delivers (n : ℕ) (s reader : Source) : Prop where
  bounds : ∀ data ∈ s.items, 0 < data.length ∧ data.length ≤ max n 1
  data : s.items.flatten = reader.given
  failure : s.failure? = reader.error?
  ended : s = s.front ++ (s.failure?.map .failure).toList

section

variable {n : ℕ} {reader s : Source}

theorem items_append (s t : Source) :
  items (s ++ t) = s.items ++ t.items
  := List.filterMap_append

theorem items_map_item (pieces : List Bytes) :
  items (pieces.map .item) = pieces
  := by
  rw [items, List.filterMap_map]
  apply List.filterMap_some

theorem Delivers.pending (h : Delivers n s reader) :
  Delivers n (.pending :: s) (.pending :: reader)
  := by
  constructor
  · exact h.bounds
  · exact h.data
  · exact h.failure
  · exact congrArg (Event.pending :: ·) h.ended

/-- A piece of data can be given in pieces. -/
theorem Delivers.cuts (h : Delivers n s reader) {data : Bytes} (hne : data ≠ [])
    {pieces : List Bytes} (hcuts : Bytes.Cuts n data pieces) :
  Delivers n (pieces.map .item ++ s) (.item data :: reader)
  := by
  have hfailure : failure? (pieces.map .item ++ s) = s.failure? := by
    have hnone : (pieces.map Event.item).findSome? Event.failure? = none := by
      rw [List.findSome?_eq_none_iff, List.forall_mem_map]
      intro piece _
      rfl
    rw [failure?, List.findSome?_append, hnone, Option.none_or]
    rfl
  have hfront : front (pieces.map .item ++ s) = pieces.map .item ++ s.front := by
    apply List.takeWhile_append_of_pos
    rw [List.forall_mem_map]
    intro piece _
    rfl
  have hgoesOn : Event.goesOn (.item data) = true := by simpa [Event.goesOn] using hne
  constructor
  · rw [items_append, items_map_item, List.forall_mem_append]
    use fun piece hpiece => hcuts.bounds hpiece, h.bounds
  · rw [items_append, items_map_item, List.flatten_append, hcuts.flatten, h.data, given, given,
      List.takeWhile_cons_of_pos hgoesOn]
    rfl
  · rw [hfailure, h.failure, error?, error?, List.dropWhile_cons_of_pos hgoesOn]
  · rw [hfailure, hfront, List.append_assoc, ← h.ended]

/-- A reader that ends or fails gives nothing but its error. -/
theorem delivers_of_not_goesOn {event : Event} (h : event.goesOn = false) (reader : Source) :
  Delivers n (event.failure?.map .failure).toList (event :: reader)
  := by
  have hgiven : given (event :: reader) = [] := by
    rw [given, List.takeWhile_cons_of_neg (Bool.eq_false_iff.1 h)]
    rfl
  have herror : error? (event :: reader) = event.failure? := by
    rw [error?, List.dropWhile_cons_of_neg (Bool.eq_false_iff.1 h)]
    rfl
  generalize event.failure? = failure at herror ⊢
  cases failure with
  | none => constructor <;> simp [items, failure?, front, hgiven, herror]
  | some e => constructor <;> simp [items, failure?, front, Event.failure?, hgiven, herror]

/-! ### Pieces that are read -/

theorem pieces_item {data : Bytes} (h : data ≠ []) (reader : Source) :
  pieces n (.item data :: reader) = (Bytes.cut n data).map .item ++ pieces n reader
  := by
  obtain ⟨b, data, rfl⟩ := List.exists_cons_of_ne_nil h
  rfl

theorem pieces_of_goesOn {event : Event} (h : event.goesOn = true)
    (hfits : ∀ data, event = .item data → data.length ≤ max n 1) (reader : Source) :
  pieces n (event :: reader) = event :: pieces n reader
  := by
  cases event with
  | pending => rfl
  | item data =>
    have hne : data ≠ [] := by simpa [Event.goesOn] using h
    rw [pieces_item hne, Bytes.cut_of_length_le n hne (hfits data rfl)]
    rfl
  | failure e => cases h

theorem pieces_of_not_goesOn {event : Event} (h : event.goesOn = false) (reader : Source) :
  pieces n (event :: reader) = (event.failure?.map .failure).toList
  := by
  cases event with
  | pending => cases h
  | item data =>
    cases data with
    | nil => rfl
    | cons b data => cases h
  | failure e => rfl

/-- The pieces that are read from a reader are what it gives. -/
theorem delivers_pieces (n : ℕ) (reader : Source) :
  Delivers n (pieces n reader) reader
  := by
  induction reader with
  | nil => constructor <;> simp [pieces, items, given, failure?, error?, front]
  | cons event reader ih =>
    cases hgoesOn : event.goesOn with
    | false =>
      rw [pieces_of_not_goesOn hgoesOn]
      apply delivers_of_not_goesOn hgoesOn
    | true =>
      cases event with
      | pending => apply ih.pending
      | item data =>
        have hne : data ≠ [] := by simpa [Event.goesOn] using hgoesOn
        rw [pieces_item hne]
        apply ih.cuts hne (Bytes.cuts_cut n data)
      | failure e => cases hgoesOn

end

end Source

/-! ### Reading piece by piece -/

/-- A reader with states `σ`.  A read with room for so many bytes is answered with no more. -/
structure Reader (σ : Type) where
  read : ℕ → σ → Event × σ
  fits : ∀ room s data, (read room s).1 = .item data → data.length ≤ room

/-- What happens when a stream over a reader is polled. -/
structure Polling (σ : Type) where
  /-- The answer of the reader, if the poll reads it. -/
  heard : Option Event
  /-- What the poll gives, if the stream has not ended. -/
  given : Option Event
  /-- The reader, unless it is not to be read again. -/
  reader : Option σ

namespace Reader

variable {σ : Type} (r : Reader σ) (n : ℕ)

/-- A poll makes room for a piece and reads the reader once. -/
def poll : Option σ → Polling σ
  | none => ⟨none, none, none⟩
  | some s =>
    if Source.maxRoom < n then ⟨none, some (.failure .oversized), none⟩
    else
      match r.read (max n 1) s with
      | (.pending, s') => ⟨some .pending, some .pending, some s'⟩
      | (.item [], _) => ⟨some (.item []), none, none⟩
      | (.item data, s') => ⟨some (.item data), some (.item data), some s'⟩
      | (.failure e, _) => ⟨some (.failure e), some (.failure e), none⟩

/-- The answers of the reader to so many polls. -/
def heard : ℕ → Option σ → Source
  | 0, _ => []
  | k + 1, s => (r.poll n s).heard.toList ++ heard k (r.poll n s).reader

/-- What so many polls give. -/
def given : ℕ → Option σ → Source
  | 0, _ => []
  | k + 1, s => (r.poll n s).given.toList ++ given k (r.poll n s).reader

variable {n}

theorem heard_none (k : ℕ) :
  r.heard n k none = []
  := by
  induction k with
  | zero => rfl
  | succ k ih => exact ih

theorem given_none (k : ℕ) :
  r.given n k none = []
  := by
  induction k with
  | zero => rfl
  | succ k ih => exact ih

/-- A poll that reads gives the answer of the reader and goes on, or gives the error of the reader if
it has one and drops it. -/
theorem poll_of_read (hn : n ≤ Source.maxRoom) {s s' : σ} {event : Event}
    (hread : r.read (max n 1) s = (event, s')) :
  r.poll n (some s) =
    if event.goesOn then ⟨some event, some event, some s'⟩
    else ⟨some event, event.failure?.map .failure, none⟩
  := by
  rw [poll, if_neg (Nat.not_lt.2 hn), hread]
  cases event with
  | pending => rfl
  | item data => cases data <;> rfl
  | failure e => rfl

/-- What the polls give are the pieces of what they heard. -/
theorem given_eq_pieces (hn : n ≤ Source.maxRoom) (k : ℕ) (s : σ) :
  r.given n k (some s) = Source.pieces n (r.heard n k (some s))
  := by
  induction k generalizing s with
  | zero => rfl
  | succ k ih =>
    rcases hread : r.read (max n 1) s with ⟨event, s'⟩
    rw [given, heard, r.poll_of_read hn hread]
    cases hgoesOn : event.goesOn with
    | true =>
      have hfits : ∀ data, event = .item data → data.length ≤ max n 1 := by
        rintro data rfl
        apply r.fits (max n 1) s data (congrArg Prod.fst hread)
      apply Eq.trans _ (Source.pieces_of_goesOn hgoesOn hfits _).symm
      exact congrArg (event :: ·) (ih s')
    | false =>
      simp only [Bool.false_eq_true, if_false, given_none, heard_none, List.append_nil]
      apply (Source.pieces_of_not_goesOn hgoesOn []).symm

/-- A reader is not read again after an answer with which it ends or fails. -/
theorem goesOn_of_mem_dropLast_heard (hn : n ≤ Source.maxRoom) (k : ℕ) (s : σ) :
  ∀ event ∈ (r.heard n k (some s)).dropLast, event.goesOn = true
  := by
  induction k generalizing s with
  | zero => rintro event ⟨⟩
  | succ k ih =>
    rcases hread : r.read (max n 1) s with ⟨event, s'⟩
    rw [heard, r.poll_of_read hn hread]
    cases hgoesOn : event.goesOn with
    | true =>
      simp only [if_true, Option.toList_some, List.singleton_append]
      intro event' hevent
      rcases hheard : r.heard n k (some s') with _ | ⟨next, heard⟩
      · rw [hheard] at hevent
        cases hevent
      · rw [hheard, List.dropLast_cons_cons, List.mem_cons] at hevent
        rcases hevent with rfl | hevent
        · exact hgoesOn
        · apply ih s'
          rwa [hheard]
    | false =>
      simp only [Bool.false_eq_true, if_false, heard_none, List.append_nil]
      rintro event' ⟨⟩

/-- Without room for a piece the first poll fails, and the reader is not read. -/
theorem polls_of_maxRoom_lt (hn : Source.maxRoom < n) (k : ℕ) (s : σ) :
  r.heard n k (some s) = [] ∧ r.given n k (some s) = [Event.failure .oversized].take k
  := by
  cases k with
  | zero => exact ⟨rfl, rfl⟩
  | succ k =>
    rw [heard, given, poll, if_pos hn]
    simp [heard_none, given_none]

end Reader

/-! ### Scripted readers -/

namespace Source

/-- The answer of a reader that gives the data of a list of events, and what remains of the list.
Data for which there is not enough room is given in several answers. -/
def answer (room : ℕ) : Source → Event × Source
  | [] => (.item [], [])
  | .item data :: s =>
    (.item (data.take room), if data.length ≤ room then s else .item (data.drop room) :: s)
  | event :: s => (event, s)

/-- The reader that gives the data of a list of events. -/
def reader : Reader Source where
  read := answer
  fits := by
    intro room s data h
    cases s with
    | nil =>
      obtain rfl := Event.item.inj h
      apply Nat.zero_le
    | cons event s =>
      cases event with
      | pending => cases h
      | item data' =>
        obtain rfl := Event.item.inj h
        apply List.length_take_le
      | failure e => cases h

variable {n : ℕ}

/-- The pieces that are read begin with what the first answer gives. -/
theorem pieces_of_answer {s s' : Source} {event : Event} (h : answer (max n 1) s = (event, s')) :
  pieces n s =
    if event.goesOn then event :: pieces n s' else (event.failure?.map .failure).toList
  := by
  cases s with
  | nil =>
    obtain ⟨rfl, rfl⟩ := Prod.mk.inj h
    rfl
  | cons event' s =>
    cases event' with
    | pending =>
      obtain ⟨rfl, rfl⟩ := Prod.mk.inj h
      rfl
    | failure e =>
      obtain ⟨rfl, rfl⟩ := Prod.mk.inj h
      rfl
    | item data =>
      obtain ⟨rfl, rfl⟩ := Prod.mk.inj h
      by_cases hne : data = []
      · subst hne
        rw [List.take_nil]
        rfl
      · have hgoesOn : Event.goesOn (.item (data.take (max n 1))) = true := by
          simp [Event.goesOn, hne]
        rw [if_pos hgoesOn, pieces_item hne, Bytes.cut_of_ne_nil n hne, List.map_cons,
          List.cons_append]
        congr 1
        split
        · rename_i hle
          rw [List.drop_of_length_le hle, Bytes.cut_nil]
          rfl
        · rename_i hlt
          rw [pieces_item]
          rwa [ne_eq, List.drop_eq_nil_iff]

/-- The polls of a stream over a list of events give the stream of the model, one by one. -/
theorem given_reader (n k : ℕ) (s : Source) :
  reader.given n k (some s) = (ofReader n s).take k
  := by
  by_cases hn : n ≤ maxRoom
  · rw [ofReader, if_pos hn]
    induction k generalizing s with
    | zero => rfl
    | succ k ih =>
      rcases hread : answer (max n 1) s with ⟨event, s'⟩
      rw [Reader.given, reader.poll_of_read hn hread, pieces_of_answer hread]
      cases hgoesOn : event.goesOn with
      | true => exact congrArg (event :: ·) (ih s')
      | false =>
        simp only [Bool.false_eq_true, if_false, Reader.given_none, List.append_nil]
        cases event.failure? <;> simp
  · rw [ofReader, if_neg hn]
    apply (reader.polls_of_maxRoom_lt (Nat.lt_of_not_le hn) k s).2

end Source

/-! ### Bodies -/

namespace Body

/-- If there can be room for a piece, the stream over a reader delivers what the reader gives, so
that readers with the same bytes are streamed as the same data; otherwise the stream fails at once.
Polls give the stream event by event.  Over any reader they give the stream of the answers that they
heard, of which only the last may be the end or a failure.  Data in memory is cut into pieces of any
length. -/
theorem ofReader_delivers (n : ℕ) :
  (∀ reader, n ≤ Source.maxRoom → (ofReader n reader).source.Delivers n reader)
    ∧ (∀ reader n' reader', n ≤ Source.maxRoom → n' ≤ Source.maxRoom →
      Source.given reader = Source.given reader' →
        (ofReader n reader).source.items.flatten = (ofReader n' reader').source.items.flatten)
    ∧ (∀ reader, Source.maxRoom < n → (ofReader n reader).source = [.failure .oversized])
    ∧ (∀ reader k, Source.reader.given n k (some reader) = (ofReader n reader).source.take k)
    ∧ (∀ (σ : Type) (r : Reader σ) (s : σ) (k : ℕ), n ≤ Source.maxRoom →
        r.given n k (some s) = (ofReader n (r.heard n k (some s))).source
          ∧ ∀ event ∈ (r.heard n k (some s)).dropLast, event.goesOn = true)
    ∧ ∀ data, Bytes.Cuts n data (chunked n data).source.items
      ∧ (chunked n data).source = (chunked n data).source.items.map .item
  := by
  have hsource : ∀ n reader, n ≤ Source.maxRoom →
      (ofReader n reader).source = Source.pieces n reader := fun n reader hn => if_pos hn
  have hdelivers : ∀ n reader, n ≤ Source.maxRoom →
      (ofReader n reader).source.Delivers n reader := by
    intro n reader hn
    rw [hsource n reader hn]
    apply Source.delivers_pieces
  have hitems : ∀ data, (chunked n data).source.items = Bytes.cut n data :=
    fun data => Source.items_map_item (Bytes.cut n data)
  refine ⟨hdelivers n, ?_, ?_, ?_, ?_, ?_⟩
  · intro reader n' reader' hn hn' hsame
    rw [(hdelivers n reader hn).data, (hdelivers n' reader' hn').data, hsame]
  · intro reader hn
    apply if_neg (Nat.not_le_of_lt hn)
  · intro reader k
    apply Source.given_reader
  · intro σ r s k hn
    rw [hsource n _ hn]
    use r.given_eq_pieces hn k s
    apply r.goesOn_of_mem_dropLast_heard hn
  · intro data
    rw [hitems]
    use Bytes.cuts_cut n data
    rfl

/-- A reader whose data comes in pieces of other lengths, and which fails before its last piece. -/
def brokenReader : Source :=
  [.pending, .item [1, 2, 3, 4], .item [5], .failure (.failed "gone"), .item [6]]

theorem ofReader_delivers_broken :
  3 ≤ Source.maxRoom ∧ (ofReader 3 brokenReader).source.Delivers 3 brokenReader
    ∧ (ofReader 3 brokenReader).source
      = [.pending, .item [1, 2, 3], .item [4], .item [5], .failure (.failed "gone")]
  := by
  have hn : 3 ≤ Source.maxRoom := by decide
  use hn, (ofReader_delivers 3).1 brokenReader hn
  decide +kernel

/-- With room for no limit at all a stream fails, though its reader gives data. -/
theorem ofReader_oversized :
  (ofReader 18446744073709551615 [.item [97, 98, 99]]).source = [.failure .oversized]
    ∧ ¬ (ofReader 18446744073709551615 [.item [97, 98, 99]]).source.Delivers 18446744073709551615
      [.item [97, 98, 99]]
  := by
  have hsource : (ofReader 18446744073709551615 [.item [97, 98, 99]]).source
      = [.failure .oversized] := by decide +kernel
  use hsource
  intro h
  have hdata := h.data
  rw [hsource] at hdata
  cases hdata

end Body

end HttpDispatch
