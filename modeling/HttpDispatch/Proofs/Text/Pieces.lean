import Mathlib.Data.List.Basic
import Mathlib.Data.List.TakeDrop

/-!
# Pieces of a text

Cutting a text at a separator gives pieces that do not hold it, and joining the pieces gives the
text back.  A text of one empty piece is empty.
-/

namespace HttpDispatch.Text

section

variable {α : Type} [DecidableEq α]

omit [DecidableEq α] in
/-- No piece holds an element at which the text is cut. -/
theorem eq_false_of_mem_splitOnP {p : α → Bool} {text piece : List α}
    (h : piece ∈ text.splitOnP p) :
  ∀ c ∈ piece, p c = false
  := by
  induction text generalizing piece with
  | nil =>
    rw [List.splitOnP_nil, List.mem_singleton] at h
    subst h
    intro c hc
    cases hc
  | cons d text ih =>
    obtain ⟨q, qs, hq⟩ := List.exists_cons_of_ne_nil (List.splitOnP_ne_nil p text)
    rw [List.splitOnP_cons_eq_if_modifyHead] at h
    rw [hq] at ih h
    split at h
    · rcases List.mem_cons.1 h with rfl | h
      · intro c hc
        cases hc
      · apply ih h
    · rename_i hd
      rcases List.mem_cons.1 h with rfl | h
      · apply List.forall_mem_cons.2 ⟨by simpa using hd, ih List.mem_cons_self⟩
      · apply ih (List.mem_cons_of_mem _ h)

/-- No piece holds the separator. -/
theorem notMem_of_mem_splitOn {sep : α} {text piece : List α} (h : piece ∈ text.splitOn sep) :
  sep ∉ piece
  := by
  intro hsep
  have hne := eq_false_of_mem_splitOnP (p := (· == sep)) h sep hsep
  rw [beq_self_eq_true] at hne
  cases hne

/-- Only the empty text is a single empty piece. -/
theorem splitOn_eq_singleton_nil_iff {sep : α} {text : List α} :
  text.splitOn sep = [[]] ↔ text = []
  := by
  constructor
  · intro h
    have joined : [sep].intercalate (text.splitOn sep) = text := List.intercalate_splitOn sep
    rw [← joined, h]
    rfl
  · rintro rfl
    apply List.splitOn_nil

/-- A text has one piece more than separators. -/
theorem length_splitOn (sep : α) (text : List α) :
  (text.splitOn sep).length = text.count sep + 1
  := by
  induction text with
  | nil => rfl
  | cons c text ih =>
    rw [List.splitOn_cons_eq_if_modifyHead, List.count_cons]
    split
    · rw [List.length_cons, ih]
    · rw [List.length_modifyHead, ih]

/-- A text with the separator is cut before the first one. -/
theorem span_ne_append {sep : α} {front : List α} (h : sep ∉ front) (back : List α) :
  (front ++ sep :: back).span (· ≠ sep) = (front, sep :: back)
  := by
  rw [List.span_eq_takeWhile_dropWhile]
  have hfront : ∀ c ∈ front, decide (c ≠ sep) = true := by
    intro c hc
    apply decide_eq_true
    rintro rfl
    apply h hc
  rw [List.takeWhile_append_of_pos hfront, List.dropWhile_append_of_pos hfront]
  simp

/-- A text without the separator is not cut. -/
theorem span_ne_of_notMem {sep : α} {text : List α} (h : sep ∉ text) :
  text.span (· ≠ sep) = (text, [])
  := by
  rw [List.span_eq_takeWhile_dropWhile]
  have htext : ∀ c ∈ text, decide (c ≠ sep) = true := by
    intro c hc
    apply decide_eq_true
    rintro rfl
    apply h hc
  rw [← List.append_nil text, List.takeWhile_append_of_pos htext,
    List.dropWhile_append_of_pos htext]
  rfl

omit [DecidableEq α] in
/-- A text is cut in one way behind the last separator. -/
theorem append_cons_inj_of_notMem_right {sep : α} {xs ys xs' ys' : List α} (h : sep ∉ ys)
    (h' : sep ∉ ys') (heq : xs ++ sep :: ys = xs' ++ sep :: ys') :
  xs = xs' ∧ ys = ys'
  := by
  have hreverse : ys.reverse ++ sep :: xs.reverse = ys'.reverse ++ sep :: xs'.reverse := by
    simpa using congrArg List.reverse heq
  have hys : ys.reverse = ys'.reverse ∧ xs.reverse = xs'.reverse := by
    rcases List.append_eq_append_iff.1 hreverse with ⟨zs, hys', hzs⟩ | ⟨zs, hys, hzs⟩
    · cases zs with
      | nil => exact ⟨by simpa using hys'.symm, (List.cons.inj hzs).2⟩
      | cons c zs =>
        obtain ⟨rfl, -⟩ := List.cons.inj hzs
        exact absurd (List.mem_reverse.1 (hys' ▸ by simp)) h'
    · cases zs with
      | nil => exact ⟨by simpa using hys, (List.cons.inj hzs).2.symm⟩
      | cons c zs =>
        obtain ⟨rfl, -⟩ := List.cons.inj hzs
        exact absurd (List.mem_reverse.1 (hys ▸ by simp)) h
  exact ⟨List.reverse_injective hys.2, List.reverse_injective hys.1⟩

omit [DecidableEq α] in
/-- What is in a joined text is in the joint or in a piece. -/
theorem mem_of_mem_intercalate {joint : List α} {pieces : List (List α)} {c : α}
    (h : c ∈ joint.intercalate pieces) :
  c ∈ joint ∨ ∃ piece ∈ pieces, c ∈ piece
  := by
  induction pieces with
  | nil => exact nomatch h
  | cons p ps ih =>
    by_cases hps : ps = []
    · subst hps
      rw [List.intercalate_singleton] at h
      exact .inr ⟨p, List.mem_cons_self, h⟩
    · rw [List.intercalate_cons_of_ne_nil hps, List.mem_append, List.mem_append] at h
      rcases h with (h | h) | h
      · exact .inr ⟨p, List.mem_cons_self, h⟩
      · exact .inl h
      · rcases ih h with h | ⟨piece, hpiece, hc⟩
        · exact .inl h
        · exact .inr ⟨piece, List.mem_cons_of_mem _ hpiece, hc⟩

omit [DecidableEq α] in
/-- What is in a piece is in the joined text. -/
theorem mem_intercalate_of_mem {joint piece : List α} {pieces : List (List α)}
    (hpiece : piece ∈ pieces) {c : α} (hc : c ∈ piece) :
  c ∈ joint.intercalate pieces
  := by
  induction pieces with
  | nil => cases hpiece
  | cons p ps ih =>
    by_cases hps : ps = []
    · subst hps
      obtain rfl := List.mem_singleton.1 hpiece
      rw [List.intercalate_singleton]
      exact hc
    · rw [List.intercalate_cons_of_ne_nil hps, List.mem_append, List.mem_append]
      rcases List.mem_cons.1 hpiece with rfl | hpiece
      · exact .inl (.inl hc)
      · exact .inr (ih hpiece)

omit [DecidableEq α] in
/-- A piece stands in the joined text between those before it and those after it. -/
theorem intercalate_append_cons (joint : List α) (front : List (List α)) (piece : List α)
    (back : List (List α)) :
  joint.intercalate (front ++ piece :: back)
    = front.flatMap (· ++ joint) ++ piece ++ back.flatMap (joint ++ ·)
  := by
  induction front with
  | nil =>
    change joint.intercalate (piece :: back) = piece ++ back.flatMap (joint ++ ·)
    induction back generalizing piece with
    | nil => rw [List.intercalate_singleton, List.flatMap_nil, List.append_nil]
    | cons next back ih =>
      rw [List.intercalate_cons_cons, ih, List.flatMap_cons, List.append_assoc, List.append_assoc]
  | cons first front ih =>
    rw [List.cons_append, List.intercalate_cons_of_ne_nil (by simp), ih, List.flatMap_cons]
    simp only [List.append_assoc]

end

/-! ### Strings -/

variable (sep : Char) (joint : String)

/-- Joined pieces that do not hold the separator are cut into the same pieces. -/
theorem splitOn_toList_intercalate (hjoint : joint.toList = [sep]) {pieces : List String}
    (hpieces : pieces ≠ []) (h : ∀ p ∈ pieces, sep ∉ p.toList) :
  (joint.intercalate pieces).toList.splitOn sep = pieces.map String.toList
  := by
  rw [String.toList_intercalate, hjoint]
  apply List.splitOn_intercalate
  · intro cs hcs
    obtain ⟨p, hp, rfl⟩ := List.mem_map.1 hcs
    apply h p hp
  · simpa using hpieces

/-- The pieces of a text are joined to the text. -/
theorem intercalate_splitOn_toList (hjoint : joint.toList = [sep]) (text : String) :
  joint.intercalate ((text.toList.splitOn sep).map String.ofList) = text
  := by
  rw [← String.toList_inj, String.toList_intercalate, hjoint, List.map_map]
  have hid : String.toList ∘ String.ofList = id := by
    funext cs
    apply String.toList_ofList
  rw [hid, List.map_id, List.intercalate_splitOn]

/-- Joined pieces are empty only if there are none, or a single empty one. -/
theorem eq_of_intercalate_eq_empty {joint : String} (hjoint : joint ≠ "") {pieces : List String}
    (h : joint.intercalate pieces = "") :
  pieces = [] ∨ pieces = [""]
  := by
  rcases pieces with _ | ⟨p, _ | ⟨q, pieces⟩⟩
  · exact .inl rfl
  · rw [String.intercalate_singleton] at h
    exact .inr (congrArg List.singleton h)
  · rw [String.intercalate_cons_cons, String.append_eq_empty_iff, String.append_eq_empty_iff] at h
    exact absurd h.1.2 hjoint

end HttpDispatch.Text
