import HttpDispatch.Http.Query
import HttpDispatch.Proofs.Text.Percent
import HttpDispatch.Proofs.Text.Pieces

/-!
# Queries and their texts

A query is read back from the text in which its pairs are written.
-/

namespace HttpDispatch.Query

open Text

/-- The text of a pair in a query. -/
def pairText (p : String × String) : String := Percent.encode p.1 ++ "=" ++ Percent.encode p.2

theorem toList_pairText (p : String × String) :
  (pairText p).toList = (Percent.encode p.1).toList ++ '=' :: (Percent.encode p.2).toList
  := by
  rw [pairText, String.toList_append, String.toList_append, List.append_assoc]
  rfl

theorem decodePart_encode (s : String) :
  decodePart (Percent.encode s).toList = some s
  := by
  have hplus : ∀ c ∈ (Percent.encode s).toList, (if c = '+' then ' ' else c) = c := by
    intro c hc
    apply if_neg
    rintro rfl
    apply Percent.notMem_encode rfl (by decide) s hc
  rw [decodePart, List.map_congr_left hplus, List.map_id', String.ofList_toList,
    Percent.decode_encode]

/-- The text of a pair denotes the pair. -/
theorem decodePair_pairText (p : String × String) :
  decodePair (pairText p).toList = some p
  := by
  rw [decodePair, toList_pairText, span_ne_append (Percent.notMem_encode rfl (by decide) p.1)]
  simp only [List.tail_cons, decodePart_encode]

/-- The pairs of a query are read from their texts. -/
theorem read_intercalate (pairs : List (String × String)) :
  read ("&".intercalate (pairs.map pairText)) = ⟨pairs⟩
  := by
  cases pairs with
  | nil => rfl
  | cons p ps =>
    have hamp : ∀ text ∈ (p :: ps).map pairText, '&' ∉ text.toList := by
      intro text htext
      obtain ⟨q, -, rfl⟩ := List.mem_map.1 htext
      rw [toList_pairText, List.mem_append, List.mem_cons, not_or, not_or]
      use Percent.notMem_encode rfl (by decide) _, by decide
      apply Percent.notMem_encode rfl (by decide)
    have hne : ∀ text ∈ ((p :: ps).map pairText).map String.toList, (! text.isEmpty) = true := by
      intro text htext
      obtain ⟨_, hq, rfl⟩ := List.mem_map.1 htext
      obtain ⟨q, -, rfl⟩ := List.mem_map.1 hq
      rw [toList_pairText]
      simp
    have hdecode : decodePair ∘ String.toList ∘ pairText = some := by
      funext q
      apply decodePair_pairText
    rw [read, splitOn_toList_intercalate '&' "&" rfl (by simp) hamp, List.filter_eq_self.2 hne,
      List.map_map, List.filterMap_map, hdecode, List.filterMap_some]

end HttpDispatch.Query
