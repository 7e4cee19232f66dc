import HttpDispatch.Proofs.Route.Acceptance
import HttpDispatch.Proofs.Text.Percent

/-!
# Written paths

A path is written from a pattern and the texts of its captures, one or more segments for each
token.  The pattern matches the segments and captures the same texts, unless a capture or a lone
wildcard has the empty text: then the path fits no more.
-/

namespace HttpDispatch

open Text

/-! ### Tokens -/

namespace PathToken

/-- The segments in which a token is written, where `text` gives the captured texts. -/
def written (text : String → String) : PathToken → List String
  | .literal s => [s]
  | .capture name => [Percent.encode (text name)]
  | .wildcard name =>
    ((text name).toList.splitOn '/').map fun s => Percent.encode (String.ofList s)

variable {text : String → String}

theorem written_ne_nil (text : String → String) (t : PathToken) :
  t.written text ≠ []
  := by
  cases t with
  | literal literal => exact List.cons_ne_nil _ _
  | capture name => exact List.cons_ne_nil _ _
  | wildcard name =>
    intro h
    apply List.splitOn_ne_nil _ _ (List.map_eq_nil_iff.1 h)

/-- A reserved character is in a written segment only if the literals have it. -/
theorem notMem_of_mem_written {c : Char} (hc : Percent.isUnreserved (byteOf c) = false)
    (hpercent : c ≠ '%') {t : PathToken} (hliteral : ∀ s, t = .literal s → c ∉ s.toList)
    {s : String} (hs : s ∈ t.written text) :
  c ∉ s.toList
  := by
  cases t with
  | literal literal =>
    obtain rfl := List.mem_singleton.1 hs
    apply hliteral s rfl
  | capture name =>
    obtain rfl := List.mem_singleton.1 hs
    apply Percent.notMem_encode hc hpercent
  | wildcard name =>
    obtain ⟨piece, -, rfl⟩ := List.mem_map.1 hs
    apply Percent.notMem_encode hc hpercent

end PathToken

/-! ### Patterns -/

namespace Pattern

variable {text : String → String}

/-- The segments in which a pattern is written, where `text` gives the captured texts. -/
def written (text : String → String) (p : Pattern) : List String :=
  p.flatMap (PathToken.written text)

/-- The path in which a pattern is written. -/
def pathOf (text : String → String) (p : Pattern) : String :=
  "/" ++ "/".intercalate (p.written text)

/-- The captured texts by their names. -/
def texts (text : String → String) (p : Pattern) : List (String × String) :=
  p.captures.map fun name => (name, text name)

/-- The texts leave no capture without a segment. -/
structure Filled (text : String → String) (p : Pattern) : Prop where
  capture : ∀ name, .capture name ∈ p → text name ≠ ""
  /-- The path of a lone wildcard with no text has no segments. -/
  wildcard : ∀ name, p = [.wildcard name] → text name ≠ ""

theorem lookup_texts_iff {p : Pattern} (hp : p.WellFormed) {name s : String} :
  (p.texts text).lookup name = some s ↔ name ∈ p.captures ∧ s = text name
  := by
  have hnodup : ((p.texts text).map Prod.fst).Nodup := by
    rw [texts, List.map_map]
    exact (List.map_id _).symm ▸ hp.captures_nodup
  rw [lookup_eq_some_iff_mem hnodup, texts, List.mem_map]
  constructor
  · rintro ⟨_, hname, heq⟩
    obtain ⟨rfl, rfl⟩ := Prod.mk.inj heq
    exact ⟨hname, rfl⟩
  · rintro ⟨hname, rfl⟩
    use name, hname

theorem texts_cons (t : PathToken) (p : Pattern) :
  texts text (t :: p) = (t.captured?.map fun name => (name, text name)).toList ++ p.texts text
  := by
  cases t <;> rfl

theorem written_cons (t : PathToken) (p : Pattern) :
  written text (t :: p) = t.written text ++ p.written text
  := List.flatMap_cons

theorem written_eq_nil_iff {p : Pattern} :
  p.written text = [] ↔ p = []
  := by
  cases p with
  | nil => simp [written]
  | cons t p => simp [written_cons, t.written_ne_nil]

/-- A reserved character is in a written segment only if the literals have it. -/
theorem notMem_of_mem_written (text : String → String) {c : Char}
    (hc : Percent.isUnreserved (byteOf c) = false) (hpercent : c ≠ '%') {p : Pattern}
    (hliteral : ∀ s, .literal s ∈ p → c ∉ s.toList) :
  ∀ s ∈ p.written text, c ∉ s.toList
  := by
  intro s hs
  obtain ⟨t, ht, hs⟩ := List.mem_flatMap.1 hs
  apply PathToken.notMem_of_mem_written hc hpercent ?_ hs
  rintro literal rfl
  apply hliteral literal ht

/-- The written segments of a wildcard decode to the pieces of its text. -/
theorem mapM_decode_written (text : String → String) (name : String) :
  ((PathToken.wildcard name).written text).mapM Percent.decode
    = some (((text name).toList.splitOn '/').map String.ofList)
  := by
  rw [Fallible.mapM_eq_some_iff, PathToken.written, List.forall₂_map_left_iff,
    List.forall₂_map_right_iff, List.forall₂_same]
  intro piece _
  apply Percent.decode_encode

/-- A pattern captures from what was written the texts that were written. -/
theorem match?_written {p : Pattern} (hp : p.WildcardLast)
    (h : ∀ name, .capture name ∈ p → text name ≠ "") :
  p.match? (p.written text) = some (p.texts text)
  := by
  induction p with
  | nil => rfl
  | cons t p ih =>
    have ih := ih hp.tail fun name hname => h name (List.mem_cons_of_mem _ hname)
    rw [written_cons, texts_cons]
    cases t with
    | literal literal =>
      rw [PathToken.written, List.singleton_append, match?, if_pos rfl, ih]
      rfl
    | capture name =>
      have hname : (Percent.encode (text name)).isEmpty = false := by
        rw [String.isEmpty_eq_false_iff]
        intro hempty
        apply h name List.mem_cons_self (Percent.encode_eq_empty_iff.1 hempty)
      rw [PathToken.written, List.singleton_append, match?, hname]
      simp only [Percent.decode_encode, ih]
      rfl
    | wildcard name =>
      obtain rfl := hp [] name p rfl
      have hmapM := mapM_decode_written text name
      obtain ⟨s, ss, hs⟩ := List.exists_cons_of_ne_nil
        (PathToken.written_ne_nil text (.wildcard name))
      rw [hs] at hmapM
      rw [hs]
      simp only [written, List.flatMap_nil, List.append_nil, match?, hmapM, Option.map_some,
        intercalate_splitOn_toList '/' "/" rfl]
      rfl

/-- A capture of the empty text does not match what was written. -/
theorem match?_written_eq_none {p : Pattern} (hp : p.WildcardLast) {name : String}
    (hname : .capture name ∈ p) (h : text name = "") :
  p.match? (p.written text) = none
  := by
  induction p with
  | nil => exact nomatch hname
  | cons t p ih =>
    rw [written_cons]
    cases t with
    | literal literal =>
      have hname : .capture name ∈ p := by simpa using hname
      rw [PathToken.written, List.singleton_append, match?, if_pos rfl, ih hp.tail hname]
    | capture other =>
      rw [PathToken.written, List.singleton_append, match?]
      rcases List.mem_cons.1 hname with heq | hname
      · obtain rfl := PathToken.capture.inj heq
        rw [h]
        rfl
      · split
        · rfl
        · simp only [Percent.decode_encode, ih hp.tail hname, Option.map_none]
    | wildcard other =>
      obtain rfl := hp [] other p rfl
      simp at hname

/-! ### Paths -/

/-- The segments of a path are those that it was joined from; a single empty one is lost. -/
theorem pathSegments_intercalate {ss : List String} (h : ∀ s ∈ ss, '/' ∉ s.toList) :
  pathSegments ("/" ++ "/".intercalate ss) = if ss = [""] then [] else ss
  := by
  have hpath : ("/" ++ "/".intercalate ss).toList = '/' :: ("/".intercalate ss).toList := by
    rw [String.toList_append]
    rfl
  rw [pathSegments, hpath]
  by_cases hnil : ss = []
  · subst hnil
    rfl
  · have hsplit := splitOn_toList_intercalate '/' "/" rfl hnil h
    have hlone : ("/".intercalate ss).toList.isEmpty ↔ ss = [""] := by
      rw [List.isEmpty_iff, ← @splitOn_eq_singleton_nil_iff _ _ '/', hsplit,
        List.map_eq_singleton_iff]
      constructor
      · rintro ⟨s, rfl, hs⟩
        apply congrArg List.singleton (String.toList_eq_nil_iff.1 hs)
      · rintro rfl
        use "", rfl
        rfl
    have hback : (ss.map String.toList).map String.ofList = ss := by
      rw [List.map_map]
      apply (List.map_congr_left fun s _ => String.ofList_toList).trans (List.map_id ss)
    simp only [hlone, hsplit, hback]

/-- A reserved character that is no slash is in a path only if the literals have it. -/
theorem notMem_pathOf (text : String → String) {c : Char}
    (hc : Percent.isUnreserved (byteOf c) = false) (hpercent : c ≠ '%') (hslash : c ≠ '/')
    {p : Pattern} (hliteral : ∀ s, .literal s ∈ p → c ∉ s.toList) :
  c ∉ (p.pathOf text).toList
  := by
  have hjoint : c ∉ "/".toList := by simpa using hslash
  rw [pathOf, String.toList_append, String.toList_intercalate, List.mem_append, not_or]
  use hjoint
  intro hmem
  rcases mem_of_mem_intercalate hmem with hmem | ⟨piece, hpiece, hmem⟩
  · apply hjoint hmem
  · obtain ⟨s, hs, rfl⟩ := List.mem_map.1 hpiece
    apply notMem_of_mem_written text hc hpercent hliteral s hs hmem

/-- Only a lone capture or wildcard is written as a single empty segment. -/
theorem written_eq_blank {p : Pattern} (hp : p ≠ [.literal ""]) (h : p.written text = [""]) :
  ∃ name, text name = "" ∧ (p = [.capture name] ∨ p = [.wildcard name])
  := by
  cases p with
  | nil => exact nomatch h
  | cons t p =>
    rw [written_cons] at h
    obtain ⟨s, ss, hs⟩ := List.exists_cons_of_ne_nil (t.written_ne_nil text)
    rw [hs, List.cons_append, List.cons.injEq, List.append_eq_nil_iff, written_eq_nil_iff] at h
    obtain ⟨rfl, rfl, rfl⟩ := h
    cases t with
    | literal literal =>
      obtain rfl := List.singleton_inj.1 hs
      exact absurd rfl hp
    | capture name =>
      use name, Percent.encode_eq_empty_iff.1 (List.singleton_inj.1 hs), .inl rfl
    | wildcard name =>
      use name, ?_, .inr rfl
      obtain ⟨piece, hpiece, hempty⟩ := List.map_eq_singleton_iff.1 hs
      rw [Percent.encode_eq_empty_iff, ← String.toList_inj, String.toList_ofList] at hempty
      rw [hempty] at hpiece
      apply String.toList_inj.1 (splitOn_eq_singleton_nil_iff.1 hpiece)

/-- The written path is matched, with the texts that were written. -/
theorem match?_pathOf {p : Pattern} (hp : p.WellFormed) (h : p.Filled text) :
  p.match? (pathSegments (p.pathOf text))
    = some (p.texts text)
  := by
  have hslash := notMem_of_mem_written text rfl (by decide) hp.slash_notMem
  rw [pathOf, pathSegments_intercalate hslash, if_neg, match?_written hp.wildcard_last h.capture]
  intro hblank
  obtain ⟨name, hname, rfl | rfl⟩ := written_eq_blank hp.ne_blank hblank
  · apply h.capture name List.mem_cons_self hname
  · apply h.wildcard name rfl hname

/-- The written path fits no more when a capture is left without a segment. -/
theorem match?_pathOf_eq_none {p : Pattern} (hp : p.WellFormed) (h : ¬ p.Filled text) :
  p.match? (pathSegments (p.pathOf text)) = none
  := by
  have hslash := notMem_of_mem_written text rfl (by decide) hp.slash_notMem
  rw [pathOf, pathSegments_intercalate hslash]
  split
  · rename_i hblank
    obtain ⟨name, -, rfl | rfl⟩ := written_eq_blank hp.ne_blank hblank
    · rfl
    · rfl
  · rename_i hblank
    by_cases hcapture : ∃ name, .capture name ∈ p ∧ text name = ""
    · obtain ⟨name, hname, htext⟩ := hcapture
      apply match?_written_eq_none hp.wildcard_last hname htext
    · exfalso
      apply h
      constructor
      · intro name hname htext
        apply hcapture ⟨name, hname, htext⟩
      · rintro name rfl htext
        apply hblank
        rw [written_cons, PathToken.written, htext]
        rfl

end Pattern

end HttpDispatch
