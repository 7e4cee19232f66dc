import HttpDispatch.Http.Head
import HttpDispatch.Http.Response
import HttpDispatch.Proofs.Text.Bytes
import Mathlib.Data.List.Infix

/-!
# Lines of a head

The head of a response is a status line, one line for every header, and an empty line, if no name
and no value of a header holds the end of a line: `lines_head_iff`.  Then the body begins after the
first empty line.
-/

namespace HttpDispatch

open Text

/-! ### Lines -/

/-- The end of a line. -/
def lineEnd : Bytes := [Head.cr, Head.lf]

/-- What stands between the ends of lines. -/
def lines : Bytes → List Bytes
  | [] => [[]]
  | [b] => [[b]]
  | b :: c :: bs =>
    if b = Head.cr ∧ c = Head.lf then [] :: lines bs else (lines (c :: bs)).modifyHead (b :: ·)

/-- The bytes hold no end of a line. -/
def OneLine (bs : Bytes) : Prop := ¬ lineEnd <:+: bs

instance (bs : Bytes) : Decidable (OneLine bs) :=
  inferInstanceAs (Decidable (¬ _))

theorem oneLine_nil :
  OneLine []
  := by decide

theorem oneLine_singleton (b : UInt8) :
  OneLine [b]
  := by
  intro h
  have hlength := h.length_le
  rw [lineEnd, List.length_cons, List.length_singleton, List.length_singleton] at hlength
  omega

theorem oneLine_cons_cons {b c : UInt8} {bs : Bytes} :
  OneLine (b :: c :: bs) ↔ ¬ (b = Head.cr ∧ c = Head.lf) ∧ OneLine (c :: bs)
  := by
  rw [OneLine, OneLine, List.infix_cons_iff, not_or, lineEnd, List.cons_prefix_cons,
    List.cons_prefix_cons]
  simp only [List.nil_prefix, and_true, eq_comm]

/-- A byte that is no part of the end of a line parts what is before it from what is after it. -/
theorem oneLine_append_cons {b : UInt8} (hcr : b ≠ Head.cr) (hlf : b ≠ Head.lf)
    {front back : Bytes} :
  OneLine (front ++ b :: back) ↔ OneLine front ∧ OneLine back
  := by
  have hback : OneLine (b :: back) ↔ OneLine back := by
    cases back with
    | nil => exact iff_of_true (oneLine_singleton b) oneLine_nil
    | cons c back => simp [oneLine_cons_cons, hcr]
  induction front with
  | nil => simp [hback, oneLine_nil]
  | cons a front ih =>
    cases front with
    | nil => simp [oneLine_cons_cons, hback, hlf, oneLine_singleton]
    | cons c front =>
      rw [List.cons_append, List.cons_append, oneLine_cons_cons, oneLine_cons_cons, and_assoc]
      exact and_congr_right fun _ => ih

theorem oneLine_of_notMem {bs : Bytes} (h : Head.cr ∉ bs) :
  OneLine bs
  := fun hbs => h (hbs.subset List.mem_cons_self)

theorem lines_cons_cons {b c : UInt8} (h : ¬ (b = Head.cr ∧ c = Head.lf)) (bs : Bytes) :
  lines (b :: c :: bs) = (lines (c :: bs)).modifyHead (b :: ·)
  := by rw [lines, if_neg h]

theorem lines_ne_nil (bs : Bytes) :
  lines bs ≠ []
  := by
  induction bs using lines.induct with
  | case1 => simp [lines]
  | case2 b => simp [lines]
  | case3 b c bs h _ => simp [lines, h]
  | case4 b c bs h ih =>
    rw [lines_cons_cons h]
    simpa using ih

/-- An end of a line parts the lines before it from the lines after it. -/
theorem lines_append (front back : Bytes) :
  lines (front ++ lineEnd ++ back) = lines front ++ lines back
  := by
  induction front using lines.induct with
  | case1 => rfl
  | case2 b =>
    change lines (b :: Head.cr :: Head.lf :: back) = [[b]] ++ lines back
    rw [lines_cons_cons]
    · rfl
    · rintro ⟨-, hcr⟩
      cases hcr
  | case3 b c front h ih =>
    obtain ⟨rfl, rfl⟩ := h
    exact congrArg ([] :: ·) ih
  | case4 b c front h ih =>
    obtain ⟨line, more, hfront⟩ := List.exists_cons_of_ne_nil (lines_ne_nil (c :: front))
    rw [hfront] at ih
    rw [lines_cons_cons h, hfront]
    change lines (b :: c :: (front ++ lineEnd ++ back)) = _
    rw [lines_cons_cons h]
    change (lines (c :: front ++ lineEnd ++ back)).modifyHead _ = _
    rw [ih]
    rfl

theorem lines_of_oneLine {bs : Bytes} (h : OneLine bs) :
  lines bs = [bs]
  := by
  induction bs using lines.induct with
  | case1 => rfl
  | case2 b => rfl
  | case3 b c bs hend _ => exact absurd hend (oneLine_cons_cons.1 h).1
  | case4 b c bs hend ih =>
    rw [lines_cons_cons hend, ih (oneLine_cons_cons.1 h).2]
    rfl

/-- Only where there is nothing is one empty line. -/
theorem lines_eq_singleton_nil_iff {bs : Bytes} :
  lines bs = [[]] ↔ bs = []
  := by
  constructor
  · intro h
    cases bs using lines.fun_cases with
    | case1 => rfl
    | case2 b => cases h
    | case3 b c bs hend =>
      rw [lines, if_pos hend] at h
      exact absurd (List.cons.inj h).2 (lines_ne_nil bs)
    | case4 b c bs hend =>
      obtain ⟨line, more, hlines⟩ := List.exists_cons_of_ne_nil (lines_ne_nil (c :: bs))
      rw [lines_cons_cons hend, hlines] at h
      cases (List.cons.inj h).1
  · rintro rfl
    rfl

/-- A line that is not empty begins where it stands. -/
theorem head_of_lines {b c : UInt8} {bs line : Bytes} {more : List Bytes}
    (h : lines (b :: bs) = (c :: line) :: more) :
  c = b
  := by
  cases bs with
  | nil =>
    obtain ⟨hline, -⟩ := List.cons.inj h
    exact (List.cons.inj hline).1.symm
  | cons d bs =>
    rw [lines] at h
    split at h
    · cases (List.cons.inj h).1
    · obtain ⟨line', more', hlines⟩ := List.exists_cons_of_ne_nil (lines_ne_nil (d :: bs))
      rw [hlines] at h
      exact (List.cons.inj (List.cons.inj h).1).1.symm

/-- No line holds the end of a line. -/
theorem oneLine_of_mem_lines {bs line : Bytes} (h : line ∈ lines bs) :
  OneLine line
  := by
  induction bs using lines.induct generalizing line with
  | case1 =>
    rw [List.mem_singleton.1 h]
    exact oneLine_nil
  | case2 b =>
    rw [List.mem_singleton.1 h]
    exact oneLine_singleton b
  | case3 b c bs hend ih =>
    rw [lines, if_pos hend] at h
    rcases List.mem_cons.1 h with rfl | h
    · exact oneLine_nil
    · exact ih h
  | case4 b c bs hend ih =>
    obtain ⟨first, more, hlines⟩ := List.exists_cons_of_ne_nil (lines_ne_nil (c :: bs))
    rw [lines_cons_cons hend, hlines] at h
    rw [hlines] at ih
    rcases List.mem_cons.1 h with rfl | h
    · cases first with
      | nil => exact oneLine_singleton b
      | cons d first =>
        obtain rfl := head_of_lines hlines
        exact oneLine_cons_cons.2 ⟨hend, ih List.mem_cons_self⟩
    · exact ih (List.mem_cons_of_mem _ h)

/-- Ended lines are cut where each of them is. -/
theorem lines_flatMap_append (texts : List Bytes) (rest : Bytes) :
  lines (texts.flatMap (· ++ lineEnd) ++ rest) = texts.flatMap lines ++ lines rest
  := by
  induction texts with
  | nil => rfl
  | cons text texts ih =>
    rw [List.flatMap_cons, List.append_assoc, lines_append, ih, List.flatMap_cons,
      List.append_assoc]

theorem flatMap_lines {texts : List Bytes} (h : ∀ text ∈ texts, OneLine text) :
  texts.flatMap lines = texts
  := by
  induction texts with
  | nil => rfl
  | cons text texts ih =>
    rw [List.forall_mem_cons] at h
    rw [List.flatMap_cons, lines_of_oneLine h.1, ih h.2]
    rfl

/-! ### Heads -/

/-- The end of a head, after which the body begins. -/
def headEnd : Bytes := lineEnd ++ lineEnd

/-- The bytes end where the first empty line ends, whatever follows them. -/
structure EndsHead (bs : Bytes) : Prop where
  suffix : headEnd <:+ bs
  first : ∀ body front back, bs ++ body = front ++ headEnd ++ back →
    bs.length ≤ (front ++ headEnd).length

/-- Lines that are not empty, and one that is, are a head. -/
theorem endsHead_of_lines {bs : Bytes} {texts : List Bytes} (hlines : lines bs = texts ++ [[], []])
    (hne : ∀ text ∈ texts, text ≠ []) (hsuffix : headEnd <:+ bs) :
  EndsHead bs
  := by
  use hsuffix
  intro body front back hbody
  by_contra hlong
  have hprefix : front ++ headEnd <+: bs := by
    apply List.prefix_of_prefix_length_le _ (List.prefix_append bs body)
      (Nat.le_of_lt (Nat.lt_of_not_le hlong))
    rw [hbody]
    apply List.prefix_append
  obtain ⟨rest, rfl⟩ := hprefix
  have hcut : lines (front ++ headEnd ++ rest) = lines front ++ [] :: lines rest := by
    have hempty := lines_append [] rest
    rw [List.nil_append] at hempty
    rw [headEnd, ← List.append_assoc, List.append_assoc (front ++ lineEnd), lines_append, hempty]
    rfl
  rw [hcut] at hlines
  -- The empty line after `front` stands behind all that are not empty, so nothing is after it.
  have hplace : texts.length ≤ (lines front).length := by
    by_contra hlt
    have hnth := congrArg (·[(lines front).length]?) hlines
    rw [List.getElem?_append_right (Nat.le_refl _), Nat.sub_self,
      List.getElem?_append_left (Nat.lt_of_not_le hlt)] at hnth
    apply hne [] (List.mem_of_getElem? hnth.symm) rfl
  have hlength := congrArg List.length hlines
  have hrest := List.length_pos_iff.2 (lines_ne_nil rest)
  rw [List.length_append, List.length_append, List.length_cons, List.length_cons,
    List.length_singleton] at hlength
  obtain ⟨last, hlast⟩ := List.length_eq_one_iff.1 (show (lines rest).length = 1 by omega)
  have hend := congrArg List.getLast? hlines
  rw [hlast, List.getLast?_append_of_ne_nil _ (List.cons_ne_nil _ _),
    List.getLast?_append_of_ne_nil _ (List.cons_ne_nil _ _)] at hend
  obtain rfl : last = [] := Option.some.inj hend
  rw [lines_eq_singleton_nil_iff.1 hlast, List.append_nil] at hlong
  exact hlong (Nat.le_refl _)

theorem headEnd_suffix {texts : List Bytes} (h : texts ≠ []) :
  headEnd <:+ texts.flatMap (· ++ lineEnd) ++ lineEnd
  := by
  obtain ⟨texts, last, rfl⟩ := (List.eq_nil_or_concat texts).resolve_left h
  use texts.flatMap (· ++ lineEnd) ++ last
  rw [List.concat_eq_append, List.flatMap_append, List.flatMap_singleton, headEnd]
  simp only [List.append_assoc]

/-- The line of a header. -/
def fieldLine (f : String × String) : Bytes := utf8 (f.1 ++ ": " ++ f.2)

theorem fieldLine_eq (f : String × String) :
  fieldLine f = utf8 f.1 ++ byteOf ':' :: byteOf ' ' :: utf8 f.2
  := by
  rw [fieldLine, utf8_append, utf8_append, List.append_assoc]
  rfl

theorem oneLine_fieldLine_iff {f : String × String} :
  OneLine (fieldLine f) ↔ OneLine (utf8 f.1) ∧ OneLine (utf8 f.2)
  := by
  rw [fieldLine_eq, oneLine_append_cons (by decide) (by decide),
    ← List.nil_append (byteOf ' ' :: utf8 f.2), oneLine_append_cons (by decide) (by decide)]
  simp [oneLine_nil]

theorem fieldLine_ne_nil (f : String × String) :
  fieldLine f ≠ []
  := by
  rw [fieldLine_eq]
  apply List.append_ne_nil_of_right_ne_nil
  exact List.cons_ne_nil _ _

theorem utf8_text (h : Headers) :
  utf8 h.text = (h.fields.map fieldLine).flatMap (· ++ lineEnd)
  := by
  rw [Headers.text]
  induction h.fields with
  | nil => rfl
  | cons f fs ih =>
    rw [List.map_cons, String.join_cons, utf8_append, ih, utf8_append]
    rfl

namespace Response

/-- The line before the headers. -/
def statusLine (r : Response) : Bytes := utf8 ("HTTP/1.1 " ++ r.status.text)

theorem statusLine_ne_nil (r : Response) :
  r.statusLine ≠ []
  := by
  rw [statusLine, utf8_append]
  exact List.cons_ne_nil _ _

theorem oneLine_statusLine (r : Response) :
  OneLine r.statusLine
  := by
  rw [statusLine]
  cases r.status <;> decide +kernel

theorem head_eq (r : Response) (framing : Framing) :
  r.head framing
    = (r.statusLine :: (r.sentHeaders framing).fields.map fieldLine).flatMap (· ++ lineEnd)
      ++ lineEnd
  := by
  rw [head, headText, utf8_append, utf8_append, utf8_append, utf8_text, List.flatMap_cons]
  rfl

theorem lines_head (r : Response) (framing : Framing) (body : Bytes) :
  lines (r.head framing ++ body)
    = r.statusLine :: (((r.sentHeaders framing).fields.map fieldLine).flatMap lines
      ++ [] :: lines body)
  := by
  have hempty : lines (lineEnd ++ body) = [] :: lines body := lines_append [] body
  rw [head_eq, List.append_assoc, lines_flatMap_append, List.flatMap_cons,
    lines_of_oneLine r.oneLine_statusLine, hempty]
  rfl

/-- The lines before a body are the status line, a line for every header and an empty line. -/
theorem lines_head_append {r : Response} {framing : Framing} (body : Bytes)
    (h : ∀ f ∈ (r.sentHeaders framing).fields, OneLine (utf8 f.1) ∧ OneLine (utf8 f.2)) :
  lines (r.head framing ++ body)
    = r.statusLine :: ((r.sentHeaders framing).fields.map fieldLine ++ [] :: lines body)
  := by
  rw [lines_head, flatMap_lines]
  rw [List.forall_mem_map]
  intro f hf
  apply oneLine_fieldLine_iff.2 (h f hf)

theorem lines_head_of_oneLine {r : Response} {framing : Framing}
    (h : ∀ f ∈ (r.sentHeaders framing).fields, OneLine (utf8 f.1) ∧ OneLine (utf8 f.2)) :
  lines (r.head framing)
    = r.statusLine :: ((r.sentHeaders framing).fields.map fieldLine ++ [[], []])
  := by
  have hlines := lines_head_append [] h
  rwa [List.append_nil] at hlines

/-- The head of a response is the status line, a line for every header that is sent and an empty
line, and the body begins after the first empty line, exactly if no name and no value of a header
holds the end of a line. -/
theorem lines_head_iff (r : Response) (framing : Framing) :
  (lines (r.head framing)
        = r.statusLine :: ((r.sentHeaders framing).fields.map fieldLine ++ [[], []])
      ∧ EndsHead (r.head framing))
    ↔ ∀ f ∈ (r.sentHeaders framing).fields, OneLine (utf8 f.1) ∧ OneLine (utf8 f.2)
  := by
  constructor
  · rintro ⟨hlines, -⟩ f hf
    have hline : fieldLine f ∈ lines (r.head framing) := by
      rw [hlines]
      apply List.mem_cons_of_mem
      apply List.mem_append_left
      exact List.mem_map_of_mem hf
    apply oneLine_fieldLine_iff.1 (oneLine_of_mem_lines hline)
  · intro h
    have hlines : lines (r.head framing)
        = (r.statusLine :: (r.sentHeaders framing).fields.map fieldLine) ++ [[], []] :=
      lines_head_of_oneLine h
    use hlines
    apply endsHead_of_lines hlines
    · rw [List.forall_mem_cons, List.forall_mem_map]
      use r.statusLine_ne_nil
      intro f _
      apply fieldLine_ne_nil
    · rw [head_eq]
      apply headEnd_suffix (List.cons_ne_nil _ _)

/-- A header whose value holds ends of lines adds a line of its own and ends the head. -/
theorem lines_head_injected :
  let r := (new .ok).addHeader "X-Name" "a\r\nSet-Cookie: role=admin\r\n\r\n<p>"
  lines (r.head (.length 0))
      ≠ r.statusLine :: ((r.sentHeaders (.length 0)).fields.map fieldLine ++ [[], []])
    ∧ utf8 "Set-Cookie: role=admin" ∈ lines (r.head (.length 0))
    ∧ ¬ EndsHead (r.head (.length 0))
  := by
  refine ⟨by decide +kernel, by decide +kernel, ?_⟩
  intro h
  have hfirst := h.first [] (utf8 "HTTP/1.1 200 OK\r\nX-Name: a\r\nSet-Cookie: role=admin")
    (utf8 "<p>\r\nConnection: keep-alive\r\nContent-Length: 0\r\n\r\n")
  revert hfirst
  decide +kernel

end Response

end HttpDispatch
