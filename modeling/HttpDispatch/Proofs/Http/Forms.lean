import HttpDispatch.Proofs.Fallible
import HttpDispatch.Proofs.Http.Query

/-!
# Forms

The ways in which the pairs of a query may be written.  A character of a name or of a value stands
for itself or is written by its bytes in percent code, in digits of either case, and a blank may be
a plus sign; there may be any number of separators between the pairs and around them.  In whatever
form they are written, the same pairs are read: `Query.read_of_form`.
-/

namespace HttpDispatch

open Text

/-! ### Bytes in percent code -/

namespace Text.Percent

/-- The character is the hexadecimal digit of a number below sixteen, in either case. -/
def IsHexDigit (n : UInt8) (c : Char) : Prop :=
  c = n.toNat.digitChar ∨ c = n.toNat.digitChar.toUpper

instance (n : UInt8) (c : Char) : Decidable (IsHexDigit n c) :=
  inferInstanceAs (Decidable (_ ∨ _))

/-- The text is a percent sign and the two digits of a byte. -/
inductive SpellsByte (b : UInt8) : List Char → Prop
  | digits {high low : Char} (hhigh : IsHexDigit (b / 16) high) (hlow : IsHexDigit (b % 16) low) :
    SpellsByte b ['%', high, low]

/-- The digit is read as the number, and it has no other meaning in a query. -/
theorem of_isHexDigit {n : UInt8} (hn : n < 16) {c : Char} (h : IsHexDigit n c) :
  hexByte? (byteOf c) = some n ∧ c.toNat < 128 ∧ c ∉ ['&', '=', '+']
  := by
  rcases h with rfl | rfl
  · revert hn
    apply forall_byte _ n
    decide +kernel
  · revert hn
    apply forall_byte _ n
    decide +kernel

theorem div_lt_and_mod_lt (b : UInt8) :
  b / 16 < 16 ∧ b % 16 < 16
  := by
  apply forall_byte _ b
  decide +kernel

/-- A byte in percent code is read as the byte. -/
theorem decodeBytes_of_spellsByte {b : UInt8} {triple : List Char} (h : SpellsByte b triple)
    (rest : Bytes) :
  decodeBytes (triple.flatMap String.utf8EncodeChar ++ rest) = b :: decodeBytes rest
  := by
  obtain ⟨hhigh, hlow⟩ := h
  obtain ⟨hhigh, hhigh_lt, -⟩ := of_isHexDigit (div_lt_and_mod_lt b).1 hhigh
  obtain ⟨hlow, hlow_lt, -⟩ := of_isHexDigit (div_lt_and_mod_lt b).2 hlow
  rw [List.flatMap_cons, List.flatMap_cons, List.flatMap_singleton, utf8EncodeChar_of_lt hhigh_lt,
    utf8EncodeChar_of_lt hlow_lt, utf8EncodeChar_of_lt (by decide : '%'.toNat < 128)]
  simp only [List.cons_append, List.nil_append]
  rw [decodeBytes, if_pos rfl]
  simp only [hhigh, hlow, div_mul_add_mod]

/-- Bytes other than the percent sign are read as they are. -/
theorem decodeBytes_append_of_notMem {bs : Bytes} (h : byteOf '%' ∉ bs) (rest : Bytes) :
  decodeBytes (bs ++ rest) = bs ++ decodeBytes rest
  := by
  induction bs with
  | nil => rfl
  | cons b bs ih =>
    rw [List.mem_cons, not_or] at h
    rw [List.cons_append, decodeBytes_cons_of_ne (Ne.symm h.1), ih h.2]
    rfl

end Text.Percent

namespace Query

/-! ### Characters of a name or a value -/

/-- The character that a character of a query stands for before percent code is read. -/
def plain (c : Char) : Char := if c = '+' then ' ' else c

/-- The text stands for one character, which may stand for itself unless it is one of the marks. -/
inductive SpellsChar (marks : List Char) (c : Char) : List Char → Prop
  | itself (unmarked : c ∉ marks) : SpellsChar marks c [c]
  | plus (blank : c = ' ') : SpellsChar marks c ['+']
  | coded {triples : List (List Char)}
      (bytes : List.Forall₂ Percent.SpellsByte (String.utf8EncodeChar c) triples) :
    SpellsChar marks c triples.flatten

/-- The text stands for characters in a row. -/
inductive Spells (marks : List Char) : List Char → List Char → Prop
  | nil : Spells marks [] []
  | cons {c : Char} {cs front back : List Char} (first : SpellsChar marks c front)
      (rest : Spells marks cs back) : Spells marks (c :: cs) (front ++ back)

/-- The characters that do not stand for themselves in a value. -/
def valueMarks : List Char := ['&', '+', '%']

/-- The characters that do not stand for themselves in a name. -/
def nameMarks : List Char := '=' :: valueMarks

/-- The text stands for a pair. -/
inductive SpellsPair (p : String × String) : List Char → Prop
  | pair {name value : List Char} (spells_name : Spells nameMarks p.1.toList name)
      (spells_value : Spells valueMarks p.2.toList value) : SpellsPair p (name ++ '=' :: value)

/-- The text is a form of pairs.  It may be cut at its separators into texts that stand for a pair
each and blank ones. -/
inductive Form : List (String × String) → List Char → Prop
  | blank : Form [] []
  | pair {p : String × String} {piece : List Char} (spells : SpellsPair p piece) : Form [p] piece
  | join {ps qs : List (String × String)} {front back : List Char} (first : Form ps front)
      (rest : Form qs back) : Form (ps ++ qs) (front ++ '&' :: back)

/-! ### Reading characters -/

/-- A percent sign and digits are read as they are before percent code is. -/
theorem map_plain_of_spellsByte {b : UInt8} {triple : List Char}
    (h : Percent.SpellsByte b triple) :
  triple.map plain = triple ∧ '&' ∉ triple ∧ '=' ∉ triple
  := by
  obtain ⟨hhigh, hlow⟩ := h
  have hhigh := (Percent.of_isHexDigit (Percent.div_lt_and_mod_lt b).1 hhigh).2.2
  have hlow := (Percent.of_isHexDigit (Percent.div_lt_and_mod_lt b).2 hlow).2.2
  simp only [List.mem_cons, List.not_mem_nil, or_false, not_or] at hhigh hlow
  simp [plain, hhigh, hlow, Ne.symm hhigh.1, Ne.symm hhigh.2.1, Ne.symm hlow.1, Ne.symm hlow.2.1]

/-- The bytes of a character in percent code are read as its bytes. -/
theorem decodeBytes_of_coded {bs : Bytes} {triples : List (List Char)}
    (h : List.Forall₂ Percent.SpellsByte bs triples) (rest : Bytes) :
  Percent.decodeBytes ((triples.flatten.map plain).flatMap String.utf8EncodeChar ++ rest)
    = bs ++ Percent.decodeBytes rest
  := by
  induction h with
  | nil => rfl
  | cons hb _ ih =>
    rw [List.flatten_cons, List.map_append, (map_plain_of_spellsByte hb).1, List.flatMap_append,
      List.append_assoc, Percent.decodeBytes_of_spellsByte hb, ih]
    rfl

/-- A character is read in whatever way it is written. -/
theorem decodeBytes_of_spellsChar {marks : List Char} (hplus : '+' ∈ marks) (hpercent : '%' ∈ marks)
    {c : Char} {text : List Char} (h : SpellsChar marks c text) (rest : Bytes) :
  Percent.decodeBytes ((text.map plain).flatMap String.utf8EncodeChar ++ rest)
    = String.utf8EncodeChar c ++ Percent.decodeBytes rest
  := by
  cases h with
  | itself unmarked =>
    have hc : plain c = c := by
      apply if_neg
      rintro rfl
      apply unmarked hplus
    rw [List.map_singleton, hc, List.flatMap_singleton]
    apply Percent.decodeBytes_append_of_notMem
    rw [← List.flatMap_singleton String.utf8EncodeChar, ← utf8_ofList,
      byteOf_mem_utf8_iff (by decide), String.toList_ofList, List.mem_singleton]
    rintro rfl
    apply unmarked hpercent
  | plus blank =>
    subst blank
    have hblank : byteOf '%' ∉ String.utf8EncodeChar ' ' := by decide
    exact Percent.decodeBytes_append_of_notMem hblank rest
  | coded bytes => exact decodeBytes_of_coded bytes rest

theorem decodeBytes_of_spells {marks : List Char} (hplus : '+' ∈ marks) (hpercent : '%' ∈ marks)
    {cs text : List Char} (h : Spells marks cs text) :
  Percent.decodeBytes ((text.map plain).flatMap String.utf8EncodeChar)
    = cs.flatMap String.utf8EncodeChar
  := by
  induction h with
  | nil => rfl
  | cons first _ ih =>
    rw [List.map_append, List.flatMap_append, decodeBytes_of_spellsChar hplus hpercent first, ih,
      List.flatMap_cons]

/-- A name or a value is read in whatever way it is written. -/
theorem decodePart_of_spells {marks : List Char} (hplus : '+' ∈ marks) (hpercent : '%' ∈ marks)
    {s : String} {text : List Char} (h : Spells marks s.toList text) :
  decodePart text = some s
  := by
  have hbytes := decodeBytes_of_spells hplus hpercent h
  rw [← utf8_eq_flatMap, ← utf8_ofList] at hbytes
  rw [decodePart, Percent.decode]
  exact (congrArg ofUtf8? hbytes).trans (ofUtf8?_utf8 s)

/-- No text stands for characters with a mark that separates. -/
theorem notMem_of_spells {marks : List Char} {sep : Char} (hsep : sep = '&' ∨ sep = '=')
    (hmark : sep ∈ marks) {cs text : List Char} (h : Spells marks cs text) :
  sep ∉ text
  := by
  induction h with
  | nil => apply List.not_mem_nil
  | cons first _ ih =>
    rw [List.mem_append, not_or]
    refine ⟨?_, ih⟩
    cases first with
    | itself unmarked =>
      rw [List.mem_singleton]
      rintro rfl
      apply unmarked hmark
    | plus _ => rcases hsep with rfl | rfl <;> decide
    | coded bytes =>
      rw [List.mem_flatten]
      rintro ⟨triple, htriple, hmem⟩
      obtain ⟨b, -, hb⟩ := Fallible.exists_mem_of_forall₂ bytes htriple
      obtain ⟨-, hamp, heq⟩ := map_plain_of_spellsByte hb
      rcases hsep with rfl | rfl
      · apply hamp hmem
      · apply heq hmem

/-! ### Reading pairs -/

theorem decodePair_of_spellsPair {p : String × String} {piece : List Char}
    (h : SpellsPair p piece) :
  decodePair piece = some p
  := by
  obtain ⟨spells_name, spells_value⟩ := h
  rw [decodePair, span_ne_append (notMem_of_spells (.inr rfl) List.mem_cons_self spells_name)]
  simp only [List.tail_cons, decodePart_of_spells (by decide) (by decide) spells_name,
    decodePart_of_spells (by decide) (by decide) spells_value]

theorem amp_notMem_of_spellsPair {p : String × String} {piece : List Char}
    (h : SpellsPair p piece) :
  '&' ∉ piece
  := by
  obtain ⟨spells_name, spells_value⟩ := h
  rw [List.mem_append, List.mem_cons, not_or, not_or]
  refine ⟨?_, by decide, ?_⟩
  · apply notMem_of_spells (.inl rfl) (by decide) spells_name
  · apply notMem_of_spells (.inl rfl) (by decide) spells_value

/-- The pairs that are read from a text. -/
def pairsIn (cs : List Char) : List (String × String) :=
  ((cs.splitOn '&').filter (! ·.isEmpty)).filterMap decodePair

/-- A separator parts the pairs before it from those after it. -/
theorem pairsIn_append (front back : List Char) :
  pairsIn (front ++ '&' :: back) = pairsIn front ++ pairsIn back
  := by
  rw [pairsIn, List.splitOn_append_cons_self, List.filter_append, List.filterMap_append]
  rfl

/-- From a form the pairs are read of which it is one. -/
theorem pairsIn_of_form {ps : List (String × String)} {text : List Char} (h : Form ps text) :
  pairsIn text = ps
  := by
  induction h with
  | blank => rfl
  | @pair p piece spells =>
    have hne : piece ≠ [] := by
      obtain ⟨-, -⟩ := spells
      simp
    have hsplit : piece.splitOn '&' = [piece] :=
      List.splitOn_eq_singleton (amp_notMem_of_spellsPair spells)
    simp [pairsIn, hsplit, hne, decodePair_of_spellsPair spells]
  | join _ _ ihfirst ihrest => rw [pairsIn_append, ihfirst, ihrest]

/-! ### Values of a name -/

/-- How often the query has the name. -/
def occurrences (q : Query) (name : String) : ℕ := (q.pairs.map Prod.fst).count name

theorem length_getAll (q : Query) (name : String) :
  (q.getAll name).length = q.occurrences name
  := by
  rw [getAll, List.length_map, occurrences, List.count, List.countP_map,
    List.countP_eq_length_filter]
  rfl

theorem mem_getAll_iff {q : Query} {name value : String} :
  value ∈ q.getAll name ↔ (name, value) ∈ q.pairs
  := by
  simp [getAll]

theorem single_eq_ok_none_iff {q : Query} {name : String} :
  q.single name = .ok none ↔ q.occurrences name = 0
  := by
  rw [← length_getAll, single]
  rcases q.getAll name with _ | ⟨v, _ | ⟨w, vs⟩⟩ <;> simp

/-- A name with one value has it as its only value. -/
theorem single_eq_ok_some_iff {q : Query} {name value : String} :
  q.single name = .ok (some value) ↔ q.occurrences name = 1 ∧ (name, value) ∈ q.pairs
  := by
  rw [← length_getAll, ← mem_getAll_iff, single]
  rcases q.getAll name with _ | ⟨v, _ | ⟨w, vs⟩⟩ <;> simp [eq_comm]

/-- A name with several values has no only value, and their number is told. -/
theorem single_eq_error_iff {q : Query} {name : String} {n : ℕ} :
  q.single name = .error n ↔ 1 < n ∧ q.occurrences name = n
  := by
  rw [← length_getAll, single]
  rcases q.getAll name with _ | ⟨v, _ | ⟨w, vs⟩⟩ <;> simp <;> omega

/-- In whatever form pairs are written, they are read in their order; so a name has no value, one
or several as it occurs in no pair, in one or in several. -/
theorem read_of_form {pairs : List (String × String)} {text : String}
    (h : Form pairs text.toList) :
  read text = ⟨pairs⟩
    ∧ ∀ name,
      ((read text).single name = .ok none ↔ (pairs.map Prod.fst).count name = 0)
        ∧ (∀ value, (read text).single name = .ok (some value)
          ↔ (pairs.map Prod.fst).count name = 1 ∧ (name, value) ∈ pairs)
        ∧ ∀ n, (read text).single name = .error n
          ↔ 1 < n ∧ (pairs.map Prod.fst).count name = n
  := by
  have hread : read text = ⟨pairs⟩ := congrArg Query.mk (pairsIn_of_form h)
  use hread
  intro name
  rw [hread]
  exact ⟨single_eq_ok_none_iff, fun _ => single_eq_ok_some_iff, fun _ => single_eq_error_iff⟩

/-- A form with separators around its pairs, a name with a plus sign and with percent code, and a
value with an equals sign and with digits of both cases. -/
def spreadForm : String := "&a+%62==%c3%A4&&x=&"

theorem read_of_form_spread :
  Form [("a b", "=ä"), ("x", "")] spreadForm.toList
    ∧ read spreadForm = ⟨[("a b", "=ä"), ("x", "")]⟩
    ∧ (read spreadForm).single "a b" = .ok (some "=ä")
  := by
  have hb : SpellsChar nameMarks 'b' [['%', '6', '2']].flatten :=
    .coded (.cons (.digits (by decide) (by decide)) .nil)
  have hname : Spells nameMarks "a b".toList "a+%62".toList :=
    .cons (.itself (by decide)) (.cons (.plus rfl) (.cons hb .nil))
  have hä : SpellsChar valueMarks 'ä' [['%', 'c', '3'], ['%', 'A', '4']].flatten :=
    .coded (.cons (.digits (by decide) (by decide))
      (.cons (.digits (by decide) (by decide)) .nil))
  have hvalue : Spells valueMarks "=ä".toList "=%c3%A4".toList :=
    .cons (.itself (by decide)) (.cons hä .nil)
  have hx : Spells nameMarks "x".toList "x".toList := .cons (.itself (by decide)) .nil
  have htext : spreadForm.toList = [] ++ '&' :: ("a+%62".toList ++ '=' :: "=%c3%A4".toList
      ++ '&' :: ([] ++ '&' :: ("x".toList ++ '=' :: [] ++ '&' :: []))) := by decide
  have hform : Form [("a b", "=ä"), ("x", "")] spreadForm.toList := by
    rw [htext]
    exact .join .blank (.join (.pair (.pair hname hvalue))
      (.join .blank (.join (.pair (.pair hx .nil)) .blank)))
  obtain ⟨hread, hsingle⟩ := read_of_form hform
  exact ⟨hform, hread, ((hsingle "a b").2.1 "=ä").2 ⟨by decide, by decide⟩⟩

end Query

end HttpDispatch
