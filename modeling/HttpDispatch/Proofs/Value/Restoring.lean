import HttpDispatch.Proofs.Number.Integer
import HttpDispatch.Proofs.Route.Acceptance
import HttpDispatch.Proofs.Text.Bytes

/-!
# Values and their texts

A text, a truth value, an integer and an identifier are read back from the text in which they are
written.  So each such value has one text among those in which it is read, its canonical form, with
the standard binders and through the standard registry: `Registry.standard_canonical`.
-/

namespace HttpDispatch

open Text

/-! ### Identifiers -/

namespace Uuid

theorem hexValue?_lowerDigit {n : ℕ} (h : n < 16) :
  hexValue? (lowerDigit n) = some n
  := by
  have hall : ∀ n < 16, hexValue? (lowerDigit n) = some n := by decide
  apply hall n h

theorem length_digits (n v : ℕ) :
  (digits n v).length = n
  := by
  induction n generalizing v with
  | zero => rfl
  | succ n ih => rw [digits, List.length_append, ih, List.length_singleton]

theorem exists_lowerDigit_of_mem_digits {n v : ℕ} {c : Char} (h : c ∈ digits n v) :
  ∃ d < 16, c = lowerDigit d
  := by
  induction n generalizing v with
  | zero => cases h
  | succ n ih =>
    rcases List.mem_append.1 h with h | h
    · apply ih h
    · use v % 16, Nat.mod_lt v (by decide), List.mem_singleton.1 h

theorem hexNumber?_concat (cs : List Char) (c : Char) :
  hexNumber? (cs ++ [c]) = (hexNumber? cs).bind fun n => (hexValue? c).map (n * 16 + ·)
  := by
  rw [hexNumber?, List.foldlM_append]
  simp only [List.foldlM_cons, List.foldlM_nil, bind_pure]
  rfl

/-- The digits of a number are read as what of it fits in so many digits. -/
theorem hexNumber?_digits (n v : ℕ) :
  hexNumber? (digits n v) = some (v % 16 ^ n)
  := by
  induction n generalizing v with
  | zero => rw [Nat.pow_zero, Nat.mod_one, digits, hexNumber?, List.foldlM_nil, Option.pure_def]
  | succ n ih =>
    have hlast : v / 16 % 16 ^ n * 16 + v % 16 = v % 16 ^ (n + 1) := by
      rw [Nat.pow_succ', Nat.mod_mul]
      omega
    rw [digits, hexNumber?_concat, ih, Option.bind_some,
      hexValue?_lowerDigit (Nat.mod_lt v (by decide)), Option.map_some, hlast]

theorem flatten_groups {ns : List ℕ} {ds : List Char} (h : ns.sum = ds.length) :
  (groups ns ds).flatten = ds
  := by
  induction ns generalizing ds with
  | nil => rw [groups, List.flatten_nil, List.length_eq_zero_iff.1 h.symm]
  | cons n ns ih =>
    rw [List.sum_cons] at h
    rw [groups, List.flatten_cons, ih (by rw [List.length_drop]; omega), List.take_append_drop]

theorem map_length_groups {ns : List ℕ} {ds : List Char} (h : ns.sum = ds.length) :
  (groups ns ds).map List.length = ns
  := by
  induction ns generalizing ds with
  | nil => rfl
  | cons n ns ih =>
    rw [List.sum_cons] at h
    rw [groups, List.map_cons, ih (by rw [List.length_drop]; omega), List.length_take,
      Nat.min_eq_left (by omega)]

variable (u : Uuid)

/-- The groups of digits in the text of an identifier. -/
def groupsOf : List (List Char) := groups groupLengths (digits 32 u.value.toNat)

theorem toList_text :
  u.text.toList = ['-'].intercalate u.groupsOf
  := String.toList_ofList

theorem flatten_groupsOf :
  u.groupsOf.flatten = digits 32 u.value.toNat
  := flatten_groups (length_digits 32 _).symm

theorem map_length_groupsOf :
  u.groupsOf.map List.length = groupLengths
  := map_length_groups (length_digits 32 _).symm

theorem exists_lowerDigit_of_mem_groupsOf {g : List Char} (hg : g ∈ u.groupsOf) {c : Char}
    (hc : c ∈ g) :
  ∃ d < 16, c = lowerDigit d
  := by
  have hmem : c ∈ digits 32 u.value.toNat := by
    rw [← flatten_groupsOf]
    apply List.mem_flatten_of_mem hg hc
  apply exists_lowerDigit_of_mem_digits hmem

theorem splitOn_text :
  u.text.toList.splitOn '-' = u.groupsOf
  := by
  have hsolid : ∀ g ∈ u.groupsOf, '-' ∉ g := by
    intro g hg hhyphen
    obtain ⟨d, hd, hlower⟩ := u.exists_lowerDigit_of_mem_groupsOf hg hhyphen
    have hall : ∀ d < 16, '-' ≠ lowerDigit d := by decide
    exact hall d hd hlower
  have hne : u.groupsOf ≠ [] := by
    intro hnil
    have hlengths := u.map_length_groupsOf
    rw [hnil] at hlengths
    cases hlengths
  rw [toList_text, List.splitOn_intercalate '-' hsolid hne]

/-- The text of an identifier has its 32 digits and four hyphens, each of one byte. -/
theorem byteLength_text :
  byteLength u.text.toList = 36
  := by
  have hascii : ∀ c ∈ u.text.toList, c.toNat < 128 := by
    intro c hc
    rw [toList_text] at hc
    rcases mem_of_mem_intercalate hc with hhyphen | ⟨g, hg, hc⟩
    · obtain rfl := List.mem_singleton.1 hhyphen
      decide
    · obtain ⟨d, hd, rfl⟩ := u.exists_lowerDigit_of_mem_groupsOf hg hc
      have hall : ∀ d < 16, (lowerDigit d).toNat < 128 := by decide
      apply hall d hd
  rw [byteLength_of_lt hascii, toList_text]
  simp [groupsOf, groups, groupLengths, List.intercalate, length_digits]

/-- An identifier is read back from its text. -/
theorem read_text :
  read u.text = .ok u
  := by
  have hsimple : ofSimple? (digits 32 u.value.toNat) = some u := by
    have hvalue : u.value.toNat % 16 ^ 32 = u.value.toNat := Nat.mod_eq_of_lt u.value.isLt
    rw [ofSimple?, if_pos (length_digits _ _), hexNumber?_digits, hvalue, Option.map_some,
      BitVec.ofNat_toNat, BitVec.setWidth_eq]
  have hhyphenated : ofHyphenated? u.text.toList = some u := by
    simp only [ofHyphenated?]
    rw [splitOn_text, if_pos u.map_length_groupsOf, flatten_groupsOf, hsimple]
  simp only [read]
  rw [byteLength_text, if_neg (by decide), if_neg (by decide), if_pos rfl, readHyphenated,
    hhyphenated]

end Uuid

/-! ### Values -/

namespace ValueType

/-- The types all of whose values are read back: those of texts, truth values, integers and
identifiers. -/
def exact : List ValueType :=
  [.text, .bool, .int16, .int32, .int64, .uint8, .uint32, .uint64, .uuid]

/-- Values of the type, and no others, are read, and are read back from their texts.  So what is
written for a value that was read is a canonical form: it is read as the value again, and no other
value is written like it. -/
structure Canonical (type : ValueType) (bind : String → Except BindError Value)
    (unbind : Value → Except BindError String) : Prop where
  typed : ∀ text v, bind text = .ok v → v.type = type
  restores : ∀ v, v.type = type → ∃ text, unbind v = .ok text ∧ bind text = .ok v
  canonical : ∀ text v, bind text = .ok v →
    ∃ written, unbind v = .ok written ∧ bind written = .ok v
  unbind_eq_iff : ∀ text text' v v', bind text = .ok v → bind text' = .ok v' →
    (unbind v = unbind v' ↔ v = v')

variable {type : ValueType} {bind : String → Except BindError Value}
  {unbind : Value → Except BindError String}

/-- If all values of the type are read back and no others are read, texts have canonical forms. -/
theorem canonical_of_restores (typed : ∀ text v, bind text = .ok v → v.type = type)
    (restores : ∀ v, v.type = type → ∃ text, unbind v = .ok text ∧ bind text = .ok v) :
  type.Canonical bind unbind
  := by
  have canonical : ∀ text v, bind text = .ok v →
      ∃ written, unbind v = .ok written ∧ bind written = .ok v :=
    fun text v h => restores v (typed text v h)
  refine ⟨typed, restores, canonical, ?_⟩
  intro text text' v v' h h'
  constructor
  · intro hsame
    obtain ⟨written, hwritten, hbind⟩ := canonical text v h
    obtain ⟨written', hwritten', hbind'⟩ := canonical text' v' h'
    obtain rfl := Except.ok.inj (hwritten.symm.trans (hsame.trans hwritten'))
    exact Except.ok.inj (hbind.symm.trans hbind')
  · apply congrArg

end ValueType

namespace Value

theorem readInteger_toString {signed : Bool} {bits : ℕ} (make : ℤ → Value) {n : ℤ}
    (h : IntegerFormat.Holds ⟨signed, bits⟩ n) :
  readInteger signed bits make (toString n) = .ok (make n)
  := by rw [readInteger, IntegerFormat.read_toString h]

theorem readInteger_toString_natCast {bits : ℕ} (make : ℤ → Value) {n : ℕ} (h : n < 2 ^ bits) :
  readInteger false bits make (toString n) = .ok (make n)
  := by
  have htext : toString n = toString (n : ℤ) := rfl
  rw [htext, readInteger_toString make (.of_unsigned h)]

/-- A value of one of these types is read back from its text. -/
theorem read_toText {v : Value} (h : v.type ∈ ValueType.exact) :
  read v.type v.toText = .ok v
  := by
  cases v with
  | text s => rfl
  | bool b => cases b <;> rfl
  | int16 n =>
    rw [toText, type, read, readInteger_toString _ (.of_signed n.le_toInt n.toInt_lt),
      Int16.ofInt_toInt]
  | int32 n =>
    rw [toText, type, read, readInteger_toString _ (.of_signed n.le_toInt n.toInt_lt),
      Int32.ofInt_toInt]
  | int64 n =>
    rw [toText, type, read, readInteger_toString _ (.of_signed n.le_toInt n.toInt_lt),
      Int64.ofInt_toInt]
  | uint8 n =>
    rw [toText, type, read, readInteger_toString_natCast _ n.toNat_lt, Int.toNat_natCast,
      UInt8.ofNat_toNat]
  | uint32 n =>
    rw [toText, type, read, readInteger_toString_natCast _ n.toNat_lt, Int.toNat_natCast,
      UInt32.ofNat_toNat]
  | uint64 n =>
    rw [toText, type, read, readInteger_toString_natCast _ n.toNat_lt, Int.toNat_natCast,
      UInt64.ofNat_toNat]
  | uuid u => rw [toText, type, read, Uuid.read_text]
  | single x => simp [type, ValueType.exact] at h
  | double x => simp [type, ValueType.exact] at h
  | url u => simp [type, ValueType.exact] at h
  | custom t s => simp [type, ValueType.exact] at h

/-- Such a value is no number that a binder refuses. -/
theorem isFinite_of_mem_exact {v : Value} (h : v.type ∈ ValueType.exact) :
  Binder.isFinite v = true
  := by
  cases v with
  | single x => simp [type, ValueType.exact] at h
  | double x => simp [type, ValueType.exact] at h
  | _ => rfl

end Value

/-! ### Binders -/

namespace Binder

variable {type : ValueType}

theorem bind_standard_eq_ok {name text : String} {v : Value}
    (h : (standard type).bind name text = .ok v) :
  v.type = type
  := by
  simp only [standard, ofType] at h
  split at h
  · rename_i hread
    split at h
    · obtain rfl := Except.ok.inj h
      apply Value.type_read hread
    · cases h
  · cases h

/-- The standard binder of such a type reads back what it writes. -/
theorem canonical_standard (h : type ∈ ValueType.exact) (name : String) :
  type.Canonical ((standard type).bind name) (fun v => .ok ((standard type).unbind name v))
  := by
  apply ValueType.canonical_of_restores
  · intro text v
    apply bind_standard_eq_ok
  · rintro v rfl
    use v.toText, rfl
    simp only [standard, ofType]
    rw [Value.read_toText h]
    apply if_pos (Value.isFinite_of_mem_exact h)

end Binder

/-! ### The standard registry -/

namespace Registry

theorem get?_standard {entry : String × ValueType} (h : entry ∈ standardTypes) :
  standard.get? entry.1 = some (Binder.standard entry.2)
  := by
  have hnodup : (standard.entries.map Prod.fst).Nodup := by
    have hnames : (standardTypes.map Prod.fst).Nodup := by decide
    rwa [standard, List.map_map]
  apply (lookup_eq_some_iff_mem hnodup).2
  apply List.mem_map.2 ⟨entry, h, rfl⟩

/-- Texts have the same canonical forms through a registry as with the binder that it has. -/
theorem canonical_of_get? {registry : Registry} {typeName name : String} {b : Binder}
    (hb : registry.get? typeName = some b)
    (h : b.type.Canonical (b.bind name) (fun v => .ok (b.unbind name v))) :
  b.type.Canonical (registry.bind typeName name) (registry.unbind typeName name)
  := by
  have hbind : registry.bind typeName name = b.bind name := by
    ext text
    rw [bind, hb]
  rw [hbind]
  apply ValueType.canonical_of_restores h.typed
  intro v hv
  obtain ⟨text, hwritten, hread⟩ := h.restores v hv
  refine ⟨text, ?_, hread⟩
  rw [unbind, hb, ← hwritten]
  apply if_pos hv

/-- With a standard binder for texts, truth values, integers or identifiers, and through the
standard registry under every name of such a type, values are read back and texts have canonical
forms. -/
theorem standard_canonical (name : String) :
  (∀ type ∈ ValueType.exact, type.Canonical ((Binder.standard type).bind name)
      (fun v => .ok ((Binder.standard type).unbind name v)))
    ∧ ∀ entry ∈ standardTypes, entry.2 ∈ ValueType.exact →
      entry.2.Canonical (standard.bind entry.1 name) (standard.unbind entry.1 name)
  := by
  constructor
  · intro type h
    apply Binder.canonical_standard h
  · intro entry hentry h
    apply canonical_of_get? (get?_standard hentry) (Binder.canonical_standard h name)

/-- An identifier. -/
def tourId : Uuid := ⟨0x67e5504410b1426f9247bb680e5fe0c8⟩

theorem standard_canonical_tourId :
  ("UUID", .uuid) ∈ standardTypes ∧ .uint8 ∈ ValueType.exact
    ∧ standard.bind "UUID" "id" "67E55044-10B1-426F-9247-BB680E5FE0C8" = .ok (.uuid tourId)
    ∧ standard.unbind "UUID" "id" (.uuid tourId) = .ok "67e55044-10b1-426f-9247-bb680e5fe0c8"
    ∧ standard.bind "UUID" "id" "67e55044-10b1-426f-9247-bb680e5fe0c8" = .ok (.uuid tourId)
    ∧ (Binder.standard .uint8).bind "n" "+0255" = .ok (.uint8 255)
    ∧ (Binder.standard .uint8).bind "n" ((Binder.standard .uint8).unbind "n" (.uint8 255))
      = .ok (.uint8 255)
  := by
  have hentry : ("UUID", .uuid) ∈ standardTypes := by decide
  have huuid : .uuid ∈ ValueType.exact := by decide
  have huint8 : .uint8 ∈ ValueType.exact := by decide
  have hupper : standard.bind "UUID" "id" "67E55044-10B1-426F-9247-BB680E5FE0C8"
      = .ok (.uuid tourId) := by decide +kernel
  have hwritten : standard.unbind "UUID" "id" (.uuid tourId)
      = .ok "67e55044-10b1-426f-9247-bb680e5fe0c8" := by decide +kernel
  have hsigned : (Binder.standard .uint8).bind "n" "+0255" = .ok (.uint8 255) := by decide +kernel
  obtain ⟨written, hunbind, hrebind⟩ :=
    ((standard_canonical "id").2 _ hentry huuid).canonical _ _ hupper
  obtain rfl := Except.ok.inj (hunbind.symm.trans hwritten)
  obtain ⟨text, htext, hagain⟩ := ((standard_canonical "n").1 _ huint8).canonical _ _ hsigned
  obtain rfl := Except.ok.inj htext
  exact ⟨hentry, huint8, hupper, hunbind, hrebind, hsigned, hagain⟩

end Registry

end HttpDispatch
