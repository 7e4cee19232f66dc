import HttpDispatch.Number.Integer
import Mathlib.Algebra.Order.Ring.Int
import Mathlib.Data.List.Basic

/-!
# Integers and their decimals

The decimal of an integer is read as that integer in every format that holds it: `read_toString`.
-/

namespace HttpDispatch.IntegerFormat

variable {f : IntegerFormat}

/-- The integer is one of the type. -/
structure Holds (f : IntegerFormat) (n : ℤ) : Prop where
  least : -(f.least : ℤ) ≤ n
  greatest : n ≤ f.greatest

theorem Holds.of_signed {bits : ℕ} {n : ℤ} (hleast : -2 ^ (bits - 1) ≤ n)
    (hgreatest : n < 2 ^ (bits - 1)) :
  Holds ⟨true, bits⟩ n
  := by
  have hpow : ((Nat.pow 2 (bits - 1) : ℕ) : ℤ) = 2 ^ (bits - 1) := Int.natCast_pow 2 (bits - 1)
  constructor <;> simp only [IntegerFormat.least, IntegerFormat.greatest, if_true] <;> omega

theorem Holds.of_unsigned {bits n : ℕ} (h : n < 2 ^ bits) :
  Holds ⟨false, bits⟩ n
  := by
  have hgreatest : n ≤ Nat.pow 2 bits - 1 := Nat.le_sub_one_of_lt h
  constructor
  · apply Int.natCast_nonneg n
  · apply Int.ofNat_le.2 hgreatest

/-! ### Digits -/

theorem digit?_of_isDigit {c : Char} (h : c.isDigit = true) :
  digit? c = some (c.toNat - '0'.toNat)
  := by
  rw [Char.isDigit, Bool.and_eq_true, decide_eq_true_iff, decide_eq_true_iff] at h
  apply if_pos h

/-- More digits never denote a smaller number. -/
theorem le_ofDigitChars (cs : List Char) (n : ℕ) :
  n ≤ Nat.ofDigitChars 10 cs n
  := by
  induction cs generalizing n with
  | nil => apply Nat.le_refl
  | cons c cs ih =>
    calc n ≤ 10 * n + (c.toNat - '0'.toNat) := by omega
      _ ≤ Nat.ofDigitChars 10 cs (10 * n + (c.toNat - '0'.toNat)) := ih _

/-- Digits are read as the number that they denote, if that is within the limit. -/
theorem readDigits_eq_ok {limit : ℕ} (overflow : IntegerError) {cs : List Char} {n : ℕ}
    (hdigits : ∀ c ∈ cs, c.isDigit = true) (hlimit : Nat.ofDigitChars 10 cs n ≤ limit) :
  readDigits limit overflow n cs = .ok (Nat.ofDigitChars 10 cs n)
  := by
  induction cs generalizing n with
  | nil => rfl
  | cons c cs ih =>
    have hvalue : Nat.ofDigitChars 10 (c :: cs) n
        = Nat.ofDigitChars 10 cs (n * 10 + (c.toNat - '0'.toNat)) := by
      rw [Nat.mul_comm]
      rfl
    rw [hvalue] at hlimit
    rw [readDigits, digit?_of_isDigit (hdigits c List.mem_cons_self)]
    -- The number read so far does not pass the limit, for the whole one does not.
    have hsofar := Nat.le_trans (le_ofDigitChars cs _) hlimit
    simp only
    rw [if_neg (Nat.not_lt.2 hsofar), hvalue]
    apply ih (fun c hc => hdigits c (List.mem_cons_of_mem _ hc)) hlimit

theorem readDigits_toDigits {limit : ℕ} (overflow : IntegerError) {n : ℕ} (h : n ≤ limit) :
  readDigits limit overflow 0 (Nat.toDigits 10 n) = .ok n
  := by
  have hdigits : ∀ c ∈ Nat.toDigits 10 n, c.isDigit = true :=
    fun c hc => Nat.isDigit_of_mem_toDigits (by decide) (by decide) hc
  have hvalue : Nat.ofDigitChars 10 (Nat.toDigits 10 n) 0 = n := Nat.ofDigitChars_ten_toDigits
  rw [readDigits_eq_ok overflow hdigits (hvalue.symm ▸ h), hvalue]

/-! ### Integers -/

/-- Without a sign all characters are read as digits. -/
theorem read_of_isDigit {s : String} {c : Char} {cs : List Char} (hs : s.toList = c :: cs)
    (hc : c.isDigit = true) :
  f.read s = (readDigits f.greatest .tooLarge 0 (c :: cs)).map Int.ofNat
  := by
  have hplus : c ≠ '+' := by
    rintro rfl
    cases hc
  have hminus : c ≠ '-' := by
    rintro rfl
    cases hc
  rw [read, hs]
  split
  all_goals simp_all

/-- After a minus sign the characters are read as digits. -/
theorem read_of_minus {s : String} {c : Char} {cs : List Char} (hs : s.toList = '-' :: c :: cs)
    (signed : f.signed = true) :
  f.read s = (readDigits f.least .tooSmall 0 (c :: cs)).map fun n => -Int.ofNat n
  := by
  rw [read, hs]
  simp only [signed, if_true]

theorem read_toString_natCast {n : ℕ} (h : n ≤ f.greatest) :
  f.read (toString n) = .ok n
  := by
  obtain ⟨c, cs, hdigits⟩ := List.exists_cons_of_ne_nil (Nat.toDigits_ne_nil (n := n) (b := 10))
  have hs : (toString n).toList = c :: cs := by
    rw [Nat.toString_eq_ofList_toDigits, String.toList_ofList, hdigits]
  have hc : c.isDigit = true :=
    Nat.isDigit_of_mem_toDigits (by decide) (by decide) (hdigits ▸ List.mem_cons_self)
  rw [read_of_isDigit hs hc, ← hdigits, readDigits_toDigits _ h]
  rfl

theorem read_toString_negSucc {n : ℕ} (h : n + 1 ≤ f.least) :
  f.read (toString (Int.negSucc n)) = .ok (Int.negSucc n)
  := by
  have signed : f.signed = true := by
    by_contra hsigned
    rw [least, if_neg hsigned] at h
    omega
  obtain ⟨c, cs, hdigits⟩ :=
    List.exists_cons_of_ne_nil (Nat.toDigits_ne_nil (n := n + 1) (b := 10))
  have hs : (toString (Int.negSucc n)).toList = '-' :: c :: cs := by
    change ("-" ++ toString (n + 1)).toList = _
    rw [String.toList_append, Nat.toString_eq_ofList_toDigits, hdigits,
      @String.toList_ofList (c :: cs)]
    rfl
  rw [read_of_minus hs signed, ← hdigits, readDigits_toDigits _ h]
  rfl

/-- The decimal of an integer is read as that integer. -/
theorem read_toString {n : ℤ} (h : f.Holds n) :
  f.read (toString n) = .ok n
  := by
  cases n with
  | ofNat n => apply read_toString_natCast (Int.ofNat_le.1 h.greatest)
  | negSucc n =>
    apply read_toString_negSucc
    have hleast := h.least
    omega

end HttpDispatch.IntegerFormat
