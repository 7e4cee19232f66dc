/-!
# Punycode

Punycode spells characters beyond ASCII in ASCII.  The ASCII characters of the text come first
and end with a hyphen if there are any.  Then follow numbers, each of which says where the next
character goes in: the places for one code point are counted through, then those for the next
code point, and a number tells how many places to go on.  A number is written in digits of base
36, the lowest first; a digit below its threshold ends the number, and the thresholds adapt to
the size of the numbers so far.
-/

namespace HttpDispatch.Text.Punycode

/-- The value of a digit: letters come before decimal digits. -/
def digitValue? (c : Char) : Option Nat :=
  if c.isLower then some (c.toNat - 'a'.toNat)
  else if c.isUpper then some (c.toNat - 'A'.toNat)
  else if c.isDigit then some (c.toNat - '0'.toNat + 26)
  else none

/-- The threshold of the digit at a place, where `k` is 36 times the number of the place. -/
def threshold (bias k : Nat) : Nat := min 26 (max 1 (k - bias))

/-- The bias after a number, scaled down as often as it takes. -/
def scale (k delta : Nat) : Nat :=
  if 455 < delta then scale (k + 36) (delta / 35) else k + 36 * delta / (delta + 38)
termination_by delta
decreasing_by exact Nat.div_lt_self (by omega) (by omega)

/-- The bias after the number `delta`, which put in the last of `length` characters; `isFirst`
says whether it is counted from the very first place. -/
def adapt (isFirst : Bool) (delta length : Nat) : Nat :=
  let delta := if isFirst then delta / 700 else delta / 2
  scale 0 (delta + delta / length)

/-- Numbers and weights of digits are below this. -/
def limit : Nat := Nat.pow 2 32

/-- The place `i` moved on by the number at the start of a text, and the text after it.  The
next digit has the given weight. -/
def advance? (bias k weight i : Nat) : List Char → Option (Nat × List Char)
  | [] => none
  | c :: cs =>
    match digitValue? c with
    | none => none
    | some d =>
      let i := i + d * weight
      let t := threshold bias k
      if limit ≤ i then none
      else if d < t then some (i, cs)
      else if limit ≤ weight * (36 - t) then none
      else advance? bias (k + 36) (weight * (36 - t)) i cs

theorem length_lt_of_advance? {bias k weight i : Nat} {cs : List Char} {r : Nat × List Char}
    (h : advance? bias k weight i cs = some r) :
  r.2.length < cs.length
  := by
  induction cs generalizing k weight i with
  | nil => simp [advance?] at h
  | cons c cs ih =>
    simp only [advance?] at h
    split at h
    · exact nomatch h
    · split at h
      · exact nomatch h
      · split at h
        · obtain rfl := Option.some.inj h
          simp
        · split at h
          · exact nomatch h
          · have := ih h
            simp only [List.length_cons]
            omega

/-- The text `done` with the characters that the numbers in a text put in.  The places for the
code point `n` are counted from `i` on. -/
def insertAll? (bias n i : Nat) (done cs : List Char) : Option (List Char) :=
  if cs.isEmpty then some done
  else
    match _h : advance? bias 36 1 i cs with
    | none => none
    | some (j, rest) =>
      let length := done.length + 1
      let code := n + j / length
      if code.isValidChar then
        let place := j % length
        insertAll? (adapt (i = 0) (j - i) length) code (place + 1)
          (done.take place ++ Char.ofNat code :: done.drop place) rest
      else none
termination_by cs.length
decreasing_by exact length_lt_of_advance? _h

/-- The characters of which the spelling is `cs`.  A hyphen that no character precedes is no
separator. -/
def decode? (cs : List Char) : Option (List Char) :=
  let digits := (cs.reverse.takeWhile (· != '-')).reverse
  let ascii := cs.take (cs.length - digits.length - 1)
  if ascii.isEmpty then insertAll? 72 0x80 0 [] cs else insertAll? 72 0x80 0 ascii digits

end HttpDispatch.Text.Punycode
