import Mathlib
import ObjectStore.Text.Digits

/-! # Runs of digits

What a run of decimal digits writes, and that a run that is followed by something else can be told
from it.

* `decimalNat_decimal`: the digits of a number write it, however many zeros stand before them.
* `append_inj_of_stop`: two runs that are each followed by something else are equal if the whole
  texts are.
* `decimal_append_inj`: the same for the digits of numbers.
* `toString_int_inj`: the text of a whole number determines it.
* `digitsNat_hexDigits`: the hexadecimal digits of a number write its lowest bits. -/

namespace ObjectStore.Text

/-! ## The number that digits write -/

/-- `decimalNat cs = Nat.ofDigitChars 10 cs 0` for digits `cs`. -/
theorem decimalNat_eq {cs : List Char} (h : ∀ c ∈ cs, c.isDigit = true) :
    decimalNat cs = Nat.ofDigitChars 10 cs 0 := by
  have hfold : ∀ init, cs.foldl (fun n c => 10 * n + (decimalValue? c).getD 0) init =
      Nat.ofDigitChars 10 cs init := by
    induction cs with
    | nil => exact fun _ => rfl
    | cons c cs ih =>
      intro init
      have hc : (decimalValue? c).getD 0 = c.toNat - '0'.toNat := by
        rw [decimalValue?, if_pos (h c List.mem_cons_self), Option.getD_some]
      rw [List.foldl_cons, Nat.ofDigitChars_cons, hc]
      exact ih (fun c hc => h c (List.mem_cons_of_mem _ hc)) _
  exact hfold 0

/-- `Nat.toDigits 10 n` are digits. -/
theorem isDigit_toDigits {n : Nat} {c : Char} (h : c ∈ Nat.toDigits 10 n) : c.isDigit = true :=
  Nat.isDigit_of_mem_toDigits (by decide) (by decide) h

/-- `decimalNat (Nat.toDigits 10 n) = n`. -/
theorem decimalNat_toDigits (n : Nat) : decimalNat (Nat.toDigits 10 n) = n := by
  rw [decimalNat_eq fun _ => isDigit_toDigits, Nat.ofDigitChars_ten_toDigits]

/-- Zeros are digits. -/
theorem isDigit_replicate {k : Nat} {c : Char} (h : c ∈ List.replicate k '0') :
    c.isDigit = true := by
  rw [List.eq_of_mem_replicate h]
  rfl

/-- Digits followed by digits are digits. -/
theorem isDigit_append {ds es : List Char} (hds : ∀ c ∈ ds, c.isDigit = true)
    (hes : ∀ c ∈ es, c.isDigit = true) : ∀ c ∈ ds ++ es, c.isDigit = true := by
  intro c hc
  rcases List.mem_append.1 hc with hc | hc
  exacts [hds c hc, hes c hc]

/-- `decimal width n` are digits. -/
theorem isDigit_decimal (width n : Nat) : ∀ c ∈ decimal width n, c.isDigit = true :=
  isDigit_append (fun _ => isDigit_replicate) fun _ => isDigit_toDigits

/-- `decimal width n ≠ []`. -/
theorem decimal_ne_nil (width n : Nat) : decimal width n ≠ [] := by
  rw [decimal, padZeros]
  exact List.append_ne_nil_of_right_ne_nil _ Nat.toDigits_ne_nil

/-- `decimalNat (replicate k '0' ++ cs) = decimalNat cs`: leading zeros do not count. -/
theorem decimalNat_replicate_append {cs : List Char} (h : ∀ c ∈ cs, c.isDigit = true) (k : Nat) :
    decimalNat (List.replicate k '0' ++ cs) = decimalNat cs := by
  have hall := isDigit_append (fun _ => isDigit_replicate (k := k)) h
  rw [decimalNat_eq hall, decimalNat_eq h, Nat.ofDigitChars_append,
    Nat.ofDigitChars_replicate_zero, Nat.mul_zero]

/-- `decimalNat (cs ++ replicate k '0') = decimalNat cs * 10 ^ k`: zeros at the end multiply by
powers of ten. -/
theorem decimalNat_append_replicate {cs : List Char} (h : ∀ c ∈ cs, c.isDigit = true) (k : Nat) :
    decimalNat (cs ++ List.replicate k '0') = decimalNat cs * 10 ^ k := by
  have hall := isDigit_append h fun _ => isDigit_replicate (k := k)
  rw [decimalNat_eq hall, decimalNat_eq h, Nat.ofDigitChars_append,
    Nat.ofDigitChars_replicate_zero, Nat.mul_comm]

/-- `decimalNat (decimal width n) = n`: zeros in front change nothing. -/
theorem decimalNat_decimal (width n : Nat) : decimalNat (decimal width n) = n := by
  rw [decimal, padZeros, decimalNat_replicate_append fun _ => isDigit_toDigits,
    decimalNat_toDigits]

/-- `(decimal width n).length = width` if `n` has no more digits. -/
theorem length_decimal {width n : Nat} (hwidth : 0 < width) (h : n < 10 ^ width) :
    (decimal width n).length = width := by
  have hdigits : (Nat.toDigits 10 n).length ≤ width :=
    (Nat.length_toDigits_le_iff (by decide) hwidth).mpr h
  rw [decimal, padZeros, List.length_append, List.length_replicate]
  omega

/-! ## Runs and what follows them -/

/-- `a ++ r = b ++ s`: two runs of characters of one kind, neither of which is followed by a
character of that kind, are equal if the whole texts are. -/
theorem append_inj_of_stop {p : Char → Bool} {a b r s : List Char} (ha : ∀ c ∈ a, p c = true)
    (hb : ∀ c ∈ b, p c = true) (hr : ∀ c ∈ r.head?, p c = false)
    (hs : ∀ c ∈ s.head?, p c = false) (h : a ++ r = b ++ s) : a = b ∧ r = s := by
  have htake : ∀ {x y : List Char}, (∀ c ∈ x, p c = true) → (∀ c ∈ y.head?, p c = false) →
      (x ++ y).takeWhile p = x := by
    intro x y hx hy
    rw [List.takeWhile_append_of_pos hx]
    cases y with
    | nil => rw [List.takeWhile_nil, List.append_nil]
    | cons c cs => rw [List.takeWhile_cons_of_neg (by simp [hy c rfl]), List.append_nil]
  have hab : a = b := by
    rw [← htake ha hr, h, htake hb hs]
  subst hab
  exact ⟨rfl, List.append_cancel_left h⟩

/-- `decimal width m ++ r = decimal width n ++ s`: the digits of two numbers, neither of which is
followed by a further digit. -/
theorem decimal_append_inj {width m n : Nat} {r s : List Char}
    (hr : ∀ c ∈ r.head?, c.isDigit = false) (hs : ∀ c ∈ s.head?, c.isDigit = false)
    (h : decimal width m ++ r = decimal width n ++ s) : m = n ∧ r = s := by
  obtain ⟨hdigits, hrest⟩ :=
    append_inj_of_stop (isDigit_decimal width m) (isDigit_decimal width n) hr hs h
  refine ⟨?_, hrest⟩
  rw [← decimalNat_decimal width m, hdigits, decimalNat_decimal]

/-! ## Hexadecimal digits -/

/-- Each of `hexDigits width n` is the digit of a number below sixteen. -/
theorem exists_of_mem_hexDigits {width n : Nat} {c : Char} (h : c ∈ hexDigits width n) :
    ∃ m < 16, c = Nat.digitChar m := by
  induction width generalizing n with
  | zero => cases h
  | succ width ih =>
    rcases List.mem_append.mp h with h | h
    · exact ih h
    · exact ⟨n % 16, Nat.mod_lt n (by decide), List.mem_singleton.mp h⟩

/-- `digitValue? 16 (hexDigit n) = some (n % 16)`. -/
theorem digitValue?_hexDigit (n : Nat) : digitValue? 16 (hexDigit n) = some (n % 16) := by
  rw [hexDigit]
  have hlt : n % 16 < 16 := Nat.mod_lt n (by decide)
  interval_cases n % 16 <;> decide

/-- A digit behind others counts for itself, and they count for `base` times as much. -/
theorem digitsNat_concat (base : Nat) (cs : List Char) (c : Char) :
    digitsNat base (cs ++ [c]) = base * digitsNat base cs + (digitValue? base c).getD 0 := by
  simp [digitsNat]

/-- `digitsNat 16 (hexDigits width n) = n % 16 ^ width`. -/
theorem digitsNat_hexDigits (width n : Nat) :
    digitsNat 16 (hexDigits width n) = n % 16 ^ width := by
  induction width generalizing n with
  | zero => exact (Nat.mod_one n).symm
  | succ width ih =>
    rw [hexDigits, digitsNat_concat, ih, digitValue?_hexDigit, Option.getD_some, Nat.pow_succ',
      Nat.mod_mul, Nat.add_comm]

/-! ## Numerals -/

/-- Whether `c` may stand in the text of a number. -/
def isNumeralChar (c : Char) : Bool := c.isDigit || c == '.' || c == 'e' || c == '+' || c == '-'

/-- `isNumeralChar c = true`: digits are characters of numbers. -/
theorem isNumeralChar_of_isDigit {c : Char} (h : c.isDigit = true) : isNumeralChar c = true := by
  rw [isNumeralChar, h]
  rfl

/-- A whole number is written by its digits, after a minus if it is below zero. -/
theorem toList_toString_int (n : Int) :
    (toString n).toList = (if n < 0 then ['-'] else []) ++ Nat.toDigits 10 n.natAbs := by
  rw [Int.toString_eq_repr, Int.repr_eq_if]
  by_cases h : n < 0
  · have hnatAbs : (-n).toNat = n.natAbs := by omega
    rw [if_neg (Int.not_le.2 h), if_pos h, hnatAbs, String.toList_append, Nat.toList_repr]
    rfl
  · have hnatAbs : n.toNat = n.natAbs := by omega
    rw [if_pos (Int.not_lt.1 h), if_neg h, hnatAbs, Nat.toList_repr]
    rfl

/-- A whole number is written in characters of numbers. -/
theorem isNumeralChar_toString_int (n : Int) :
    ∀ c ∈ (toString n).toList, isNumeralChar c = true := by
  intro c hc
  rw [toList_toString_int, List.mem_append] at hc
  rcases hc with hc | hc
  · split at hc
    · rw [List.mem_singleton.1 hc]
      rfl
    · cases hc
  · exact isNumeralChar_of_isDigit (isDigit_toDigits hc)

/-- `Nat.toDigits 10 n ≠ '-' :: cs`: the digits of a natural number begin with no minus. -/
theorem toDigits_ne_minus (n : Nat) (cs : List Char) : Nat.toDigits 10 n ≠ '-' :: cs := by
  intro h
  have hdigit : '-'.isDigit = true := isDigit_toDigits (by rw [h]; exact List.mem_cons_self)
  exact absurd hdigit (by decide)

/-- `toString m = toString n`: no two whole numbers have the same text. -/
theorem toString_int_inj {m n : Int} (h : (toString m).toList = (toString n).toList) : m = n := by
  rw [toList_toString_int, toList_toString_int] at h
  have hdigits : ∀ {a b : Nat}, Nat.toDigits 10 a = Nat.toDigits 10 b → a = b := by
    intro a b hab
    rw [← decimalNat_toDigits a, hab, decimalNat_toDigits]
  split at h
  · split at h
    · have := hdigits (List.tail_eq_of_cons_eq h)
      omega
    · exact absurd h.symm (toDigits_ne_minus _ _)
  · split at h
    · exact absurd h (toDigits_ne_minus _ _)
    · have := hdigits h
      omega

end ObjectStore.Text
