import Mathlib.Data.List.Basic

/-!
# Plain decimal numerals as bytes

The numerals an output stream prints for integers in the classic locale: decimal
digits without leading zeros, and a minus sign in front of a negative number.
Both readings below invert the printing, so printing is injective; and numerals
contain no byte but digits and the sign, so any other byte can separate them.

## Main definitions

* `decimal`, `decimalInt` — the numeral of a natural number and of an integer
* `readDecimal`, `readDecimalInt` — their readings

## Main results

* `readDecimal_decimal`, `readDecimalInt_decimalInt` — the readings invert the printing
* `digit_of_mem_decimal` — a numeral consists of digits
* `notMem_decimalInt` — a byte that is no digit and no sign is in no numeral
-/

namespace CppSerializers.Foundation

/-- The decimal numeral of a natural number. -/
def decimal (n : Nat) : List UInt8 := (Nat.toDigits 10 n).map Char.toUInt8

/-- The minus sign. -/
def minusSign : UInt8 := '-'.toUInt8

/-- The decimal numeral of an integer. -/
def decimalInt (i : Int) : List UInt8 :=
  if i < 0 then minusSign :: decimal i.natAbs else decimal i.natAbs

/-- The byte is one of the ten digits. -/
def IsDigit (b : UInt8) : Prop := 48 ≤ b.toNat ∧ b.toNat ≤ 57

instance : DecidablePred IsDigit := fun _ => inferInstanceAs (Decidable (_ ∧ _))

/-- Read a nonempty string of digits. -/
def readDecimal (bs : List UInt8) : Option Nat :=
  if bs ≠ [] ∧ bs.all fun b => IsDigit b then
    some (bs.foldl (fun n b => 10 * n + (b.toNat - 48)) 0)
  else none

/-- Read a string of digits, possibly behind a minus sign. -/
def readDecimalInt : List UInt8 → Option Int
  | [] => none
  | b :: bs =>
    if b = minusSign then (readDecimal bs).map fun n : Nat => -(n : Int)
    else (readDecimal (b :: bs)).map fun n : Nat => (n : Int)

private theorem toNat_toUInt8_of_isDigit {c : Char} (h : c.isDigit = true) :
    c.toUInt8.toNat = c.toNat ∧ IsDigit c.toUInt8 := by
  rw [Char.isDigit_iff_toNat] at h
  have hzero : '0'.toNat = 48 := rfl
  have hnine : '9'.toNat = 57 := rfl
  have hbyte : c.toUInt8.toNat = c.toNat := by
    show c.val.toUInt8.toNat = c.val.toNat
    rw [UInt32.toNat_toUInt8]
    exact Nat.mod_eq_of_lt (by show c.toNat < 256; omega)
  exact ⟨hbyte, by unfold IsDigit; omega⟩

private theorem isDigit_of_mem_toDigits {n : Nat} {c : Char} (h : c ∈ Nat.toDigits 10 n) :
    c.isDigit = true :=
  Nat.isDigit_of_mem_toDigits (by decide) (by decide) h

/-- A numeral consists of digits. -/
theorem digit_of_mem_decimal {n : Nat} {b : UInt8} (h : b ∈ decimal n) : IsDigit b := by
  obtain ⟨c, hc, rfl⟩ := List.mem_map.mp h
  exact (toNat_toUInt8_of_isDigit (isDigit_of_mem_toDigits hc)).2

theorem decimal_ne_nil (n : Nat) : decimal n ≠ [] := by
  have := Nat.length_toDigits_pos (b := 10) (n := n)
  exact List.ne_nil_of_length_pos (by rwa [decimal, List.length_map])

private theorem foldl_decimal (n : Nat) :
    (decimal n).foldl (fun n b => 10 * n + (b.toNat - 48)) 0 = n := by
  have hvalue : Nat.ofDigitChars 10 (Nat.toDigits 10 n) 0 = n := Nat.ofDigitChars_ten_toDigits
  -- The two folds agree digit by digit.
  rw [Nat.ofDigitChars_eq_foldl] at hvalue
  rw [decimal, List.foldl_map]
  refine Eq.trans ?_ hvalue
  refine List.foldl_ext _ _ _ fun acc c hc => ?_
  rw [(toNat_toUInt8_of_isDigit (isDigit_of_mem_toDigits hc)).1]
  rfl

/-- Reading inverts printing. -/
@[simp] theorem readDecimal_decimal (n : Nat) : readDecimal (decimal n) = some n := by
  have hdigits : (decimal n).all fun b => IsDigit b := by
    simpa using fun b => digit_of_mem_decimal
  rw [readDecimal, if_pos ⟨decimal_ne_nil n, hdigits⟩, foldl_decimal]

private theorem not_isDigit_minusSign : ¬ IsDigit minusSign := by decide

/-- Reading inverts printing, for negative numbers too. -/
@[simp] theorem readDecimalInt_decimalInt (i : Int) : readDecimalInt (decimalInt i) = some i := by
  unfold decimalInt
  split_ifs with hneg
  · rw [readDecimalInt, if_pos rfl, readDecimal_decimal, Option.map_some]
    congr 1
    omega
  · -- The first byte is a digit, so it is not taken for a sign.
    obtain ⟨b, bs, hcons⟩ := List.exists_cons_of_ne_nil (decimal_ne_nil i.natAbs)
    have hdigit : IsDigit b := digit_of_mem_decimal (hcons ▸ List.mem_cons_self)
    have hb : b ≠ minusSign := fun h => not_isDigit_minusSign (h ▸ hdigit)
    rw [hcons, readDecimalInt, if_neg hb, ← hcons, readDecimal_decimal, Option.map_some]
    congr 1
    omega

/-- A byte that is no digit and no minus sign occurs in no numeral. -/
theorem notMem_decimalInt {b : UInt8} (hdigit : ¬ IsDigit b) (hsign : b ≠ minusSign) (i : Int) :
    b ∉ decimalInt i := by
  unfold decimalInt
  split_ifs
  · rw [List.mem_cons, not_or]
    exact ⟨hsign, fun h => hdigit (digit_of_mem_decimal h)⟩
  · exact fun h => hdigit (digit_of_mem_decimal h)

theorem notMem_decimal {b : UInt8} (hdigit : ¬ IsDigit b) (n : Nat) : b ∉ decimal n :=
  fun h => hdigit (digit_of_mem_decimal h)

end CppSerializers.Foundation
