import CppSerializers.Foundation.Reader
import Mathlib.Data.Nat.ModEq

/-!
# Numbers as bytes

The ways binary formats write a number: in a fixed number of bytes, least or most
significant first; in groups of seven bits, each byte announcing whether another
follows; and, for signed numbers, by their two's complement or interleaved with the
negative ones (`zigzag`). Together with a count or length in front they give the
usual encodings of sequences and of blocks of bytes.

Every writer comes with the reader that recognises it.

## Main definitions

* `bytesLE`, `bytesBE` — a number in a fixed number of bytes
* `numberAt` — a number in the middle of other bytes
* `varint` — a number in groups of seven bits
* `zigzag`, `unzigzag` — signed numbers as natural numbers
* `counted`, `prefixed` — sequences behind their count, blocks behind their length

## Main results

* `recognises_readLE`, `recognises_readBE`, `recognises_readVarint`
* `Recognises.counted`, `Recognises.prefixed`
-/

namespace CppSerializers.Foundation

variable {ε α β : Type}

-- The bound of the library's lemma is `UInt8.size`, which `omega` does not see through.
theorem toNat_ofNat_of_lt {n : Nat} (h : n < 256) : (UInt8.ofNat n).toNat = n :=
  UInt8.toNat_ofNat_of_lt' h

/-! ## Fixed width -/

/-- The `w` least significant bytes of a number, least significant first. -/
def bytesLE : Nat → Nat → List UInt8
  | 0, _ => []
  | w + 1, n => UInt8.ofNat (n % 256) :: bytesLE w (n / 256)

/-- The number written least significant byte first. -/
def ofBytesLE : List UInt8 → Nat
  | [] => 0
  | b :: bs => b.toNat + 256 * ofBytesLE bs

/-- The number in the `w` bytes at a position, zero behind the end. -/
def numberAt (bytes : List UInt8) (w position : Nat) : Nat :=
  ofBytesLE ((bytes.drop position).take w)

/-- The bytes that are missing up to a multiple of `align`. -/
def padding (align size : Nat) : Nat := (align - size % align) % align

/-- The `w` least significant bytes of a number, most significant first. -/
def bytesBE (w n : Nat) : List UInt8 := (bytesLE w n).reverse

@[simp] theorem length_bytesLE (w n : Nat) : (bytesLE w n).length = w := by
  induction w generalizing n with
  | zero => rfl
  | succ w ih => simp [bytesLE, ih]

@[simp] theorem length_bytesBE (w n : Nat) : (bytesBE w n).length = w := by
  simp [bytesBE]

/-- Writing keeps the number modulo the width. -/
theorem ofBytesLE_bytesLE (w n : Nat) : ofBytesLE (bytesLE w n) = n % 256 ^ w := by
  induction w generalizing n with
  | zero => simp [bytesLE, ofBytesLE, Nat.mod_one]
  | succ w ih =>
    have hbyte : (UInt8.ofNat (n % 256)).toNat = n % 256 := toNat_ofNat_of_lt (by omega)
    rw [bytesLE, ofBytesLE, hbyte, ih, Nat.pow_succ', Nat.mod_mul]

variable (eof : ε)

/-- Read a number of `w` bytes, least significant first. -/
def readLE (w : Nat) : Reader ε UInt8 Nat := ofBytesLE <$> readBlock eof w

/-- Read a number of `w` bytes, most significant first. -/
def readBE (w : Nat) : Reader ε UInt8 Nat :=
  (fun block => ofBytesLE block.reverse) <$> readBlock eof w

theorem recognises_readLE {w n : Nat} (h : n < 256 ^ w) :
    Recognises (readLE eof w) (bytesLE w n) n := by
  have hread := (recognises_readBlock eof (bytesLE w n)).map ofBytesLE
  rwa [length_bytesLE, ofBytesLE_bytesLE, Nat.mod_eq_of_lt h] at hread

/-- Of a number that does not fit, the most significant bytes are lost. -/
theorem recognises_readBE_mod (w n : Nat) :
    Recognises (readBE eof w) (bytesBE w n) (n % 256 ^ w) := by
  have hread := (recognises_readBlock eof (bytesBE w n)).map fun block => ofBytesLE block.reverse
  rwa [length_bytesBE, bytesBE, List.reverse_reverse, ofBytesLE_bytesLE] at hread

theorem recognises_readBE {w n : Nat} (h : n < 256 ^ w) :
    Recognises (readBE eof w) (bytesBE w n) n := by
  have hread := recognises_readBE_mod eof w n
  rwa [Nat.mod_eq_of_lt h] at hread

/-! ## Groups of seven bits -/

/-- A number in at most `k` groups of seven bits, least significant first; every byte but
the last has its high bit set. -/
def varint : Nat → Nat → List UInt8
  | 0, _ => []
  | k + 1, n =>
    if n < 128 then [UInt8.ofNat n] else UInt8.ofNat (n % 128 + 128) :: varint k (n / 128)

/-- Read at most `k` groups of seven bits. -/
def readVarint : Nat → Reader ε UInt8 Nat
  | 0 => throw eof
  | k + 1 => do
    let b ← readCell eof
    if b.toNat < 128 then return b.toNat
    else do
      let high ← readVarint k
      return b.toNat - 128 + 128 * high

theorem recognises_readVarint {k n : Nat} (h : n < 128 ^ k) (hk : 0 < k) :
    Recognises (readVarint eof k) (varint k n) n := by
  -- On the number of groups that are allowed: the others hold `n / 128`.
  induction k generalizing n with
  | zero => exact absurd hk (by decide)
  | succ k ih =>
    by_cases hn : n < 128
    · have hbyte : (UInt8.ofNat n).toNat = n := toNat_ofNat_of_lt (by omega)
      rw [varint, if_pos hn, readVarint]
      apply Recognises.cell
      rw [hbyte, if_pos hn]
      exact Recognises.pure n
    · have hbyte : (UInt8.ofNat (n % 128 + 128)).toNat = n % 128 + 128 :=
        toNat_ofNat_of_lt (by omega)
      have hdiv : n / 128 < 128 ^ k := by
        rw [Nat.div_lt_iff_lt_mul (by decide)]
        rwa [Nat.pow_succ] at h
      have hkpos : 0 < k := by
        rcases Nat.eq_zero_or_pos k with rfl | hpos
        · omega
        · exact hpos
      have hrest := (ih hdiv hkpos).map fun high => n % 128 + 128 - 128 + 128 * high
      have hvalue : n % 128 + 128 - 128 + 128 * (n / 128) = n := by omega
      rw [hvalue] at hrest
      rw [varint, if_neg hn, readVarint]
      apply Recognises.cell
      rw [hbyte, if_neg (by omega), bind_pure_comp]
      exact hrest

/-! ## Signed numbers -/

/-- The two's complement of a signed number. -/
def natOfInt64 (x : Int64) : Nat := x.toUInt64.toNat

/-- The signed number of a two's complement. -/
def int64OfNat (n : Nat) : Int64 := (UInt64.ofNat n).toInt64

theorem natOfInt64_lt (x : Int64) : natOfInt64 x < 2 ^ 64 := x.toUInt64.toNat_lt

@[simp] theorem int64OfNat_natOfInt64 (x : Int64) : int64OfNat (natOfInt64 x) = x := by
  simp [int64OfNat, natOfInt64]

/-- The two's complement, as an integer. -/
theorem natOfInt64_eq (x : Int64) :
    (natOfInt64 x : Int) = if 0 ≤ x.toInt then x.toInt else x.toInt + 2 ^ 64 := by
  have hbits : x.toInt =
      if 2 * natOfInt64 x < 2 ^ 64 then (natOfInt64 x : Int) else natOfInt64 x - (2 ^ 64 : Nat) :=
    BitVec.toInt_eq_toNat_cond x.toBitVec
  have hlt := natOfInt64_lt x
  split_ifs at hbits ⊢ <;> omega

/-- Signed numbers by absolute value, the negative ones in between. -/
def zigzag (x : Int64) : Nat :=
  if 0 ≤ x.toInt then 2 * x.toInt.toNat else 2 * (-x.toInt).toNat - 1

def unzigzag (n : Nat) : Int64 :=
  if n % 2 = 0 then Int64.ofInt (n / 2 : Nat) else Int64.ofInt (-((n / 2 : Nat) + 1))

theorem zigzag_lt (x : Int64) : zigzag x < 2 ^ 64 := by
  have hlow := x.le_toInt
  have hhigh := x.toInt_lt
  unfold zigzag
  split <;> omega

@[simp] theorem unzigzag_zigzag (x : Int64) : unzigzag (zigzag x) = x := by
  unfold zigzag unzigzag
  -- Even numbers stand for the numbers from zero on, odd ones for the negative.
  by_cases hx : 0 ≤ x.toInt
  · have hhalf : ((2 * x.toInt.toNat / 2 : Nat) : Int) = x.toInt := by omega
    rw [if_pos hx, if_pos (by omega), hhalf, Int64.ofInt_toInt]
  · have hhalf : -(((2 * (-x.toInt).toNat - 1) / 2 : Nat) + 1 : Int) = x.toInt := by omega
    rw [if_neg hx, if_neg (by omega), hhalf, Int64.ofInt_toInt]

/-! ## Sequences and blocks -/

/-- A sequence behind its count. -/
def counted (putCount : Nat → List β) (put : α → List β) (as : List α) : List β :=
  putCount as.length ++ as.flatMap put

/-- A block behind its length. -/
def prefixed (putCount : Nat → List β) (block : List β) : List β :=
  putCount block.length ++ block

theorem Recognises.counted {readCount : Reader ε β Nat} {rd : Reader ε β α}
    {putCount : Nat → List β} {put : α → List β} {as : List α}
    (hcount : Recognises readCount (putCount as.length) as.length)
    (h : ∀ a ∈ as, Recognises rd (put a) a) :
    Recognises (readCount >>= Foundation.repeatM rd) (counted putCount put as) as :=
  hcount.bind (Recognises.repeatM h)

theorem Recognises.prefixed {readCount : Reader ε β Nat} {putCount : Nat → List β}
    {block : List β} (hcount : Recognises readCount (putCount block.length) block.length) :
    Recognises (readCount >>= readBlock eof) (prefixed putCount block) block :=
  hcount.bind (recognises_readBlock eof block)

end CppSerializers.Foundation
