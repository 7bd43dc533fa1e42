import CppSerializers.Foundation.Words
import CppSerializers.Libraries.Archives

/-!
# The stream formats of cereal, YAS, Boost and Avro

Concrete primitives for the libraries that write a record as two vectors in a
stream, each with its law. They show that the assumptions about these libraries
can be met, by the formats that the libraries use.

A `Field` is a writer with its reader. All of these formats put a vector behind its
count and a string behind its length (`countedVectors`), in different notations;
Avro writes a vector as a sequence of counted blocks that an empty one ends.

## Main results

* `countedVectors_lawful` — vectors behind counts, in any notation
* `plainArchive_lawful`, `boostArchive_lawful`, `compactArchive_lawful`,
  `avroVectors_lawful` — the law of each format
-/

namespace CppSerializers.Reference

open Foundation

/-- The exception of a reader at the end of its stream. -/
def endOfStream : Exception := .library (lit "end of stream")

/-- A way to write values, and to read them. -/
structure Field (α : Type) where
  put : α → StdString
  read : ByteReader α

/-- The reader recognises what is written for the values in question. -/
def Field.Exact {α : Type} (f : Field α) (valid : α → Prop) : Prop :=
  ∀ a, valid a → Recognises f.read (f.put a) a

/-! ## Vectors behind their counts -/

/-- Vectors behind their count, strings behind their length. -/
def countedVectors (maxLength : Nat) (intsCount stringsCount length : Field Nat)
    (int : Field Int64) : Vectors where
  maxLength := maxLength
  saveInts := counted intsCount.put int.put
  saveStrings := counted stringsCount.put (prefixed length.put)
  loadInts _ := intsCount.read >>= repeatM int.read
  loadStrings _ := stringsCount.read >>= repeatM (length.read >>= readBlock endOfStream)

theorem countedVectors_lawful {maxLength : Nat} {intsCount stringsCount length : Field Nat}
    {int : Field Int64} (hints : intsCount.Exact (· ≤ maxLength))
    (hstrings : stringsCount.Exact (· ≤ maxLength)) (hlength : length.Exact (· ≤ maxLength))
    (hint : int.Exact fun _ => True) :
    (countedVectors maxLength intsCount stringsCount length int).Lawful where
  ints ids _ hids := (hints ids.length hids).counted fun x _ => hint x trivial
  strings strings _ hcount hlengths := by
    refine (hstrings strings.length hcount).counted fun s hs => ?_
    exact Recognises.prefixed endOfStream (hlength s.length (hlengths s hs))

/-- A number in eight bytes, least significant first. -/
def word64 : Field Nat := ⟨bytesLE 8, readLE endOfStream 8⟩

/-- A signed number in eight bytes, least significant first. -/
def int64 : Field Int64 :=
  ⟨fun x => bytesLE 8 (natOfInt64 x), int64OfNat <$> readLE endOfStream 8⟩

theorem word64_exact {maxLength : Nat} (h : maxLength < 2 ^ 64) :
    word64.Exact (· ≤ maxLength) :=
  fun _ hn => recognises_readLE endOfStream (Nat.lt_of_le_of_lt hn h)

theorem int64_exact : int64.Exact fun _ => True := by
  intro x _
  have hread := (recognises_readLE endOfStream (w := 8) (natOfInt64_lt x)).map int64OfNat
  rwa [int64OfNat_natOfInt64] at hread

/-! ## cereal, and YAS without compaction -/

/-- `cereal::BinaryOutputArchive`, and a binary YAS archive without header. -/
def plainArchive : Archive where
  toVectors := countedVectors (2 ^ 63 - 1) word64 word64 word64 int64
  preamble := []
  readPreamble := pure ()

theorem plainArchive_lawful : plainArchive.Lawful where
  toLawful := countedVectors_lawful (word64_exact (by decide)) (word64_exact (by decide))
    (word64_exact (by decide)) int64_exact
  preamble := Recognises.pure ()

/-! ## Boost -/

/-- A field behind bytes that the reader skips. -/
def Field.behind {α : Type} (skipped : StdString) (f : Field α) : Field α where
  put a := skipped ++ f.put a
  read := do
    let _ ← readBlock endOfStream skipped.length
    f.read

theorem Field.Exact.behind {α : Type} {f : Field α} {valid : α → Prop} (h : f.Exact valid)
    (skipped : StdString) : (f.behind skipped).Exact valid :=
  fun a ha => (recognises_readBlock endOfStream skipped).bind (h a ha)

/-- A field followed by bytes that the reader skips. -/
def Field.before {α : Type} (f : Field α) (skipped : StdString) : Field α where
  put a := f.put a ++ skipped
  read := do
    let a ← f.read
    let _ ← readBlock endOfStream skipped.length
    return a

theorem Field.Exact.before {α : Type} {f : Field α} {valid : α → Prop} (h : f.Exact valid)
    (skipped : StdString) : (f.before skipped).Exact valid := by
  intro a ha
  refine (h a ha).bind ?_
  rw [bind_pure_comp]
  exact (recognises_readBlock endOfStream skipped).map fun _ => a

/-- Tracking level and version of a class, written before its first object. -/
def boostClassInfo : StdString := 0 :: bytesLE 4 0

/-- The signature, the library version, the sizes of the native types and the byte order. -/
def boostHeader : StdString :=
  prefixed (bytesLE 8) (lit "serialization::archive") ++ bytesLE 2 17 ++ [4, 8, 4, 8] ++
    bytesLE 4 1

/-- `boost::archive::binary_oarchive`. The count of a vector of strings is followed by the
version of its items. -/
def boostArchive : Archive where
  toVectors := countedVectors (2 ^ 63 - 1) word64
    ((word64.behind boostClassInfo).before (bytesLE 4 0)) word64 int64
  preamble := boostHeader ++ boostClassInfo
  readPreamble := do
    let _ ← readBlock endOfStream (boostHeader ++ boostClassInfo).length

theorem boostArchive_lawful : boostArchive.Lawful where
  toLawful := countedVectors_lawful (word64_exact (by decide))
    (((word64_exact (by decide)).behind boostClassInfo).before (bytesLE 4 0))
    (word64_exact (by decide)) int64_exact
  preamble := (recognises_readBlock endOfStream (boostHeader ++ boostClassInfo)).map fun _ => ()

/-! ## YAS with compaction -/

/-- The number of bytes, at most `k`, of a number. -/
def byteLength : Nat → Nat → Nat
  | 0, _ => 0
  | k + 1, n => if n < 256 then 1 else byteLength k (n / 256) + 1

theorem byteLength_le (k n : Nat) : byteLength k n ≤ k := by
  induction k generalizing n with
  | zero => exact Nat.le_refl 0
  | succ k ih =>
    rw [byteLength]
    split
    · omega
    · exact Nat.succ_le_succ (ih (n / 256))

theorem lt_pow_byteLength {k n : Nat} (h : n < 256 ^ k) : n < 256 ^ byteLength k n := by
  induction k generalizing n with
  | zero => exact h
  | succ k ih =>
    rw [byteLength]
    split
    · omega
    -- The other bytes hold `n / 256`.
    · have hdiv : n / 256 < 256 ^ k := by
        rw [Nat.div_lt_iff_lt_mul (by decide)]
        rwa [Nat.pow_succ] at h
      have hrest := ih hdiv
      rw [Nat.pow_succ, ← Nat.div_lt_iff_lt_mul (by decide)]
      exact hrest

/-- A number below 128 in one byte, any other behind the number of its bytes. -/
def compactWord : Field Nat where
  put n :=
    if n < 128 then [UInt8.ofNat n]
    else UInt8.ofNat (128 + byteLength 8 n) :: bytesLE (byteLength 8 n) n
  read := do
    let b ← readCell endOfStream
    if b.toNat < 128 then return b.toNat else readLE endOfStream (b.toNat - 128)

theorem compactWord_exact {maxLength : Nat} (h : maxLength < 2 ^ 64) :
    compactWord.Exact (· ≤ maxLength) := by
  intro n hn
  by_cases hsmall : n < 128
  · simp only [compactWord, if_pos hsmall]
    apply Recognises.cell
    rw [toNat_ofNat_of_lt (by omega), if_pos hsmall]
    exact Recognises.pure n
  · have hlength := byteLength_le 8 n
    have hfits : n < 256 ^ byteLength 8 n := lt_pow_byteLength (Nat.lt_of_le_of_lt hn h)
    simp only [compactWord, if_neg hsmall]
    apply Recognises.cell
    rw [toNat_ofNat_of_lt (by omega), if_neg (by omega), Nat.add_sub_cancel_left]
    exact recognises_readLE endOfStream hfits

/-- The sign bit of a compacted number. -/
def signBit (x : Int64) : Nat := if x.toInt < 0 then 128 else 0

/-- The sign, and the absolute value: below 64 in the same byte, otherwise behind the number
of its bytes. -/
def compactInt64 : Field Int64 where
  put x :=
    let m := x.toInt.natAbs
    if m < 64 then [UInt8.ofNat (signBit x + (64 + m))]
    else UInt8.ofNat (signBit x + byteLength 8 m) :: bytesLE (byteLength 8 m) m
  read := do
    let b ← readCell endOfStream
    let m ← if 64 ≤ b.toNat % 128 then pure (b.toNat % 128 - 64)
      else readLE endOfStream (b.toNat % 128)
    return Int64.ofInt (if 128 ≤ b.toNat then -(m : Int) else m)

private theorem ofInt_signBit (x : Int64) {low : Nat} (hlow : low < 128) :
    Int64.ofInt (if 128 ≤ signBit x + low then -(x.toInt.natAbs : Int) else x.toInt.natAbs) =
      x := by
  have hvalue : (if 128 ≤ signBit x + low then -(x.toInt.natAbs : Int) else x.toInt.natAbs) =
      x.toInt := by
    unfold signBit
    split_ifs <;> omega
  rw [hvalue, Int64.ofInt_toInt]

theorem compactInt64_exact : compactInt64.Exact fun _ => True := by
  intro x _
  have hmod : ∀ low, low < 128 → (signBit x + low) % 128 = low := by
    intro low hlow
    unfold signBit
    split <;> omega
  have hbyte : ∀ low, low < 128 → signBit x + low < 256 := by
    intro low hlow
    unfold signBit
    split <;> omega
  have hbound : x.toInt.natAbs < 256 ^ 8 := by
    have hlow := x.le_toInt
    have hhigh := x.toInt_lt
    omega
  -- The reader tells the two forms apart by the bit below the sign.
  by_cases hsmall : x.toInt.natAbs < 64
  · simp only [compactInt64, if_pos hsmall]
    apply Recognises.cell
    rw [toNat_ofNat_of_lt (hbyte _ (by omega)), hmod _ (by omega), if_pos (by omega),
      Nat.add_sub_cancel_left, pure_bind, ofInt_signBit x (by omega)]
    exact Recognises.pure x
  · have hlength := byteLength_le 8 x.toInt.natAbs
    simp only [compactInt64, if_neg hsmall]
    apply Recognises.cell
    rw [toNat_ofNat_of_lt (hbyte _ (by omega)), hmod _ (by omega), if_neg (by omega)]
    have hread := (recognises_readLE endOfStream (lt_pow_byteLength hbound)).map fun m : Nat =>
      Int64.ofInt (if 128 ≤ signBit x + byteLength 8 x.toInt.natAbs then -(m : Int) else m)
    rw [ofInt_signBit x (by omega)] at hread
    rwa [bind_pure_comp]

/-- A binary YAS archive without header, compacted. -/
def compactArchive : Archive where
  toVectors := countedVectors (2 ^ 63 - 1) compactWord compactWord compactWord compactInt64
  preamble := []
  readPreamble := pure ()

theorem compactArchive_lawful : compactArchive.Lawful where
  toLawful := countedVectors_lawful (compactWord_exact (by decide)) (compactWord_exact (by decide))
    (compactWord_exact (by decide)) compactInt64_exact
  preamble := Recognises.pure ()

/-! ## Avro -/

/-- A natural number as an Avro `long`. What a negative `long` stands for depends on where it
is read. -/
def avroNat (negative : Nat → ByteReader Nat) : Field Nat where
  put n := varint 10 (2 * n)
  read := do
    let n ← readVarint endOfStream 10
    if n % 2 = 0 then return n / 2 else negative ((n + 1) / 2)

theorem avroNat_exact (negative : Nat → ByteReader Nat) {maxLength : Nat}
    (h : maxLength < 2 ^ 63) : (avroNat negative).Exact (· ≤ maxLength) := by
  intro n hn
  have hfits : 2 * n < 128 ^ 10 := by omega
  refine (recognises_readVarint endOfStream hfits (by decide)).bind_pure ?_
  rw [if_pos (by omega), Nat.mul_div_cancel_left n (by decide)]

/-- An Avro `long`. -/
def avroInt64 : Field Int64 :=
  ⟨fun x => varint 10 (zigzag x), unzigzag <$> readVarint endOfStream 10⟩

theorem avroInt64_exact : avroInt64.Exact fun _ => True := by
  intro x _
  have hfits : zigzag x < 128 ^ 10 := Nat.lt_trans (zigzag_lt x) (by decide)
  have hread := (recognises_readVarint endOfStream hfits (by decide)).map unzigzag
  rwa [unzigzag_zigzag] at hread

/-- The count of a block. A negative one is followed by the size of the block. -/
def avroCount : Field Nat := avroNat fun n => do
  let _ ← readVarint endOfStream 10
  return n

/-- The length of a string. -/
def avroLength : Field Nat := avroNat fun _ => throw endOfStream

/-- A vector: one block, unless it is empty, and the end. -/
def avroBlocks {α : Type} (put : α → StdString) (as : List α) : StdString :=
  (if as = [] then [] else counted avroCount.put put as) ++ avroCount.put 0

/-- Read blocks up to an empty one. -/
def readAvroBlocks {α : Type} (rd : ByteReader α) : Nat → ByteReader (List α)
  | 0 => throw endOfStream
  | fuel + 1 => do
    let n ← avroCount.read
    if n = 0 then return []
    else do
      let block ← repeatM rd n
      let rest ← readAvroBlocks rd fuel
      return block ++ rest

/-- Read blocks from a stream; there are no more of them than bytes. -/
def readAvroVector {α : Type} (rd : ByteReader α) : ByteReader (List α) := do
  let stream ← get
  readAvroBlocks rd (stream.length + 2)

private theorem recognises_avroBlocks {α : Type} {rd : ByteReader α} {put : α → StdString}
    {as : List α} (hcount : as.length < 2 ^ 63) (h : ∀ a ∈ as, Recognises rd (put a) a) :
    Recognises (readAvroVector rd) (avroBlocks put as) as := by
  have hexact : avroCount.Exact (· ≤ 2 ^ 63 - 1) := avroNat_exact _ (by decide)
  have hend : ∀ fuel, Recognises (readAvroBlocks rd (fuel + 1)) (avroCount.put 0) [] := by
    intro fuel
    exact (hexact 0 (Nat.zero_le _)).bind_pure (if_pos rfl)
  refine Recognises.peek fun stream => ?_
  by_cases hempty : as = []
  · rw [avroBlocks, if_pos hempty, hempty]
    exact hend _
  · rw [avroBlocks, if_neg hempty, counted, List.append_assoc]
    refine (hexact as.length (by omega)).bind ?_
    rw [if_neg (by simpa using hempty)]
    refine (Recognises.repeatM h).bind ?_
    rw [bind_pure_comp]
    have hrest := (hend stream.length).map (as ++ ·)
    rwa [List.append_nil] at hrest

/-- The vectors of `avro::binaryEncoder`. -/
def avroVectors : Vectors where
  maxLength := 2 ^ 63 - 1
  saveInts := avroBlocks avroInt64.put
  saveStrings := avroBlocks (prefixed avroLength.put)
  loadInts _ := readAvroVector avroInt64.read
  loadStrings _ := readAvroVector (avroLength.read >>= readBlock endOfStream)

theorem avroVectors_lawful : avroVectors.Lawful where
  ints ids _ hids := by
    refine recognises_avroBlocks ?_ fun x _ => avroInt64_exact x trivial
    exact Nat.lt_of_le_of_lt hids (by decide)
  strings strings _ hcount hlengths := by
    refine recognises_avroBlocks (Nat.lt_of_le_of_lt hcount (by decide)) fun s hs => ?_
    exact Recognises.prefixed endOfStream (avroNat_exact _ (by decide) s.length (hlengths s hs))

end CppSerializers.Reference
