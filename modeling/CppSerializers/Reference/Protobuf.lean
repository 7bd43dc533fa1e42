import CppSerializers.Foundation.Words
import CppSerializers.Libraries.Protobuf

/-!
# The wire format of Protocol Buffers

Concrete primitives in the wire format: tags, lengths and integers in groups of seven
bits. A packed field is a block of integers that ends with the block.
-/

namespace CppSerializers.Reference.Protobuf

open Foundation CppSerializers.Protobuf

/-- A 32-bit number. -/
def varint32 (n : Nat) : StdString := varint 5 n

/-- An `int64`, by its two's complement. -/
def writeInt64 (x : Int64) : StdString := varint 10 (natOfInt64 x)

/-- `ReadVarint32`. -/
def readVarint32 : Reader Unit UInt8 Nat := readVarint () 5

/-- `ReadVarint64`, as an `int64`. -/
def readInt64 : Reader Unit UInt8 Int64 := int64OfNat <$> readVarint () 10

/-- A tag beyond the cutoff is read, but not known. -/
def readTag (stream : StdString) : (Nat × Bool) × StdString :=
  match readVarint32.run stream with
  | .ok (tag, rest) => ((tag, 0 < tag ∧ tag ≤ 127), rest)
  | .error _ => ((0, false), stream)

/-- A packed field: its size, and as many integers as fit. -/
def readPacked : Reader Unit UInt8 (List Int64) := do
  let size ← readVarint32
  let block ← readBlock () size
  StateT.lift (readAll readInt64 () block.length block)

/-- `ExpectTag(10)`: take the tag of a packed field off the input if it comes next. -/
def expectPackedTag : Reader Unit UInt8 Bool := fun stream =>
  if stream.head? = some 10 then pure (true, stream.tail) else pure (false, stream)

/-- An element on its own, and more of them behind tags of a packed field as long as the target
has room reserved for them. -/
def readRepeated : Nat → Reader Unit UInt8 (List Int64)
  | 0 => (fun x => [x]) <$> readInt64
  | reserved + 1 => do
    let x ← readInt64
    if ← expectPackedTag then
      let xs ← readRepeated reserved
      return x :: xs
    else
      return [x]

/-- What an empty target has reserved when its first element has been added. -/
def reservedElements : Nat := 3

/-- Nothing is kept of an unknown field. There is no field with the number zero. -/
def skipField (tag : Nat) : Reader Unit UInt8 Unit :=
  if tag / 8 = 0 then
    throw ()
  else
    -- `WIRETYPE_VARINT`, `WIRETYPE_FIXED64`, `WIRETYPE_LENGTH_DELIMITED` and `WIRETYPE_FIXED32`.
    match tag % 8 with
    | 0 => (fun _ => ()) <$> readVarint () 10
    | 1 => (fun _ => ()) <$> readBlock () 8
    | 2 => (fun _ => ()) <$> (readVarint32 >>= readBlock ())
    | 5 => (fun _ => ()) <$> readBlock () 4
    | _ => throw ()

/-- The wire format. -/
def wireFormat : WireFormat where
  writeTag field wireType := varint32 (8 * field + wireType)
  writeVarint32 := varint32
  writeInt64NoTag := writeInt64
  writeBytes := prefixed varint32
  int64Size ids := (ids.flatMap writeInt64).length
  int32Size n := (varint32 n).length
  stringSize s := (prefixed varint32 s).length
  verifyUtf8String s := ByteArray.validateUTF8 ⟨s.toArray⟩
  readTag := readTag
  readPackedInt64 := readPacked
  readRepeatedInt64 := readRepeated reservedElements
  readString := readVarint32 >>= readBlock ()
  skipField := skipField

theorem varint_ne_nil (k n : Nat) : varint (k + 1) n ≠ [] := by
  rw [varint]
  split <;> exact List.cons_ne_nil _ _

theorem recognises_readVarint32 {n : Nat} (h : n < 2 ^ 35) :
    Recognises readVarint32 (varint32 n) n :=
  recognises_readVarint () (by omega) (by decide)

theorem recognises_readInt64 (x : Int64) : Recognises readInt64 (writeInt64 x) x := by
  have hfits : natOfInt64 x < 128 ^ 10 := Nat.lt_trans (natOfInt64_lt x) (by decide)
  have hread := (recognises_readVarint () hfits (by decide)).map int64OfNat
  rwa [int64OfNat_natOfInt64] at hread

/-- Without the tag of a packed field behind it, an element stays alone. -/
theorem readRepeated_single (reserved : Nat) (x : Int64) {rest : StdString}
    (hrest : rest.head? ≠ some 10) :
    (readRepeated reserved).run (writeInt64 x ++ rest) = .ok ([x], rest) := by
  have hread := recognises_readInt64 x rest
  cases reserved with
  | zero => exact (recognises_readInt64 x).map (fun x => [x]) rest
  | succ reserved =>
    have hexpect : expectPackedTag rest = .ok (false, rest) := if_neg hrest
    rw [readRepeated, StateT.run_bind, hread]
    show (expectPackedTag rest >>= _) = _
    rw [hexpect]
    rfl

theorem wireFormat_lawful : wireFormat.Lawful where
  tag field wireType rest hpos hfield hwireType := by
    have htag : 8 * field + wireType ≤ 127 := by omega
    have hread := recognises_readVarint32 (n := 8 * field + wireType) (by omega) rest
    show readTag (varint32 (8 * field + wireType) ++ rest) = _
    unfold readTag
    rw [hread]
    simp [htag, hpos]
  tag_ne_nil _ _ := varint_ne_nil 4 _
  endOfInput := ⟨false, rfl⟩
  packed ids hsize := by
    have hlength : (ids.flatMap writeInt64).length < 2 ^ 35 :=
      Nat.lt_of_le_of_lt hsize (by decide)
    have hall : readAll readInt64 () _ (ids.flatMap writeInt64) = .ok ids :=
      readAll_flatMap (fun x _ => recognises_readInt64 x) (fun _ => varint_ne_nil 9 _)
        (Nat.le_refl _)
    -- The block is taken off the input first, and then read to its end.
    refine (recognises_readVarint32 hlength).bind ?_
    refine (recognises_readBlock () _).bind_pure ?_
    rw [hall]
    rfl
  string s hs :=
    Recognises.prefixed () (recognises_readVarint32 (Nat.lt_of_le_of_lt hs (by decide)))
  length_le_stringSize s := by simp [wireFormat, prefixed]

end CppSerializers.Reference.Protobuf
