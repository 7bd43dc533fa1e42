import CppSerializers.Libraries.ProtobufMessage
import CppSerializers.Reference.Protobuf

/-!
# The wire format of Protocol Buffers, with unknown fields

What is kept of an unknown field is its tag and its value. The value is a number, or a
block of as many bytes as the type of the field says or the block itself. Groups are
not supported, and there are no fields with the number zero.
-/

namespace CppSerializers.Reference.Protobuf

open Foundation CppSerializers.Protobuf

/-- The value of a field, by the type in its tag. -/
inductive UnknownValue where
  | varint (n : Nat)
  | fixed (block : StdString)
  | lengthDelimited (block : StdString)

namespace UnknownValue

def write : UnknownValue → StdString
  | .varint n => Foundation.varint 10 n
  | .fixed block => block
  | .lengthDelimited block => prefixed varint32 block

/-- Read a value of the type in a tag. -/
def read (tag : Nat) : Reader Unit UInt8 UnknownValue :=
  match tag % 8 with
  | 0 => (fun n => .varint (n % 2 ^ 64)) <$> readVarint () 10
  | 1 => .fixed <$> readBlock () 8
  | 2 => .lengthDelimited <$> (readVarint32 >>= readBlock ())
  | 5 => .fixed <$> readBlock () 4
  | _ => throw ()

/-- The tag announces such a value, and is none of those of the schema. -/
def HasTag (tag : Nat) (value : UnknownValue) : Prop :=
  8 ≤ tag ∧ tag < 2 ^ 32 ∧ tag ≠ 8 ∧ tag ≠ 10 ∧ tag ≠ 18 ∧
    match value with
    | .varint n => tag % 8 = 0 ∧ n < 2 ^ 64
    | .fixed block => tag % 8 = 1 ∧ block.length = 8 ∨ tag % 8 = 5 ∧ block.length = 4
    | .lengthDelimited block => tag % 8 = 2 ∧ block.length ≤ intMax

instance (tag : Nat) (value : UnknownValue) : Decidable (value.HasTag tag) := by
  unfold HasTag
  cases value <;> infer_instance

end UnknownValue

/-- A field of an unknown field set. -/
structure UnknownField where
  tag : Nat
  value : UnknownValue
  hasTag : value.HasTag tag

def UnknownField.write (field : UnknownField) : StdString :=
  varint32 field.tag ++ field.value.write

/-- Read the value behind a tag. -/
def readUnknownField (tag : Nat) : Reader Unit UInt8 UnknownField := do
  let value ← UnknownValue.read tag
  if h : value.HasTag tag then return ⟨tag, value, h⟩ else throw ()

/-- The wire format, with its unknown fields. -/
def fullWireFormat : FullWireFormat where
  toWireFormat := { wireFormat with skipField := fun tag => (fun _ => ()) <$> readUnknownField tag }
  UnknownField := UnknownField
  readUnknownField := readUnknownField
  writeUnknownField := UnknownField.write
  unknownFieldSize field := field.write.length

/-! ## What is written is recognised -/

theorem recognises_unknownValue {tag : Nat} {value : UnknownValue} (h : value.HasTag tag) :
    Recognises (UnknownValue.read tag) value.write value := by
  obtain ⟨-, -, -, -, -, hvalue⟩ := h
  cases value with
  | varint n =>
    obtain ⟨htype, hn⟩ := hvalue
    have hfits : n < 128 ^ 10 := Nat.lt_trans hn (by decide)
    have hread := (recognises_readVarint () hfits (by decide)).map
      fun n => UnknownValue.varint (n % 2 ^ 64)
    rw [Nat.mod_eq_of_lt hn] at hread
    rw [UnknownValue.read, htype]
    exact hread
  | fixed block =>
    have hread := (recognises_readBlock () block).map UnknownValue.fixed
    rw [UnknownValue.read]
    rcases hvalue with ⟨htype, hlength⟩ | ⟨htype, hlength⟩
    · rw [htype]
      rwa [hlength] at hread
    · rw [htype]
      rwa [hlength] at hread
  | lengthDelimited block =>
    obtain ⟨htype, hlength⟩ := hvalue
    have hsize := recognises_readVarint32 (Nat.lt_of_le_of_lt hlength (by decide))
    rw [UnknownValue.read, htype]
    exact (Recognises.prefixed () hsize).map UnknownValue.lengthDelimited

theorem recognises_readUnknownField (field : UnknownField) :
    Recognises (readUnknownField field.tag) field.value.write field := by
  refine (recognises_unknownValue field.hasTag).bind_pure ?_
  rw [dif_pos field.hasTag]

theorem fullWireFormat_lawful : fullWireFormat.Lawful where
  toLawful := { wireFormat_lawful with }
  known_iff stream := by
    show (readTag stream).1.2 = true ↔ 0 < (readTag stream).1.1 ∧ (readTag stream).1.1 ≤ 127
    unfold readTag
    split
    · simp only [decide_eq_true_eq]
    · exact ⟨fun h => Bool.noConfusion h, fun h => absurd h.1 (Nat.lt_irrefl 0)⟩
  skipField_eq _ := rfl
  unpacked x rest hrest := by
    refine readRepeated_single reservedElements x fun hhead => hrest ?_
    obtain ⟨rest, rfl⟩ := List.head?_eq_some_iff.mp hhead
    rfl
  unknownField field := by
    obtain ⟨h8, h32, hne8, hne10, hne18, -⟩ := field.hasTag
    refine ⟨field.tag, field.value.write, by omega, hne8, hne10, hne18, fun rest => ?_,
      recognises_readUnknownField field⟩
    have hread := recognises_readVarint32 (Nat.lt_trans h32 (by decide : 2 ^ 32 < 2 ^ 35))
      (field.value.write ++ rest)
    show ∃ known, readTag ((varint32 field.tag ++ field.value.write) ++ rest) = _
    rw [List.append_assoc, readTag, hread]
    exact ⟨_, rfl⟩

/-! ## The readers only go forward -/

private theorem consumes_readVarint32 : Consumes 1 readVarint32 := Consumes.readVarint () 5

private theorem consumes_readInt64 : Consumes 0 readInt64 :=
  ((Consumes.readVarint () 10).map int64OfNat).mono (Nat.zero_le 1)

private theorem consumes_expectPackedTag : Consumes 0 expectPackedTag := by
  intro stream expected rest hrun
  change (if stream.head? = some 10 then _ else _) = _ at hrun
  split at hrun
  · cases hrun
    rw [List.length_tail]
    omega
  · cases hrun
    exact Nat.le_refl _

private theorem consumes_readRepeated (reserved : Nat) : Consumes 0 (readRepeated reserved) := by
  induction reserved with
  | zero => exact consumes_readInt64.map fun x => [x]
  | succ reserved ih =>
    rw [readRepeated]
    refine consumes_readInt64.bind (n := 0) fun x => ?_
    refine consumes_expectPackedTag.bind (n := 0) fun expected => ?_
    split_ifs
    · exact ih.bind (n := 0) fun xs => Consumes.pure _
    · exact Consumes.pure _

private theorem consumes_readSized : Consumes 0 (readVarint32 >>= readBlock ()) :=
  (consumes_readVarint32.mono (Nat.zero_le 1)).bind (n := 0) fun size =>
    (Consumes.readBlock () size).mono (Nat.zero_le size)

private theorem consumes_unknownValue (tag : Nat) : Consumes 0 (UnknownValue.read tag) := by
  unfold UnknownValue.read
  split
  · exact ((Consumes.readVarint () 10).map _).mono (Nat.zero_le 1)
  · exact ((Consumes.readBlock () 8).map _).mono (Nat.zero_le 8)
  · exact consumes_readSized.map _
  · exact ((Consumes.readBlock () 4).map _).mono (Nat.zero_le 4)
  · exact Consumes.throw _

theorem fullWireFormat_advances : fullWireFormat.Advances where
  tag stream h := by
    change (readTag stream).1.1 ≠ 0 at h
    show (readTag stream).2.length < stream.length
    unfold readTag at h ⊢
    split at h
    · next hrun => exact consumes_readVarint32 _ _ _ hrun
    · exact absurd rfl h
  packed := by
    refine (consumes_readVarint32.mono (Nat.zero_le 1)).bind (n := 0) fun size => ?_
    refine ((Consumes.readBlock () size).mono (Nat.zero_le size)).bind (n := 0) fun block => ?_
    exact Consumes.ofExcept _
  repeated := consumes_readRepeated reservedElements
  string := consumes_readSized
  unknownField tag := by
    refine (consumes_unknownValue tag).bind (n := 0) fun value => ?_
    split_ifs
    · exact Consumes.pure _
    · exact Consumes.throw _

theorem fullWireFormat_sized : fullWireFormat.Sized where
  tag field hfield := by
    have htag : 8 * field + lengthDelimited < 128 := by
      unfold lengthDelimited
      omega
    show (varint 5 (8 * field + lengthDelimited)).length = 1
    rw [varint, if_pos htag]
    rfl
  varint32 _ _ := rfl
  int64 _ := rfl
  int64_pos _ := List.length_pos_of_ne_nil (varint_ne_nil 9 _)
  bytes _ _ := rfl
  unknownField _ := rfl

end CppSerializers.Reference.Protobuf
