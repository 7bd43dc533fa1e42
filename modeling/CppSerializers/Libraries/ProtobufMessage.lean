import CppSerializers.Foundation.Progress
import CppSerializers.Libraries.Protobuf

/-!
# Protocol Buffers: the whole generated message

`protobuf_test::Record` holds more than a record. Fields that its schema does not have
are kept by the parser and written out again by the serializer, and two cached sizes
remember what `ByteSizeLong` has computed. Neither is seen by the benchmark, which
serializes what it has filled itself and compares nothing; here the generated code is
embedded with both.

The loop of the parser is `mergePass` under `bounded`, and it says how it ended: at the
end of the input, or at a tag that is zero. `parseFromString` accepts the first only.

## Main definitions

* `FullWireFormat`, `FullWireFormat.Lawful` — the primitives for unknown fields, and the
  documented behaviour of all primitives
* `FullWireFormat.Sized`, `FullWireFormat.Advances` — the sizes of what they write, and that
  they go forward
* `Message` — the generated class
* `Message.byteSizeLong`, `Message.serializeWithCachedSizes`,
  `Message.serializeWithCachedSizesToArray`, `Message.serializeToString`
* `mergePass`, `Message.parseFromString`
* `Message.mergeFrom`, `Message.copyFrom`

## Main results

* `FullWireFormat.Advances.contracting` — a pass goes on with less input
* `mergePass_eq` — a pass by cases on the tag
* `mergePartial_record` — the record is the one that is parsed without regard to unknown
  fields
-/

namespace CppSerializers.Protobuf

open Foundation

/-- The wire format, with what the generated code calls for fields its schema does not
have. -/
structure FullWireFormat extends WireFormat where
  /-- A field of an `UnknownFieldSet`. -/
  UnknownField : Type
  /-- `WireFormat::SkipField` with a set that the field is added to. -/
  readUnknownField : Nat → Reader Unit UInt8 UnknownField
  /-- `WireFormat::SerializeUnknownFieldsToArray`, for one field. -/
  writeUnknownField : UnknownField → StdString
  /-- `WireFormat::ComputeUnknownFieldsSize`, for one field. -/
  unknownFieldSize : UnknownField → Nat

/-! ## The generated code -/

/-- `class Record`. -/
structure Message (W : FullWireFormat) where
  ids : List Int64 := []
  strings : List StdString := []
  /-- `_internal_metadata_`. -/
  unknownFields : List W.UnknownField := []
  /-- `_ids_cached_byte_size_`. -/
  idsCachedByteSize : Nat := 0
  /-- `_cached_size_`. -/
  cachedSize : Nat := 0

variable {W : FullWireFormat}

namespace Message

variable (m : Message W)

/-- The fields of the schema. -/
def record : Record where
  ids := m.ids
  strings := m.strings

/-- `Record::Clear`. The cached sizes are left alone. -/
def clear : Message W := { m with ids := [], strings := [], unknownFields := [] }

/-- `Record::MergeFrom`. -/
def mergeFrom (source : Message W) : Message W :=
  { m with
    unknownFields := m.unknownFields ++ source.unknownFields
    ids := m.ids ++ source.ids
    strings := m.strings ++ source.strings }

/-- `Record::CopyFrom`, of another message. -/
def copyFrom (source : Message W) : Message W := m.clear.mergeFrom source

/-- `m->add_ids(value)`, for several values. -/
def addIds (ids : List Int64) : Message W := { m with ids := m.ids ++ ids }

/-- `m->add_strings(value)`. -/
def addString (value : StdString) : Message W := { m with strings := m.strings ++ [value] }

/-- `mutable_unknown_fields()`, for a field that is added to them. -/
def addUnknownField (field : W.UnknownField) : Message W :=
  { m with unknownFields := m.unknownFields ++ [field] }

/-- `ToCachedSize`: a size as the 32 bits that are written for it. -/
def toCachedSize (size : Nat) : Nat := size % 2 ^ 32

/-- `Record::ByteSizeLong`: the size of the message, and the message with its caches set. -/
def byteSizeLong : Nat × Message W :=
  let size := Protobuf.byteSizeLong W.toWireFormat m.record
  let totalSize := (m.unknownFields.map W.unknownFieldSize).sum + size.totalSize
  (totalSize,
    { m with
      idsCachedByteSize := toCachedSize size.idsCachedByteSize
      cachedSize := toCachedSize totalSize })

/-- `Record::SerializeWithCachedSizes`, which appends to an output stream. -/
def serializeWithCachedSizes (output : StdString) : StdString :=
  let output :=
    if 0 < m.ids.length then
      output ++ W.writeTag 1 lengthDelimited ++ W.writeVarint32 m.idsCachedByteSize
    else output
  let output := m.ids.foldl (fun output x => output ++ W.writeInt64NoTag x) output
  let output := m.strings.foldl (fun output s => output ++ W.writeString 2 s) output
  m.unknownFields.foldl (fun output field => output ++ W.writeUnknownField field) output

/-- `Record::InternalSerializeWithCachedSizesToArray`: what is stored behind `target`. -/
def serializeWithCachedSizesToArray : StdString :=
  Protobuf.serializeWithCachedSizes W.toWireFormat m.idsCachedByteSize m.record ++
    m.unknownFields.flatMap W.writeUnknownField

/-- `SerializeToString`: the sizes first, then the bytes. It fails for a message that would be
longer than `INT_MAX`. -/
def serializeToString : Option (StdString × Message W) :=
  let (totalSize, m) := m.byteSizeLong
  if intMax < totalSize then none else some (m.serializeWithCachedSizesToArray, m)

theorem serializeToString_eq_some {m out : Message W} {bytes : StdString} :
    m.serializeToString = some (bytes, out) ↔
      m.byteSizeLong.1 ≤ intMax ∧ out = m.byteSizeLong.2 ∧
        bytes = out.serializeWithCachedSizesToArray := by
  have hser : m.serializeToString =
      if intMax < m.byteSizeLong.1 then none
      else some (m.byteSizeLong.2.serializeWithCachedSizesToArray, m.byteSizeLong.2) := rfl
  rw [hser]
  by_cases hsize : intMax < m.byteSizeLong.1
  · rw [if_pos hsize]
    exact ⟨fun h => (nomatch h), fun h => absurd h.1 (Nat.not_le.mpr hsize)⟩
  · rw [if_neg hsize, Option.some.injEq, Prod.mk.injEq]
    constructor
    · rintro ⟨rfl, rfl⟩
      exact ⟨Nat.not_lt.mp hsize, rfl, rfl⟩
    · rintro ⟨-, rfl, rfl⟩
      exact ⟨rfl, rfl⟩

end Message

/-- What the loop of the parser has come to: the message, and whether the end of the input was
reached. -/
abbrev Parsed (W : FullWireFormat) := Option (Message W × Bool)

/-- One pass of the `for (;;)` of `Record::MergePartialFromCodedStream`, before the rest of the
loop. -/
def mergePass (loop : Message W × StdString → Parsed W) (a : Message W × StdString) : Parsed W :=
  let (m, stream) := a
  let ((tag, known), input) := W.readTag stream
  -- `handle_unusual`: a tag that is zero ends the loop, any other field is kept.
  let unusual : Parsed W :=
    if tag = 0 then some (m, stream.isEmpty)
    else
      match (W.readUnknownField tag).run input with
      | .error _ => none
      | .ok (field, rest) => loop (m.addUnknownField field, rest)
  if !known then unusual
  else
    match tag / 8 with
    | 1 =>
      if tag % 256 = 10 then
        match W.readPackedInt64.run input with
        | .error _ => none
        | .ok (ids, rest) => loop (m.addIds ids, rest)
      -- The same field, not packed.
      else if tag % 256 = 8 then
        match W.readRepeatedInt64.run input with
        | .error _ => none
        | .ok (ids, rest) => loop (m.addIds ids, rest)
      else unusual
    | 2 =>
      if tag % 256 = 18 then
        match W.readString.run input with
        | .error _ => none
        -- A string that is not UTF-8 fails the parse.
        | .ok (s, rest) => if W.verifyUtf8String s then loop (m.addString s, rest) else none
      else unusual
    | _ => unusual

/-- `Record::MergePartialFromCodedStream`, with a bound on the passes of its loop. -/
def mergePartialFromCodedStream (fuel : Nat) (m : Message W) (stream : StdString) : Parsed W :=
  bounded mergePass (fun _ => none) fuel (m, stream)

/-- `ParseFromString`, over a loop: clear the target, merge, and succeed if the end of the
input was reached. -/
def Message.parseWith (loop : Message W × StdString → Parsed W) (m : Message W)
    (data : StdString) : Option (Message W) :=
  match loop (m.clear, data) with
  | some (m, true) => some m
  | _ => none

/-- `ParseFromString`. Every pass but the last consumes a tag. -/
def Message.parseFromString (m : Message W) (data : StdString) : Option (Message W) :=
  m.parseWith (fun a => mergePartialFromCodedStream (data.length + 1) a.1 a.2) data

/-! ## What the generated code relies on -/

/-- The documented behaviour of the primitives. The tag of an unknown field is none of those
that the parser takes for its own. -/
structure FullWireFormat.Lawful (W : FullWireFormat) : Prop
    extends WireFormat.Lawful W.toWireFormat where
  /-- A tag is known if it is within the cutoff. -/
  known_iff : ∀ stream, (W.readTag stream).1.2 = true ↔
    0 < (W.readTag stream).1.1 ∧ (W.readTag stream).1.1 ≤ 127
  skipField_eq : ∀ tag, W.skipField tag = (fun _ => ()) <$> W.readUnknownField tag
  /-- An element on its own. The generated code has it looked for more elements under the tag of
  a packed field. -/
  unpacked : ∀ x rest, (W.readTag rest).1.1 ≠ 10 →
    W.readRepeatedInt64.run (W.writeInt64NoTag x ++ rest) = .ok ([x], rest)
  unknownField : ∀ field, ∃ tag value, tag ≠ 0 ∧ tag ≠ 8 ∧ tag ≠ 10 ∧ tag ≠ 18 ∧
    (∀ rest, ∃ known,
      W.readTag (W.writeUnknownField field ++ rest) = ((tag, known), value ++ rest)) ∧
    Recognises (W.readUnknownField tag) value field

/-- The documented sizes of what the primitives write. -/
structure FullWireFormat.Sized (W : FullWireFormat) : Prop where
  tag : ∀ field, field < 16 → (W.writeTag field lengthDelimited).length = 1
  varint32 : ∀ n, n ≤ intMax → (W.writeVarint32 n).length = W.int32Size n
  int64 : ∀ ids, (ids.flatMap W.writeInt64NoTag).length = W.int64Size ids
  int64_pos : ∀ x, 0 < (W.writeInt64NoTag x).length
  bytes : ∀ s, s.length ≤ intMax → (W.writeBytes s).length = W.stringSize s
  unknownField : ∀ field, (W.writeUnknownField field).length = W.unknownFieldSize field

/-- No primitive gives input back, and a tag that is not zero has been read from it. -/
structure FullWireFormat.Advances (W : FullWireFormat) : Prop where
  tag : ∀ stream, (W.readTag stream).1.1 ≠ 0 → (W.readTag stream).2.length < stream.length
  packed : Consumes 0 W.readPackedInt64
  repeated : Consumes 0 W.readRepeatedInt64
  string : Consumes 0 W.readString
  unknownField : ∀ tag, Consumes 0 (W.readUnknownField tag)

/-- A pass that does not leave the loop goes on with less input. -/
theorem FullWireFormat.Advances.contracting (h : W.Advances) :
    Contracting (fun a : Message W × StdString => a.2.length) mergePass := by
  rintro ⟨m, stream⟩ loop loop' hloop
  obtain ⟨⟨⟨tag, known⟩, input⟩, htag⟩ : ∃ read, W.readTag stream = read := ⟨_, rfl⟩
  have hshorter := h.tag stream
  simp only [htag] at hshorter
  simp only [mergePass, htag]
  by_cases h0 : tag = 0
  · -- Neither goes on.
    subst h0
    cases known <;> rfl
  have hrest : ∀ {α : Type} {rd : Reader Unit UInt8 α}, Consumes 0 rd →
      ∀ {a : α} {rest : StdString}, rd.run input = .ok (a, rest) →
        ∀ m', loop (m', rest) = loop' (m', rest) := by
    intro α rd hrd a rest hrun m'
    exact hloop (m', rest) (Nat.lt_of_le_of_lt (hrd _ _ _ hrun) (hshorter h0))
  have hunusual :
      (match (W.readUnknownField tag).run input with
        | .error _ => (none : Parsed W)
        | .ok (field, rest) => loop (m.addUnknownField field, rest)) =
        match (W.readUnknownField tag).run input with
        | .error _ => none
        | .ok (field, rest) => loop' (m.addUnknownField field, rest) := by
    split
    · rfl
    · next hrun => exact hrest (h.unknownField tag) hrun _
  simp only [if_neg h0]
  by_cases hknown : known = true
  · subst hknown
    simp only [Bool.not_true, Bool.false_eq_true, if_false]
    split
    · split_ifs
      · split
        · rfl
        · next hrun => exact hrest h.packed hrun _
      · split
        · rfl
        · next hrun => exact hrest h.repeated hrun _
      · exact hunusual
    · split_ifs
      · split
        · rfl
        · next hrun => rw [hrest h.string hrun]
      · exact hunusual
    · exact hunusual
  · simp only [Bool.eq_false_of_not_eq_true hknown]
    exact hunusual

private theorem dispatch_eq {γ : Type} {tag : Nat} {known : Bool}
    (hknown : known = true ↔ 0 < tag ∧ tag ≤ 127) (packed repeated string unusual : γ) :
    (if !known then unusual
      else
        match tag / 8 with
        | 1 => if tag % 256 = 10 then packed else if tag % 256 = 8 then repeated else unusual
        | 2 => if tag % 256 = 18 then string else unusual
        | _ => unusual) =
      if tag = 10 then packed else if tag = 8 then repeated else if tag = 18 then string
      else unusual := by
  cases known with
  | false =>
    have hout : tag = 0 ∨ 127 < tag := by
      by_contra hin
      exact absurd (hknown.mpr (by omega)) (by decide)
    have hne : tag ≠ 10 ∧ tag ≠ 8 ∧ tag ≠ 18 := by omega
    rw [if_neg hne.1, if_neg hne.2.1, if_neg hne.2.2]
    rfl
  | true =>
    obtain ⟨hpos, hle⟩ := hknown.mp rfl
    have hmod : tag % 256 = tag := Nat.mod_eq_of_lt (by omega)
    by_cases h10 : tag = 10
    · subst h10
      rfl
    by_cases h8 : tag = 8
    · subst h8
      rfl
    by_cases h18 : tag = 18
    · subst h18
      rfl
    simp only [hmod, if_neg h10, if_neg h8, if_neg h18, Bool.not_true, Bool.false_eq_true, if_false]
    split <;> rfl

section Passes

variable (h : W.Lawful) {stream input : StdString} {tag : Nat} {known : Bool}
  (htag : W.readTag stream = ((tag, known), input))
include h htag

/-- A pass by cases on the tag. -/
theorem mergePass_eq (loop : Message W × StdString → Parsed W) (m : Message W) :
    mergePass loop (m, stream) =
      if tag = 10 then
        match W.readPackedInt64.run input with
        | .error _ => none
        | .ok (ids, rest) => loop (m.addIds ids, rest)
      else if tag = 8 then
        match W.readRepeatedInt64.run input with
        | .error _ => none
        | .ok (ids, rest) => loop (m.addIds ids, rest)
      else if tag = 18 then
        match W.readString.run input with
        | .error _ => none
        | .ok (s, rest) => if W.verifyUtf8String s then loop (m.addString s, rest) else none
      else if tag = 0 then some (m, stream.isEmpty)
      else
        match (W.readUnknownField tag).run input with
        | .error _ => none
        | .ok (field, rest) => loop (m.addUnknownField field, rest) := by
  have hknown := h.known_iff stream
  rw [htag] at hknown
  simp only [mergePass, htag]
  exact dispatch_eq hknown _ _ _ _

private theorem mergePartial_succ (fuel : Nat) (r : Record) :
    mergePartial W.toWireFormat (fuel + 1) r stream =
      if tag = 10 then
        match W.readPackedInt64.run input with
        | .error _ => (false, r, false)
        | .ok (ids, rest) => mergePartial W.toWireFormat fuel { r with ids := r.ids ++ ids } rest
      else if tag = 8 then
        match W.readRepeatedInt64.run input with
        | .error _ => (false, r, false)
        | .ok (ids, rest) => mergePartial W.toWireFormat fuel { r with ids := r.ids ++ ids } rest
      else if tag = 18 then
        match W.readString.run input with
        | .error _ => (false, r.pushString [], false)
        | .ok (s, rest) =>
          if W.verifyUtf8String s then mergePartial W.toWireFormat fuel (r.pushString s) rest
          else (false, r.pushString s, false)
      else if tag = 0 then (true, r, stream.isEmpty)
      else
        match (W.skipField tag).run input with
        | .error _ => (false, r, false)
        | .ok (_, rest) => mergePartial W.toWireFormat fuel r rest := by
  have hknown := h.known_iff stream
  rw [htag] at hknown
  simp only [mergePartial, htag]
  exact dispatch_eq hknown _ _ _ _

end Passes

/-! ## The record without regard to unknown fields -/

/-- The loop with unknown fields does what the loop without them does. -/
theorem mergePartial_record (h : W.Lawful) (fuel : Nat) (m : Message W) (stream : StdString) :
    (∃ out ended, mergePartialFromCodedStream fuel m stream = some (out, ended) ∧
      mergePartial W.toWireFormat fuel m.record stream = (true, out.record, ended)) ∨
    (mergePartialFromCodedStream fuel m stream = none ∧
      (mergePartial W.toWireFormat fuel m.record stream).1 = false) := by
  induction fuel generalizing m stream with
  | zero => exact Or.inr ⟨rfl, rfl⟩
  | succ fuel ih =>
    obtain ⟨⟨⟨tag, known⟩, input⟩, htag⟩ : ∃ read, W.readTag stream = read := ⟨_, rfl⟩
    rw [mergePartialFromCodedStream, bounded, mergePass_eq h htag, mergePartial_succ h htag]
    split_ifs with h10 h8 h18 h0
    · -- Packed integers.
      split
      · exact Or.inr ⟨rfl, rfl⟩
      · exact ih (m.addIds _) _
    · split
      · exact Or.inr ⟨rfl, rfl⟩
      · exact ih (m.addIds _) _
    · split
      · exact Or.inr ⟨rfl, rfl⟩
      · split_ifs
        · exact ih (m.addString _) _
        · exact Or.inr ⟨rfl, rfl⟩
    · exact Or.inl ⟨m, stream.isEmpty, rfl, rfl⟩
    · -- An unknown field is kept by one and dropped by the other.
      rw [h.skipField_eq, StateT.run_map]
      cases (W.readUnknownField tag).run input with
      | error e => exact Or.inr ⟨rfl, rfl⟩
      | ok out => exact ih (m.addUnknownField out.1) out.2

end CppSerializers.Protobuf
