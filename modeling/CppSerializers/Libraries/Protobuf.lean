import CppSerializers.Model.Data
import Mathlib.Algebra.Order.BigOperators.Group.List

/-!
# Protocol Buffers: the generated record code over the wire format

`protobuf/test.pb.cc` serializes a `Record` in two steps, a pass that computes and
caches sizes and a pass that writes, and parses by merging one tagged field after
another into the target. The primitives it calls (`WireFormatLite`,
`CodedInputStream`) belong to the Protobuf library and are the parameter
`WireFormat`; `WireFormat.Lawful` states what the generated code relies on.

The parser checks every string for UTF-8 and gives up on the first that is not,
while the serializer only logs it. So a payload string that is not UTF-8 is
serialized, and the parser then rejects the message: `parse_serialize` and
`parse_serialize_invalid` are the two cases.

Unknown fields are left out: the benchmark never serializes a parsed message.
-/

namespace CppSerializers.Protobuf

open Foundation

/-- The wire-format primitives called by the generated code. A reader fails where the
C++ call returns `false`. -/
structure WireFormat where
  /-- `WriteTagToArray`, with the field number and the wire type. -/
  writeTag : Nat → Nat → StdString
  /-- `WriteVarint32ToArray`. -/
  writeVarint32 : Nat → StdString
  /-- `WriteInt64NoTagToArray`, for one element. -/
  writeInt64NoTag : Int64 → StdString
  /-- The length and the bytes of a string. -/
  writeBytes : StdString → StdString
  int64Size : List Int64 → Nat
  int32Size : Nat → Nat
  stringSize : StdString → Nat
  verifyUtf8String : StdString → Bool
  /-- `ReadTagWithCutoffNoLastTag(127)`: the tag, zero at the end of the input, and
  whether it is nonzero and within the cutoff. -/
  readTag : StdString → (Nat × Bool) × StdString
  /-- `ReadPackedPrimitive<int64>`. -/
  readPackedInt64 : Reader Unit UInt8 (List Int64)
  /-- `ReadRepeatedPrimitiveNoInline<int64>`, for elements that carry a tag each. -/
  readRepeatedInt64 : Reader Unit UInt8 (List Int64)
  /-- `WireFormatLite::ReadString`. -/
  readString : Reader Unit UInt8 StdString
  /-- `WireFormat::SkipField`. -/
  skipField : Nat → Reader Unit UInt8 Unit

variable (W : WireFormat)

/-- `WIRETYPE_LENGTH_DELIMITED`. -/
def lengthDelimited : Nat := 2

/-- `INT_MAX`. -/
def intMax : Nat := 2147483647

/-- `WriteStringToArray(field_number, value, target)`. -/
def WireFormat.writeString (field : Nat) (s : StdString) : StdString :=
  W.writeTag field lengthDelimited ++ W.writeBytes s

/-! ## The generated code -/

/-- `Record::Clear`. -/
def clear (_ : Record) : Record := {}

/-- What `Record::ByteSizeLong` computes: the size of the message, and the size of the
packed `ids` that it stores in `_ids_cached_byte_size_`. -/
structure ByteSize where
  totalSize : Nat
  idsCachedByteSize : Nat

/-- `Record::ByteSizeLong`. -/
def byteSizeLong (r : Record) : ByteSize :=
  let dataSize := W.int64Size r.ids
  -- An empty vector is not written at all.
  let idsSize := (if 0 < dataSize then 1 + W.int32Size dataSize else 0) + dataSize
  let stringsSize := 1 * r.strings.length + (r.strings.map W.stringSize).sum
  ⟨idsSize + stringsSize, dataSize⟩

/-- `Record::InternalSerializeWithCachedSizesToArray`. `VerifyUtf8String` in mode
`SERIALIZE` reports a malformed string and goes on. -/
def serializeWithCachedSizes (idsCachedByteSize : Nat) (r : Record) : StdString :=
  (if 0 < r.ids.length then
    W.writeTag 1 lengthDelimited ++
      (W.writeVarint32 idsCachedByteSize ++ r.ids.flatMap W.writeInt64NoTag)
  else []) ++ r.strings.flatMap (W.writeString 2)

/-- `SerializeToString`, which replaces the content of its output: with the message, or
with nothing when the message would be longer than `INT_MAX`. -/
def serializeToString (r : Record) : StdString :=
  let size := byteSizeLong W r
  if intMax < size.totalSize then [] else serializeWithCachedSizes W size.idsCachedByteSize r

/-- What merging has come to: success, the target, and whether the end of the input was
reached. -/
abbrev Merged := Bool × Record × Bool

/-- `Record::MergePartialFromCodedStream`. The number of passes of its `for (;;)` is
bounded by `fuel`; every pass but the last consumes a tag. -/
def mergePartial : Nat → Record → StdString → Merged
  | 0, r, _ => (false, r, false)
  | fuel + 1, r, stream =>
    let ((tag, known), input) := W.readTag stream
    -- `handle_unusual`: a tag that is zero ends the loop, any other field is skipped.
    let unusual : Merged :=
      if tag = 0 then (true, r, stream.isEmpty)
      else
        match (W.skipField tag).run input with
        | .error _ => (false, r, false)
        | .ok (_, rest) => mergePartial fuel r rest
    if !known then unusual
    else
      match tag / 8 with
      | 1 =>
        if tag % 256 = 10 then
          match W.readPackedInt64.run input with
          | .error _ => (false, r, false)
          | .ok (ids, rest) => mergePartial fuel { r with ids := r.ids ++ ids } rest
        -- The same field, not packed.
        else if tag % 256 = 8 then
          match W.readRepeatedInt64.run input with
          | .error _ => (false, r, false)
          | .ok (ids, rest) => mergePartial fuel { r with ids := r.ids ++ ids } rest
        else unusual
      | 2 =>
        if tag % 256 = 18 then
          match W.readString.run input with
          -- The string has been added before it is read.
          | .error _ => (false, r.pushString [], false)
          | .ok (s, rest) =>
            if W.verifyUtf8String s then mergePartial fuel (r.pushString s) rest
            else (false, r.pushString s, false)
        else unusual
      | _ => unusual

/-- `ParseFromString`: clear the target, merge, and succeed if the end of the input was
reached. -/
def parseFromString (data : StdString) (r : Record) : Bool × Record :=
  let (ok, r, ended) := mergePartial W (data.length + 1) (clear r) data
  (ok && ended, r)

/-! ## What the benchmark sees -/

/-- Serializing and parsing whole records. -/
structure MessageCodec where
  serializeToString : Record → StdString
  parseFromString : StdString → Record → Bool × Record

/-- The generated code over a wire format. -/
def WireFormat.codec : MessageCodec where
  serializeToString := Protobuf.serializeToString W
  parseFromString := Protobuf.parseFromString W

/-- A parse of the serialized record that succeeds restores the record, and it succeeds
for every target or for none. -/
def MessageCodec.Exact (c : MessageCodec) (r : Record) : Prop :=
  ∀ target target', (c.parseFromString (c.serializeToString r) target).1 = true →
    c.parseFromString (c.serializeToString r) target' = (true, r)

/-! ## What the generated code relies on -/

/-- The documented behaviour of the wire-format primitives. -/
structure WireFormat.Lawful : Prop where
  tag : ∀ field wireType rest, 0 < field → field < 16 → wireType < 8 →
    W.readTag (W.writeTag field wireType ++ rest) = ((8 * field + wireType, true), rest)
  tag_ne_nil : ∀ field wireType, W.writeTag field wireType ≠ []
  endOfInput : ∃ known, W.readTag [] = ((0, known), [])
  packed : ∀ ids, W.int64Size ids ≤ intMax → Recognises W.readPackedInt64
    (W.writeVarint32 (W.int64Size ids) ++ ids.flatMap W.writeInt64NoTag) ids
  string : ∀ s, s.length ≤ intMax → Recognises W.readString (W.writeBytes s) s
  length_le_stringSize : ∀ s, s.length ≤ W.stringSize s

variable {W}

namespace WireFormat.Lawful

variable (h : W.Lawful)
include h

/-- At the end of the input the loop leaves successfully. -/
theorem merge_end (fuel : Nat) (r : Record) : mergePartial W (fuel + 1) r [] = (true, r, true) := by
  obtain ⟨known, hend⟩ := h.endOfInput
  cases known <;> simp [mergePartial, hend]

/-- One pass over a written string: it is checked, and then added. -/
theorem merge_string {s : StdString} (hs : s.length ≤ intMax) (fuel : Nat) (r : Record)
    (rest : StdString) :
    mergePartial W (fuel + 1) r (W.writeString 2 s ++ rest) =
      if W.verifyUtf8String s then mergePartial W fuel (r.pushString s) rest
      else (false, r.pushString s, false) := by
  have htag := h.tag 2 lengthDelimited (W.writeBytes s ++ rest) (by decide) (by decide) (by decide)
  have hread := h.string s hs rest
  rw [WireFormat.writeString, List.append_assoc, mergePartial, htag]
  simp [lengthDelimited, hread]

/-- One pass over the written integers adds them all. -/
theorem merge_ids {ids : List Int64} (hids : W.int64Size ids ≤ intMax) (fuel : Nat) (r : Record)
    (rest : StdString) :
    mergePartial W (fuel + 1) r (W.writeTag 1 lengthDelimited ++
        (W.writeVarint32 (W.int64Size ids) ++ ids.flatMap W.writeInt64NoTag) ++ rest) =
      mergePartial W fuel { r with ids := r.ids ++ ids } rest := by
  have htag := h.tag 1 lengthDelimited (W.writeVarint32 (W.int64Size ids) ++
    ids.flatMap W.writeInt64NoTag ++ rest) (by decide) (by decide) (by decide)
  have hread := h.packed ids hids rest
  rw [List.append_assoc (W.writeTag 1 lengthDelimited), mergePartial, htag]
  simp [lengthDelimited, hread, -List.append_assoc]

/-- Strings that are all UTF-8 are added one by one, up to the end of the input. -/
theorem merge_strings {ss : List StdString} (hlength : ∀ s ∈ ss, s.length ≤ intMax)
    (hvalid : ∀ s ∈ ss, W.verifyUtf8String s = true) {fuel : Nat} (hfuel : ss.length < fuel)
    (r : Record) :
    mergePartial W fuel r (ss.flatMap (W.writeString 2)) =
      (true, { r with strings := r.strings ++ ss }, true) := by
  -- Each string takes one pass, and the end of the input one more.
  induction ss generalizing fuel r with
  | nil =>
    obtain ⟨fuel, rfl⟩ := Nat.exists_eq_add_of_lt hfuel
    simpa using h.merge_end _ r
  | cons s ss ih =>
    obtain ⟨fuel, rfl⟩ : ∃ k, fuel = k + 1 := ⟨fuel - 1, by omega⟩
    rw [List.forall_mem_cons] at hlength hvalid
    rw [List.flatMap_cons, h.merge_string hlength.1, if_pos hvalid.1,
      ih hlength.2 hvalid.2 (by simpa using hfuel)]
    simp [Record.pushString]

/-- At the first string that is not UTF-8 the merge fails. -/
theorem merge_invalid {ss : List StdString} (hlength : ∀ s ∈ ss, s.length ≤ intMax)
    (hinvalid : ∃ s ∈ ss, W.verifyUtf8String s = false) (fuel : Nat) (r : Record) :
    (mergePartial W fuel r (ss.flatMap (W.writeString 2))).1 = false := by
  induction ss generalizing fuel r with
  | nil => simp at hinvalid
  | cons s ss ih =>
    cases fuel with
    | zero => rfl
    | succ fuel =>
      rw [List.forall_mem_cons] at hlength
      rw [List.flatMap_cons, h.merge_string hlength.1]
      by_cases hs : W.verifyUtf8String s = true
      · rw [if_pos hs]
        refine ih hlength.2 ?_ fuel _
        simpa [hs] using hinvalid
      · rw [if_neg hs]

private theorem length_le_totalSize {r : Record} {s : StdString} (hs : s ∈ r.strings) :
    s.length ≤ (byteSizeLong W r).totalSize := by
  have hsum : W.stringSize s ≤ (r.strings.map W.stringSize).sum :=
    List.single_le_sum (fun _ _ => Nat.zero_le _) _ (List.mem_map_of_mem hs)
  have hsize := h.length_le_stringSize s
  simp only [byteSizeLong]
  omega

omit h in
private theorem int64Size_le_totalSize (r : Record) :
    W.int64Size r.ids ≤ (byteSizeLong W r).totalSize := by
  simp only [byteSizeLong]
  omega

private theorem length_le_flatMap (ss : List StdString) :
    ss.length ≤ (ss.flatMap (W.writeString 2)).length := by
  induction ss with
  | nil => simp
  | cons s ss ih =>
    have htag := List.length_pos_of_ne_nil (h.tag_ne_nil 2 lengthDelimited)
    simp only [List.flatMap_cons, List.length_append, List.length_cons, WireFormat.writeString]
      at ih ⊢
    omega

private theorem merge_serialized {r : Record} (hsize : (byteSizeLong W r).totalSize ≤ intMax) :
    ∃ fuel, r.strings.length < fuel ∧
      mergePartial W ((serializeToString W r).length + 1) {} (serializeToString W r) =
        mergePartial W fuel { ids := r.ids } (r.strings.flatMap (W.writeString 2)) := by
  have hids := Nat.le_trans (int64Size_le_totalSize r) hsize
  have hcount := h.length_le_flatMap r.strings
  simp only [serializeToString, if_neg (Nat.not_lt.mpr hsize), serializeWithCachedSizes]
  by_cases hempty : r.ids = []
  · -- The field is left out altogether.
    exact ⟨_, Nat.lt_succ_of_le hcount, by simp [hempty]⟩
  · have htag := List.length_pos_of_ne_nil (h.tag_ne_nil 1 lengthDelimited)
    rw [if_pos (List.length_pos_of_ne_nil hempty)]
    refine ⟨_, ?_, h.merge_ids hids _ {} _⟩
    simp only [List.length_append]
    omega

/-- **Round trip.** A message within the size limit whose strings are all UTF-8 is parsed
back to the record. -/
theorem parse_serialize {r : Record} (hsize : (byteSizeLong W r).totalSize ≤ intMax)
    (hvalid : ∀ s ∈ r.strings, W.verifyUtf8String s = true) (target : Record) :
    parseFromString W (serializeToString W r) target = (true, r) := by
  obtain ⟨fuel, hfuel, hmerge⟩ := h.merge_serialized hsize
  have hlength : ∀ s ∈ r.strings, s.length ≤ intMax := fun s hs =>
    Nat.le_trans (h.length_le_totalSize hs) hsize
  rw [parseFromString, clear, hmerge, h.merge_strings hlength hvalid hfuel]
  simp

/-- A message with a string that is not UTF-8 is written all the same, and rejected by
the parser. -/
theorem parse_serialize_invalid {r : Record} (hsize : (byteSizeLong W r).totalSize ≤ intMax)
    (hinvalid : ∃ s ∈ r.strings, W.verifyUtf8String s = false) (target : Record) :
    (parseFromString W (serializeToString W r) target).1 = false := by
  obtain ⟨fuel, _, hmerge⟩ := h.merge_serialized hsize
  have hlength : ∀ s ∈ r.strings, s.length ≤ intMax := fun s hs =>
    Nat.le_trans (h.length_le_totalSize hs) hsize
  have hfail := h.merge_invalid hlength hinvalid fuel { ids := r.ids }
  rw [parseFromString, clear, hmerge]
  simp [hfail]

/-- Within the size limit a successful parse is exact. -/
theorem exact {r : Record} (hsize : (byteSizeLong W r).totalSize ≤ intMax) :
    W.codec.Exact r := by
  intro target target' hok
  -- Whether the parse succeeds depends on the strings alone, not on the target.
  by_cases hvalid : ∀ s ∈ r.strings, W.verifyUtf8String s = true
  · exact h.parse_serialize hsize hvalid target'
  · have hfail := h.parse_serialize_invalid hsize (by simpa using hvalid) target
    exact absurd (hok.symm.trans hfail) (by decide)

end WireFormat.Lawful

end CppSerializers.Protobuf
