import CppSerializers.Reference.ProtobufMessage
import Mathlib.Data.List.Chain

/-!
# Protocol Buffers: messages of any origin

The wire format leaves the writer of a message much freedom: fields may come in any
order, the integers packed or one by one, in one field or in many, and between them
fields that only another version of the schema has. `parse_fields` says what the
generated parser makes of all this. It appends what it finds to the message, keeps what
it does not know, and rejects the message at the first string that is not UTF-8.

From this follow the laws that make messages composable: concatenated serializations
parse to the messages merged in order, and so a serialization to the message itself,
with its unknown fields. And since every message that was accepted can be serialized,
reading a message of a newer schema and writing it again loses nothing.

One restriction is the generated code's own. After an integer that is not packed it looks
for more of them under the tag of a packed field, so a packed field must not follow
directly.

## Main definitions

* `Field`, `Field.write` — the fields a message can be made of
* `Field.Separated` — no packed field directly behind an integer
* `Message.fields` — the fields that the serializer writes

## Main results

* `parse_fields` — parsing an arbitrary sequence of fields
* `parse_concatenation` — parsing concatenated serializations
* `parse_reserialized` — serializing what was parsed
* `serialize_size` — both serializers write as many bytes as `ByteSizeLong` says
* `parse_eq_unbounded` — the bound on the passes of the parser is no restriction
-/

namespace CppSerializers.Protobuf

open Foundation

variable {W : FullWireFormat}

/-! ## Fields -/

/-- A field as it may stand in a message. -/
inductive Field (W : FullWireFormat) where
  | packed (ids : List Int64)
  | unpacked (x : Int64)
  | string (s : StdString)
  | unknown (field : W.UnknownField)

namespace Field

/-- The bytes of the field. -/
def write : Field W → StdString
  | .packed ids => W.writeTag 1 lengthDelimited ++
      (W.writeVarint32 (W.int64Size ids) ++ ids.flatMap W.writeInt64NoTag)
  | .unpacked x => W.writeTag 1 0 ++ W.writeInt64NoTag x
  | .string s => W.writeString 2 s
  | .unknown field => W.writeUnknownField field

/-- The field is short enough for its length to be written. -/
def FitsIn (limit : Nat) : Field W → Prop
  | .packed ids => W.int64Size ids ≤ limit
  | .string s => s.length ≤ limit
  | _ => True

/-- A string field is UTF-8. -/
def valid : Field W → Bool
  | .string s => W.verifyUtf8String s
  | _ => true

/-- What the parser does with the field. -/
def add (m : Message W) : Field W → Message W
  | .packed ids => m.addIds ids
  | .unpacked x => m.addIds [x]
  | .string s => m.addString s
  | .unknown field => m.addUnknownField field

def ids : Field W → List Int64
  | .packed xs => xs
  | .unpacked x => [x]
  | _ => []

def strings : Field W → List StdString
  | .string s => [s]
  | _ => []

def unknownFields : Field W → List W.UnknownField
  | .unknown field => [field]
  | _ => []

def isPacked : Field W → Bool
  | .packed _ => true
  | _ => false

def isUnpacked : Field W → Bool
  | .unpacked _ => true
  | _ => false

/-- The second field may directly follow the first. -/
def Separated (first second : Field W) : Prop := first.isUnpacked = true → second.isPacked = false

end Field

private theorem foldl_add (fields : List (Field W)) (m : Message W) :
    fields.foldl Field.add m =
      { m with
        ids := m.ids ++ fields.flatMap Field.ids
        strings := m.strings ++ fields.flatMap Field.strings
        unknownFields := m.unknownFields ++ fields.flatMap Field.unknownFields } := by
  induction fields generalizing m with
  | nil => simp
  | cons field fields ih =>
    rw [List.foldl_cons, ih]
    cases field <;>
      simp [Field.add, Field.ids, Field.strings, Field.unknownFields, Message.addIds,
        Message.addString, Message.addUnknownField]

section Fields

variable (h : W.Lawful) {field : Field W} {fields : List (Field W)}
include h

/-! The tags of this schema. -/

private theorem readTag_packed (rest : StdString) :
    W.readTag (W.writeTag 1 lengthDelimited ++ rest) = ((10, true), rest) :=
  h.tag 1 lengthDelimited rest (by decide) (by decide) (by decide)

private theorem readTag_unpacked (rest : StdString) :
    W.readTag (W.writeTag 1 0 ++ rest) = ((8, true), rest) :=
  h.tag 1 0 rest (by decide) (by decide) (by decide)

private theorem readTag_string (rest : StdString) :
    W.readTag (W.writeTag 2 lengthDelimited ++ rest) = ((18, true), rest) :=
  h.tag 2 lengthDelimited rest (by decide) (by decide) (by decide)

private theorem readTag_write (field : Field W) (rest : StdString) :
    ∃ tag known input, W.readTag (field.write ++ rest) = ((tag, known), input) ∧ tag ≠ 0 ∧
      (field.isPacked = false → tag ≠ 10) := by
  cases field with
  | packed ids =>
    rw [Field.write, List.append_assoc]
    exact ⟨10, _, _, readTag_packed h _, by decide, fun hpacked => Bool.noConfusion hpacked⟩
  | unpacked x =>
    rw [Field.write, List.append_assoc]
    exact ⟨8, _, _, readTag_unpacked h _, by decide, fun _ => by decide⟩
  | string s =>
    rw [Field.write, WireFormat.writeString, List.append_assoc]
    exact ⟨18, _, _, readTag_string h _, by decide, fun _ => by decide⟩
  | unknown field =>
    obtain ⟨tag, value, h0, -, h10, -, htag, -⟩ := h.unknownField field
    obtain ⟨known, htag⟩ := htag rest
    exact ⟨tag, known, value ++ rest, htag, h0, fun _ => h10⟩

private theorem write_ne_nil (field : Field W) : field.write ≠ [] := by
  intro hempty
  obtain ⟨tag, known, input, htag, hne, -⟩ := readTag_write h field []
  obtain ⟨_, hend⟩ := h.endOfInput
  rw [hempty, List.nil_append, hend] at htag
  cases htag
  exact hne rfl

private theorem readTag_rest (hchain : (field :: fields).IsChain Field.Separated)
    (hfield : field.isUnpacked = true) : (W.readTag (fields.flatMap Field.write)).1.1 ≠ 10 := by
  cases fields with
  | nil =>
    obtain ⟨_, hend⟩ := h.endOfInput
    rw [List.flatMap_nil, hend]
    exact Nat.zero_ne_add_one 9
  | cons next fields =>
    have hnext : field.Separated next := hchain.rel_head? rfl
    obtain ⟨tag, known, input, htag, -, hne⟩ :=
      readTag_write h next (fields.flatMap Field.write)
    rw [List.flatMap_cons, htag]
    exact hne (hnext hfield)

private theorem mergePass_write (loop : Message W × StdString → Parsed W) (m : Message W)
    {rest : StdString} (hfits : field.FitsIn intMax)
    (hrest : field.isUnpacked = true → (W.readTag rest).1.1 ≠ 10) :
    mergePass loop (m, field.write ++ rest) =
      if field.valid then loop (field.add m, rest) else none := by
  cases field with
  | packed ids =>
    have hread := h.packed ids hfits rest
    rw [Field.write, List.append_assoc (W.writeTag 1 lengthDelimited),
      mergePass_eq h (readTag_packed h _), if_pos rfl, hread]
    rfl
  | unpacked x =>
    have hread := h.unpacked x rest (hrest rfl)
    rw [Field.write, List.append_assoc, mergePass_eq h (readTag_unpacked h _),
      if_neg (by decide), if_pos rfl, hread]
    rfl
  | string s =>
    have hread := h.string s hfits rest
    rw [Field.write, WireFormat.writeString, List.append_assoc, mergePass_eq h (readTag_string h _),
      if_neg (by decide), if_neg (by decide), if_pos rfl, hread]
    rfl
  | unknown field =>
    obtain ⟨tag, value, h0, h8, h10, h18, htag, hread⟩ := h.unknownField field
    obtain ⟨known, htag⟩ := htag rest
    rw [Field.write, mergePass_eq h htag, if_neg h10, if_neg h8, if_neg h18, if_neg h0, hread rest]
    rfl

private theorem merge_fields (hfits : ∀ field ∈ fields, field.FitsIn intMax)
    (hchain : fields.IsChain Field.Separated) {fuel : Nat} (hfuel : fields.length < fuel)
    (m : Message W) :
    mergePartialFromCodedStream fuel m (fields.flatMap Field.write) =
      if fields.all Field.valid then some (fields.foldl Field.add m, true) else none := by
  induction fields generalizing fuel m with
  | nil =>
    obtain ⟨fuel, rfl⟩ := Nat.exists_eq_add_of_lt hfuel
    obtain ⟨_, hend⟩ := h.endOfInput
    exact mergePass_eq h hend _ m
  | cons field fields ih =>
    obtain ⟨fuel, rfl⟩ : ∃ k, fuel = k + 1 := ⟨fuel - 1, by omega⟩
    rw [List.forall_mem_cons] at hfits
    have hrest := ih hfits.2 hchain.tail (by simpa using hfuel) (field.add m)
    rw [mergePartialFromCodedStream, bounded, List.flatMap_cons,
      mergePass_write h _ m hfits.1 (readTag_rest h hchain)]
    -- A field that is not valid ends the loop; the others are not looked at.
    by_cases hvalid : field.valid = true
    · rw [if_pos hvalid, List.all_cons, hvalid, Bool.true_and]
      exact hrest
    · rw [if_neg hvalid, List.all_cons, Bool.eq_false_of_not_eq_true hvalid]
      rfl

private theorem parseFromString_fields (hfits : ∀ field ∈ fields, field.FitsIn intMax)
    (hchain : fields.IsChain Field.Separated) (target : Message W) :
    target.parseFromString (fields.flatMap Field.write) =
      if fields.all Field.valid then some (fields.foldl Field.add target.clear) else none := by
  have hfuel : fields.length ≤ (fields.flatMap Field.write).length := by
    rw [List.length_flatMap, ← List.length_map (f := fun field : Field W => field.write.length)]
    refine List.length_le_sum_of_one_le _ fun n hn => ?_
    obtain ⟨field, -, rfl⟩ := List.mem_map.mp hn
    exact List.length_pos_of_ne_nil (write_ne_nil h field)
  have hmerge := merge_fields h hfits hchain (Nat.lt_succ_of_le hfuel) target.clear
  rw [Message.parseFromString, Message.parseWith, hmerge]
  split_ifs <;> rfl

/-- **Parsing an arbitrary sequence of fields**, as long as no packed field is directly behind an
unpacked integer and every length is that of an `int`. The message is rejected if a string is not
UTF-8; otherwise it is made of what the fields hold, in their order, whatever the target held. -/
theorem parse_fields (hfits : ∀ field ∈ fields, field.FitsIn intMax)
    (hchain : fields.IsChain Field.Separated) (target : Message W) :
    target.parseFromString (fields.flatMap Field.write) =
      if fields.all Field.valid then
        some { target with
          ids := fields.flatMap Field.ids
          strings := fields.flatMap Field.strings
          unknownFields := fields.flatMap Field.unknownFields }
      else none := by
  rw [parseFromString_fields h hfits hchain target, foldl_add]
  rfl

end Fields

section Reference

open CppSerializers.Reference.Protobuf

/-- A message of a newer schema, which has a version, by a writer that mixes its integers. -/
def newerFields : List (Field fullWireFormat) :=
  [.string (lit "a"), .unknown ⟨24, .varint 5, by decide⟩, .packed [1, 2], .unpacked 3]

private theorem newerFields_fitIn : ∀ field ∈ newerFields, field.FitsIn intMax := by
  simp only [newerFields, List.forall_mem_cons, List.not_mem_nil, false_imp_iff, implies_true,
    and_true]
  have hstring : (lit "a").length ≤ intMax := by decide
  have hpacked : fullWireFormat.int64Size [1, 2] ≤ intMax := by decide
  exact ⟨hstring, trivial, hpacked, trivial⟩

private theorem newerFields_isChain : newerFields.IsChain Field.Separated := by
  simp only [newerFields, List.isChain_cons_cons, List.isChain_singleton, and_true]
  exact ⟨fun h => Bool.noConfusion h, fun h => Bool.noConfusion h, fun h => Bool.noConfusion h⟩

/-- What becomes of it: all integers in order, and the version is kept. -/
def newerMessage : Message fullWireFormat where
  ids := [1, 2, 3]
  strings := [lit "a"]
  unknownFields := [⟨24, .varint 5, by decide⟩]

theorem parse_fields_newer :
    Message.parseFromString {} (newerFields.flatMap Field.write) = some newerMessage :=
  parse_fields fullWireFormat_lawful newerFields_fitIn newerFields_isChain {}

/-- Behind an unpacked integer a packed field is not understood. -/
example : Message.parseFromString (W := fullWireFormat) {} [8, 3, 10, 2, 1, 2] = none := rfl

/-- The bytes it is serialized to. -/
def newerBytes : StdString := [10, 3, 1, 2, 3, 18, 1, 97, 24, 5]

private theorem serialize_newer :
    newerMessage.serializeToString = some (newerBytes, newerMessage.byteSizeLong.2) := rfl

private theorem parse_newer :
    Message.parseFromString {} (newerFields.flatMap Field.write) = some newerMessage :=
  parseFromString_fields fullWireFormat_lawful newerFields_fitIn newerFields_isChain {}

end Reference

/-! ## Serialized messages -/

/-- The fields the serializer writes: the integers packed, unless there are none. -/
def Message.fields (m : Message W) : List (Field W) :=
  (if 0 < m.ids.length then [.packed m.ids] else []) ++ m.strings.map .string ++
    m.unknownFields.map .unknown

private theorem fits_of_byteSizeLong (h : W.Lawful) {m : Message W}
    (hsize : m.byteSizeLong.1 ≤ intMax) :
    W.int64Size m.ids ≤ intMax ∧ ∀ s ∈ m.strings, s.length ≤ intMax := by
  simp only [Message.byteSizeLong, byteSizeLong, Message.record] at hsize
  refine ⟨by omega, fun s hs => ?_⟩
  have hsum : W.stringSize s ≤ (m.strings.map W.stringSize).sum :=
    List.single_le_sum (fun _ _ => Nat.zero_le _) _ (List.mem_map_of_mem hs)
  have hlength := h.length_le_stringSize s
  omega

private theorem toCachedSize_eq {size : Nat} (hsize : size ≤ intMax) :
    Message.toCachedSize size = size :=
  Nat.mod_eq_of_lt (Nat.lt_of_le_of_lt hsize (by decide))

private theorem serializeToString_fields (h : W.Lawful) {m out : Message W} {bytes : StdString}
    (hser : m.serializeToString = some (bytes, out)) :
    bytes = m.fields.flatMap Field.write ∧ ∀ field ∈ m.fields, field.FitsIn intMax := by
  obtain ⟨hsize, rfl, rfl⟩ := Message.serializeToString_eq_some.mp hser
  obtain ⟨hids, hstring⟩ := fits_of_byteSizeLong h hsize
  have hcast := toCachedSize_eq hids
  constructor
  · simp only [Message.serializeWithCachedSizesToArray, serializeWithCachedSizes,
      Message.byteSizeLong, byteSizeLong, Message.record, hcast, Message.fields,
      List.flatMap_append, List.flatMap_map]
    split_ifs <;> simp [Field.write]
  · intro field hfield
    simp only [Message.fields, List.mem_append, List.mem_map] at hfield
    rcases hfield with (hfield | ⟨s, hs, rfl⟩) | ⟨unknown, -, rfl⟩
    · split at hfield
      · obtain rfl := List.mem_singleton.mp hfield
        exact hids
      · cases hfield
    · exact hstring s hs
    · trivial

private theorem isUnpacked_of_mem_fields {m : Message W} {field : Field W}
    (hfield : field ∈ m.fields) : field.isUnpacked = false := by
  simp only [Message.fields, List.mem_append, List.mem_map] at hfield
  rcases hfield with (hfield | ⟨s, -, rfl⟩) | ⟨unknown, -, rfl⟩
  · split at hfield
    · obtain rfl := List.mem_singleton.mp hfield
      rfl
    · cases hfield
  · rfl
  · rfl

private theorem isChain_of_packed {fields : List (Field W)}
    (hpacked : ∀ field ∈ fields, field.isUnpacked = false) : fields.IsChain Field.Separated := by
  refine List.Pairwise.isChain (List.pairwise_iff_forall_sublist.mpr fun {first second} hsub => ?_)
  intro hunpacked
  rw [hpacked first (hsub.subset List.mem_cons_self)] at hunpacked
  cases hunpacked

private theorem foldl_fields (m source : Message W) :
    source.fields.foldl Field.add m = m.mergeFrom source := by
  have hids : source.fields.flatMap Field.ids = source.ids := by
    cases hempty : source.ids <;> simp [Message.fields, hempty, Field.ids, List.flatMap_map]
  have hstrings : source.fields.flatMap Field.strings = source.strings := by
    unfold Message.fields
    split_ifs <;> simp [Field.strings, List.flatMap_map]
  have hunknown : source.fields.flatMap Field.unknownFields = source.unknownFields := by
    unfold Message.fields
    split_ifs <;> simp [Field.unknownFields, List.flatMap_map]
  rw [foldl_add, hids, hstrings, hunknown]
  rfl

private theorem all_valid_fields (m : Message W) :
    m.fields.all Field.valid = m.strings.all W.verifyUtf8String := by
  unfold Message.fields
  split_ifs <;> simp [Field.valid, List.all_map, Function.comp_def]

/-- **Parsing concatenated serializations** merges the messages in order, their unknown fields
included, into a target that has been cleared. The parser has the size of its input in an `int`,
so the concatenation must not be longer than `intMax`. -/
theorem parse_concatenation (h : W.Lawful) {ms : List (Message W)} {chunks : List StdString}
    (hser : List.Forall₂ (fun m bytes => m.serializeToString.map Prod.fst = some bytes) ms chunks)
    (target : Message W) :
    target.parseFromString chunks.flatten =
      if ms.all (fun m => m.strings.all W.verifyUtf8String) then
        some (ms.foldl Message.mergeFrom target.clear)
      else none := by
  obtain ⟨hbytes, hfits⟩ : chunks.flatten = (ms.flatMap Message.fields).flatMap Field.write ∧
      ∀ field ∈ ms.flatMap Message.fields, field.FitsIn intMax := by
    induction hser with
    | nil => exact ⟨rfl, by simp⟩
    | cons hm _ ih =>
      obtain ⟨⟨_, out⟩, hout, rfl⟩ := Option.map_eq_some_iff.mp hm
      obtain ⟨hbytes, hfits⟩ := serializeToString_fields h hout
      rw [List.flatMap_cons, List.flatMap_append, List.flatten_cons, ih.1, ← hbytes]
      exact ⟨rfl, fun field hfield => (List.mem_append.mp hfield).elim (hfits field) (ih.2 field)⟩
  have hpacked : ∀ field ∈ ms.flatMap Message.fields, field.isUnpacked = false := by
    intro field hfield
    obtain ⟨m, -, hm⟩ := List.mem_flatMap.mp hfield
    exact isUnpacked_of_mem_fields hm
  rw [hbytes, parseFromString_fields h hfits (isChain_of_packed hpacked) target, List.all_flatMap,
    List.foldl_flatMap]
  simp only [all_valid_fields, foldl_fields]

/-- The integers and the strings come in different messages. -/
theorem parse_concatenation_newer :
    Message.parseFromString {} ([10, 1, 7] ++ newerBytes) =
      some { newerMessage with ids := [7, 1, 2, 3] } := by
  have hser : List.Forall₂ (fun m bytes => m.serializeToString.map Prod.fst = some bytes)
      [{ ids := [7] }, newerMessage] [[10, 1, 7], newerBytes] := .cons rfl (.cons rfl .nil)
  exact parse_concatenation Reference.Protobuf.fullWireFormat_lawful hser {}

/-! ## What was parsed, serialized again -/

/-- The invariant rule of the parser: what the parser does to a message is to add integers, to
add strings that are UTF-8, and to keep unknown fields. -/
theorem merge_rule (h : W.Lawful) (Inv : Message W → Prop)
    (hids : ∀ m ids, Inv m → Inv (m.addIds ids))
    (hstring : ∀ m s, W.verifyUtf8String s = true → Inv m → Inv (m.addString s))
    (hunknown : ∀ m field, Inv m → Inv (m.addUnknownField field)) {fuel : Nat} {m out : Message W}
    {stream : StdString} {ended : Bool} (hm : Inv m)
    (hmerge : mergePartialFromCodedStream fuel m stream = some (out, ended)) : Inv out := by
  induction fuel generalizing m stream with
  | zero => cases hmerge
  | succ fuel ih =>
    obtain ⟨⟨⟨tag, known⟩, input⟩, htag⟩ : ∃ read, W.readTag stream = read := ⟨_, rfl⟩
    rw [mergePartialFromCodedStream, bounded, mergePass_eq h htag] at hmerge
    split_ifs at hmerge with h10 h8 h18 h0
    · split at hmerge
      · cases hmerge
      · exact ih (hids m _ hm) hmerge
    · split at hmerge
      · cases hmerge
      · exact ih (hids m _ hm) hmerge
    · split at hmerge
      · cases hmerge
      · split at hmerge
        · next hvalid => exact ih (hstring m _ hvalid hm) hmerge
        · cases hmerge
    · cases hmerge
      exact hm
    · split at hmerge
      · cases hmerge
      · exact ih (hunknown m _ hm) hmerge

private theorem all_valid_of_parse (h : W.Lawful) {target m : Message W} {data : StdString}
    (hparse : target.parseFromString data = some m) : m.strings.all W.verifyUtf8String = true := by
  rw [Message.parseFromString, Message.parseWith] at hparse
  split at hparse
  · next hmerge =>
    cases hparse
    refine merge_rule h (fun m => m.strings.all W.verifyUtf8String = true) ?_ ?_ ?_ ?_ hmerge
    · exact fun m ids hm => hm
    · exact fun m s hs hm => by simpa [Message.addString, hs] using hm
    · exact fun m field hm => hm
    · rfl
  · cases hparse

/-- **What was parsed can be written again**, of whatever origin it was: its serialization is
parsed to the same integers, strings and unknown fields. -/
theorem parse_reserialized (h : W.Lawful) {target m out : Message W} {data bytes : StdString}
    (hparse : target.parseFromString data = some m)
    (hser : m.serializeToString = some (bytes, out)) (target' : Message W) :
    target'.parseFromString bytes = some (target'.copyFrom m) := by
  obtain ⟨rfl, hfits⟩ := serializeToString_fields h hser
  have hchain := isChain_of_packed fun _ => isUnpacked_of_mem_fields (m := m)
  rw [parseFromString_fields h hfits hchain target', all_valid_fields, all_valid_of_parse h hparse,
    if_pos rfl, foldl_fields]
  rfl

/-- The integers are packed now, and come first. -/
theorem parse_reserialized_newer :
    Message.parseFromString {} newerBytes = some newerMessage :=
  parse_reserialized Reference.Protobuf.fullWireFormat_lawful parse_newer serialize_newer {}

/-! ## Sizes -/

private theorem serializeWithCachedSizes_eq (m : Message W) (output : StdString) :
    m.serializeWithCachedSizes output = output ++ m.serializeWithCachedSizesToArray := by
  simp only [Message.serializeWithCachedSizes, List.foldl_append_eq_append, ← List.flatMap_def,
    Message.serializeWithCachedSizesToArray, serializeWithCachedSizes, Message.record]
  by_cases hids : m.ids = []
  · simp [hids]
  · simp [List.length_pos_of_ne_nil hids]

section Sizes

variable (hsized : W.Sized)
include hsized

private theorem length_ids {ids : List Int64} (hids : W.int64Size ids ≤ intMax) :
    (if 0 < ids.length then
      W.writeTag 1 lengthDelimited ++
        (W.writeVarint32 (W.int64Size ids) ++ ids.flatMap W.writeInt64NoTag)
      else []).length =
      (if 0 < W.int64Size ids then 1 + W.int32Size (W.int64Size ids) else 0) + W.int64Size ids := by
  cases ids with
  | nil => simp [← hsized.int64]
  | cons x xs =>
    -- Some integer has been written, so their size is not zero.
    have hpos : 0 < W.int64Size (x :: xs) := by
      have hx := hsized.int64_pos x
      rw [← hsized.int64, List.flatMap_cons, List.length_append]
      omega
    rw [if_pos (List.length_pos_of_ne_nil (List.cons_ne_nil x xs)), if_pos hpos,
      List.length_append, List.length_append,
      hsized.tag 1 (by decide), hsized.varint32 _ hids, hsized.int64, Nat.add_assoc]

private theorem length_strings {ss : List StdString} (hss : ∀ s ∈ ss, s.length ≤ intMax) :
    (ss.flatMap (W.writeString 2)).length = 1 * ss.length + (ss.map W.stringSize).sum := by
  induction ss with
  | nil => rfl
  | cons s ss ih =>
    rw [List.forall_mem_cons] at hss
    have hrest := ih hss.2
    have htag := hsized.tag 2 (by decide)
    have hbytes := hsized.bytes s hss.1
    simp only [List.flatMap_cons, List.length_append, List.map_cons, List.sum_cons,
      List.length_cons, WireFormat.writeString] at hrest ⊢
    omega

private theorem length_record {r : Record} (hids : W.int64Size r.ids ≤ intMax)
    (hstrings : ∀ s ∈ r.strings, s.length ≤ intMax) :
    (serializeWithCachedSizes W.toWireFormat (W.int64Size r.ids) r).length =
      (byteSizeLong W.toWireFormat r).totalSize := by
  rw [serializeWithCachedSizes, List.length_append, length_ids hsized hids,
    length_strings hsized hstrings]
  rfl

/-- **Sizes.** Both serializers write as many bytes as `ByteSizeLong` has computed, which is also
what is cached, and the bytes are the same. -/
theorem serialize_size (h : W.Lawful) {m out : Message W} {bytes : StdString}
    (hser : m.serializeToString = some (bytes, out)) :
    bytes.length = m.byteSizeLong.1 ∧ out.cachedSize = bytes.length ∧
      ∀ output, out.serializeWithCachedSizes output = output ++ bytes := by
  obtain ⟨hsize, rfl, rfl⟩ := Message.serializeToString_eq_some.mp hser
  obtain ⟨hids, hstrings⟩ := fits_of_byteSizeLong h hsize
  have hlength : m.byteSizeLong.2.serializeWithCachedSizesToArray.length = m.byteSizeLong.1 := by
    have hunknown : (m.unknownFields.flatMap W.writeUnknownField).length =
        (m.unknownFields.map W.unknownFieldSize).sum := by
      rw [List.length_flatMap]
      exact congrArg List.sum (List.map_congr_left fun field _ => hsized.unknownField field)
    have hrecord := length_record hsized (r := m.record) hids hstrings
    show (serializeWithCachedSizes W.toWireFormat (Message.toCachedSize (W.int64Size m.ids))
      m.record ++ m.unknownFields.flatMap W.writeUnknownField).length =
        (m.unknownFields.map W.unknownFieldSize).sum +
          (byteSizeLong W.toWireFormat m.record).totalSize
    rw [toCachedSize_eq hids, List.length_append, hunknown, Nat.add_comm, ← hrecord]
    rfl
  refine ⟨hlength, ?_, fun output => serializeWithCachedSizes_eq _ output⟩
  rw [hlength]
  exact toCachedSize_eq hsize

end Sizes

theorem serialize_size_newer :
    newerMessage.byteSizeLong.1 = 10 ∧
      ∀ output, newerMessage.byteSizeLong.2.serializeWithCachedSizes output =
        output ++ newerBytes := by
  have hsize := serialize_size Reference.Protobuf.fullWireFormat_sized
    Reference.Protobuf.fullWireFormat_lawful serialize_newer
  exact ⟨hsize.1.symm, hsize.2.2⟩

/-! ## The record without regard to unknown fields -/

/-- **The record that is parsed** does not depend on the unknown fields: the same messages are
accepted as by the benchmark, which does not keep them, and with the same record. -/
theorem parseFromString_record (h : W.Lawful) (m : Message W) (data : StdString)
    (target r : Record) :
    Protobuf.parseFromString W.toWireFormat data target = (true, r) ↔
      ∃ out, m.parseFromString data = some out ∧ out.record = r := by
  -- Both have cleared their targets.
  have hcleared : Protobuf.clear target = m.clear.record := rfl
  rw [Message.parseFromString, Message.parseWith, Protobuf.parseFromString, hcleared]
  rcases mergePartial_record h (data.length + 1) m.clear data with
    ⟨out, ended, hfull, hrecord⟩ | ⟨hfull, hrecord⟩
  · rw [hfull, hrecord]
    cases ended with
    | true =>
      constructor
      · intro hparse
        cases hparse
        exact ⟨out, rfl, rfl⟩
      · rintro ⟨_, hout, rfl⟩
        cases hout
        rfl
    | false => simp
  · rw [hfull]
    simp [hrecord]

theorem parseFromString_record_newer :
    Protobuf.parseFromString Reference.Protobuf.fullWireFormat.toWireFormat
        (newerFields.flatMap Field.write) {} = (true, newerMessage.record) :=
  (parseFromString_record Reference.Protobuf.fullWireFormat_lawful {} _ {} _).mpr
    ⟨newerMessage, parse_newer, rfl⟩

/-! ## The loop without a bound -/

/-- **The loop terminates on every input**, well formed or not: its unfolding equation has one
solution, and `ParseFromString` is what it is with that solution for its loop. -/
theorem parse_eq_unbounded (h : W.Advances) :
    (∃! loop : Message W × StdString → Parsed W, mergePass loop = loop) ∧
      ∀ loop : Message W × StdString → Parsed W, mergePass loop = loop →
        ∀ m data, Message.parseFromString m data = m.parseWith loop data := by
  refine ⟨h.contracting.existsUnique fun _ => none, fun loop hloop m data => ?_⟩
  have hbounded : mergePartialFromCodedStream (data.length + 1) m.clear data =
      loop (m.clear, data) := h.contracting.bounded_eq hloop _ (Nat.lt_succ_self data.length)
  rw [Message.parseFromString, Message.parseWith, Message.parseWith, hbounded]

theorem parse_eq_unbounded_reference :
    (∃! loop : Message Reference.Protobuf.fullWireFormat × StdString → Parsed _,
      mergePass loop = loop) ∧
      ∀ loop : Message Reference.Protobuf.fullWireFormat × StdString → Parsed _,
        mergePass loop = loop →
          ∀ m data, Message.parseFromString m data = m.parseWith loop data :=
  parse_eq_unbounded Reference.Protobuf.fullWireFormat_advances

end CppSerializers.Protobuf
