import CppSerializers.Libraries.Sequential
import CppSerializers.Reference.Msgpack
import CppSerializers.Reference.Thrift

/-!
# The formats read sequentially

None of the concrete readers looks past what it takes. Each is made of cells, blocks and
numbers, of which this is known.

## Main results

* `plainArchive_sequential`, `boostArchive_sequential`, `compactArchive_sequential`,
  `avroVectors_sequential` — the stream formats
* `Msgpack.unpack_streaming`, `Thrift.binaryProtocol_sequential`,
  `Thrift.compactProtocol_sequential`
-/

namespace CppSerializers.Reference

open Foundation

/-! ## Vectors behind their counts -/

theorem countedVectors_sequential {maxLength : Nat} {intsCount stringsCount length : Field Nat}
    {int : Field Int64} (hints : Streaming intsCount.read) (hstrings : Streaming stringsCount.read)
    (hlength : Streaming length.read) (hint : Streaming int.read) :
    (countedVectors maxLength intsCount stringsCount length int).Sequential where
  ints _ := hints.bind fun n => hint.repeatM n
  strings _ := hstrings.bind fun n =>
    (hlength.bind fun size => Extends.readBlock endOfStream size).repeatM n

private theorem word64_streaming : Streaming word64.read := Extends.readLE endOfStream 8

private theorem int64_streaming : Streaming int64.read := (Extends.readLE endOfStream 8).map _

theorem plainArchive_sequential : plainArchive.Sequential where
  toSequential := countedVectors_sequential word64_streaming word64_streaming word64_streaming
    int64_streaming
  preamble := Extends.pure ()

theorem boostArchive_sequential : boostArchive.Sequential where
  toSequential := by
    refine countedVectors_sequential word64_streaming ?_ word64_streaming int64_streaming
    -- The count of the strings is surrounded by the information of their class.
    have hbehind :=
      (Extends.readBlock endOfStream boostClassInfo.length).bind fun _ => word64_streaming
    exact hbehind.bind fun n => (Extends.readBlock endOfStream _).bind fun _ => Extends.pure n
  preamble := (Extends.readBlock endOfStream _).bind fun _ => Extends.pure ()

private theorem compactWord_streaming : Streaming compactWord.read := by
  refine (Extends.readCell endOfStream).bind fun b => ?_
  split_ifs
  · exact Extends.pure _
  · exact Extends.readLE endOfStream _

private theorem compactInt64_streaming : Streaming compactInt64.read := by
  refine (Extends.readCell endOfStream).bind fun b => ?_
  dsimp only
  split
  · exact (Extends.pure _).bind fun m => Extends.pure _
  · exact (Extends.readLE endOfStream _).bind fun m => Extends.pure _

theorem compactArchive_sequential : compactArchive.Sequential where
  toSequential := countedVectors_sequential compactWord_streaming compactWord_streaming
    compactWord_streaming compactInt64_streaming
  preamble := Extends.pure ()

/-! ## Avro -/

private theorem avroNat_streaming {negative : Nat → ByteReader Nat}
    (h : ∀ n, Streaming (negative n)) : Streaming (avroNat negative).read := by
  refine (Extends.readVarint endOfStream 10).bind fun n => ?_
  split_ifs
  · exact Extends.pure _
  · exact h _

private theorem avroCount_streaming : Streaming avroCount.read :=
  avroNat_streaming fun n => (Extends.readVarint endOfStream 10).bind fun _ => Extends.pure n

private theorem readAvroBlocks_extends {α : Type} {rd : ByteReader α} (h : Streaming rd) {n m : Nat}
    (hle : n ≤ m) : Extends (readAvroBlocks rd n) (readAvroBlocks rd m) := by
  induction n generalizing m with
  | zero => exact Extends.throw _
  | succ n ih =>
    obtain ⟨m, rfl⟩ : ∃ k, m = k + 1 := ⟨m - 1, by omega⟩
    refine avroCount_streaming.bind fun size => ?_
    split_ifs
    · exact Extends.pure []
    · refine (h.repeatM size).bind fun block => ?_
      exact (ih (Nat.le_of_succ_le_succ hle)).bind fun rest => Extends.pure _

private theorem readAvroVector_streaming {α : Type} {rd : ByteReader α} (h : Streaming rd) :
    Streaming (readAvroVector rd) := by
  refine Extends.peek fun stream more => readAvroBlocks_extends h ?_
  rw [List.length_append]
  omega

theorem avroVectors_sequential : avroVectors.Sequential where
  ints _ := readAvroVector_streaming ((Extends.readVarint endOfStream 10).map _)
  strings _ := by
    refine readAvroVector_streaming (Extends.bind (avroNat_streaming fun _ => ?_) fun size => ?_)
    · exact Extends.throw _
    · exact Extends.readBlock endOfStream size

/-! ## MessagePack -/

namespace Msgpack

private theorem unpackBody_streaming {elements : Nat → ByteReader (List Object)}
    (h : ∀ n, Streaming (elements n)) (t : Nat) : Streaming (unpackBody elements t) := by
  have hunsigned : ∀ w, Streaming (readUnsigned w) := fun w => (Extends.readBE endOfStream w).map _
  have hsigned : ∀ w, Streaming (readSigned w) := fun w => (Extends.readBE endOfStream w).map _
  have hstr : ∀ w, Streaming (readStr w) := fun w =>
    ((Extends.readBE endOfStream w).bind fun n => Extends.readBlock endOfStream n).map _
  have harray : ∀ w, Streaming (Object.array <$> (readBE endOfStream w >>= elements)) := fun w =>
    ((Extends.readBE endOfStream w).bind h).map _
  unfold unpackBody
  split_ifs
  · exact Extends.pure _
  · exact Extends.pure _
  · exact (h _).map _
  · exact (Extends.readBlock endOfStream _).map _
  · -- One case for each type of object.
    split
    · exact hunsigned 1
    · exact hunsigned 2
    · exact hunsigned 4
    · exact hunsigned 8
    · exact hsigned 1
    · exact hsigned 2
    · exact hsigned 4
    · exact hsigned 8
    · exact hstr 1
    · exact hstr 2
    · exact hstr 4
    · exact harray 2
    · exact harray 4
    · exact Extends.throw _

theorem unpack_streaming (depth : Nat) : Streaming (unpack depth) := by
  induction depth with
  | zero =>
    exact (Extends.readCell endOfStream).bind fun b =>
      unpackBody_streaming (fun _ => Extends.throw _) b.toNat
  | succ depth ih =>
    exact (Extends.readCell endOfStream).bind fun b =>
      unpackBody_streaming (fun n => ih.repeatM n) b.toNat

end Msgpack

/-! ## Thrift -/

namespace Thrift

open CppSerializers.Thrift

private theorem checkSize_streaming {rd : ByteReader Nat} (h : Streaming rd) :
    Streaming (rd >>= checkSize) := by
  refine h.bind fun size => ?_
  unfold checkSize
  split_ifs
  · exact Extends.throw _
  · exact Extends.pure _

private theorem sized_streaming {rd : ByteReader Nat} (h : Streaming rd) :
    Streaming (rd >>= checkSize >>= readBlock endOfStream) :=
  (checkSize_streaming h).bind fun size => Extends.readBlock endOfStream size

private theorem drop_streaming {σ α : Type} {rd : ByteReader α} (h : Streaming rd) (st : σ) :
    Streaming (((fun _ => ()) <$> (StateT.lift rd : StateT σ ByteReader α)).run st) := by
  rw [← bind_pure_comp]
  exact Extends.stateBind (fun st => h.lift st) (fun _ st => Extends.pure ((), st)) st

private theorem readBinaryField_streaming : Streaming readBinaryField := by
  refine (Extends.readCell endOfStream).bind fun b => ?_
  dsimp only
  split_ifs
  · exact Extends.pure _
  · exact (Extends.readBE endOfStream 2).bind fun fid => Extends.pure _

private theorem readBinarySize_streaming : Streaming readBinarySize :=
  checkSize_streaming (Extends.readBE endOfStream 4)

private theorem readBinaryList_streaming : Streaming readBinaryList := by
  refine (Extends.readCell endOfStream).bind fun b => ?_
  exact readBinarySize_streaming.bind fun size => Extends.pure _

private theorem readBinaryString_streaming : Streaming readBinaryString :=
  sized_streaming (Extends.readBE endOfStream 4)

private theorem binarySkipCalls_sequential : binarySkipCalls.Sequential where
  scalar _ ftype st := by
    refine drop_streaming ?_ st
    unfold readBinaryScalar
    split_ifs
    · exact readBinaryString_streaming.map _
    · exact (Extends.readBlock endOfStream _).map _
  structBegin st := Extends.pure ((), st)
  structEnd st := Extends.pure ((), st)
  fieldBegin st := readBinaryField_streaming.lift st
  mapBegin st := by
    refine Extends.lift ?_ st
    refine (Extends.readCell endOfStream).bind fun key => ?_
    refine (Extends.readCell endOfStream).bind fun value => ?_
    exact readBinarySize_streaming.bind fun size => Extends.pure _
  listBegin st := readBinaryList_streaming.lift st

theorem binaryProtocol_sequential : binaryProtocol.Sequential where
  structBegin st := Extends.pure ((), st)
  structEnd st := Extends.pure ((), st)
  fieldBegin st := readBinaryField_streaming.lift st
  fieldEnd st := Extends.pure ((), st)
  listBegin st := readBinaryList_streaming.lift st
  listEnd st := Extends.pure ((), st)
  i64 st := ((Extends.readBE endOfStream 8).map int64OfNat).lift st
  string st := readBinaryString_streaming.lift st
  skip := binarySkipCalls_sequential.skip skipDepth true

private theorem readCompactI16_streaming : Streaming readCompactI16 := by
  refine (Extends.readVarint endOfStream 3).bind fun n => ?_
  split_ifs
  · exact Extends.pure _
  · exact Extends.throw _

private theorem readCompactField_streaming (st : CompactState) :
    Streaming (readCompactField.run st) := by
  refine (Extends.readCell endOfStream).bind fun b => ?_
  dsimp only
  split_ifs
  · exact Extends.pure _
  · exact readCompactI16_streaming.bind fun fid => Extends.pure _
  · exact (Extends.pure _).bind fun fid => Extends.pure _

private theorem readCompactSize_streaming : Streaming readCompactSize :=
  checkSize_streaming (Extends.readVarint endOfStream 5)

private theorem readCompactList_streaming : Streaming readCompactList := by
  refine (Extends.readCell endOfStream).bind fun b => ?_
  dsimp only
  split_ifs
  · exact readCompactSize_streaming.bind fun size => Extends.pure _
  · exact (Extends.pure _).bind fun size => Extends.pure _

private theorem readCompactString_streaming : Streaming readCompactString :=
  sized_streaming (Extends.readVarint endOfStream 5)

private theorem readCompactScalar_streaming (inField : Bool) (ftype : TType) :
    Streaming (readCompactScalar inField ftype) := by
  have hblock : ∀ n, Streaming (dropBlock n) := fun n => (Extends.readBlock endOfStream n).map _
  have hbool : Streaming (if inField then pure () else dropBlock 1) := by
    split_ifs
    · exact Extends.pure _
    · exact hblock 1
  unfold readCompactScalar
  split
  · exact readCompactString_streaming.map _
  · exact hbool
  · exact hbool
  · exact hblock 1
  · exact hblock 8
  · exact (Extends.readVarint endOfStream 10).map _

private theorem compactSkipCalls_sequential : compactSkipCalls.Sequential where
  scalar inField ftype st := (readCompactScalar_streaming inField ftype).lift st
  structBegin st := Extends.pure ((), st.push)
  structEnd st := Extends.pure ((), st.pop)
  fieldBegin := readCompactField_streaming
  mapBegin st := by
    refine Extends.lift ?_ st
    refine readCompactSize_streaming.bind fun size => ?_
    dsimp only
    split_ifs
    · exact (Extends.pure _).bind fun types => Extends.pure _
    · exact ((Extends.readCell endOfStream).map _).bind fun types => Extends.pure _
  listBegin st := readCompactList_streaming.lift st

theorem compactProtocol_sequential : compactProtocol.Sequential where
  structBegin st := Extends.pure ((), st.push)
  structEnd st := Extends.pure ((), st.pop)
  fieldBegin := readCompactField_streaming
  fieldEnd st := Extends.pure ((), st)
  listBegin st := readCompactList_streaming.lift st
  listEnd st := Extends.pure ((), st)
  i64 st := ((Extends.readVarint endOfStream 10).map unzigzag).lift st
  string st := readCompactString_streaming.lift st
  skip := compactSkipCalls_sequential.skip skipDepth true

end Thrift

end CppSerializers.Reference
