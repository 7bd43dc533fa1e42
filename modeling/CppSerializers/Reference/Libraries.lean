import CppSerializers.Benchmarks.Libraries
import CppSerializers.Reference.CapnProto
import CppSerializers.Reference.FlatBuffers
import CppSerializers.Reference.Msgpack
import CppSerializers.Reference.Protobuf
import CppSerializers.Reference.Thrift

/-!
# Libraries that behave as documented

The concrete formats together are `Libraries` that satisfy every assumption made of
them, for a payload of one integer and one string.

## Main results

* `libraries_lawful`, `libraries_carries` — the assumptions
* `sample_returns` — every benchmark returns on the sample
-/

namespace CppSerializers.Reference

/-- The libraries, in their formats. -/
def libraries : Libraries where
  thrift
    | .binary => Thrift.binaryProtocol
    | .compact => Thrift.compactProtocol
  protobuf := Protobuf.wireFormat
  capnproto := CapnProto.library
  boost := boostArchive
  msgpack := Msgpack.packer
  cereal := plainArchive
  avro := avroVectors
  flatbuffers := FlatBuffers.library
  yas opts := if opts.compacted then compactArchive else plainArchive
  versions :=
    { packageVersion := lit "0.12.0"
      googleProtobufVersion := 3007000
      capnpVersion := 7000
      boostVersion := 106900
      msgpackVersion := lit "3.1.1"
      flatbuffersVersionMajor := lit "1"
      flatbuffersVersionMinor := lit "10"
      flatbuffersVersionRevision := lit "0"
      yasVersionString := lit "7.0.2" }

theorem libraries_lawful : libraries.Lawful where
  thrift
    | .binary => ⟨_, Thrift.binaryProtocol_inStep⟩
    | .compact => ⟨_, Thrift.compactProtocol_inStep⟩
  protobuf := Protobuf.wireFormat_lawful
  capnproto := CapnProto.library_lawful
  boost := boostArchive_lawful
  msgpack := Msgpack.packer_lawful
  cereal := plainArchive_lawful
  avro := avroVectors_lawful
  flatbuffers := ⟨_, FlatBuffers.library_lawful⟩
  yas := plainArchive_lawful
  yasCompact := compactArchive_lawful

/-- One integer and one string of one letter. -/
def sample : Payload where
  kIntegers := [1]
  kStringValue := lit "a"
  kStringsCount := 1

private theorem sample_fitsIn {limit : Nat} (h : 1 ≤ limit) : sample.record.FitsIn limit where
  ids_le := h
  strings_le := h
  string_le s hs := by
    obtain ⟨_, rfl⟩ := List.mem_replicate.mp hs
    exact h

private theorem sample_capnproto {r1 : CapnProto.library.Builder}
    (hbuild : capnprotoBuild CapnProto.library sample = .ok r1) :
    CapnProto.library.ReadsBack r1 := by
  cases hbuild
  refine ⟨_, rfl, ?_, ?_⟩
  · intro i list h
    match i with
    | 0 =>
      cases h
      decide
    | 1 => cases h
    | _ + 2 => cases h
  · intro i list h
    match i with
    | 0 => cases h
    | 1 =>
      cases h
      decide
    | _ + 2 => cases h

private theorem sample_flatbuffers :
    FlatBuffers.library.ReadsBack (FlatBuffers.payloadRecord FlatBuffers.library sample).2
      (FlatBuffers.payloadRecord FlatBuffers.library sample).1 :=
  FlatBuffers.readsBack_of_shows rfl (by decide +kernel) (by decide +kernel)

theorem libraries_carries : libraries.Carries sample where
  thrift
    | .binary => sample_fitsIn (by decide)
    | .compact => sample_fitsIn (by decide)
  protobuf := by decide
  capnproto := ⟨by decide, by decide, Or.inr (by decide)⟩
  boost := sample_fitsIn (by decide)
  msgpack := sample_fitsIn (by decide)
  cereal := sample_fitsIn (by decide)
  avro := sample_fitsIn (by decide)
  yas := sample_fitsIn (by decide)
  yasCompact := sample_fitsIn (by decide)
  capnprotoReadsBack _ := sample_capnproto
  flatbuffersReadsBack := sample_flatbuffers

/-! ## The benchmarks on the sample -/

theorem codecs_roundTrips : libraries.codecs.RoundTrips sample :=
  Libraries.codecs_roundTrips libraries_lawful libraries_carries

/-- The sample, a clock that stands still, and memory full of zeros. -/
def sampleEnv : Env where
  payload := sample
  clock := ⟨0, 0⟩
  memory _ _ := 0

/-- Every benchmark returns, for any number of iterations. -/
theorem sample_returns (b : Benchmark) (n : Nat) :
    ∃ run, (b.test libraries.codecs sampleEnv).run n = .ok run := by
  refine Benchmark.returns codecs_roundTrips ?_ ?_ n
  · exact fun _ => Libraries.builds libraries_lawful libraries_carries
  · exact fun _ => Libraries.parses libraries_lawful libraries_carries (Or.inr (by decide))

end CppSerializers.Reference
