import CppSerializers.Benchmarks.Protobuf
import CppSerializers.Benchmarks.Streams
import CppSerializers.Benchmarks.Thrift
import CppSerializers.Benchmarks.Views

/-!
# All benchmarks

The eleven benchmarks that `main` can run, over the codecs of all libraries. Two of
the nine functions serve two benchmarks each: Thrift for its two protocols, YAS for
two sets of options, which is where their tags come from.

A `Codecs` is arbitrary: nothing relates its decoders to its encoders.

## Main definitions

* `Benchmark`, `Benchmark.tag` — the benchmarks and the names of their results
* `Codecs`, `Benchmark.test` — the function that runs a benchmark
* `Benchmark.encoding`, `Benchmark.reportedSize` — the message a library makes of the payload's
  record, and the size that is reported for it
* `Benchmark.Decodes` — a library's decoder took a message for a record

## Main results

* `Benchmark.name_eq` — a result carries the tag of its benchmark
* `Benchmark.size_eq`, `Benchmark.result_eq` — the reported size is a function of the encoding,
  and the result of it, the versions and the clock
* `Benchmark.check_observed`, `Benchmark.check_decoded` — what the check of a call that
  returns has seen
* `Benchmark.timed_restored`, `Benchmark.returns` — every iteration of every call, when the
  codecs carry the record
-/

namespace CppSerializers

open Foundation

/-- The benchmarks, in the order of `main`. -/
inductive Benchmark where
  | thriftBinary
  | thriftCompact
  | protobuf
  | capnproto
  | boost
  | msgpack
  | cereal
  | avro
  | flatbuffers
  | yas
  | yasCompact
  deriving DecidableEq, Repr

/-- The name a benchmark gives its result. -/
def Benchmark.tag : Benchmark → StdString
  | .thriftBinary => lit "thrift-binary"
  | .thriftCompact => lit "thrift-compact"
  | .protobuf => lit "protobuf"
  | .capnproto => lit "capnproto"
  | .boost => lit "boost"
  | .msgpack => lit "msgpack"
  | .cereal => lit "cereal"
  | .avro => lit "avro"
  | .flatbuffers => lit "flatbuffers"
  | .yas => lit "yas"
  | .yasCompact => lit "yas-compact"

/-- The codecs of all libraries, and their versions. -/
structure Codecs where
  thrift : ThriftSerializationProto → Thrift.ProtocolCodec
  protobuf : Protobuf.MessageCodec
  capnproto : CapnProto.Library
  boost : StreamCodec
  msgpack : StreamCodec
  cereal : StreamCodec
  avro : StreamCodec
  flatbuffers : FlatBuffers.Library
  yas : YasOptions → StreamCodec
  versions : Versions

/-- `yas::binary | yas::no_header`. -/
def yasOptions : YasOptions := { binary := true, noHeader := true }

/-- `yas::binary | yas::no_header | yas::compacted`. -/
def yasCompactOptions : YasOptions := { binary := true, noHeader := true, compacted := true }

namespace Benchmark

variable (b : Benchmark) (c : Codecs) (env : Env)

/-- The call `main` makes for a benchmark. -/
def test : Test :=
  match b with
  | .thriftBinary => thriftSerializationTest c.thrift env c.versions .binary
  | .thriftCompact => thriftSerializationTest c.thrift env c.versions .compact
  | .protobuf => protobufSerializationTest c.protobuf env c.versions
  | .capnproto => capnprotoSerializationTest c.capnproto env c.versions
  | .boost => boostSerializationTest c.boost env c.versions
  | .msgpack => msgpackSerializationTest c.msgpack env c.versions
  | .cereal => cerealSerializationTest c.cereal env
  | .avro => avroSerializationTest c.avro env
  | .flatbuffers => flatbuffersSerializationTest c.flatbuffers env c.versions
  | .yas => yasSerializationTest c.yas env c.versions yasOptions
  | .yasCompact => yasSerializationTest c.yas env c.versions yasCompactOptions

/-- What the library's encoder writes for the record of the payload. -/
def encoding (p : Payload) : Message :=
  match b with
  | .thriftBinary => [(c.thrift .binary).encode p.record]
  | .thriftCompact => [(c.thrift .compact).encode p.record]
  | .protobuf => [c.protobuf.serializeToString p.record]
  | .capnproto => CapnProto.payloadMessage c.capnproto p
  | .boost => [c.boost.encode p.record]
  | .msgpack => [c.msgpack.encode p.record]
  | .cereal => [c.cereal.encode p.record]
  | .avro => [c.avro.encode p.record]
  | .flatbuffers => [c.flatbuffers.buffer (FlatBuffers.payloadBuilder c.flatbuffers p)]
  | .yas => [(c.yas yasOptions).encode p.record]
  | .yasCompact => [(c.yas yasCompactOptions).encode p.record]

/-- The size the benchmark reports for the record of the payload. The stream of Avro counts
whole chunks. -/
def reportedSize (p : Payload) : Nat :=
  match b with
  | .avro => avroChunkSize * ((b.encoding c p).size ⌈/⌉ avroChunkSize)
  | _ => (b.encoding c p).size

/-- The version the benchmark reports. -/
def version (v : Versions) : StdString :=
  match b with
  | .thriftBinary | .thriftCompact => v.packageVersion
  | .protobuf => decimal v.googleProtobufVersion
  | .capnproto => decimal v.capnpVersion
  | .boost => decimal v.boostVersion
  | .msgpack => v.msgpackVersion
  | .cereal | .avro => []
  | .flatbuffers => flatbuffersVersion v
  | .yas | .yasCompact => v.yasVersionString

/-- The library's decoder accepted what it was given, and made the decoded record of it. -/
def Decodes (rt : RoundTrip) : Prop :=
  match b with
  | .thriftBinary => (c.thrift .binary).Decodes rt
  | .thriftCompact => (c.thrift .compact).Decodes rt
  | .protobuf => ∃ target, c.protobuf.parseFromString rt.input target = (true, rt.decoded)
  | .capnproto => ∃ view, c.capnproto.getRoot rt.message = .ok view ∧
      rt.decoded = CapnProto.viewedRecord view
  | .boost => c.boost.Decodes rt
  | .msgpack => c.msgpack.Decodes rt
  | .cereal => c.cereal.Decodes rt
  | .avro => c.avro.Decodes rt
  | .flatbuffers => ∃ view, c.flatbuffers.getRoot rt.input = .ok view ∧
      rt.decoded = FlatBuffers.viewedRecord view
  | .yas => (c.yas yasOptions).Decodes rt
  | .yasCompact => (c.yas yasCompactOptions).Decodes rt

/-- What the check of a call that returns has seen, whatever the codecs do: the decoder was
given the encoding, for Avro with something unwritten behind it, and accepted it. -/
structure Observed (p : Payload) (rt : RoundTrip) : Prop where
  message_eq : rt.message = b.encoding c p
  input_eq : ∃ unwritten, rt.input = rt.message.flatten ++ unwritten ∧ (b ≠ .avro → unwritten = [])
  decodes : b.Decodes c rt

/-- A full round trip of the payload's record: the encoding is written and nothing else, the
decoder reads all of it, and the record is restored. Only Avro leaves bytes behind. -/
structure Restored (p : Payload) (rt : RoundTrip) : Prop where
  message_eq : rt.message = b.encoding c p
  input_eq : rt.input = rt.message.flatten ++ rt.unread
  unread_eq : b ≠ .avro → rt.unread = []
  decoded_eq : rt.decoded = p.record

/-- The benchmarks whose check compares the two records. -/
def comparesRecords : Bool :=
  match b with
  | .protobuf | .capnproto | .flatbuffers => false
  | _ => true

end Benchmark

/-- Every codec carries the record of the payload. The parser of Protocol Buffers may reject
it, but not corrupt it. -/
structure Codecs.RoundTrips (c : Codecs) (p : Payload) : Prop where
  thrift : ∀ proto, (c.thrift proto).RoundTrips p.record
  protobuf : c.protobuf.Exact p.record
  capnproto : c.capnproto.RoundTrips p
  boost : c.boost.RoundTrips p.record
  msgpack : c.msgpack.RoundTrips p.record
  cereal : c.cereal.RoundTrips p.record
  avro : c.avro.RoundTrips p.record
  flatbuffers : c.flatbuffers.RoundTrips p
  yas : (c.yas yasOptions).RoundTrips p.record
  yasCompact : (c.yas yasCompactOptions).RoundTrips p.record

variable {b : Benchmark} {c : Codecs} {env : Env} {p : Payload} {n : Nat} {run : Run}

/-! ## Names -/

/-- The name of a result is the tag of its benchmark. -/
theorem Benchmark.name_eq (hrun : (b.test c env).run n = .ok run) : run.result.name = b.tag := by
  obtain ⟨_, final, _, _, hresult⟩ := Test.run_eq_ok_iff.mp hrun
  rw [hresult]
  cases b <;> rfl

/-! ## Sizes -/

/-- **The reported size**, for any codecs whose Thrift protocols are ready for the next
record after writing one. -/
theorem Benchmark.size_eq (hthrift : ∀ proto, (c.thrift proto).Restores env.payload.record)
    (hrun : (b.test c env).run n = .ok run) :
    run.result.size = b.reportedSize c env.payload := by
  have hone : ∀ bytes : StdString, bytes.length = Message.size [bytes] := by simp
  cases b
  case thriftBinary =>
    exact (thrift_invariant (hthrift .binary)).size_eq
      (fun _ h => (congrArg List.length h.1).trans (hone _)) hrun
  case thriftCompact =>
    exact (thrift_invariant (hthrift .compact)).size_eq
      (fun _ h => (congrArg List.length h.1).trans (hone _)) hrun
  case protobuf =>
    exact protobuf_invariant.size_eq (fun _ h => (congrArg List.length h).trans (hone _)) hrun
  case capnproto => exact capnproto_invariant.size_eq (fun _ h => h) hrun
  case boost | cereal =>
    refine stringTest_invariant.size_eq ?_ hrun
    intro state h
    exact (congrArg List.length h).trans (hone _)
  case msgpack =>
    exact msgpack_invariant.size_eq (fun _ h => (congrArg List.length h).trans (hone _)) hrun
  case avro =>
    -- The stream counts whole chunks.
    refine avro_invariant.size_eq (fun _ h => h.trans ?_) hrun
    rw [avroOutput, ChunkedOutput.byteCount_putAll (by decide), hone]
    rfl
  case flatbuffers => exact flatbuffers_invariant.size_eq (fun _ h => h.trans (hone _)) hrun
  case yas | yasCompact =>
    exact yas_invariant.size_eq (fun _ h => (congrArg List.length h).trans (hone _)) hrun

/-- **The result** is determined by the encoding, the versions and the clock. -/
theorem Benchmark.result_eq (hthrift : ∀ proto, (c.thrift proto).Restores env.payload.record)
    (hrun : (b.test c env).run n = .ok run) :
    run.result = ⟨b.tag, b.version c.versions, b.reportedSize c env.payload,
      env.clock.duration⟩ := by
  have hname := name_eq hrun
  have hsize := size_eq hthrift hrun
  obtain ⟨_, final, _, _, hresult⟩ := Test.run_eq_ok_iff.mp hrun
  have hversion : run.result.version = b.version c.versions := by
    rw [hresult]
    cases b <;> rfl
  have htime : run.result.time = env.clock.duration := by
    rw [hresult]
    cases b <;> rfl
  rw [← hname, ← hversion, ← hsize, ← htime]

/-! ## Checks -/

private theorem input_eq_flatten {rt : RoundTrip} {bytes unwritten : StdString}
    (hmessage : rt.message = [bytes]) (hinput : rt.input = bytes ++ unwritten) :
    rt.input = rt.message.flatten ++ unwritten := by
  rw [hinput, hmessage]
  simp

private theorem StreamCodec.Observes.observed {codec : StreamCodec} {rt : RoundTrip}
    (h : codec.Observes p.record [] rt) (hencoding : b.encoding c p = [codec.encode p.record])
    (hdecodes : codec.Decodes rt → b.Decodes c rt) : b.Observed c p rt where
  message_eq := h.message_eq.trans hencoding.symm
  input_eq := ⟨[], input_eq_flatten h.message_eq h.input_eq, fun _ => rfl⟩
  decodes := hdecodes h.decodes

/-- **The check of a call that returns.** -/
theorem Benchmark.check_observed (hrun : (b.test c env).run n = .ok run) :
    b.Observed c env.payload run.check := by
  obtain ⟨state, _, hsetUp, _, _⟩ := Test.run_eq_ok_iff.mp hrun
  cases b
  case thriftBinary | thriftCompact =>
    obtain ⟨hobserves, _⟩ := thrift_check hsetUp
    exact ⟨hobserves.message_eq, ⟨[], input_eq_flatten hobserves.message_eq
      (hobserves.input_eq.trans (List.append_nil _).symm), fun _ => rfl⟩, hobserves.decodes⟩
  case protobuf =>
    obtain ⟨hparse, _, hcheck⟩ := protobuf_check.mp hsetUp
    rw [hcheck]
    exact ⟨rfl, ⟨[], by simp, fun _ => rfl⟩, {}, hparse⟩
  case capnproto =>
    obtain ⟨hobserves, _⟩ := capnproto_invariant.run hrun
    exact ⟨hobserves.message_eq, ⟨[], by simp [hobserves.input_eq], fun _ => rfl⟩, hobserves.views⟩
  case boost | cereal => exact (stringTest_invariant.run hrun).1.observed rfl id
  case msgpack => exact (msgpack_invariant.run hrun).1.observed rfl id
  case avro =>
    obtain ⟨⟨unwritten, hobserves⟩, _⟩ := avro_invariant.run hrun
    exact ⟨hobserves.message_eq,
      ⟨unwritten, input_eq_flatten hobserves.message_eq hobserves.input_eq, fun h => absurd rfl h⟩,
      hobserves.decodes⟩
  case flatbuffers =>
    obtain ⟨hobserves, _⟩ := flatbuffers_invariant.run hrun
    exact ⟨hobserves.message_eq, ⟨[], input_eq_flatten hobserves.message_eq
      (hobserves.input_eq.trans (List.append_nil _).symm), fun _ => rfl⟩, hobserves.views⟩
  case yas | yasCompact => exact (yas_invariant.run hrun).1.observed rfl id

/-- A check that compares the records has seen the same record twice. -/
theorem Benchmark.check_decoded (hcompares : b.comparesRecords = true)
    (hrun : (b.test c env).run n = .ok run) : run.check.decoded = env.payload.record := by
  obtain ⟨state, _, hsetUp, _, _⟩ := Test.run_eq_ok_iff.mp hrun
  cases b
  case thriftBinary | thriftCompact => exact (thrift_check hsetUp).2
  case boost | cereal => exact stringTestDrives.check hsetUp
  case msgpack => exact msgpackDrives.check hsetUp
  case avro => exact avro_check hsetUp
  case yas | yasCompact => exact yasDrives.check hsetUp
  all_goals exact absurd hcompares (by decide)

/-! ## Codecs that carry the record -/

private theorem StreamCodec.Observes.restored {codec : StreamCodec} {unwritten : StdString}
    {rt : RoundTrip} (h : codec.Observes p.record unwritten rt) (hc : codec.RoundTrips p.record)
    (hencoding : b.encoding c p = [codec.encode p.record])
    (hunwritten : b ≠ .avro → unwritten = []) : b.Restored c p rt := by
  obtain ⟨hdecoded, hunread⟩ := h.restores hc
  refine ⟨h.message_eq.trans hencoding.symm, ?_, ?_, hdecoded⟩
  · rw [hunread]
    exact input_eq_flatten h.message_eq h.input_eq
  · rw [hunread]
    exact hunwritten

/-- **Every timed iteration** of a call that returns is a full round trip, when the codecs
carry the record. -/
theorem Benchmark.timed_restored (hc : c.RoundTrips env.payload)
    (hrun : (b.test c env).run n = .ok run) :
    ∀ k < n, ∃ rt, run.timed[k]? = some rt ∧ b.Restored c env.payload rt := by
  cases b
  case thriftBinary | thriftCompact =>
    refine (((thrift_round_trips (hc.thrift _)).mono ?_).run hrun).2.2
    -- What is observed says what was written, the idle protocols what was read.
    rintro rt ⟨hobserves, hdecoded, hunread⟩
    refine ⟨hobserves.message_eq, ?_, fun _ => hunread, hdecoded⟩
    rw [hunread]
    exact input_eq_flatten hobserves.message_eq (hobserves.input_eq.trans (List.append_nil _).symm)
  case protobuf =>
    obtain ⟨_, _, hsetUp, _, _⟩ := Test.run_eq_ok_iff.mp hrun
    obtain ⟨hparse, _, _⟩ := protobuf_check.mp hsetUp
    refine ((protobuf_invariant.mono ?_).run hrun).2.2
    intro rt hobserves
    obtain ⟨hdecoded, hunread⟩ := hobserves.restores hc.protobuf hparse
    refine ⟨hobserves.message_eq, ?_, fun _ => hunread, hdecoded⟩
    rw [hunread]
    exact input_eq_flatten hobserves.message_eq (hobserves.input_eq.trans (List.append_nil _).symm)
  case capnproto =>
    refine ((capnproto_invariant.mono ?_).run hrun).2.2
    intro rt hobserves
    exact ⟨hobserves.message_eq, by simp [hobserves.input_eq, hobserves.unread_eq],
      fun _ => hobserves.unread_eq, hobserves.restores hc.capnproto⟩
  case boost =>
    exact ((stringTest_invariant.mono fun _ h =>
      h.restored hc.boost rfl fun _ => rfl).run hrun).2.2
  case cereal =>
    exact ((stringTest_invariant.mono fun _ h =>
      h.restored hc.cereal rfl fun _ => rfl).run hrun).2.2
  case msgpack =>
    exact ((msgpack_invariant.mono fun _ h =>
      h.restored hc.msgpack rfl fun _ => rfl).run hrun).2.2
  case avro =>
    refine ((avro_invariant.mono ?_).run hrun).2.2
    rintro rt ⟨unwritten, hobserves⟩
    exact hobserves.restored hc.avro rfl fun h => absurd rfl h
  case flatbuffers =>
    refine ((flatbuffers_invariant.mono ?_).run hrun).2.2
    intro rt hobserves
    refine ⟨hobserves.message_eq, ?_, fun _ => hobserves.unread_eq,
      hobserves.restores hc.flatbuffers⟩
    rw [hobserves.unread_eq]
    exact input_eq_flatten hobserves.message_eq (hobserves.input_eq.trans (List.append_nil _).symm)
  case yas =>
    exact ((yas_invariant.mono fun _ h => h.restored hc.yas rfl fun _ => rfl).run hrun).2.2
  case yasCompact =>
    exact ((yas_invariant.mono fun _ h => h.restored hc.yasCompact rfl fun _ => rfl).run hrun).2.2

/-- **Every call returns**, when the codecs carry the record, Cap'n Proto can build its
message, and the parser of Protocol Buffers accepts it. -/
theorem Benchmark.returns (hc : c.RoundTrips env.payload)
    (hbuild : b = .capnproto → ∃ r1, capnprotoBuild c.capnproto env.payload = .ok r1)
    (hparse : b = .protobuf → (c.protobuf.parseFromString
      (c.protobuf.serializeToString env.payload.record) {}).1 = true) (n : Nat) :
    ∃ run, (b.test c env).run n = .ok run := by
  cases b
  case thriftBinary | thriftCompact => exact thrift_returns (hc.thrift _) n
  case protobuf => exact protobuf_returns (Prod.ext (hparse rfl) rfl) n
  case capnproto =>
    obtain ⟨r1, hbuild⟩ := hbuild rfl
    obtain ⟨view, hview, hrecord⟩ := hc.capnproto r1 hbuild
    refine (capnproto_returns_iff n).mpr ⟨r1, view, hbuild, hview, ?_⟩
    exact congrArg (List.length ∘ Record.ids) hrecord
  case boost => exact stringTestDrives.returns hc.boost n
  case cereal => exact stringTestDrives.returns hc.cereal n
  case msgpack => exact msgpackDrives.returns hc.msgpack n
  case avro => exact avro_returns hc.avro n
  case flatbuffers =>
    obtain ⟨view, hview, hrecord⟩ := hc.flatbuffers
    refine (flatbuffers_returns_iff n).mpr ⟨view, hview, ?_, ?_⟩
    · have hstrings := congrArg (List.length ∘ Record.strings) hrecord
      exact hstrings.trans List.length_replicate
    · exact congrArg (List.length ∘ Record.ids) hrecord
  case yas => exact yasDrives.returns hc.yas n
  case yasCompact => exact yasDrives.returns hc.yasCompact n

end CppSerializers
