import CppSerializers.Benchmarks.Dispatch

/-!
# The benchmarks over the libraries

`Codecs` are the libraries together with the code of this repository that drives
them. `Libraries` are the libraries alone: the primitives that generated code and
`serialize` templates call. `Libraries.codecs` puts the two together.

The assumptions come in two groups. `Libraries.Lawful` is what the libraries are
documented to do, primitive by primitive, for all values. `Libraries.Carries` is
about one payload: it is within every library's limits, and the views that two of the
libraries give show the message that was built for it.

## Main results

* `Libraries.codecs_roundTrips` — together they make every codec carry the payload's record
* `Libraries.builds` — Cap'n Proto can build the payload's message
* `Libraries.parses` — the parser of Protocol Buffers accepts a payload of UTF-8 strings
-/

namespace CppSerializers

/-- The primitives of all libraries. -/
structure Libraries where
  thrift : ThriftSerializationProto → Thrift.TProtocol
  protobuf : Protobuf.WireFormat
  capnproto : CapnProto.Library
  boost : Archive
  msgpack : Msgpack.Packer
  cereal : Archive
  avro : Vectors
  flatbuffers : FlatBuffers.Library
  yas : YasOptions → Archive
  versions : Versions

/-- The libraries driven by the repository's record code. -/
def Libraries.codecs (L : Libraries) : Codecs where
  thrift proto := (L.thrift proto).codec
  protobuf := L.protobuf.codec
  capnproto := L.capnproto
  boost := L.boost.codec
  msgpack := L.msgpack.codec
  cereal := L.cereal.codec
  avro := Avro.codec L.avro
  flatbuffers := L.flatbuffers
  yas opts := (L.yas opts).codec
  versions := L.versions

/-- The documented behaviour of the primitives. -/
structure Libraries.Lawful (L : Libraries) : Prop where
  thrift : ∀ proto, ∃ Inside, (L.thrift proto).InStep Inside
  protobuf : L.protobuf.Lawful
  capnproto : L.capnproto.Lawful
  boost : L.boost.Lawful
  msgpack : L.msgpack.Lawful
  cereal : L.cereal.Lawful
  avro : L.avro.Lawful
  flatbuffers : ∃ table, L.flatbuffers.Lawful table
  yas : (L.yas yasOptions).Lawful
  yasCompact : (L.yas yasCompactOptions).Lawful

/-- The payload is within the limits of the libraries, and views show the messages that are
built for it. -/
structure Libraries.Carries (L : Libraries) (p : Payload) : Prop where
  thrift : ∀ proto, p.record.FitsIn (L.thrift proto).maxLength
  protobuf : (Protobuf.byteSizeLong L.protobuf p.record).totalSize ≤ Protobuf.intMax
  capnproto : L.capnproto.Fits p
  boost : p.record.FitsIn L.boost.maxLength
  msgpack : p.record.FitsIn L.msgpack.maxLength
  cereal : p.record.FitsIn L.cereal.maxLength
  avro : p.record.FitsIn L.avro.maxLength
  yas : p.record.FitsIn (L.yas yasOptions).maxLength
  yasCompact : p.record.FitsIn (L.yas yasCompactOptions).maxLength
  capnprotoReadsBack :
    ∀ r1, capnprotoBuild L.capnproto p = .ok r1 → L.capnproto.ReadsBack r1
  flatbuffersReadsBack :
    L.flatbuffers.ReadsBack (FlatBuffers.payloadRecord L.flatbuffers p).2
      (FlatBuffers.payloadRecord L.flatbuffers p).1

variable {L : Libraries} {p : Payload}

/-- **Lawful libraries carry the record** of every payload within their limits. -/
theorem Libraries.codecs_roundTrips (hL : L.Lawful) (hp : L.Carries p) :
    L.codecs.RoundTrips p where
  thrift proto := by
    obtain ⟨Inside, hstep⟩ := hL.thrift proto
    exact hstep.roundTrips (hp.thrift proto)
  protobuf := hL.protobuf.exact hp.protobuf
  capnproto := hL.capnproto.roundTrips hp.capnprotoReadsBack
  boost := Archive.roundTrips hL.boost hp.boost
  msgpack := hL.msgpack.roundTrips hp.msgpack
  cereal := Archive.roundTrips hL.cereal hp.cereal
  avro := Avro.roundTrips hL.avro hp.avro
  flatbuffers := by
    obtain ⟨table, hlawful⟩ := hL.flatbuffers
    exact hlawful.roundTrips hp.flatbuffersReadsBack
  yas := Archive.roundTrips hL.yas hp.yas
  yasCompact := Archive.roundTrips hL.yasCompact hp.yasCompact

/-- Cap'n Proto can build the message of the payload. -/
theorem Libraries.builds (hL : L.Lawful) (hp : L.Carries p) :
    ∃ r1, capnprotoBuild L.codecs.capnproto p = .ok r1 :=
  (capnprotoBuild_returns_iff hL.capnproto).mpr hp.capnproto

/-- A payload whose string is UTF-8, or that has no strings, is parsed. -/
theorem Libraries.parses (hL : L.Lawful) (hp : L.Carries p)
    (hvalid : p.kStringsCount = 0 ∨ L.protobuf.verifyUtf8String p.kStringValue = true) :
    (L.codecs.protobuf.parseFromString (L.codecs.protobuf.serializeToString p.record) {}).1 =
      true := by
  have hstrings : ∀ s ∈ p.record.strings, L.protobuf.verifyUtf8String s = true := by
    intro s hs
    obtain ⟨hcount, rfl⟩ := List.mem_replicate.mp hs
    exact hvalid.resolve_left hcount
  exact congrArg Prod.fst (hL.protobuf.parse_serialize hp.protobuf hstrings {})

/-- A payload with a string that is not UTF-8 is serialized, and then rejected by the check. -/
theorem Libraries.rejects (hL : L.Lawful) (hp : L.Carries p) (hcount : p.kStringsCount ≠ 0)
    (hinvalid : L.protobuf.verifyUtf8String p.kStringValue = false) :
    (L.codecs.protobuf.parseFromString (L.codecs.protobuf.serializeToString p.record) {}).1 =
      false := by
  refine hL.protobuf.parse_serialize_invalid hp.protobuf ⟨p.kStringValue, ?_, hinvalid⟩ {}
  exact List.mem_replicate.mpr ⟨hcount, rfl⟩

end CppSerializers
