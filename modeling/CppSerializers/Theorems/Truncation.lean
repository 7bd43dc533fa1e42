import CppSerializers.Reference.Libraries
import CppSerializers.Reference.Sequential

/-!
# Truncated messages

Eight of the benchmarks read their record from a stream. The decoder of each decides on
what it has read: whatever follows, it makes the same record of it and leaves the rest.
So a message that was cut short is rejected, and never taken for another record, and
records may be written one behind the other.

Protocol Buffers is not among them. Its messages end where their input ends, and one that
is cut between two fields is another message.

## Main definitions

* `Benchmark.streamCodec` — the codec of a benchmark that reads from a stream
* `Libraries.Sequential` — no call of a library looks past what it takes

## Main results

* `truncated_message_rejected` — the decoders ignore what follows and reject what was cut short
-/

namespace CppSerializers

open Foundation

variable {L : Libraries} {b : Benchmark} {codec : StreamCodec}

/-- A record through two new protocol objects. -/
def Thrift.ProtocolCodec.streamCodec (c : ProtocolCodec) : StreamCodec where
  encode := c.encode
  decode target := Prod.fst <$> (c.read target).run c.fresh

/-- The codec of a benchmark, if it reads from a stream. -/
def Benchmark.streamCodec (c : Codecs) : Benchmark → Option StreamCodec
  | .thriftBinary => some (c.thrift .binary).streamCodec
  | .thriftCompact => some (c.thrift .compact).streamCodec
  | .boost => some c.boost
  | .msgpack => some c.msgpack
  | .cereal => some c.cereal
  | .avro => some c.avro
  | .yas => some (c.yas yasOptions)
  | .yasCompact => some (c.yas yasCompactOptions)
  | .protobuf | .capnproto | .flatbuffers => none

/-- The longest vector or string that a benchmark's library carries, if it reads from a
stream. -/
def Libraries.maxLength (L : Libraries) : Benchmark → Nat
  | .thriftBinary => (L.thrift .binary).maxLength
  | .thriftCompact => (L.thrift .compact).maxLength
  | .boost => L.boost.maxLength
  | .msgpack => L.msgpack.maxLength
  | .cereal => L.cereal.maxLength
  | .avro => L.avro.maxLength
  | .yas => (L.yas yasOptions).maxLength
  | .yasCompact => (L.yas yasCompactOptions).maxLength
  | .protobuf | .capnproto | .flatbuffers => 0

/-- No primitive of the libraries looks past what it takes. -/
structure Libraries.Sequential (L : Libraries) : Prop where
  thrift : ∀ proto, (L.thrift proto).Sequential
  boost : L.boost.Sequential
  msgpack : Streaming L.msgpack.unpack
  cereal : L.cereal.Sequential
  avro : L.avro.Sequential
  yas : (L.yas yasOptions).Sequential
  yasCompact : (L.yas yasCompactOptions).Sequential

private theorem streamCodec_roundTrips {c : Thrift.ProtocolCodec} {r : Record}
    (h : c.RoundTrips r) : c.streamCodec.RoundTrips r := fun target =>
  (h.recognises target).map Prod.fst

private theorem roundTrips_of_streamCodec (hL : L.Lawful)
    (hcodec : b.streamCodec L.codecs = some codec) {r : Record} (hr : r.FitsIn (L.maxLength b)) :
    codec.RoundTrips r := by
  cases b <;> cases hcodec
  case thriftBinary | thriftCompact =>
    obtain ⟨_, hstep⟩ := hL.thrift _
    exact streamCodec_roundTrips (hstep.roundTrips hr)
  case boost => exact Archive.roundTrips hL.boost hr
  case msgpack => exact hL.msgpack.roundTrips hr
  case cereal => exact Archive.roundTrips hL.cereal hr
  case avro => exact Avro.roundTrips hL.avro hr
  case yas => exact Archive.roundTrips hL.yas hr
  case yasCompact => exact Archive.roundTrips hL.yasCompact hr

private theorem streaming_of_streamCodec (hL : L.Sequential)
    (hcodec : b.streamCodec L.codecs = some codec) (target : Record) :
    Streaming (codec.decode target) := by
  cases b <;> cases hcodec
  case thriftBinary | thriftCompact =>
    exact (Thrift.read_streaming (hL.thrift _) target _).map Prod.fst
  case boost => exact Archive.decode_streaming hL.boost target
  case msgpack => exact Msgpack.decode_streaming hL.msgpack target
  case cereal => exact Archive.decode_streaming hL.cereal target
  case avro => exact Avro.decode_streaming hL.avro target
  case yas => exact Archive.decode_streaming hL.yas target
  case yasCompact => exact Archive.decode_streaming hL.yasCompact target

/-- **Truncated messages are rejected**, by every decoder that reads from a stream, whatever its
target held. What follows a message has no influence on the record that is made of it, and of
any other input neither. -/
theorem truncated_message_rejected (hL : L.Lawful) (hsequential : L.Sequential)
    (hcodec : b.streamCodec L.codecs = some codec) {r : Record} (hr : r.FitsIn (L.maxLength b))
    (target : Record) :
    (∀ front back, codec.encode r = front ++ back → back ≠ [] →
        ∃ e, (codec.decode target).run front = .error e) ∧
      ∀ stream out rest more, (codec.decode target).run stream = .ok (out, rest) →
        (codec.decode target).run (stream ++ more) = .ok (out, rest ++ more) := by
  have hstreaming := streaming_of_streamCodec hsequential hcodec target
  refine ⟨fun front back hcut hback => ?_, hstreaming⟩
  have hrecognises := roundTrips_of_streamCodec hL hcodec hr target
  rw [hcut] at hrecognises
  exact hstreaming.rejects_truncated hrecognises hback

private theorem libraries_sequential : Reference.libraries.Sequential where
  thrift
    | .binary => Reference.Thrift.binaryProtocol_sequential
    | .compact => Reference.Thrift.compactProtocol_sequential
  boost := Reference.boostArchive_sequential
  msgpack := Reference.Msgpack.unpack_streaming 2
  cereal := Reference.plainArchive_sequential
  avro := Reference.avroVectors_sequential
  yas := Reference.plainArchive_sequential
  yasCompact := Reference.compactArchive_sequential

/-- The compact protocol of Thrift misses the stop field. -/
theorem truncated_message_rejected_sample :
    ∃ e, ((Reference.libraries.codecs.thrift .compact).streamCodec.decode {}).run
      [25, 22, 2, 25, 24, 1, 97] = .error e :=
  (truncated_message_rejected Reference.libraries_lawful libraries_sequential
    (rfl : Benchmark.thriftCompact.streamCodec Reference.libraries.codecs = _)
    (Reference.libraries_carries.thrift .compact) {}).1 _ [0] (by decide) (by decide)

end CppSerializers
