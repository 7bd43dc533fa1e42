import CppSerializers.Benchmarks.Basic
import CppSerializers.Libraries.Thrift
import Mathlib.Logic.Function.Basic

/-!
# The benchmark of Thrift

`thrift_serialization_test` is one function for two protocols. It makes two memory
buffers and, over each, a protocol object of either kind; the loop resets the
buffers but never the protocols. So a round trip is independent of the ones before
it only if writing and reading a record leave their protocol as it was constructed,
which is what `ProtocolCodec.RoundTrips` says.

A `TMemoryBuffer` is its unread content: writing appends, reading consumes,
`resetBuffer()` empties it and `resetBuffer(data, size)` replaces it.
-/

namespace CppSerializers

open Foundation Thrift

/-- `enum class ThriftSerializationProto`. -/
inductive ThriftSerializationProto where
  | binary
  | compact
  deriving DecidableEq, Repr

/-- The tag `thrift_serialization_test` puts on its result. -/
def ThriftSerializationProto.tag : ThriftSerializationProto → StdString
  | .binary => lit "thrift-binary"
  | .compact => lit "thrift-compact"

variable (codec : ThriftSerializationProto → ProtocolCodec)

/-- The local variables of `thrift_serialization_test`. `protocol1` is
`binary_protocol1` and `compact_protocol1`, `protocol2` likewise. -/
structure ThriftState where
  buffer1 : StdString
  buffer2 : StdString
  protocol1 : ∀ proto, (codec proto).Protocol
  protocol2 : ∀ proto, (codec proto).Protocol
  serialized : StdString
  r2 : Record

namespace ThriftState

/-- The variables before anything is written. -/
def initial : ThriftState codec where
  buffer1 := []
  buffer2 := []
  protocol1 proto := (codec proto).fresh
  protocol2 proto := (codec proto).fresh
  serialized := []
  r2 := {}

variable {codec} (st : ThriftState codec) (proto : ThriftSerializationProto)

/-- `buffer1->resetBuffer()`. -/
def resetBuffer1 : ThriftState codec := { st with buffer1 := [] }

/-- `r1.write`, through the protocol of the right kind over `buffer1`. -/
def write (r1 : Record) : ThriftState codec :=
  let written := (codec proto).write r1 (st.protocol1 proto)
  { st with
    buffer1 := st.buffer1 ++ written.1
    protocol1 := Function.update st.protocol1 proto written.2 }

/-- `r2.read`, through the protocol of the right kind over `buffer2`. -/
def read : Except Exception (ThriftState codec) := do
  let ((r2, protocol), unread) ←
    (((codec proto).read st.r2).run (st.protocol2 proto)).run st.buffer2
  return { st with
    buffer2 := unread
    protocol2 := Function.update st.protocol2 proto protocol
    r2 := r2 }

/-- Writing `r1`, copying `buffer1` to `serialized`, pointing `buffer2` to it, and
reading `r2`. -/
def roundTrip (r1 : Record) : Except Exception (ThriftState codec × RoundTrip) := do
  let st := st.write proto r1
  let serialized := st.buffer1
  let st := { st with serialized := serialized, buffer2 := serialized }
  let next ← st.read proto
  return (next, ⟨[serialized], st.buffer2, next.buffer2, next.r2⟩)

end ThriftState

/-- `thrift_serialization_test`. -/
def thriftSerializationTest (env : Env) (v : Versions) (proto : ThriftSerializationProto) : Test :=
  let r1 := env.payload.fill {}
  { State := ThriftState codec
    setUp := do
      let (st, check) ← (ThriftState.initial codec).roundTrip proto r1
      if r1 ≠ st.r2 then throw (.logicError (lit "thrift's case: deserialization failed"))
      else return (st, check)
    -- Of the protocols nothing is reset.
    iteration := fun _ st => st.resetBuffer1.roundTrip proto r1
    result := fun st =>
      Result.mk proto.tag v.packageVersion st.serialized.length env.clock.duration }

/-- The reader took what it was given for the decoded record, through some protocol object
and into some target. -/
def Thrift.ProtocolCodec.Decodes (c : ProtocolCodec) (rt : RoundTrip) : Prop :=
  ∃ target protocol protocol',
    ((c.read target).run protocol).run rt.input = .ok ((rt.decoded, protocol'), rt.unread)

/-- A round trip of the record `r`: the reader decodes what a newly constructed protocol
writes. -/
structure Thrift.ProtocolCodec.Observes (c : ProtocolCodec) (r : Record) (rt : RoundTrip) :
    Prop where
  message_eq : rt.message = [c.encode r]
  input_eq : rt.input = c.encode r
  decodes : c.Decodes rt

variable {codec} {env : Env} {v : Versions} {proto : ThriftSerializationProto} {r : Record}

namespace ThriftState

private theorem buffer1_write {st : ThriftState codec} (hbuffer : st.buffer1 = [])
    (hfresh : st.protocol1 proto = (codec proto).fresh) :
    (st.write proto r).buffer1 = (codec proto).encode r := by
  simp [write, hbuffer, hfresh, ProtocolCodec.encode]

/-- What a round trip does when `buffer1` is empty and the writing protocol is as it was
constructed, whatever the reading protocol does. -/
theorem roundTrip_observes {st next : ThriftState codec} {rt : RoundTrip}
    (hbuffer : st.buffer1 = []) (hfresh : st.protocol1 proto = (codec proto).fresh)
    (h : st.roundTrip proto r = .ok (next, rt)) :
    (codec proto).Observes r rt ∧ next.serialized = (codec proto).encode r ∧
      next.protocol1 proto = ((codec proto).write r (codec proto).fresh).2 ∧
      rt.decoded = next.r2 := by
  have hencode := buffer1_write (r := r) hbuffer hfresh
  -- Only the reader can throw.
  obtain ⟨after, hread, h⟩ := bind_eq_ok.mp h
  obtain ⟨⟨⟨r2, protocol⟩, unread⟩, hrun, hread⟩ := bind_eq_ok.mp hread
  cases hread
  cases h
  refine ⟨⟨congrArg (fun bytes => [bytes]) hencode, hencode, _, _, _, hrun⟩, hencode, ?_, rfl⟩
  simp [write, hfresh]

/-- Both protocol objects of the right kind are as they were constructed. -/
structure Idle (proto : ThriftSerializationProto) (st : ThriftState codec) : Prop where
  protocol1 : st.protocol1 proto = (codec proto).fresh
  protocol2 : st.protocol2 proto = (codec proto).fresh

theorem Idle.resetBuffer1 {st : ThriftState codec} (h : st.Idle proto) :
    st.resetBuffer1.Idle proto := ⟨h.protocol1, h.protocol2⟩

/-- Reading recognises what was written, so a round trip from idle protocols returns. -/
theorem roundTrip_eq_ok (hc : (codec proto).RoundTrips r) {st : ThriftState codec}
    (hbuffer : st.buffer1 = []) (hidle : st.Idle proto) :
    st.roundTrip proto r =
      .ok ({ st.write proto r with
          buffer1 := (codec proto).encode r
          serialized := (codec proto).encode r
          buffer2 := []
          protocol2 := Function.update st.protocol2 proto (codec proto).fresh
          r2 := r },
        ⟨[(codec proto).encode r], (codec proto).encode r, [], r⟩) := by
  have hencode := buffer1_write (r := r) hbuffer hidle.protocol1
  have hrun : (((codec proto).read st.r2).run (st.protocol2 proto)).run
      ((codec proto).encode r) = .ok ((r, (codec proto).fresh), []) := by
    rw [hidle.protocol2]
    simpa using hc.recognises st.r2 []
  rw [roundTrip, hencode]
  show ((((codec proto).read st.r2).run (st.protocol2 proto)).run ((codec proto).encode r) >>=
    fun out => _) >>= _ = _
  rw [hrun]
  rfl

/-- From idle protocols a round trip restores the record and ends in idle protocols. -/
theorem roundTrip_idle (hc : (codec proto).RoundTrips r) {st next : ThriftState codec}
    {rt : RoundTrip} (hbuffer : st.buffer1 = []) (hidle : st.Idle proto)
    (h : st.roundTrip proto r = .ok (next, rt)) :
    (rt.decoded = r ∧ rt.unread = []) ∧ next.r2 = r ∧ next.Idle proto := by
  have hrestores : ((codec proto).write r (codec proto).fresh).2 = (codec proto).fresh :=
    hc.restores
  obtain ⟨_, _, hprotocol1, _⟩ := roundTrip_observes hbuffer hidle.protocol1 h
  rw [roundTrip_eq_ok hc hbuffer hidle] at h
  cases h
  exact ⟨⟨rfl, rfl⟩, rfl, hprotocol1.trans hrestores, Function.update_self ..⟩

end ThriftState

open ThriftState in
/-- For any codec whose protocol is ready for the next record after writing one. -/
theorem thrift_invariant (hrestores : (codec proto).Restores env.payload.record) :
    (thriftSerializationTest codec env v proto).Invariant
      (fun st => st.serialized = (codec proto).encode env.payload.record ∧
        st.protocol1 proto = (codec proto).fresh)
      ((codec proto).Observes env.payload.record) where
  setUp state check h := by
    simp only [thriftSerializationTest, Payload.fill_empty] at h
    obtain ⟨⟨st, rt⟩, hround, h⟩ := bind_eq_ok.mp h
    obtain ⟨_, h⟩ := guard_eq_ok.mp h
    cases h
    obtain ⟨hobserves, hserialized, hprotocol, _⟩ := roundTrip_observes rfl rfl hround
    exact ⟨⟨hserialized, hprotocol.trans hrestores⟩, hobserves⟩
  iteration i state next rt hinv h := by
    simp only [thriftSerializationTest, Payload.fill_empty] at h
    obtain ⟨hobserves, hserialized, hprotocol, _⟩ :=
      roundTrip_observes (rfl : state.resetBuffer1.buffer1 = []) hinv.2 h
    exact ⟨⟨hserialized, hprotocol.trans hrestores⟩, hobserves⟩

open ThriftState in
/-- The check compares the records. Nothing is assumed of the protocols. -/
theorem thrift_check {state : ThriftState codec} {check : RoundTrip}
    (h : (thriftSerializationTest codec env v proto).setUp = .ok (state, check)) :
    (codec proto).Observes env.payload.record check ∧ check.decoded = env.payload.record := by
  simp only [thriftSerializationTest, Payload.fill_empty] at h
  obtain ⟨⟨st, rt⟩, hround, h⟩ := bind_eq_ok.mp h
  obtain ⟨hguard, h⟩ := guard_eq_ok.mp h
  cases h
  obtain ⟨hobserves, _, _, hdecoded⟩ := roundTrip_observes rfl rfl hround
  exact ⟨hobserves, hdecoded.trans (not_not.mp hguard).symm⟩

open ThriftState in
/-- With a protocol that round-trips, every round trip restores the record and leaves the
protocol objects as they were constructed. -/
theorem thrift_restores (hc : (codec proto).RoundTrips env.payload.record) :
    (thriftSerializationTest codec env v proto).Invariant (Idle proto)
      (fun rt => rt.decoded = env.payload.record ∧ rt.unread = []) where
  setUp state check h := by
    simp only [thriftSerializationTest, Payload.fill_empty] at h
    obtain ⟨⟨st, rt⟩, hround, h⟩ := bind_eq_ok.mp h
    obtain ⟨_, h⟩ := guard_eq_ok.mp h
    cases h
    obtain ⟨hrestored, _, hidle⟩ := roundTrip_idle hc rfl ⟨rfl, rfl⟩ hround
    exact ⟨hidle, hrestored⟩
  iteration i state next rt hidle h := by
    simp only [thriftSerializationTest, Payload.fill_empty] at h
    obtain ⟨hrestored, _, hidle⟩ :=
      roundTrip_idle hc (rfl : state.resetBuffer1.buffer1 = []) hidle.resetBuffer1 h
    exact ⟨hidle, hrestored⟩

/-- Both together: what is written and read, and what it restores. -/
theorem thrift_round_trips (hc : (codec proto).RoundTrips env.payload.record) :
    (thriftSerializationTest codec env v proto).Invariant
      (fun st => (st.serialized = (codec proto).encode env.payload.record ∧
        st.protocol1 proto = (codec proto).fresh) ∧ st.Idle proto)
      (fun rt => (codec proto).Observes env.payload.record rt ∧
        rt.decoded = env.payload.record ∧ rt.unread = []) :=
  (thrift_invariant hc.restores).and (thrift_restores hc)

open ThriftState in
theorem thrift_returns (hc : (codec proto).RoundTrips env.payload.record) (n : Nat) :
    ∃ run, (thriftSerializationTest codec env v proto).run n = .ok run := by
  refine (thrift_restores hc).returns ?_ ?_ n
  · have hround := roundTrip_eq_ok hc (rfl : (ThriftState.initial codec).buffer1 = []) ⟨rfl, rfl⟩
    simp only [thriftSerializationTest, Payload.fill_empty, hround]
    exact ⟨_, _, if_neg (not_not.mpr rfl)⟩
  · intro i st hidle
    simp only [thriftSerializationTest, Payload.fill_empty]
    exact ⟨_, _, roundTrip_eq_ok hc rfl hidle.resetBuffer1⟩

end CppSerializers
