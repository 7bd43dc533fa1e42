import CppSerializers.Benchmarks.Basic
import CppSerializers.Foundation.ChunkedOutput
import CppSerializers.Libraries.Archives

/-!
# The benchmarks of Boost, cereal, YAS, MessagePack and Avro

All five compare the record they read back with the one they wrote before they start
the clock. They differ in the buffers: Boost and cereal go through one string that
they clear, YAS makes new archives in every iteration, MessagePack appends to one
buffer that it clears, and Avro writes to an output stream that hands out memory in
chunks and is never flushed, so that the reader sees the unwritten end of the last
chunk too and the stream counts it.

What a round trip of any of them looks like is `StreamCodec.Observes`, whatever the
codec does; under `StreamCodec.RoundTrips` it restores the record.
-/

namespace CppSerializers

open Foundation

variable (c : StreamCodec) (env : Env)

/-- The decoder took what it was given for the decoded record, reading into some target. -/
def StreamCodec.Decodes (rt : RoundTrip) : Prop :=
  ∃ target, (c.decode target).run rt.input = .ok (rt.decoded, rt.unread)

/-- A round trip of the record `r`: its encoding is written, and the reader decodes the
encoding followed by `unwritten`. -/
structure StreamCodec.Observes (r : Record) (unwritten : StdString) (rt : RoundTrip) : Prop where
  message_eq : rt.message = [c.encode r]
  input_eq : rt.input = c.encode r ++ unwritten
  decodes : c.Decodes rt

/-- A codec that round-trips restores the record and leaves exactly what was not
written. -/
theorem StreamCodec.Observes.restores {c : StreamCodec} {r : Record} {unwritten : StdString}
    {rt : RoundTrip} (h : c.Observes r unwritten rt) (hc : c.RoundTrips r) :
    rt.decoded = r ∧ rt.unread = unwritten := by
  obtain ⟨target, hread⟩ := h.decodes
  rw [h.input_eq, hc target unwritten] at hread
  cases hread
  exact ⟨rfl, rfl⟩

/-- Without anything behind it, the encoding is decoded completely. -/
theorem StreamCodec.RoundTrips.run_encode {c : StreamCodec} {r : Record} (hc : c.RoundTrips r)
    (target : Record) : (c.decode target).run (c.encode r) = .ok (r, []) :=
  (hc target).run_eq

/-- What the functions of Boost, cereal, YAS and MessagePack come down to, whatever buffers
they keep: the encoding of `r1` is read into a new record, which is compared with `r1`, and
then in every iteration into the target that the state holds. -/
structure StreamCodec.Drives (c : StreamCodec) (r1 : Record) (t : Test) where
  failure : Exception
  /-- The state after the check has produced a record. -/
  first : Record → t.State
  target : t.State → Record
  /-- The state after an iteration has produced a record. -/
  next : t.State → Record → t.State
  setUp_eq : t.setUp = (c.decode {}).run (c.encode r1) >>= fun read =>
    if r1 ≠ read.1 then throw failure
    else return (first read.1, ⟨[c.encode r1], c.encode r1, read.2, read.1⟩)
  iteration_eq : ∀ i state, t.iteration i state =
    (c.decode (target state)).run (c.encode r1) >>= fun read =>
      return (next state read.1, ⟨[c.encode r1], c.encode r1, read.2, read.1⟩)

namespace StreamCodec.Drives

variable {c} {r1 : Record} {t : Test} (d : c.Drives r1 t)
include d

/-- Whatever the buffers keep, each round trip is one of the encoding alone. -/
theorem invariant {Inv : t.State → Prop} (hfirst : ∀ r2, Inv (d.first r2))
    (hnext : ∀ state r2, Inv state → Inv (d.next state r2)) :
    t.Invariant Inv (c.Observes r1 []) where
  setUp state check h := by
    rw [d.setUp_eq] at h
    obtain ⟨read, hread, h⟩ := bind_eq_ok.mp h
    obtain ⟨_, h⟩ := guard_eq_ok.mp h
    cases h
    exact ⟨hfirst _, rfl, (List.append_nil _).symm, _, hread⟩
  iteration i state next rt hinv h := by
    rw [d.iteration_eq] at h
    obtain ⟨read, hread, h⟩ := bind_eq_ok.mp h
    cases h
    exact ⟨hnext _ _ hinv, rfl, (List.append_nil _).symm, _, hread⟩

/-- The check compares the records. -/
theorem check {state : t.State} {rt : RoundTrip} (h : t.setUp = .ok (state, rt)) :
    rt.decoded = r1 := by
  rw [d.setUp_eq] at h
  obtain ⟨read, _, h⟩ := bind_eq_ok.mp h
  obtain ⟨hguard, h⟩ := guard_eq_ok.mp h
  cases h
  exact (not_not.mp hguard).symm

/-- With a codec that round-trips, the check passes and no iteration throws. -/
theorem returns (hc : c.RoundTrips r1) (n : Nat) : ∃ run, t.run n = .ok run := by
  have hinv : t.Invariant (fun _ => True) (c.Observes r1 []) :=
    d.invariant (fun _ => trivial) fun _ _ _ => trivial
  refine hinv.returns ?_ ?_ n
  · rw [d.setUp_eq, hc.run_encode]
    exact ⟨_, _, if_neg (not_not.mpr rfl)⟩
  · intro i state _
    rw [d.iteration_eq, hc.run_encode]
    exact ⟨_, _, rfl⟩

end StreamCodec.Drives

/-! ## Boost and cereal -/

/-- The common text of `boost_serialization_test` and `cereal_serialization_test`:
`to_string` and `from_string` on one string that is cleared in between. -/
def stringTest (failure : StdString) (result : Nat → Int → Result) : Test :=
  let r1 := env.payload.fill {}
  { State := StdString × Record
    setUp := do
      let serialized := toString c r1 []
      let (r2, unread) ← fromString c {} serialized
      if r1 ≠ r2 then throw (.logicError failure)
      else return ((serialized, r2), ⟨[serialized], serialized, unread, r2⟩)
    iteration := fun _ (serialized, r2) => do
      let serialized := clear serialized
      let serialized := toString c r1 serialized
      let (r2, unread) ← fromString c r2 serialized
      return ((serialized, r2), ⟨[serialized], serialized, unread, r2⟩)
    result := fun (serialized, _) => result serialized.length env.clock.duration }

/-- `boost_serialization_test`. -/
def boostSerializationTest (v : Versions) : Test :=
  stringTest c env (lit "boost's case: deserialization failed")
    (Result.ofNumber (lit "boost") v.boostVersion)

/-- `cereal_serialization_test`. -/
def cerealSerializationTest : Test :=
  stringTest c env (lit "cereal's case: deserialization failed") (Result.mk (lit "cereal") [])

variable {c env} {failure : StdString} {result : Nat → Int → Result}

/-- Whatever `serialized` held, `to_string` replaces it. -/
def stringTestDrives : c.Drives env.payload.record (stringTest c env failure result) where
  failure := .logicError failure
  first r2 := (c.encode env.payload.record, r2)
  target state := state.2
  next _ r2 := (c.encode env.payload.record, r2)
  setUp_eq := by
    simp only [stringTest, Payload.fill_empty]
    rfl
  iteration_eq _ _ := by
    simp only [stringTest, Payload.fill_empty]
    rfl

theorem stringTest_invariant :
    (stringTest c env failure result).Invariant
      (fun state => state.1 = c.encode env.payload.record)
      (c.Observes env.payload.record []) :=
  stringTestDrives.invariant (fun _ => rfl) fun _ _ _ => rfl

/-! ## YAS -/

/-- The tag of `yas_serialization_test`, which depends on `opts & yas::compacted`. -/
def yasTag (opts : YasOptions) : StdString :=
  if opts.compacted then lit "yas-compact" else lit "yas"

/-- `yas_serialization_test<opts>`. The check goes through `to_string` and
`from_string`; the loop uses the archives themselves, on the buffer of the output
stream. -/
def yasSerializationTest (codec : YasOptions → StreamCodec) (env : Env) (v : Versions)
    (opts : YasOptions) : Test :=
  let c := codec opts
  let r1 := env.payload.fill {}
  { State := StdString × Record
    setUp := do
      let serialized := toString c r1 []
      let (r2, unread) ← fromString c {} serialized
      if r1 ≠ r2 then throw (.logicError (lit "yas' case: deserialization failed"))
      else return ((serialized, r2), ⟨[serialized], serialized, unread, r2⟩)
    -- `serialized` is not touched any more.
    iteration := fun _ (serialized, r2) => do
      let intrusiveBuffer := c.encode r1
      let (r2, unread) ← (c.decode r2).run intrusiveBuffer
      return ((serialized, r2), ⟨[intrusiveBuffer], intrusiveBuffer, unread, r2⟩)
    result := fun (serialized, _) =>
      Result.mk (yasTag opts) v.yasVersionString serialized.length env.clock.duration }

variable {codec : YasOptions → StreamCodec} {v : Versions} {opts : YasOptions}

/-- The loop goes through the archives of `to_string` and `from_string`. -/
def yasDrives :
    (codec opts).Drives env.payload.record (yasSerializationTest codec env v opts) where
  failure := .logicError (lit "yas' case: deserialization failed")
  first r2 := ((codec opts).encode env.payload.record, r2)
  target state := state.2
  next state r2 := (state.1, r2)
  setUp_eq := by
    simp only [yasSerializationTest, Payload.fill_empty]
    rfl
  iteration_eq _ _ := by
    simp only [yasSerializationTest, Payload.fill_empty]

/-- The size is taken from the string of the check, which the loop leaves alone. -/
theorem yas_invariant :
    (yasSerializationTest codec env v opts).Invariant
      (fun state => state.1 = (codec opts).encode env.payload.record)
      ((codec opts).Observes env.payload.record []) :=
  yasDrives.invariant (fun _ => rfl) fun _ _ h => h

/-! ## MessagePack -/

/-- `msgpack_serialization_test`. `msgpack::pack` appends to `sbuf`; `serialized` is a
copy of it from before the loop. -/
def msgpackSerializationTest (c : StreamCodec) (env : Env) (v : Versions) : Test :=
  let r1 := env.payload.fill {}
  { State := StdString × StdString × Record
    setUp := do
      let sbuf := []
      let sbuf := sbuf ++ c.encode r1
      let serialized := sbuf
      let (r2, unread) ← (c.decode {}).run serialized
      if r1 ≠ r2 then throw (.logicError (lit "msgpack's case: deserialization failed"))
      else return ((sbuf, serialized, r2), ⟨[sbuf], serialized, unread, r2⟩)
    iteration := fun _ (sbuf, serialized, r2) => do
      let sbuf := clear sbuf
      -- `msgpack::pack` appends.
      let sbuf := sbuf ++ c.encode r1
      let (r2, unread) ← (c.decode r2).run sbuf
      return ((sbuf, serialized, r2), ⟨[sbuf], sbuf, unread, r2⟩)
    result := fun (_, serialized, _) =>
      Result.mk (lit "msgpack") v.msgpackVersion serialized.length env.clock.duration }

/-- `sbuf` holds one encoding, because it is cleared before the next is appended. -/
def msgpackDrives :
    c.Drives env.payload.record (msgpackSerializationTest c env v) where
  failure := .logicError (lit "msgpack's case: deserialization failed")
  first r2 := (c.encode env.payload.record, c.encode env.payload.record, r2)
  target state := state.2.2
  next state r2 := (c.encode env.payload.record, state.2.1, r2)
  setUp_eq := by
    simp only [msgpackSerializationTest, Payload.fill_empty, List.nil_append]
  iteration_eq _ _ := by
    simp only [msgpackSerializationTest, Payload.fill_empty, clear, List.nil_append]

/-- The size is taken from the copy made before the loop. -/
theorem msgpack_invariant :
    (msgpackSerializationTest c env v).Invariant
      (fun state => state.2.1 = c.encode env.payload.record)
      (c.Observes env.payload.record []) :=
  msgpackDrives.invariant (fun _ => rfl) fun _ _ h => h

/-! ## Avro -/

/-- The chunk size of `avro::memoryOutputStream()`. -/
def avroChunkSize : Nat := 4096

/-- A new `memoryOutputStream` to which an encoder has written a record. The encoder is
never flushed. -/
def avroOutput (c : StreamCodec) (blank : Nat → UInt8) (r : Record) : ChunkedOutput UInt8 :=
  (ChunkedOutput.empty avroChunkSize blank).putAll (c.encode r)

/-- `avro_serialization_test`. The size is what the stream of the check counts; the
reader gets what that stream shows. The message is what the encoder has filled of it. -/
def avroSerializationTest (c : StreamCodec) (env : Env) : Test :=
  let r1 := env.payload.fill {}
  { State := Nat × Record
    setUp := do
      let out := avroOutput c (env.memory 0) r1
      let serializedSize := out.byteCount
      let input := out.visible
      let (r2, unread) ← (c.decode {}).run input
      if r1.ids ≠ r2.ids ∨ r1.strings ≠ r2.strings ∨ r2.ids.length ≠ env.payload.kIntegers.length
          ∨ r2.strings.length ≠ env.payload.kStringsCount then
        throw (.logicError (lit "avro's case: deserialization failed"))
      else return ((serializedSize, r2), ⟨[out.flush.visible], input, unread, r2⟩)
    iteration := fun i (serializedSize, r2) => do
      -- New streams and coders, but the target of the iteration before.
      let out := avroOutput c (env.memory (i + 1)) r1
      let input := out.visible
      let (r2, unread) ← (c.decode r2).run input
      return ((serializedSize, r2), ⟨[out.flush.visible], input, unread, r2⟩)
    result := fun (serializedSize, _) =>
      Result.mk (lit "avro") [] serializedSize env.clock.duration }

theorem avro_visible (blank : Nat → UInt8) (r : Record) :
    ∃ unwritten, (avroOutput c blank r).visible = c.encode r ++ unwritten :=
  ChunkedOutput.visible_putAll (by decide) _

theorem avro_flush (blank : Nat → UInt8) (r : Record) :
    (avroOutput c blank r).flush.visible = c.encode r :=
  (ChunkedOutput.flush_putAll (by decide) _).2

/-- The reader is given the encoding, and after it whatever the last chunk held. -/
theorem avro_invariant :
    (avroSerializationTest c env).Invariant
      (fun state => state.1 = (avroOutput c (env.memory 0) env.payload.record).byteCount)
      (fun rt => ∃ unwritten, c.Observes env.payload.record unwritten rt) where
  setUp state check h := by
    obtain ⟨unwritten, hvisible⟩ := avro_visible (c := c) (env.memory 0) env.payload.record
    simp only [avroSerializationTest, Payload.fill_empty, avro_flush] at h
    obtain ⟨⟨r2, unread⟩, hread, h⟩ := bind_eq_ok.mp h
    obtain ⟨_, h⟩ := guard_eq_ok.mp h
    cases h
    exact ⟨rfl, unwritten, rfl, hvisible, _, hread⟩
  iteration i state next rt hinv h := by
    obtain ⟨unwritten, hvisible⟩ := avro_visible (c := c) (env.memory (i + 1)) env.payload.record
    simp only [avroSerializationTest, Payload.fill_empty, avro_flush] at h
    obtain ⟨⟨r2, unread⟩, hread, h⟩ := bind_eq_ok.mp h
    cases h
    exact ⟨hinv, unwritten, rfl, hvisible, _, hread⟩

/-- The check compares both vectors; the two comparisons of sizes add nothing. -/
theorem avro_check {state : Nat × Record} {check : RoundTrip}
    (h : (avroSerializationTest c env).setUp = .ok (state, check)) :
    check.decoded = env.payload.record := by
  simp only [avroSerializationTest, Payload.fill_empty] at h
  obtain ⟨⟨r2, unread⟩, _, h⟩ := bind_eq_ok.mp h
  obtain ⟨hguard, h⟩ := guard_eq_ok.mp h
  cases h
  simp only [not_or, not_not] at hguard
  exact congrArg₂ Record.mk hguard.1.symm hguard.2.1.symm

/-- The reader of an unflushed stream decodes the record all the same, whatever the memory
held. -/
theorem avro_run_visible (hc : c.RoundTrips env.payload.record) (blank : Nat → UInt8)
    (target : Record) :
    ∃ unread, (c.decode target).run (avroOutput c blank env.payload.record).visible =
      .ok (env.payload.record, unread) := by
  obtain ⟨unwritten, hvisible⟩ := avro_visible (c := c) blank env.payload.record
  exact ⟨unwritten, by rw [hvisible, hc target unwritten]⟩

theorem avro_returns (hc : c.RoundTrips env.payload.record) (n : Nat) :
    ∃ run, (avroSerializationTest c env).run n = .ok run := by
  refine avro_invariant.returns ?_ ?_ n
  · obtain ⟨unread, hread⟩ := avro_run_visible hc (env.memory 0) {}
    simp only [avroSerializationTest, Payload.fill_empty, hread]
    refine ⟨_, _, if_neg ?_⟩
    simp [Payload.record]
  · rintro i ⟨serializedSize, r2⟩ _
    obtain ⟨unread, hread⟩ := avro_run_visible hc (env.memory (i + 1)) r2
    simp only [avroSerializationTest, Payload.fill_empty, hread]
    exact ⟨_, _, rfl⟩

end CppSerializers
