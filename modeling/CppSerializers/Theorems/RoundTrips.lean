import CppSerializers.Reference.Libraries

/-!
# The timed loop

What the functions carry from one iteration to the next is different for each of
them: the two buffers and four protocols of Thrift, the string and the target of the
archives, the buffer of MessagePack, the offsets of FlatBuffers. Over libraries that
do what they are documented to do none of it shows: every iteration writes the
message that was checked before the loop, reads that message and nothing else, and
restores the record.

## Main results

* `timed_round_trips` — every iteration of every benchmark, and which calls return
* `capnprotoBuild_in_place` — what the loops that set the lists in place build
-/

namespace CppSerializers

open Foundation

variable {L : Libraries} {env : Env} {n : Nat} {run : Run}

private theorem parses_of_returns (hL : L.Lawful) (hp : L.Carries env.payload)
    (hrun : (Benchmark.protobuf.test L.codecs env).run n = .ok run) :
    env.payload.kStringsCount = 0 ∨
      L.protobuf.verifyUtf8String env.payload.kStringValue = true := by
  by_contra hinvalid
  obtain ⟨hcount, hvalue⟩ := not_or.mp hinvalid
  have hrejects := Libraries.rejects hL hp hcount (Bool.eq_false_of_not_eq_true hvalue)
  -- The check before the loop has seen the parser succeed on the same message.
  obtain ⟨_, _, hsetUp, _, _⟩ := Test.run_eq_ok_iff.mp hrun
  obtain ⟨hparse, _, _⟩ := protobuf_check.mp hsetUp
  have hfalse : true = false := (congrArg Prod.fst hparse).symm.trans hrejects
  exact absurd hfalse (by decide)

/-- **Every timed iteration is a full and independent round trip.** A call makes the
iterations it is asked for, and each writes the encoding of the payload's record, which is
the message of the check, reads it and nothing else, and restores the record. What the
memory behind the message of Avro holds has no influence. A call returns unless a string is
not UTF-8 and the benchmark is that of Protocol Buffers. -/
theorem timed_round_trips (hL : L.Lawful) (env : Env) (hp : L.Carries env.payload)
    (b : Benchmark) (n : Nat) :
    (∀ run, (b.test L.codecs env).run n = .ok run →
      run.timed.length = n ∧
        ∀ k < n, ∃ rt, run.timed[k]? = some rt ∧ b.Restored L.codecs env.payload rt ∧
          rt.message = run.check.message) ∧
      ((∃ run, (b.test L.codecs env).run n = .ok run) ↔
        (b = .protobuf → env.payload.kStringsCount = 0 ∨
          L.protobuf.verifyUtf8String env.payload.kStringValue = true)) := by
  have hcodecs := Libraries.codecs_roundTrips hL hp
  refine ⟨fun run hrun => ⟨Test.length_timed hrun, fun k hk => ?_⟩, ?_, fun hvalid => ?_⟩
  · obtain ⟨rt, hrt, hrestored⟩ := Benchmark.timed_restored hcodecs hrun k hk
    have hcheck := (Benchmark.check_observed hrun).message_eq
    exact ⟨rt, hrt, hrestored, hrestored.message_eq.trans hcheck.symm⟩
  · rintro ⟨run, hrun⟩ rfl
    exact parses_of_returns hL hp hrun
  · refine Benchmark.returns hcodecs (fun _ => Libraries.builds hL hp) ?_ n
    exact fun hb => Libraries.parses hL hp (hvalid hb)

/-- Three iterations of Avro on the sample. -/
theorem timed_round_trips_sample :
    ∃ run, (Benchmark.avro.test Reference.libraries.codecs Reference.sampleEnv).run 3 = .ok run ∧
      run.timed.length = 3 ∧
      ∀ k < 3, ∃ rt, run.timed[k]? = some rt ∧ rt.decoded = Reference.sample.record := by
  have htimed := timed_round_trips Reference.libraries_lawful Reference.sampleEnv
    Reference.libraries_carries .avro 3
  obtain ⟨run, hrun⟩ := htimed.2.mpr fun h => absurd h (by decide)
  obtain ⟨hlength, hall⟩ := htimed.1 run hrun
  refine ⟨run, hrun, hlength, fun k hk => ?_⟩
  obtain ⟨rt, hrt, hrestored, _⟩ := hall k hk
  exact ⟨rt, hrt, hrestored.decoded_eq⟩

namespace CapnProto

/-- **Setting lists in place** makes a message whose root is that of completing them first, and
throws when that does. Within the limits of the library, and only there, it returns. -/
theorem capnprotoBuild_in_place {library : Library} (h : library.Lawful) (p : Payload) :
    library.asReader <$> capnprotoBuild library p = completedRoot library p ∧
      ((∃ r1, capnprotoBuild library p = .ok r1) ↔ library.Fits p) := by
  have hsame : library.asReader <$> capnprotoBuild library p = id <$> completedRoot library p :=
    (capnprotoBuild_coupled h p).map_eq
  rw [id_map] at hsame
  exact ⟨hsame, capnprotoBuild_returns_iff h⟩

/-- The root of the sample. -/
theorem capnprotoBuild_in_place_sample :
    Reference.CapnProto.library.asReader <$>
        capnprotoBuild Reference.CapnProto.library Reference.sample =
      .ok ⟨[.ints [1], .strings [lit "a"]]⟩ :=
  (capnprotoBuild_in_place Reference.CapnProto.library_lawful Reference.sample).1.trans rfl

end CapnProto

end CppSerializers
