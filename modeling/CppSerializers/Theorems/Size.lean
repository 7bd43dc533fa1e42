import CppSerializers.Reference.Libraries

/-!
# The reported size

Eight of the nine functions report the number of bytes that were written for the
record, whatever the number of iterations. `avro_serialization_test` asks its output
stream for `byteCount()` without flushing the encoder first, and so reports the
chunks the stream has handed out.

## Main results

* `reported_size` — the reported size is the encoded size, for Avro exactly at chunk
  boundaries, and in any case it does not depend on the number of iterations
-/

namespace CppSerializers

open Foundation

private theorem reportedSize_eq_iff {b : Benchmark} {c : Codecs} {p : Payload} :
    b.reportedSize c p = (b.encoding c p).size ↔
      (b = .avro → avroChunkSize ∣ (b.encoding c p).size) := by
  cases b
  case avro =>
    rw [Benchmark.reportedSize, ChunkedOutput.mul_ceilDiv_eq_iff_dvd (by decide)]
    exact ⟨fun h _ => h, fun h => h rfl⟩
  all_goals exact ⟨fun _ h => absurd h (by decide), fun _ => rfl⟩

/-- **The reported size**, of any call that returns, over any codecs whose Thrift protocols
are ready for the next record after writing one. -/
theorem reported_size (c : Codecs) (env : Env)
    (hthrift : ∀ proto, (c.thrift proto).Restores env.payload.record) (b : Benchmark) (n : Nat)
    {run : Run} (hrun : (b.test c env).run n = .ok run) :
    run.check.message = b.encoding c env.payload ∧
      (run.result.size = run.check.message.size ↔
        (b = .avro → avroChunkSize ∣ (b.encoding c env.payload).size)) ∧
      ∀ m run', (b.test c env).run m = .ok run' → run'.result.size = run.result.size := by
  have hmessage := (Benchmark.check_observed hrun).message_eq
  have hsize := Benchmark.size_eq hthrift hrun
  refine ⟨hmessage, ?_, ?_⟩
  · rw [hmessage, hsize]
    exact reportedSize_eq_iff
  · -- Neither size depends on the number of iterations.
    intro m run' hrun'
    rw [hsize, Benchmark.size_eq hthrift hrun']

/-- The compact protocol of Thrift, which has a state, reports what it wrote. -/
theorem reported_size_sample :
    ∃ run, (Benchmark.thriftCompact.test Reference.libraries.codecs Reference.sampleEnv).run 2 =
        .ok run ∧
      run.result.size = run.check.message.size := by
  obtain ⟨run, hrun⟩ := Reference.sample_returns .thriftCompact 2
  have hsize := reported_size Reference.libraries.codecs Reference.sampleEnv
    (fun proto => (Reference.codecs_roundTrips.thrift proto).restores) .thriftCompact 2 hrun
  exact ⟨run, hrun, hsize.2.1.mpr fun h => absurd h (by decide)⟩

/-- Avro writes seven bytes for the sample, and reports a chunk. -/
theorem avro_reports_chunk :
    Benchmark.avro.encoding Reference.libraries.codecs Reference.sample =
        [[2, 2, 0, 2, 2, 97, 0]] ∧
      Benchmark.avro.reportedSize Reference.libraries.codecs Reference.sample = 4096 ∧
      ¬∀ n run, (Benchmark.avro.test Reference.libraries.codecs Reference.sampleEnv).run n =
          .ok run →
        run.result.size =
          (Benchmark.avro.encoding Reference.libraries.codecs Reference.sample).size := by
  refine ⟨by decide, by decide, fun hexact => ?_⟩
  obtain ⟨run, hrun⟩ := Reference.sample_returns .avro 1
  have hsize := Benchmark.size_eq
    (fun proto => (Reference.codecs_roundTrips.thrift proto).restores) hrun
  have hequal := hsize.symm.trans (hexact 1 run hrun)
  exact absurd (reportedSize_eq_iff.mp hequal rfl) (by decide)

end CppSerializers
