import CppSerializers.Foundation.Progress
import Mathlib.Algebra.Group.Hom.Defs

/-!
# Programs that count what they transfer

A call may report how much it transferred, for its caller to add up: `n += call()`. The
counter is then one more component of the state, and a program over counting calls is the
program over the same calls without reports, beside a counter.

`Reader.Meters` and `Emitter.Meters` relate the two. The counting program does what the
other does, and adds to its counter what that takes from the stream, or writes to it. The
relations compose, so it is enough that every single call reports what it transfers. The
counter may be of any type that sizes can be counted in; a machine word counts them up to
a power of two.

## Main definitions

* `CountingReader`, `CountingEmitter` — calls that report
* `CountingReader.tally`, `CountingEmitter.tally` — adding up what they report
* `CountingReader.Reports`, `CountingEmitter.Reports` — the report is what was transferred
* `Takes` — what a reader takes can be told from its result
* `Reader.Meters`, `Emitter.Meters` — the counter is the only difference
* `Reader.counting`, `Emitter.counting` — a program that returns its counter

## Main results

* `Reader.Meters.bind`, `Reader.Meters.repeatM` — composition of readers
* `Emitter.Meters.andThen`, `Emitter.Meters.forEach` — composition of emitters
* `Reader.Meters.reports`, `Emitter.Meters.reports` — such a program is a call that reports
-/

namespace CppSerializers.Foundation

variable {ε β α γ σ κ : Type} [AddMonoid κ]

/-! ## Readers -/

/-- A reading call that returns how many cells it took. -/
abbrev CountingReader (κ ε σ β α : Type) := StateT σ (Reader ε β) (κ × α)

/-- The call without its report. -/
def CountingReader.plain (call : CountingReader κ ε σ β α) : StateT σ (Reader ε β) α := do
  let (_, a) ← call
  return a

/-- `n += call()`. -/
def CountingReader.tally (call : CountingReader κ ε σ β α) : StateT (κ × σ) (Reader ε β) α :=
  fun st => do
    let ((reported, a), s) ← call.run st.2
    return (a, (st.1 + reported, s))

/-- The call takes cells, and returns how many. -/
structure CountingReader.Reports (count : ℕ →+ κ) (call : CountingReader κ ε σ β α) : Prop where
  consumes : ∀ s, Consumes 0 (call.run s)
  reported_eq : ∀ s stream out rest, (call.run s).run stream = .ok (out, rest) →
    out.1.1 = count (stream.length - rest.length)

/-- `x` does what `y` does, and adds to its counter what `y` takes. -/
structure Reader.Meters (count : ℕ →+ κ) (x : StateT (κ × σ) (Reader ε β) α)
    (y : StateT σ (Reader ε β) α) : Prop where
  consumes : ∀ s, Consumes 0 (y.run s)
  run_eq : ∀ n s stream, (x.run (n, s)).run stream =
    (fun out => ((out.1.1, (n + count (stream.length - out.2.length), out.1.2)), out.2)) <$>
      (y.run s).run stream

namespace Reader.Meters

variable {count : ℕ →+ κ} {x : StateT (κ × σ) (Reader ε β) α} {y : StateT σ (Reader ε β) α}

theorem pure (a : α) :
    Meters count (pure a : StateT (κ × σ) (Reader ε β) α) (pure a : StateT σ (Reader ε β) α) where
  consumes s := Consumes.pure (a, s)
  run_eq n s stream := by
    show Except.ok ((a, (n, s)), stream) =
      .ok ((a, (n + count (stream.length - stream.length), s)), stream)
    rw [Nat.sub_self, map_zero, add_zero]

theorem throw (e : ε) :
    Meters count (throw e : StateT (κ × σ) (Reader ε β) α) (throw e : StateT σ (Reader ε β) α) where
  consumes _ := Consumes.throw e
  run_eq _ _ _ := rfl

/-- Counters add up along a sequence. -/
theorem bind {f : α → StateT (κ × σ) (Reader ε β) γ} {g : α → StateT σ (Reader ε β) γ}
    (h : Meters count x y) (hf : ∀ a, Meters count (f a) (g a)) :
    Meters count (x >>= f) (y >>= g) where
  consumes := Consumes.stateBind h.consumes fun a => (hf a).consumes
  run_eq n s stream := by
    have hfirst := h.run_eq n s stream
    rw [StateT.run_bind, StateT.run_bind, hfirst, StateT.run_bind, StateT.run_bind]
    cases hrun : (y.run s).run stream with
    | error e => rfl
    | ok out =>
      obtain ⟨⟨a, s'⟩, next⟩ := out
      have hsecond := (hf a).run_eq (n + count (stream.length - next.length)) s' next
      refine hsecond.trans ?_
      show _ = (fun out => _) <$> ((g a).run s').run next
      cases hrun' : ((g a).run s').run next with
      | error e => rfl
      | ok out' =>
        have hle := h.consumes s _ _ _ hrun
        have hle' := (hf a).consumes s' _ _ _ hrun'
        have hsum : stream.length - next.length + (next.length - out'.2.length) =
            stream.length - out'.2.length := by omega
        show Except.ok ((_, (_ + _ + _, _)), _) = Except.ok ((_, (_ + _, _)), _)
        rw [add_assoc, ← map_add, hsum]

theorem bind_pure {c : α → γ} (h : Meters count x y) :
    Meters count (x >>= fun a => Pure.pure (c a)) (y >>= fun a => Pure.pure (c a)) :=
  h.bind fun a => pure (c a)

theorem repeatM (h : Meters count x y) (n : Nat) :
    Meters count (Foundation.repeatM x n) (Foundation.repeatM y n) := by
  induction n with
  | zero => exact pure []
  | succ n ih => exact h.bind fun a => ih.bind_pure

end Reader.Meters

/-- The program as a call: its counter starts at zero and is returned. -/
def Reader.counting (x : StateT (κ × σ) (Reader ε β) α) : CountingReader κ ε σ β α := fun s => do
  let (a, st) ← x.run (0, s)
  return ((st.1, a), st.2)

section Counting

variable {count : ℕ →+ κ} {x : StateT (κ × σ) (Reader ε β) α} {y : StateT σ (Reader ε β) α}

private theorem Reader.Meters.run_counting (h : Reader.Meters count x y) (s : σ) (stream : List β) :
    ((Reader.counting x).run s).run stream =
      (fun out => (((count (stream.length - out.2.length), out.1.1), out.1.2), out.2)) <$>
        (y.run s).run stream := by
  show ((x.run (0, s)) >>= _).run stream = _
  rw [StateT.run_bind, h.run_eq]
  cases hrun : (y.run s).run stream with
  | error e => rfl
  | ok out =>
    show Except.ok (((0 + _, _), _), _) = _
    rw [zero_add]
    rfl

/-- The counter is all that is returned beside. -/
theorem Reader.Meters.plain_counting (h : Reader.Meters count x y) :
    (Reader.counting x).plain = y := by
  funext s stream
  show ((Reader.counting x).plain.run s).run stream = (y.run s).run stream
  rw [CountingReader.plain, StateT.run_bind, StateT.run_bind, h.run_counting]
  cases (y.run s).run stream <;> rfl

theorem Reader.Meters.reports (h : Reader.Meters count x y) :
    (Reader.counting x).Reports count where
  consumes s stream out rest hrun := by
    rw [h.run_counting] at hrun
    cases hplain : (y.run s).run stream with
    | error e => rw [hplain] at hrun; cases hrun
    | ok out' =>
      rw [hplain] at hrun
      cases hrun
      exact h.consumes s _ _ _ hplain
  reported_eq s stream out rest hrun := by
    rw [h.run_counting] at hrun
    cases hplain : (y.run s).run stream with
    | error e => rw [hplain] at hrun; cases hrun
    | ok out' =>
      rw [hplain] at hrun
      cases hrun
      rfl

end Counting

/-- Where the call succeeds without its report, it succeeds with the right one. -/
theorem CountingReader.Reports.run_eq {count : ℕ →+ κ} {call : CountingReader κ ε σ β α}
    (h : call.Reports count) {s s' : σ} {stream rest : List β} {a : α}
    (hplain : (call.plain.run s).run stream = .ok ((a, s'), rest)) :
    (call.run s).run stream = .ok (((count (stream.length - rest.length), a), s'), rest) := by
  rw [CountingReader.plain, StateT.run_bind] at hplain
  obtain ⟨out, next, hrun, hout⟩ := run_bind_eq_ok hplain
  cases hout
  rw [hrun, ← h.reported_eq s stream out rest hrun]

/-- A call that returns how many cells it took is counted right. -/
theorem CountingReader.Reports.meters {count : ℕ →+ κ} {call : CountingReader κ ε σ β α}
    (h : call.Reports count) : Reader.Meters count call.tally call.plain where
  consumes := Consumes.stateBind h.consumes fun out s => Consumes.pure (out.2, s)
  run_eq n s stream := by
    show ((call.run s) >>= _).run stream = _
    rw [CountingReader.plain, StateT.run_bind, StateT.run_bind, StateT.run_bind]
    cases hrun : (call.run s).run stream with
    | error e => rfl
    | ok out =>
      have hreported := h.reported_eq s stream out.1 out.2 hrun
      show Except.ok ((_, (n + out.1.1.1, _)), _) = _
      rw [hreported]
      rfl

/-! ### Readers whose result tells what they took -/

/-- With `before` cells taken already, it is `total` of the result when the reader is done. -/
def Takes (before : Nat) (total : α → Nat) (rd : Reader ε β α) : Prop :=
  ∀ stream a rest, rd.run stream = .ok (a, rest) → rest.length + total a = stream.length + before

namespace Takes

variable {before : Nat} {total : α → Nat} {rd : Reader ε β α}

theorem pure {a : α} (h : total a = before) : Takes before total (pure a : Reader ε β α) := by
  intro stream b rest hrun
  cases hrun
  rw [h]

theorem throw (e : ε) : Takes before total (throw e : Reader ε β α) := by
  intro stream a rest hrun
  cases hrun

theorem bind {total' : γ → Nat} {k : α → Reader ε β γ} (h : Takes before total rd)
    (hk : ∀ a, Takes (total a) total' (k a)) : Takes before total' (rd >>= k) := by
  intro stream c rest hrun
  obtain ⟨a, next, hfirst, hsecond⟩ := run_bind_eq_ok hrun
  exact (hk a _ _ _ hsecond).trans (h _ _ _ hfirst)

theorem map {total' : γ → Nat} (f : α → γ) (h : Takes before total rd)
    (hf : ∀ a, total' (f a) = total a) : Takes before total' (f <$> rd) := by
  rw [← bind_pure_comp]
  exact h.bind fun a => pure (hf a)

theorem readCell (eof : ε) :
    Takes before (fun _ => before + 1) (Foundation.readCell eof : Reader ε β β) := by
  intro stream b rest hrun
  cases stream with
  | nil => cases hrun
  | cons c stream =>
    cases hrun
    show rest.length + (before + 1) = rest.length + 1 + before
    omega

private theorem of_run_readBlock {eof : ε} {n : Nat} {stream block rest : List β}
    (hrun : (Foundation.readBlock eof n).run stream = .ok (block, rest)) :
    block.length = n ∧ rest.length + n = stream.length := by
  change (if n ≤ stream.length then _ else _) = _ at hrun
  split at hrun
  · next hle =>
    cases hrun
    exact ⟨List.length_take_of_le hle, by rw [List.length_drop]; omega⟩
  · cases hrun

theorem readBlock (eof : ε) (n : Nat) :
    Takes before (fun _ => before + n) (Foundation.readBlock eof n : Reader ε β (List β)) := by
  intro stream block rest hrun
  obtain ⟨-, hrest⟩ := of_run_readBlock hrun
  show rest.length + (before + n) = _
  omega

/-- The length of a block is that of the result as well. -/
theorem readBlock_length (eof : ε) (n : Nat) :
    Takes before (fun block => before + block.length)
      (Foundation.readBlock eof n : Reader ε β (List β)) := by
  intro stream block rest hrun
  obtain ⟨hblock, hrest⟩ := of_run_readBlock hrun
  show rest.length + (before + block.length) = _
  omega

theorem readBE (eof : ε) (w : Nat) : Takes before (fun _ => before + w) (Foundation.readBE eof w) :=
  (readBlock eof w).map _ fun _ => rfl

theorem consumes (h : Takes 0 total rd) : Consumes 0 rd := by
  intro stream a rest hrun
  have htotal := h stream a rest hrun
  omega

end Takes

/-- The reader as a call: what it took is told from its result. -/
def CountingReader.ofTakes (count : ℕ →+ κ) (total : α → Nat) (rd : Reader ε β α) :
    CountingReader κ ε σ β α := fun s => do
  let a ← rd
  return ((count (total a), a), s)

theorem Takes.reports {count : ℕ →+ κ} {total : α → Nat} {rd : Reader ε β α}
    (h : Takes 0 total rd) : (CountingReader.ofTakes count total rd (σ := σ)).Reports count where
  consumes s := h.consumes.bind fun a => Consumes.pure _
  reported_eq s stream out rest hrun := by
    obtain ⟨a, next, hfirst, hsecond⟩ := run_bind_eq_ok hrun
    cases hsecond
    have htotal := h _ _ _ hfirst
    show count (total a) = _
    exact congrArg count (by omega)

theorem CountingReader.plain_ofTakes (count : ℕ →+ κ) (total : α → Nat) (rd : Reader ε β α) :
    (CountingReader.ofTakes count total rd (σ := σ)).plain = StateT.lift rd := by
  funext s
  have hcall : (CountingReader.ofTakes count total rd).run s =
      rd >>= fun a => Pure.pure ((count (total a), a), s) := rfl
  show (CountingReader.plain _).run s = _
  rw [CountingReader.plain, StateT.run_bind, hcall, bind_assoc]
  rfl

/-- The call without its result. -/
def CountingReader.drop (call : CountingReader κ ε σ β α) : CountingReader κ ε σ β Unit :=
  fun s => do
    let (out, s) ← call.run s
    return ((out.1, ()), s)

omit [AddMonoid κ] in
theorem CountingReader.plain_drop (call : CountingReader κ ε σ β α) :
    call.drop.plain = (fun _ => ()) <$> call.plain := by
  funext s
  have hdrop : call.drop.run s = call.run s >>= fun out => Pure.pure ((out.1.1, ()), out.2) := rfl
  show (CountingReader.plain _).run s = ((fun _ => ()) <$> call.plain).run s
  rw [CountingReader.plain, CountingReader.plain, StateT.run_map, StateT.run_bind, StateT.run_bind,
    hdrop, bind_assoc, map_bind]
  rfl

theorem CountingReader.Reports.drop {count : ℕ →+ κ} {call : CountingReader κ ε σ β α}
    (h : call.Reports count) : call.drop.Reports count where
  consumes s := (h.consumes s).bind fun out => Consumes.pure _
  reported_eq s stream out rest hrun := by
    obtain ⟨first, next, hfirst, hsecond⟩ := run_bind_eq_ok hrun
    cases hsecond
    exact h.reported_eq s stream first _ hfirst

/-! ## Emitters -/

/-- A writing call that returns how many cells it wrote. -/
abbrev CountingEmitter (κ σ β : Type) := σ → κ × List β × σ

/-- The call without its report. -/
def CountingEmitter.plain (call : CountingEmitter κ σ β) : Emitter σ β := fun s => (call s).2

/-- `n += call()`. -/
def CountingEmitter.tally (call : CountingEmitter κ σ β) : Emitter (κ × σ) β := fun st =>
  ((call st.2).2.1, (st.1 + (call st.2).1, (call st.2).2.2))

/-- The call returns how many cells it wrote. -/
def CountingEmitter.Reports (count : ℕ →+ κ) (call : CountingEmitter κ σ β) : Prop :=
  ∀ s, (call s).1 = count (call s).2.1.length

/-- `w` does what `w'` does, and adds to its counter what `w'` writes. -/
def Emitter.Meters (count : ℕ →+ κ) (w : Emitter (κ × σ) β) (w' : Emitter σ β) : Prop :=
  ∀ n s, w (n, s) = ((w' s).1, (n + count (w' s).1.length, (w' s).2))

namespace Emitter.Meters

variable {count : ℕ →+ κ} {w v : Emitter (κ × σ) β} {w' v' : Emitter σ β}

theorem skip : Meters count (Emitter.skip : Emitter (κ × σ) β) (Emitter.skip : Emitter σ β) := by
  intro n s
  show ([], (n, s)) = ([], (n + count 0, s))
  rw [map_zero, add_zero]

theorem andThen (h : Meters count w w') (h' : Meters count v v') :
    Meters count (w.andThen v) (w'.andThen v') := by
  intro n s
  simp only [Emitter.andThen, h n s, h' _ _, List.length_append, map_add, add_assoc]

theorem forEach {put : α → Emitter (κ × σ) β} {put' : α → Emitter σ β} {as : List α}
    (h : ∀ a, Meters count (put a) (put' a)) :
    Meters count (Emitter.forEach put as) (Emitter.forEach put' as) := by
  induction as with
  | nil => exact skip
  | cons a as ih => exact (h a).andThen ih

end Emitter.Meters

/-- The program as a call: its counter starts at zero and is returned. -/
def Emitter.counting (w : Emitter (κ × σ) β) : CountingEmitter κ σ β := fun s =>
  ((w (0, s)).2.1, (w (0, s)).1, (w (0, s)).2.2)

section Counting

variable {count : ℕ →+ κ} {w : Emitter (κ × σ) β} {w' : Emitter σ β}

theorem Emitter.Meters.plain_counting (h : Emitter.Meters count w w') :
    (Emitter.counting w).plain = w' := by
  funext s
  simp only [CountingEmitter.plain, Emitter.counting, h 0 s]

theorem Emitter.Meters.reports (h : Emitter.Meters count w w') :
    (Emitter.counting w).Reports count := by
  intro s
  simp only [Emitter.counting, h 0 s, zero_add]

end Counting

/-- A call that returns how many cells it wrote is counted right. -/
theorem CountingEmitter.Reports.meters {count : ℕ →+ κ} {call : CountingEmitter κ σ β}
    (h : call.Reports count) : Emitter.Meters count call.tally call.plain := by
  intro n s
  simp only [CountingEmitter.tally, CountingEmitter.plain, h s]

end CppSerializers.Foundation
