import Mathlib.Data.List.Flatten
import Mathlib.Control.Basic

/-!
# Self-delimiting readers and writers in lockstep

A reader consumes a prefix of a stream and returns a value, or fails. `Recognises rd
bytes a` says that `rd` recognises `bytes` on its own, without looking at what
follows: on `bytes ++ rest` it returns `a` and leaves exactly `rest`, whatever
`rest` is. This is the property that makes concatenated encodings decodable, and
it composes along `>>=` just as the encodings compose along `++`.

Some formats are not stateless: the bytes of a field may depend on the field
before it. There a writer is a function of its own state, and the reader carries
a state too. `Lockstep R w rd a R'` is the relational triple of the two: from
states related by `R` the reader recognises what the writer emits, returns `a`,
and both end in states related by `R'`.

## Main definitions

* `Reader` — stream readers that may fail
* `Recognises` — a reader recognises an encoding, whatever follows it
* `Emitter` — stateful emitters
* `Lockstep` — relational triples of a writer and a reader
* `repeatM` — read a counted sequence

## Main results

* `Recognises.bind`, `Recognises.repeatM` — composition of stateless readers
* `Lockstep.andThen`, `Lockstep.forEach` — composition of stateful pairs
-/

namespace CppSerializers.Foundation

variable {ε β α γ σ τ : Type}

/-- Readers of a stream of `β` that may fail with an `ε`. -/
abbrev Reader (ε β α : Type) := StateT (List β) (Except ε) α

/-- `rd` recognises `bytes` as `a`: it consumes exactly `bytes`, whatever follows. -/
def Recognises (rd : Reader ε β α) (bytes : List β) (a : α) : Prop :=
  ∀ rest, rd.run (bytes ++ rest) = .ok (a, rest)

/-- Run `rd` a given number of times and collect the results in order. -/
def repeatM {m : Type → Type} [Monad m] (rd : m α) : Nat → m (List α)
  | 0 => pure []
  | n + 1 => do
    let a ← rd
    let as ← repeatM rd n
    return a :: as

namespace Recognises

variable {rd : Reader ε β α} {bytes more : List β} {a : α} {c : γ}

/-- A recognised stream ends the reading when nothing follows. -/
theorem run_eq (h : Recognises rd bytes a) : rd.run bytes = .ok (a, []) := by
  simpa using h []

theorem pure (a : α) : Recognises (pure a : Reader ε β α) [] a := fun _ => rfl

/-- Readers compose as their encodings do. -/
theorem bind {k : α → Reader ε β γ} (h : Recognises rd bytes a) (hk : Recognises (k a) more c) :
    Recognises (rd >>= k) (bytes ++ more) c := by
  intro rest
  rw [StateT.run_bind, List.append_assoc, h (more ++ rest)]
  exact hk rest

/-- The reader may compute a value from what it read without reading on. -/
theorem bind_pure {k : α → Reader ε β γ} (h : Recognises rd bytes a) (hk : k a = Pure.pure c) :
    Recognises (rd >>= k) bytes c := by
  have hc : Recognises (k a) [] c := hk ▸ pure c
  have hboth := h.bind hc
  rwa [List.append_nil] at hboth

theorem map (f : α → γ) (h : Recognises rd bytes a) : Recognises (f <$> rd) bytes (f a) := by
  rw [← bind_pure_comp]
  exact h.bind_pure rfl

/-- A reader may look at the stream, if what it does then does not depend on it. -/
theorem peek {k : List β → Reader ε β γ} (h : ∀ stream, Recognises (k stream) bytes c) :
    Recognises (get >>= k) bytes c := fun rest => h (bytes ++ rest) rest

/-- A counted sequence of encodings is recognised element by element. -/
theorem repeatM_map {put : σ → List β} {value : σ → α} {xs : List σ}
    (h : ∀ x ∈ xs, Recognises rd (put x) (value x)) :
    Recognises (Foundation.repeatM rd xs.length) (xs.flatMap put) (xs.map value) := by
  induction xs with
  | nil => exact pure []
  | cons x xs ih =>
    have hhead := h x List.mem_cons_self
    have htail := ih fun y hy => h y (List.mem_cons_of_mem x hy)
    refine hhead.bind ?_
    rw [bind_pure_comp]
    exact htail.map (value x :: ·)

theorem repeatM {put : α → List β} {as : List α} (h : ∀ a ∈ as, Recognises rd (put a) a) :
    Recognises (Foundation.repeatM rd as.length) (as.flatMap put) as := by
  simpa using repeatM_map h

end Recognises

/-! ## Single cells and blocks of known length -/

/-- Read one cell. -/
def readCell (eof : ε) : Reader ε β β := fun stream =>
  match stream with
  | [] => .error eof
  | b :: rest => .ok (b, rest)

/-- Read the next `n` cells. -/
def readBlock (eof : ε) (n : Nat) : Reader ε β (List β) := fun stream =>
  if n ≤ stream.length then .ok (stream.take n, stream.drop n) else .error eof

theorem recognises_readCell (eof : ε) (b : β) : Recognises (readCell eof) [b] b := fun _ => rfl

/-- A reader that looks at one cell first. -/
theorem Recognises.cell {eof : ε} {b : β} {k : β → Reader ε β γ} {bytes : List β} {c : γ}
    (h : Recognises (k b) bytes c) : Recognises (readCell eof >>= k) (b :: bytes) c :=
  (recognises_readCell eof b).bind h

theorem recognises_readBlock (eof : ε) (block : List β) :
    Recognises (readBlock eof block.length) block block := by
  intro rest
  show (if block.length ≤ (block ++ rest).length then _ else _) = _
  simp

/-! ## Sequences that end with their stream -/

/-- Read to the end of `stream`, at most `fuel` times. -/
def readAll (rd : Reader ε β α) (eof : ε) : Nat → List β → Except ε (List α)
  | _, [] => .ok []
  | 0, _ :: _ => .error eof
  | fuel + 1, b :: bs => do
    let (a, rest) ← rd.run (b :: bs)
    let as ← readAll rd eof fuel rest
    return a :: as

/-- A sequence of encodings, none of them empty, is read to its end. -/
theorem readAll_flatMap {rd : Reader ε β α} {eof : ε} {put : α → List β} {as : List α}
    (h : ∀ a ∈ as, Recognises rd (put a) a) (hne : ∀ a, put a ≠ []) {fuel : Nat}
    (hfuel : (as.flatMap put).length ≤ fuel) : readAll rd eof fuel (as.flatMap put) = .ok as := by
  induction as generalizing fuel with
  | nil =>
    cases fuel with
    | zero => rfl
    | succ fuel => rfl
  | cons a as ih =>
    have hread := h a List.mem_cons_self (as.flatMap put)
    have htail : ∀ fuel, (as.flatMap put).length ≤ fuel →
        readAll rd eof fuel (as.flatMap put) = .ok as :=
      fun fuel => ih fun a' ha => h a' (List.mem_cons_of_mem a ha)
    rw [List.flatMap_cons, List.length_append] at *
    -- One pass spends at least one cell, so the fuel lasts for the tail.
    cases hput : put a with
    | nil => exact absurd hput (hne a)
    | cons b bs =>
      rw [hput, List.length_cons] at hfuel
      obtain ⟨fuel, rfl⟩ : ∃ k, fuel = k + 1 := ⟨fuel - 1, by omega⟩
      rw [hput] at hread
      rw [List.cons_append, readAll, ← List.cons_append, hread]
      show (readAll rd eof fuel (as.flatMap put) >>= fun as => pure (a :: as)) = _
      rw [htail fuel (by omega)]
      rfl

/-! ## Writers with a state, and readers in lockstep -/

/-- An emitter: from its state, the bytes it writes and the state it is left in. -/
abbrev Emitter (σ β : Type) := σ → List β × σ

namespace Emitter

/-- Write nothing. -/
def skip : Emitter σ β := fun s => ([], s)

/-- Write `bytes`, whatever the state. -/
def emit (bytes : List β) : Emitter σ β := fun s => (bytes, s)

/-- Write with `first`, then with `second` from the state `first` left. -/
def andThen (first second : Emitter σ β) : Emitter σ β := fun s =>
  ((first s).1 ++ (second (first s).2).1, (second (first s).2).2)

/-- Write the elements of a list one after another. -/
def forEach (put : α → Emitter σ β) : List α → Emitter σ β
  | [] => skip
  | a :: as => (put a).andThen (forEach put as)

theorem andThen_assoc (w w' w'' : Emitter σ β) :
    (w.andThen w').andThen w'' = w.andThen (w'.andThen w'') := by
  funext s
  simp [andThen]

end Emitter

/-- From states related by `R`, the reader recognises what the writer emits as
`a`, and the two end in states related by `R'`. -/
def Lockstep (R : σ → τ → Prop) (w : Emitter σ β) (rd : StateT τ (Reader ε β) α) (a : α)
    (R' : σ → τ → Prop) : Prop :=
  ∀ s t, R s t → ∃ t', Recognises (rd.run t) (w s).1 (a, t') ∧ R' (w s).2 t'

namespace Lockstep

variable {R R' R'' : σ → τ → Prop} {w w' : Emitter σ β} {rd : StateT τ (Reader ε β) α}
  {a : α} {c : γ}

theorem skip (R : σ → τ → Prop) (a : α) :
    Lockstep R Emitter.skip (pure a : StateT τ (Reader ε β) α) a R :=
  fun _ t h => ⟨t, Recognises.pure _, h⟩

/-- A reader without a state of its own, for bytes that depend on none. -/
theorem lift {rd : Reader ε β α} {bytes : List β} (h : Recognises rd bytes a) :
    Lockstep R (Emitter.emit bytes) (StateT.lift rd) a R :=
  fun _ t hst => ⟨t, h.bind_pure rfl, hst⟩

/-- Triples compose in sequence. -/
theorem andThen {k : α → StateT τ (Reader ε β) γ} (h : Lockstep R w rd a R')
    (hk : Lockstep R' w' (k a) c R'') : Lockstep R (w.andThen w') (rd >>= k) c R'' := by
  intro s t hst
  -- The states after the first pair are related, so the second may be used from them.
  obtain ⟨t', hread, hst'⟩ := h s t hst
  obtain ⟨t'', hread', hst''⟩ := hk _ t' hst'
  refine ⟨t'', ?_, hst''⟩
  rw [StateT.run_bind]
  exact hread.bind hread'

/-- The reader may compute a value from what it read without reading on. -/
theorem bind_pure {k : α → StateT τ (Reader ε β) γ} (h : Lockstep R w rd a R')
    (hk : k a = pure c) : Lockstep R w (rd >>= k) c R' := by
  have hskip : Lockstep R' Emitter.skip (k a) c R' := hk ▸ skip R' c
  have hw : w.andThen Emitter.skip = w := by
    funext s
    simp [Emitter.andThen, Emitter.skip]
  exact hw ▸ h.andThen hskip

theorem map (f : α → γ) (h : Lockstep R w rd a R') :
    Lockstep R w (f <$> rd) (f a) R' := by
  rw [← bind_pure_comp]
  exact h.bind_pure rfl

/-- Elements written one after another under an invariant are read by a counted loop. -/
theorem forEach {put : α → Emitter σ β} {as : List α}
    (h : ∀ a ∈ as, Lockstep R (put a) rd a R) :
    Lockstep R (Emitter.forEach put as) (repeatM rd as.length) as R := by
  induction as with
  | nil => exact skip R []
  | cons a as ih =>
    have hhead := h a List.mem_cons_self
    have htail := ih fun b hb => h b (List.mem_cons_of_mem a hb)
    exact hhead.andThen (htail.bind_pure rfl)

end Lockstep

end CppSerializers.Foundation
