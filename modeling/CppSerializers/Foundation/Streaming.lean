import CppSerializers.Foundation.Progress

/-!
# Readers that do not look past what they take

A reader of a stream may have to decide before the stream has ended. `Extends rd rd'`
says that where `rd` succeeds, `rd'` makes the same of the stream when more follows, and
leaves that more behind. A reader that extends itself is `Streaming`.

Two readers are needed where a bound on a number of passes is taken from the length of
the stream: with more to read the bound is greater, and it is another reader that runs.
A reader that fails is extended by any.

A format that is read by a streaming reader cannot be truncated unnoticed.

## Main definitions

* `Extends`, `Streaming` — succeeding alike when more follows

## Main results

* `Extends.bind`, `Extends.repeatM`, `Extends.stateBind` — composition
* `Streaming.rejects_truncated` — a proper beginning of what is recognised is rejected
-/

namespace CppSerializers.Foundation

variable {ε β α γ σ : Type}

/-- Where `rd` succeeds, `rd'` does the same with more behind it. -/
def Extends (rd rd' : Reader ε β α) : Prop :=
  ∀ stream a rest more, rd.run stream = .ok (a, rest) →
    rd'.run (stream ++ more) = .ok (a, rest ++ more)

/-- The reader does not look past what it takes. -/
abbrev Streaming (rd : Reader ε β α) : Prop := Extends rd rd

namespace Extends

variable {rd rd' : Reader ε β α} {k k' : α → Reader ε β γ}

theorem pure (a : α) : Streaming (pure a : Reader ε β α) := by
  intro stream b rest more h
  cases h
  rfl

/-- A failure is extended by anything. -/
theorem throw (e : ε) : Extends (throw e) rd := by
  intro stream a rest more h
  cases h

theorem bind (h : Extends rd rd') (hk : ∀ a, Extends (k a) (k' a)) :
    Extends (rd >>= k) (rd' >>= k') := by
  intro stream c rest more hrun
  obtain ⟨a, next, hfirst, hsecond⟩ := run_bind_eq_ok hrun
  rw [StateT.run_bind, h _ _ _ more hfirst]
  exact hk a _ _ _ more hsecond

theorem map (f : α → γ) (h : Extends rd rd') : Extends (f <$> rd) (f <$> rd') := by
  rw [← bind_pure_comp, ← bind_pure_comp]
  exact h.bind fun a => pure (f a)

/-- Readers that look at the stream first. -/
theorem peek {k k' : List β → Reader ε β γ}
    (h : ∀ stream more, Extends (k stream) (k' (stream ++ more))) :
    Extends (get >>= k) (get >>= k') := fun stream a rest more hrun =>
  h stream more stream a rest more hrun

/-- What was computed before does not depend on the stream. -/
theorem ofExcept (x : Except ε α) : Streaming (StateT.lift x : Reader ε β α) := by
  intro stream a rest more h
  cases x with
  | error e => cases h
  | ok a =>
    cases h
    rfl

theorem readCell (eof : ε) : Streaming (Foundation.readCell eof : Reader ε β β) := by
  intro stream b rest more h
  cases stream with
  | nil => cases h
  | cons c stream =>
    cases h
    rfl

theorem readBlock (eof : ε) (n : Nat) : Streaming (Foundation.readBlock eof n : Reader ε β _) := by
  intro stream block rest more h
  change (if n ≤ stream.length then _ else _) = _ at h
  split at h
  · next hle =>
    cases h
    show (if n ≤ (stream ++ more).length then _ else _) = _
    rw [if_pos (by rw [List.length_append]; omega), List.take_append_of_le_length hle,
      List.drop_append_of_le_length hle]
  · cases h

theorem readLE (eof : ε) (w : Nat) : Streaming (Foundation.readLE eof w) := (readBlock eof w).map _

theorem readBE (eof : ε) (w : Nat) : Streaming (Foundation.readBE eof w) := (readBlock eof w).map _

theorem readVarint (eof : ε) (n : Nat) : Streaming (Foundation.readVarint eof n) := by
  induction n with
  | zero => exact throw eof
  | succ n ih =>
    refine (readCell eof).bind fun b => ?_
    split_ifs
    · exact pure _
    · exact ih.bind fun high => pure _

theorem repeatM (h : Extends rd rd') (n : Nat) :
    Extends (Foundation.repeatM rd n) (Foundation.repeatM rd' n) := by
  induction n with
  | zero => exact pure []
  | succ n ih => exact h.bind fun a => ih.bind fun as => pure (a :: as)

/-! With a state of its own, a reader is run from each state. -/

theorem lift (h : Extends rd rd') (s : σ) :
    Extends ((StateT.lift rd).run s) ((StateT.lift rd').run s) := h.bind fun a => pure (a, s)

theorem stateBind {rd rd' : StateT σ (Reader ε β) α} {k k' : α → StateT σ (Reader ε β) γ}
    (h : ∀ s, Extends (rd.run s) (rd'.run s))
    (hk : ∀ a s, Extends ((k a).run s) ((k' a).run s)) (s : σ) :
    Extends ((rd >>= k).run s) ((rd' >>= k').run s) := (h s).bind fun out => hk out.1 out.2

theorem stateRepeatM {rd : StateT σ (Reader ε β) α} (h : ∀ s, Streaming (rd.run s)) (n : Nat)
    (s : σ) : Streaming ((Foundation.repeatM rd n).run s) := by
  induction n generalizing s with
  | zero => exact pure _
  | succ n ih => exact stateBind h (fun a => stateBind ih fun as s => pure (a :: as, s)) s

end Extends

/-- **Truncation is noticed.** A streaming reader rejects every proper beginning of what it
recognises. -/
theorem Streaming.rejects_truncated {rd : Reader ε β α} (h : Streaming rd)
    {front back : List β} {a : α} (hrecognises : Recognises rd (front ++ back) a)
    (hback : back ≠ []) : ∃ e, rd.run front = .error e := by
  cases hrun : rd.run front with
  | error e => exact ⟨e, rfl⟩
  | ok out =>
    -- With the rest behind it, the rest would be left over.
    have hextended := h _ _ _ back hrun
    rw [hrecognises.run_eq] at hextended
    have hleft : ([] : List β) = out.2 ++ back := congrArg Prod.snd (Except.ok.inj hextended)
    exact absurd (List.append_eq_nil_iff.mp hleft.symm).2 hback

end CppSerializers.Foundation
