import Mathlib.Data.List.Basic

/-!
# Text cut at a separator

Lines end with a separator; fields stand between separators. `List.splitOn` cuts
a list at every occurrence of a separator and keeps the empty pieces. This
module says which lists the pieces are, and that cutting inverts writing in both
disciplines, as long as no piece contains the separator itself.

## Main definitions

* `IsPiece` — a maximal stretch without the separator
* `terminated` — pieces written one after another, each followed by the separator
* `readTerminated` — the pieces of a terminated text

## Main results

* `mem_splitOn_iff` — the pieces of a cut are the maximal separator-free stretches
* `readTerminated_terminated` — cutting inverts termination
-/

namespace CppSerializers.Foundation

variable {α : Type*}

/-- `piece` is a maximal stretch of `text` without `sep`: it stands between the ends
of `text` or occurrences of `sep`, and contains no `sep`. -/
def IsPiece (sep : α) (text piece : List α) : Prop :=
  sep ∉ piece ∧ ∃ before after, text = before ++ piece ++ after ∧
    (before = [] ∨ ∃ b, before = b ++ [sep]) ∧ (after = [] ∨ ∃ a, after = sep :: a)

private theorem mem_splitOn_front [DecidableEq α] {sep : α} {piece after : List α}
    (hpiece : sep ∉ piece) (hafter : after = [] ∨ ∃ a, after = sep :: a) :
    piece ∈ (piece ++ after).splitOn sep := by
  rcases hafter with rfl | ⟨a, rfl⟩
  · simp [List.splitOn_eq_singleton hpiece]
  · simp [List.splitOn_append_cons_self_of_not_mem hpiece]

/-- A maximal separator-free stretch is a piece of the cut. -/
theorem IsPiece.mem_splitOn [DecidableEq α] {sep : α} {text piece : List α}
    (h : IsPiece sep text piece) : piece ∈ text.splitOn sep := by
  obtain ⟨hpiece, before, after, rfl, hbefore, hafter⟩ := h
  have hfront := mem_splitOn_front hpiece hafter
  -- A separator in front of the piece cuts off all that stands before it.
  rcases hbefore with rfl | ⟨b, rfl⟩
  · simpa using hfront
  · rw [List.append_assoc, List.append_assoc, List.singleton_append,
      List.splitOn_append_cons_self]
    exact List.mem_append_right _ hfront

private theorem IsPiece.of_rest {sep : α} {front rest piece : List α}
    (h : IsPiece sep rest piece) : IsPiece sep (front ++ sep :: rest) piece := by
  obtain ⟨hpiece, before, after, rfl, hbefore, hafter⟩ := h
  refine ⟨hpiece, front ++ sep :: before, after, by simp, Or.inr ?_, hafter⟩
  rcases hbefore with rfl | ⟨b, rfl⟩
  · exact ⟨front, rfl⟩
  · exact ⟨front ++ sep :: b, by simp⟩

private theorem isPiece_of_mem_splitOn [DecidableEq α] {sep : α} (n : Nat)
    {text piece : List α} (hn : text.length ≤ n) (h : piece ∈ text.splitOn sep) :
    IsPiece sep text piece := by
  -- On the length of the text: what follows its first separator is shorter.
  induction n generalizing text with
  | zero =>
    obtain rfl := List.eq_nil_of_length_eq_zero (Nat.le_zero.mp hn)
    obtain rfl : piece = [] := by simpa using h
    exact ⟨List.not_mem_nil, [], [], rfl, Or.inl rfl, Or.inl rfl⟩
  | succ n ih =>
    by_cases hsep : sep ∈ text
    · obtain ⟨front, rest, rfl, hfront⟩ := List.eq_append_cons_of_mem hsep
      rw [List.splitOn_append_cons_self_of_not_mem hfront, List.mem_cons] at h
      rcases h with rfl | h
      · exact ⟨hfront, [], sep :: rest, rfl, Or.inl rfl, Or.inr ⟨rest, rfl⟩⟩
      · rw [List.length_append, List.length_cons] at hn
        exact (ih (by omega) h).of_rest
    · rw [List.splitOn_eq_singleton hsep, List.mem_singleton] at h
      subst h
      exact ⟨hsep, [], [], by simp, Or.inl rfl, Or.inl rfl⟩

/-- The pieces of a cut are exactly the maximal separator-free stretches. -/
theorem mem_splitOn_iff [DecidableEq α] {sep : α} {text piece : List α} :
    piece ∈ text.splitOn sep ↔ IsPiece sep text piece :=
  ⟨isPiece_of_mem_splitOn text.length (Nat.le_refl _), IsPiece.mem_splitOn⟩

/-! ## Terminated pieces -/

/-- The pieces one after another, each followed by the separator. -/
def terminated (sep : α) (pieces : List (List α)) : List α :=
  pieces.flatMap fun piece => piece ++ [sep]

/-- The pieces of a terminated text: those of the cut, less the empty one behind the
last separator. -/
def readTerminated [DecidableEq α] (sep : α) (text : List α) : List (List α) :=
  (text.splitOn sep).dropLast

@[simp] theorem terminated_nil (sep : α) : terminated sep [] = [] := rfl

@[simp] theorem terminated_cons (sep : α) (piece : List α) (pieces : List (List α)) :
    terminated sep (piece :: pieces) = piece ++ sep :: terminated sep pieces := by
  simp [terminated]

private theorem splitOn_terminated [DecidableEq α] {sep : α} {pieces : List (List α)}
    (h : ∀ piece ∈ pieces, sep ∉ piece) :
    (terminated sep pieces).splitOn sep = pieces ++ [[]] := by
  induction pieces with
  | nil => simp
  | cons piece pieces ih =>
    rw [terminated_cons, List.splitOn_append_cons_self_of_not_mem (h piece List.mem_cons_self),
      ih fun p hp => h p (List.mem_cons_of_mem piece hp), List.cons_append]

/-- Cutting a terminated text gives the pieces back, when none contains the separator. -/
theorem readTerminated_terminated [DecidableEq α] {sep : α} {pieces : List (List α)}
    (h : ∀ piece ∈ pieces, sep ∉ piece) :
    readTerminated sep (terminated sep pieces) = pieces := by
  rw [readTerminated, splitOn_terminated h, List.dropLast_concat]

end CppSerializers.Foundation
