import Mathlib.Data.List.Basic
import Mathlib.Data.List.Infix
import Mathlib.Data.List.TakeWhile
import Mathlib.Tactic.Common

/-! # Searching a word in a string

    `occurs w s` is the test "`s.find(w)` succeeds", by recursion on the
    positions of `s`; `occurs_iff_infix` says what it decides.  The other
    lemmas are about characters that the word does not contain: a word is found
    in a list of pieces that such a character joins exactly when it is found in
    one of the pieces, and quoting a string hides no word and adds none.  The last
    ones are about splitting at the first such character. -/

namespace Substrings

variable {α : Type}

/-- The word starts at some position of the string. -/
def occurs [DecidableEq α] (w : List α) : List α → Bool
  | [] => w.isEmpty
  | c :: s => w.isPrefixOf (c :: s) || occurs w s

/-- `occurs` decides "is a contiguous part of". -/
theorem occurs_iff_infix [DecidableEq α] (w s : List α) : occurs w s = true ↔ w <:+: s := by
  induction s with
  | nil => simp [occurs, List.isEmpty_iff]
  | cons c s ih =>
      simp only [occurs, Bool.or_eq_true, List.isPrefixOf_iff_prefix, ih]
      exact List.infix_cons_iff.symm

/-- A prefix without the separator ends before it. -/
theorem prefix_append_cons_iff {w x y : List α} {q : α} (hq : q ∉ w) :
    w <+: x ++ q :: y ↔ w <+: x := by
  constructor
  · intro h
    obtain ⟨t, ht⟩ := h
    rcases List.append_eq_append_iff.mp ht with ⟨z, hx, -⟩ | ⟨z, rfl, hz⟩
    · exact ⟨z, hx.symm⟩
    · cases z with
      | nil => rw [List.append_nil]
      | cons c z =>
          rw [(List.cons.inj hz).1] at hq
          exact absurd (List.mem_append_right _ (List.mem_cons_self ..)) hq
  · intro h
    exact h.trans (List.prefix_append _ _)

/-- A word without the separator is found on one side of it. -/
theorem infix_append_cons_iff {w x y : List α} {q : α} (hw : w ≠ []) (hq : q ∉ w) :
    w <:+: x ++ q :: y ↔ w <:+: x ∨ w <:+: y := by
  induction x with
  | nil =>
      have hno : ¬ w <+: q :: y := by
        intro h
        exact hw (List.prefix_nil.mp ((prefix_append_cons_iff (x := []) hq).mp h))
      rw [List.nil_append, List.infix_cons_iff, List.infix_nil]
      exact or_congr (iff_of_false hno hw) Iff.rfl
  | cons c x ih =>
      rw [List.cons_append, List.infix_cons_iff, List.infix_cons_iff, ih, ← List.cons_append,
        prefix_append_cons_iff hq, or_assoc]

/-- A word without the separator is found in one of the pieces that are joined
    by it. -/
theorem infix_intercalate_iff {w : List α} {q : α} (hw : w ≠ []) (hq : q ∉ w)
    (pieces : List (List α)) :
    w <:+: [q].intercalate pieces ↔ ∃ piece ∈ pieces, w <:+: piece := by
  induction pieces with
  | nil => simpa using hw
  | cons piece pieces ih =>
      cases pieces with
      | nil => simp
      | cons piece' pieces =>
          rw [List.intercalate_cons_cons, List.append_assoc, List.singleton_append,
            infix_append_cons_iff hw hq, ih]
          simp

/-- A character that the word does not contain can be dropped at the front. -/
theorem infix_cons_of_not_mem {w s : List α} {q : α} (hw : w ≠ []) (hq : q ∉ w) :
    w <:+: q :: s ↔ w <:+: s := by
  have h := infix_append_cons_iff (x := []) (y := s) hw hq
  rw [List.nil_append, List.infix_nil] at h
  exact h.trans (or_iff_right hw)

/-- A character that the word does not contain can be dropped at the end. -/
theorem infix_concat_of_not_mem {w s : List α} {q : α} (hw : w ≠ []) (hq : q ∉ w) :
    w <:+: s ++ [q] ↔ w <:+: s := by
  rw [infix_append_cons_iff hw hq, List.infix_nil]
  exact or_iff_left hw

/-- Quoting a string changes no search for a word without quotes. -/
theorem occurs_quoted [DecidableEq α] {w : List α} (s : List α) {q : α} (hw : w ≠ []) (hq : q ∉ w) :
    occurs w (q :: (s ++ [q])) = occurs w s := by
  have hiff : w <:+: q :: (s ++ [q]) ↔ w <:+: s :=
    (infix_cons_of_not_mem hw hq).trans (infix_concat_of_not_mem hw hq)
  rw [Bool.eq_iff_iff, occurs_iff_infix, occurs_iff_infix]
  exact hiff

/-- Two words joined by a separator that the second does not contain can be
    told apart again. -/
theorem join_inj {x x' y y' : List α} {q : α} (hy : q ∉ y) (hy' : q ∉ y')
    (h : x ++ q :: y = x' ++ q :: y') : x = x' ∧ y = y' := by
  rcases List.append_eq_append_iff.mp h with ⟨z, hx, hz⟩ | ⟨z, hx, hz⟩
  · cases z with
    | nil => exact ⟨by rw [hx, List.append_nil], (List.cons.inj hz).2⟩
    | cons c z =>
        refine absurd ?_ hy
        rw [(List.cons.inj hz).2]
        exact List.mem_append_right _ (List.mem_cons_self ..)
  · cases z with
    | nil => exact ⟨by rw [hx, List.append_nil], (List.cons.inj hz).2.symm⟩
    | cons c z =>
        refine absurd ?_ hy'
        rw [(List.cons.inj hz).2]
        exact List.mem_append_right _ (List.mem_cons_self ..)

/-- The word before the first separator, and what comes from there on. -/
theorem span_append_cons [DecidableEq α] {x y : List α} {q : α} (hx : q ∉ x) :
    (x ++ q :: y).takeWhile (· ≠ q) = x ∧ (x ++ q :: y).dropWhile (· ≠ q) = q :: y := by
  have hall : ∀ c ∈ x, decide (c ≠ q) = true := by
    intro c hc
    refine decide_eq_true ?_
    rintro rfl
    exact hx hc
  rw [List.takeWhile_append_of_pos hall, List.dropWhile_append_of_pos hall]
  simp

theorem span_of_not_mem [DecidableEq α] {x : List α} {q : α} (hx : q ∉ x) :
    x.takeWhile (· ≠ q) = x ∧ x.dropWhile (· ≠ q) = [] := by
  rw [List.takeWhile_eq_self_iff, List.dropWhile_eq_nil_iff, and_self_iff]
  intro c hc
  refine decide_eq_true ?_
  rintro rfl
  exact hx hc

end Substrings
