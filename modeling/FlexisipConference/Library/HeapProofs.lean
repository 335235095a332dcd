import Mathlib.Data.List.Basic
import Mathlib.Data.List.Count
import Mathlib.Tactic.Common

/-! # A heap of objects that never reuses an identity

    An object gets the next free identity when it is made, may be written in
    place, and may be destroyed; its identity then names nothing for ever.
    Reads go through `get?`, so that a dangling identity is visible as `none`,
    and `liveCount` counts the objects that are alive.

    Each operation has one lemma for `get?`, one for `next` and, where it
    matters, one for `liveCount`; nothing else is needed to reason about a
    state that is built from heaps. -/

namespace Heaps

variable {α : Type}

/-- The objects in order of creation; a destroyed one leaves its cell empty. -/
structure Heap (α : Type) where
  cells : List (Option α)

namespace Heap

/-- No object was ever made. -/
def empty : Heap α := ⟨[]⟩

/-- The identity of the next object. -/
def next (h : Heap α) : Nat := h.cells.length

/-- The object with this identity, if it is alive. -/
def get? (h : Heap α) (i : Nat) : Option α := (h.cells[i]?).join

/-- Make an object; its identity is `h.next`. -/
def alloc (h : Heap α) (a : α) : Heap α := ⟨h.cells ++ [some a]⟩

/-- Write an object in place. -/
def modify (h : Heap α) (i : Nat) (f : α → α) : Heap α :=
  ⟨h.cells.modify i (Option.map f)⟩

/-- Destroy an object. -/
def free (h : Heap α) (i : Nat) : Heap α := ⟨h.cells.set i none⟩

/-- How many objects are alive. -/
def liveCount (h : Heap α) : Nat := h.cells.countP Option.isSome

@[simp] theorem get?_empty (i : Nat) : (empty : Heap α).get? i = none := rfl

@[simp] theorem next_empty : (empty : Heap α).next = 0 := rfl

@[simp] theorem liveCount_empty : (empty : Heap α).liveCount = 0 := rfl

@[simp] theorem next_alloc (h : Heap α) (a : α) : (h.alloc a).next = h.next + 1 := by
  simp [next, alloc]

@[simp] theorem next_modify (h : Heap α) (i : Nat) (f : α → α) :
    (h.modify i f).next = h.next := by
  simp [next, modify]

@[simp] theorem next_free (h : Heap α) (i : Nat) : (h.free i).next = h.next := by
  simp [next, free]

/-- An object that is alive has an identity already given out. -/
theorem lt_next_of_get? {h : Heap α} {i : Nat} {a : α} (hi : h.get? i = some a) :
    i < h.next := by
  by_contra hge
  have hnone : h.cells[i]? = none := List.getElem?_eq_none (Nat.le_of_not_lt hge)
  simp [get?, hnone] at hi

@[simp] theorem get?_next (h : Heap α) : h.get? h.next = none := by
  simp [get?, next]

/-- Allocation fills the next place, and no other. -/
theorem get?_alloc (h : Heap α) (a : α) (i : Nat) :
    (h.alloc a).get? i = if i = h.next then some a else h.get? i := by
  by_cases hi : i = h.next
  · rw [if_pos hi, hi]
    simp [get?, alloc, next]
  · rw [if_neg hi]
    rcases Nat.lt_or_gt_of_ne hi with hlt | hgt
    · simp only [get?, alloc]
      rw [List.getElem?_append_left hlt]
    · have h1 : (h.cells ++ [some a])[i]? = none := by
        apply List.getElem?_eq_none
        simp only [List.length_append, List.length_singleton]
        exact hgt
      have h2 : h.cells[i]? = none := List.getElem?_eq_none (Nat.le_of_lt hgt)
      simp only [get?, alloc, h1, h2]

@[simp] theorem get?_alloc_self (h : Heap α) (a : α) : (h.alloc a).get? h.next = some a := by
  rw [get?_alloc, if_pos rfl]

/-- A change reaches one place. -/
theorem get?_modify (h : Heap α) (i j : Nat) (f : α → α) :
    (h.modify i f).get? j = if i = j then (h.get? j).map f else h.get? j := by
  simp only [get?, modify, List.getElem?_modify]
  by_cases hij : i = j
  · simp only [if_pos hij]
    cases h.cells[j]? with
    | none => rfl
    | some c => rfl
  · simp only [if_neg hij]
    cases h.cells[j]? with
    | none => rfl
    | some c => rfl

@[simp] theorem get?_modify_self (h : Heap α) (i : Nat) (f : α → α) :
    (h.modify i f).get? i = (h.get? i).map f := by
  rw [get?_modify, if_pos rfl]

theorem get?_modify_ne (h : Heap α) {i j : Nat} (f : α → α) (hij : i ≠ j) :
    (h.modify i f).get? j = h.get? j := by
  rw [get?_modify, if_neg hij]

/-- A write neither makes nor destroys an object. -/
@[simp] theorem isSome_get?_modify (h : Heap α) (i j : Nat) (f : α → α) :
    ((h.modify i f).get? j).isSome = (h.get? j).isSome := by
  rw [get?_modify]
  split
  · exact Option.isSome_map
  · rfl

/-- Writing what is there changes nothing. -/
theorem modify_same {h : Heap α} {i : Nat} {a : α} (hi : h.get? i = some a) {f : α → α}
    (hf : f a = a) : h.modify i f = h := by
  have hcell : h.cells[i]? = some (some a) := Option.join_eq_some_iff.mp hi
  refine congrArg Heap.mk (List.ext_getElem? fun j => ?_)
  rw [List.getElem?_modify]
  by_cases hij : i = j
  · subst hij
    simp [hcell, hf]
  · simp [hij]

/-- Freeing empties one place. -/
theorem get?_free (h : Heap α) (i j : Nat) :
    (h.free i).get? j = if i = j then none else h.get? j := by
  simp only [get?, free, List.getElem?_set]
  by_cases hij : i = j
  · simp only [if_pos hij]
    split <;> rfl
  · simp only [if_neg hij]

@[simp] theorem get?_free_self (h : Heap α) (i : Nat) : (h.free i).get? i = none := by
  rw [get?_free, if_pos rfl]

@[simp] theorem liveCount_alloc (h : Heap α) (a : α) :
    (h.alloc a).liveCount = h.liveCount + 1 := by
  simp [liveCount, alloc, List.countP_append]

@[simp] theorem liveCount_modify (h : Heap α) (i : Nat) (f : α → α) :
    (h.modify i f).liveCount = h.liveCount := by
  simp only [liveCount, modify]
  generalize h.cells = cells
  induction cells generalizing i with
  | nil => cases i <;> rfl
  | cons c cells ih =>
      cases i with
      | zero => cases c <;> rfl
      | succ i => simp only [List.modify_succ_cons, List.countP_cons, ih i]

/-- Destroying an object that is alive takes one off the count. -/
theorem liveCount_free {h : Heap α} {i : Nat} {a : α} (hi : h.get? i = some a) :
    (h.free i).liveCount + 1 = h.liveCount := by
  simp only [get?, liveCount, free] at *
  generalize h.cells = cells at hi
  induction cells generalizing i with
  | nil => simp at hi
  | cons c cells ih =>
      cases i with
      | zero =>
          obtain rfl : c = some a := by simpa using hi
          simp
      | succ i =>
          have hrest := ih (i := i) (by simpa using hi)
          simp only [List.set_cons_succ, List.countP_cons]
          omega

/-- Who is alive counts. -/
theorem liveCount_pos {h : Heap α} {i : Nat} {a : α} (hi : h.get? i = some a) :
    0 < h.liveCount := by
  have := liveCount_free hi
  omega

/-- A list of the objects alive, each once, has the length of the count. -/
theorem liveCount_eq_length {h : Heap α} {alive : List Nat} (hnodup : alive.Nodup)
    (hmem : ∀ i, i ∈ alive ↔ ∃ a, h.get? i = some a) : h.liveCount = alive.length := by
  have hcells : h.cells = (List.range h.cells.length).map h.get? := by
    refine List.ext_getElem (by simp) (fun i hi _ => ?_)
    simp [get?, hi]
  have hperm : alive.Perm ((List.range h.cells.length).filter (fun i => (h.get? i).isSome)) := by
    refine (List.perm_ext_iff_of_nodup hnodup (List.nodup_range.filter _)).mpr (fun i => ?_)
    rw [hmem, List.mem_filter, Option.isSome_iff_exists, List.mem_range]
    exact ⟨fun ⟨a, ha⟩ => ⟨lt_next_of_get? ha, a, ha⟩, fun hi => hi.2⟩
  rw [hperm.length_eq, ← List.countP_eq_length_filter, liveCount]
  conv_lhs => rw [hcells, List.countP_map]
  rfl

/-- When nobody is alive the count is zero. -/
theorem liveCount_eq_zero {h : Heap α} (hdead : ∀ i, h.get? i = none) : h.liveCount = 0 := by
  refine List.countP_eq_zero.mpr (fun cell hcell => ?_)
  obtain ⟨i, hi, rfl⟩ := List.mem_iff_getElem.mp hcell
  have hnone := hdead i
  rw [get?, List.getElem?_eq_getElem hi] at hnone
  rw [show h.cells[i] = none from hnone]
  exact Bool.false_ne_true

end Heap

end Heaps
