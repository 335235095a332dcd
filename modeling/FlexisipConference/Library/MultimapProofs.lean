import Mathlib.Data.List.Basic
import Mathlib.Data.List.Perm.Basic
import Mathlib.Data.List.Nodup
import Mathlib.Tactic.Common

/-! # Ordered multimaps

    A multimap is the list of its entries in key order; entries with the same
    key stay in the order of their insertion.  `insert` puts an entry behind
    all those whose key is not greater, `equalRange` reads the entries of one
    key, and an entry is removed with `List.erase`.  What the values mean does
    not matter here; what the proofs need of the order is only `insert_perm`. -/

namespace Multimaps

variable {κ ν : Type}

/-- The entries, in the order in which they are iterated over. -/
abbrev Multimap (κ ν : Type) := List (κ × ν)

namespace Multimap

/-- Insert an entry at the upper bound of its key. -/
def insert [LT κ] [DecidableLT κ] (m : Multimap κ ν) (k : κ) (v : ν) : Multimap κ ν :=
  match m with
  | [] => [(k, v)]
  | (k', v') :: rest => if k < k' then (k, v) :: (k', v') :: rest else (k', v') :: insert rest k v

/-- The entries of one key, in order. -/
def equalRange [DecidableEq κ] (m : Multimap κ ν) (k : κ) : Multimap κ ν :=
  m.filter (fun entry => entry.1 = k)

/-- An insertion adds exactly the one entry. -/
theorem insert_perm [LT κ] [DecidableLT κ] (m : Multimap κ ν) (k : κ) (v : ν) :
    (m.insert k v).Perm ((k, v) :: m) := by
  induction m with
  | nil => exact List.Perm.refl _
  | cons hd rest ih =>
      obtain ⟨k', v'⟩ := hd
      rw [insert]
      by_cases hlt : k < k'
      · rw [if_pos hlt]
      · rw [if_neg hlt]
        exact (List.Perm.cons _ ih).trans (List.Perm.swap _ _ _)

@[simp] theorem mem_insert [LT κ] [DecidableLT κ] {m : Multimap κ ν} {k : κ} {v : ν}
    {entry : κ × ν} : entry ∈ m.insert k v ↔ entry = (k, v) ∨ entry ∈ m := by
  rw [(insert_perm m k v).mem_iff, List.mem_cons]

@[simp] theorem mem_equalRange [DecidableEq κ] {m : Multimap κ ν} {k : κ} {entry : κ × ν} :
    entry ∈ m.equalRange k ↔ entry ∈ m ∧ entry.1 = k := by
  simp [equalRange]

/-- Counting what at most one element of a list without duplicates has. -/
theorem countP_of_unique {α : Type} {l : List α} {q : α → Bool} (hnodup : l.Nodup)
    (hunique : ∀ a ∈ l, ∀ b ∈ l, q a = true → q b = true → a = b) :
    l.countP q = if l.any q then 1 else 0 := by
  induction l with
  | nil => rfl
  | cons a l ih =>
      obtain ⟨hnew, hnodup⟩ := List.nodup_cons.mp hnodup
      have hrest := ih hnodup (fun b hb c hc =>
        hunique b (List.mem_cons_of_mem _ hb) c (List.mem_cons_of_mem _ hc))
      rw [List.countP_cons, hrest, List.any_cons]
      by_cases ha : q a = true
      · have hnone : l.any q = false := by
          refine List.any_eq_false.mpr (fun b hb hqb => hnew ?_)
          have heq := hunique a (List.mem_cons_self ..) b (List.mem_cons_of_mem _ hb) ha hqb
          exact heq ▸ hb
        simp [ha, hnone]
      · simp [ha]

end Multimap

end Multimaps
