import Mathlib.Data.List.Basic
import Mathlib.Tactic.Common

/-! # Deterministic machines — runs, invariants, and exact run conditions

    A `Machine` takes every action in every state (an action that is not
    enabled leaves the state as it is), so a run is a fold over a list of
    actions and "every run" is "every list".  The file packages the inductions
    that are needed over runs:

    * `invariant_run` : what holds initially and is preserved by each step holds
      after every run; `invariant_run_of_forall` : for the runs whose actions
      have a property, what the steps with these actions preserve;
    * `along_iff_of_keeps`, `along_congr` : two conditions on steps that agree
      wherever an invariant holds are met along the same runs;
    * `along_iff_forall_prefix` : a condition on steps, said of the prefixes;
    * `invariant_along` : the invariant rule for runs that meet a condition;
    * `forall_prefix_iff_along` : when one step keeps a property EXACTLY under
      a condition on the step, the property holds in all the states of a run
      exactly when all its steps meet the condition;
    * `since_iff_exists_prefix` : what only certain steps bring about, and no step
      takes away, holds since one of these steps;
    * `simulation_run` : a relation kept by each step relates whole runs;
    * `unwinding_run` : so does one that some steps keep with a step of the other
      machine and the rest without one (`purge` leaves the rest out). -/

namespace Machines

variable {σ τ α β : Type}

/-- A machine: an initial state and a total step on labelled actions. -/
structure Machine (σ α : Type) where
  init : σ
  step : σ → α → σ

namespace Machine

variable (M : Machine σ α)

/-- The state after taking the actions in order. -/
def run (s : σ) (as : List α) : σ := as.foldl M.step s

/-- The state reached from the initial one. -/
def reach (as : List α) : σ := M.run M.init as

@[simp] theorem run_nil (s : σ) : M.run s [] = s := rfl

@[simp] theorem run_cons (s : σ) (a : α) (as : List α) :
    M.run s (a :: as) = M.run (M.step s a) as := rfl

theorem run_append (s : σ) (as bs : List α) :
    M.run s (as ++ bs) = M.run (M.run s as) bs :=
  List.foldl_append

theorem run_concat (s : σ) (as : List α) (a : α) :
    M.run s (as ++ [a]) = M.step (M.run s as) a := by
  rw [run_append]; rfl

theorem reach_append (as bs : List α) :
    M.reach (as ++ bs) = M.run (M.reach as) bs :=
  M.run_append M.init as bs

theorem reach_concat (as : List α) (a : α) :
    M.reach (as ++ [a]) = M.step (M.reach as) a :=
  M.run_concat M.init as a

/-- Each step of the run from `s` meets `P`, in the state it is taken in. -/
def Along (P : σ → α → Prop) : σ → List α → Prop
  | _, [] => True
  | s, a :: as => P s a ∧ Along P (M.step s a) as

variable {M}

/-- **Invariant rule.** What each step preserves, every run preserves. -/
theorem invariant_run {I : σ → Prop} (hstep : ∀ s a, I s → I (M.step s a)) :
    ∀ (as : List α) (s : σ), I s → I (M.run s as) := by
  intro as
  induction as with
  | nil => intro s hs; exact hs
  | cons a as ih => intro s hs; exact ih _ (hstep s a hs)

/-- The invariant rule from the initial state. -/
theorem invariant_reach {I : σ → Prop} (hinit : I M.init)
    (hstep : ∀ s a, I s → I (M.step s a)) (as : List α) : I (M.reach as) :=
  invariant_run hstep as M.init hinit

/-- The invariant rule for runs that are made of certain actions. -/
theorem invariant_run_of_forall {I : σ → Prop} {P : α → Prop}
    (hstep : ∀ s a, P a → I s → I (M.step s a)) :
    ∀ (as : List α) (s : σ), (∀ a ∈ as, P a) → I s → I (M.run s as) := by
  intro as
  induction as with
  | nil => intro s _ hs; exact hs
  | cons a as ih =>
      intro s hall hs
      exact ih _ (fun b hb => hall b (List.mem_cons_of_mem _ hb))
        (hstep s a (hall a (List.mem_cons_self ..)) hs)

/-- **Coincidence rule.** Let two step properties agree wherever `I` holds, and
    let the steps with the first one keep `I`.  Then they hold along the same
    runs. -/
theorem along_iff_of_keeps {I : σ → Prop} {P Q : σ → α → Prop}
    (hPQ : ∀ s a, I s → (P s a ↔ Q s a)) (hstep : ∀ s a, I s → P s a → I (M.step s a)) :
    ∀ (as : List α) (s : σ), I s → (M.Along P s as ↔ M.Along Q s as) := by
  intro as
  induction as with
  | nil => intro s _; exact Iff.rfl
  | cons a as ih =>
      intro s hs
      have hhead := hPQ s a hs
      constructor
      · rintro ⟨hP, hrest⟩
        exact ⟨hhead.mp hP, (ih _ (hstep s a hs hP)).mp hrest⟩
      · rintro ⟨hQ, hrest⟩
        exact ⟨hhead.mpr hQ, (ih _ (hstep s a hs (hhead.mpr hQ))).mpr hrest⟩

/-- Two step properties that agree wherever an invariant holds hold along the
    same runs. -/
theorem along_congr {I : σ → Prop} {P Q : σ → α → Prop}
    (hstep : ∀ s a, I s → I (M.step s a)) (hPQ : ∀ s a, I s → (P s a ↔ Q s a)) :
    ∀ (as : List α) (s : σ), I s → (M.Along P s as ↔ M.Along Q s as) :=
  along_iff_of_keeps hPQ (fun s a hs _ => hstep s a hs)

/-- What the steps with a property keep, a run along which it holds keeps. -/
theorem invariant_along {I : σ → Prop} {P : σ → α → Prop}
    (hstep : ∀ s a, I s → P s a → I (M.step s a)) :
    ∀ (as : List α) (s : σ), I s → M.Along P s as → I (M.run s as) := by
  intro as
  induction as with
  | nil => intro s hs _; exact hs
  | cons a as ih =>
      rintro s hs ⟨hP, hrest⟩
      exact ih _ (hstep s a hs hP) hrest

/-- A run meets a condition when each of its steps does, in the state that the
    steps before lead to. -/
theorem along_iff_forall_prefix {P : σ → α → Prop} :
    ∀ (as : List α) (s : σ),
      M.Along P s as ↔ ∀ pre a, pre ++ [a] <+: as → P (M.run s pre) a := by
  intro as
  induction as with
  | nil =>
      intro s
      refine iff_of_true trivial (fun pre a hpre => ?_)
      cases pre <;> cases List.prefix_nil.mp hpre
  | cons b as ih =>
      intro s
      constructor
      · rintro ⟨hfirst, hrest⟩ pre a hpre
        cases pre with
        | nil =>
            obtain ⟨rfl, -⟩ := List.cons_prefix_cons.mp hpre
            exact hfirst
        | cons c pre =>
            obtain ⟨rfl, hpre'⟩ := List.cons_prefix_cons.mp hpre
            exact (ih _).mp hrest pre a hpre'
      · intro h
        refine ⟨h [] b ⟨as, rfl⟩, (ih _).mpr (fun pre a hpre => ?_)⟩
        exact h (b :: pre) a (List.cons_prefix_cons.mpr ⟨rfl, hpre⟩)

/-- **Exactness rule.** Let `J` be an invariant, and let a step from a state
    with `J` and `I` keep `I` exactly when `P` holds of it.  Then `I` holds in
    all the states of a run exactly when `P` holds along it. -/
theorem forall_prefix_iff_along {I J : σ → Prop} {P : σ → α → Prop}
    (hJ : ∀ s a, J s → J (M.step s a))
    (hI : ∀ s a, J s → I s → (I (M.step s a) ↔ P s a)) :
    ∀ (as : List α) (s : σ), J s → I s →
      ((∀ pre, pre <+: as → I (M.run s pre)) ↔ M.Along P s as) := by
  intro as
  induction as with
  | nil =>
      intro s _ hIs
      refine ⟨fun _ => trivial, fun _ pre hpre => ?_⟩
      rw [List.prefix_nil.mp hpre]
      exact hIs
  | cons a as ih =>
      intro s hJs hIs
      constructor
      · intro h
        have hstep : I (M.step s a) := h [a] ⟨as, rfl⟩
        refine ⟨(hI s a hJs hIs).mp hstep, ?_⟩
        refine (ih (M.step s a) (hJ s a hJs) hstep).mp ?_
        intro pre hpre
        exact h (a :: pre) (List.cons_prefix_cons.mpr ⟨rfl, hpre⟩)
      · rintro ⟨hP, hrest⟩ pre hpre
        have hstep : I (M.step s a) := (hI s a hJs hIs).mpr hP
        cases pre with
        | nil => exact hIs
        | cons b pre =>
            obtain ⟨rfl, hpre'⟩ := List.cons_prefix_cons.mp hpre
            exact (ih (M.step s b) (hJ s b hJs) hstep).mpr hrest pre hpre'

/-- **Since rule.**  Let `J` be an invariant, and let `I` hold after a step from a
    state with `J` exactly when it holds before or the step has `P`.  Then `I`
    holds at the end of a run exactly when it holds at its beginning or some step
    of the run has `P`. -/
theorem since_iff_exists_prefix {I J : σ → Prop} {P : σ → α → Prop}
    (hJ : ∀ s a, J s → J (M.step s a)) (hI : ∀ s a, J s → (I (M.step s a) ↔ I s ∨ P s a)) :
    ∀ (as : List α) (s : σ), J s →
      (I (M.run s as) ↔ I s ∨ ∃ pre a, pre ++ [a] <+: as ∧ P (M.run s pre) a) := by
  intro as
  induction as with
  | nil =>
      intro s _
      refine (or_iff_left ?_).symm
      rintro ⟨pre, a, hpre, -⟩
      cases pre <;> cases List.prefix_nil.mp hpre
  | cons b as ih =>
      intro s hJs
      rw [run_cons, ih _ (hJ s b hJs), hI s b hJs, or_assoc]
      refine or_congr_right ⟨?_, ?_⟩
      · rintro (hP | ⟨pre, a, hpre, hP⟩)
        · exact ⟨[], b, ⟨as, rfl⟩, hP⟩
        · exact ⟨b :: pre, a, List.cons_prefix_cons.mpr ⟨rfl, hpre⟩, hP⟩
      · rintro ⟨pre, a, hpre, hP⟩
        cases pre with
        | nil =>
            obtain ⟨rfl, -⟩ := List.cons_prefix_cons.mp hpre
            exact Or.inl hP
        | cons c pre =>
            obtain ⟨rfl, hpre'⟩ := List.cons_prefix_cons.mp hpre
            exact Or.inr ⟨pre, a, hpre', hP⟩

/-- **Simulation rule.** A relation that holds initially and that matched
    steps preserve relates the states of matched runs. -/
theorem simulation_run {N : Machine τ β} {R : σ → τ → Prop} {f : α → β}
    (hstep : ∀ s t a, R s t → R (M.step s a) (N.step t (f a))) :
    ∀ (as : List α) (s : σ) (t : τ), R s t → R (M.run s as) (N.run t (as.map f)) := by
  intro as
  induction as with
  | nil => intro s t h; exact h
  | cons a as ih => intro s t h; exact ih _ _ (hstep s t a h)

/-- The actions that `keep` keeps, each renamed in the state it is taken in. -/
def purge (M : Machine σ α) (keep : σ → α → Bool) (rename : σ → α → β) : σ → List α → List β
  | _, [] => []
  | s, a :: as =>
      if keep s a then rename s a :: M.purge keep rename (M.step s a) as
      else M.purge keep rename (M.step s a) as

/-- **Unwinding rule.** Let each action that is kept preserve a relation with its
    renaming on the other side, and each other one alone.  Then the relation
    holds between a run and the run of its purged actions. -/
theorem unwinding_run {N : Machine τ β} {R : σ → τ → Prop} {keep : σ → α → Bool}
    {rename : σ → α → β}
    (hkeep : ∀ s t a, R s t → keep s a = true → R (M.step s a) (N.step t (rename s a)))
    (hdrop : ∀ s t a, R s t → keep s a = false → R (M.step s a) t) :
    ∀ (as : List α) (s : σ) (t : τ), R s t →
      R (M.run s as) (N.run t (M.purge keep rename s as)) := by
  intro as
  induction as with
  | nil => intro s t h; exact h
  | cons a as ih =>
      intro s t h
      rw [purge]
      by_cases hk : keep s a = true
      · rw [if_pos hk]
        exact ih _ _ (hkeep s t a h hk)
      · rw [if_neg hk]
        exact ih _ _ (hdrop s t a h (Bool.eq_false_iff.mpr hk))

end Machine

end Machines
