import Mathlib.Data.List.Basic
import Mathlib.Data.List.Perm.Basic
import Mathlib.Tactic.Common

/-! # Registries that key the entries of a record by a tag

    A registry keeps a record of entries under each key.  Putting an entry that
    has a tag replaces the entry of the record with the same tag; pruning a
    record takes some of its entries away.  What else there is to the registry
    does not matter: `Registry` states what requests do to the records.

    `Only s k c` says that of all the entries with its tag the record holds `c`
    alone.  A put establishes it (`only_put`), and the requests in `Keeps`
    keep it (`Only.run`).  `ofMap` is the registry that is nothing but the map of
    its records. -/

namespace Registries

variable {σ ρ κ γ τ : Type}

/-- What a request is about. -/
inductive Effect (κ γ : Type) where
  | put (k : κ) (c : γ)
  | prune (k : κ)

/-- A registry with states `σ`, for requests with these effects and entries with
    these tags. -/
structure Registry (σ : Type) (effect : ρ → Effect κ γ) (tag : γ → Option τ) [DecidableEq τ] where
  entries : σ → κ → List γ
  apply : σ → ρ → σ
  mem_apply : ∀ s r k c, c ∈ entries (apply s r) k → c ∈ entries s k ∨ effect r = .put k c
  put_perm : ∀ s r k c t, effect r = .put k c → tag c = some t →
    (entries (apply s r) k).Perm (c :: (entries s k).filter (fun c' => tag c' ≠ some t))
  apply_other : ∀ s r k, (∀ c, effect r ≠ .put k c) → effect r ≠ .prune k →
    entries (apply s r) k = entries s k

namespace Registry

variable [DecidableEq τ] {effect : ρ → Effect κ γ} {tag : γ → Option τ}
variable (M : Registry σ effect tag)

/-- The state after some requests. -/
def run (s : σ) (rs : List ρ) : σ := rs.foldl M.apply s

theorem run_append (s : σ) (rs rs' : List ρ) : M.run s (rs ++ rs') = M.run (M.run s rs) rs' :=
  List.foldl_append

/-- Of the entries with its tag, the record holds this one alone. -/
def Only (s : σ) (k : κ) (c : γ) : Prop :=
  (M.entries s k).filter (fun c' => tag c' = tag c) = [c]

/-- A request that is no threat to the entry: it prunes another record, or puts
    an entry under another key, or one with another tag, or the entry itself. -/
def Keeps (effect : ρ → Effect κ γ) (tag : γ → Option τ) (k : κ) (c : γ) (r : ρ) : Prop :=
  match effect r with
  | .prune k' => k' ≠ k
  | .put k' c' => k' ≠ k ∨ (∃ t, tag c' = some t) ∧ (tag c' = tag c → c' = c)

variable {M}

/-- The entries of a record come from somewhere. -/
theorem mem_run {k : κ} {c : γ} (rs : List ρ) :
    ∀ s : σ, c ∈ M.entries (M.run s rs) k →
      c ∈ M.entries s k ∨ ∃ r ∈ rs, effect r = .put k c := by
  induction rs with
  | nil => intro s h; exact Or.inl h
  | cons r rs ih =>
      intro s h
      rcases ih (M.apply s r) h with hmem | ⟨r', hr', heff⟩
      · rcases M.mem_apply s r k c hmem with hmem | heff
        · exact Or.inl hmem
        · exact Or.inr ⟨r, List.mem_cons_self .., heff⟩
      · exact Or.inr ⟨r', List.mem_cons_of_mem _ hr', heff⟩

theorem Only.mem {s : σ} {k : κ} {c : γ} (h : M.Only s k c) : c ∈ M.entries s k := by
  have hin : c ∈ [c] := List.mem_singleton_self c
  rw [← show _ = [c] from h] at hin
  exact (List.mem_filter.mp hin).1

/-- The entries with a certain tag, after a put: the new entry if it has the tag,
    and those of before otherwise. -/
theorem filter_entries_put {s : σ} {r : ρ} {k : κ} {c : γ} {t : τ} (heff : effect r = .put k c)
    (htag : tag c = some t) (u : Option τ) :
    ((M.entries (M.apply s r) k).filter (fun d => tag d = u)).Perm
      (if tag c = u then [c] else (M.entries s k).filter (fun d => tag d = u)) := by
  have hperm := (M.put_perm s r k c t heff htag).filter (fun d => decide (tag d = u))
  rw [List.filter_cons, List.filter_filter] at hperm
  refine hperm.trans (List.Perm.of_eq ?_)
  by_cases hu : tag c = u
  · have hnone : (M.entries s k).filter
        (fun d => decide (tag d = u) && decide (tag d ≠ some t)) = [] := by
      refine List.filter_eq_nil_iff.mpr (fun d _ hd => ?_)
      rw [Bool.and_eq_true, decide_eq_true_iff, decide_eq_true_iff, ← htag, hu] at hd
      exact hd.2 hd.1
    rw [if_pos (decide_eq_true hu), if_pos hu, hnone]
  · rw [if_neg (fun hdec => hu (of_decide_eq_true hdec)), if_neg hu]
    refine List.filter_congr (fun d _ => ?_)
    by_cases hd : tag d = u
    · have hne : tag d ≠ some t := by
        rw [hd, ← htag]
        exact fun heq => hu heq.symm
      rw [decide_eq_true hd, decide_eq_true hne]
      rfl
    · rw [decide_eq_false hd]
      rfl

/-- **A put leaves one entry with its tag.** -/
theorem only_put {s : σ} {r : ρ} {k : κ} {c : γ} {t : τ} (heff : effect r = .put k c)
    (htag : tag c = some t) : M.Only (M.apply s r) k c := by
  have hperm := filter_entries_put (M := M) (s := s) heff htag (tag c)
  rw [if_pos rfl] at hperm
  exact List.perm_singleton.mp hperm

/-- One request that is no threat. -/
theorem Only.apply {s : σ} {k : κ} {c : γ} (h : M.Only s k c) {r : ρ}
    (hkeep : Keeps effect tag k c r) : M.Only (M.apply s r) k c := by
  -- a request about another record leaves this one as it is
  have hother : (∀ d, effect r ≠ .put k d) → effect r ≠ .prune k → M.Only (M.apply s r) k c := by
    intro hput hprune
    rw [Only, M.apply_other s r k hput hprune]
    exact h
  rw [Keeps] at hkeep
  cases heff : effect r with
  | prune k' =>
      rw [heff] at hother hkeep
      refine hother (fun d hd => ?_) (fun hk => ?_)
      · cases hd
      · cases hk
        exact hkeep rfl
  | put k' c' =>
      rw [heff] at hother hkeep
      by_cases hk : k' = k
      · subst hk
        obtain ⟨⟨t, ht⟩, hsame⟩ := hkeep.resolve_left (fun hne => hne rfl)
        by_cases htag : tag c' = tag c
        · rw [← hsame htag]
          exact only_put heff ht
        · -- the entry is not the one that is replaced
          have hperm := filter_entries_put (M := M) (s := s) heff ht (tag c)
          rw [if_neg htag, h] at hperm
          exact List.perm_singleton.mp hperm
      · refine hother (fun d hd => ?_) (fun hd => ?_)
        · cases hd
          exact hk rfl
        · cases hd

/-- **Requests that are no threat.** -/
theorem Only.run {k : κ} {c : γ} {rs : List ρ} (hkeep : ∀ r ∈ rs, Keeps effect tag k c r) :
    ∀ {s : σ}, M.Only s k c → M.Only (M.run s rs) k c := by
  induction rs with
  | nil => intro s h; exact h
  | cons r rs ih =>
      intro s h
      exact ih (fun r' hr' => hkeep r' (List.mem_cons_of_mem _ hr'))
        (h.apply (hkeep r (List.mem_cons_self ..)))

/-- After requests of which one puts the entry and none is a threat to it. -/
theorem only_run_of_put {k : κ} {c : γ} {t : τ} {rs : List ρ} {r : ρ} (hr : r ∈ rs)
    (heff : effect r = .put k c) (htag : tag c = some t)
    (hkeep : ∀ r ∈ rs, Keeps effect tag k c r) (s : σ) : M.Only (M.run s rs) k c := by
  obtain ⟨pre, post, rfl⟩ := List.append_of_mem hr
  rw [run_append]
  show M.Only (M.run (M.apply (M.run s pre) r) post) k c
  exact Only.run (fun r' hr' => hkeep r' (List.mem_append_right _ (List.mem_cons_of_mem _ hr')))
    (only_put heff htag)

/-- The records after a request, when pruning empties a record. -/
def mapApply [DecidableEq κ] (tag : γ → Option τ) (records : κ → List γ) :
    Effect κ γ → κ → List γ
  | .put k c, k' =>
      if k' = k then c :: (records k').filter (fun c' => tag c' ≠ tag c) else records k'
  | .prune k, k' => if k' = k then [] else records k'

/-- The registry whose state is the map of its records. -/
def ofMap [DecidableEq κ] (effect : ρ → Effect κ γ) (tag : γ → Option τ) :
    Registry (κ → List γ) effect tag where
  entries records k := records k
  apply records r := mapApply tag records (effect r)
  mem_apply := by
    intro records r k c h
    cases heff : effect r with
    | prune k' =>
        rw [heff, mapApply] at h
        split at h
        · cases h
        · exact Or.inl h
    | put k' c' =>
        rw [heff, mapApply] at h
        split at h
        · rename_i hk
          rcases List.mem_cons.mp h with rfl | hin
          · rw [hk]
            exact Or.inr rfl
          · exact Or.inl (List.mem_filter.mp hin).1
        · exact Or.inl h
  put_perm := by
    intro records r k c t heff htag
    rw [heff, mapApply, if_pos rfl, htag]
  apply_other := by
    intro records r k hput hprune
    cases heff : effect r with
    | prune k' =>
        have hk : k ≠ k' := by
          rintro rfl
          exact hprune heff
        rw [mapApply, if_neg hk]
    | put k' c' =>
        have hk : k ≠ k' := by
          rintro rfl
          exact hput c' heff
        rw [mapApply, if_neg hk]

end Registry

end Registries
