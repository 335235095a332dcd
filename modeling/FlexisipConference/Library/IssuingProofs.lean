import Mathlib.Data.List.Basic
import Mathlib.Data.List.Infix
import Mathlib.Tactic.Common

/-! # Procedures that issue requests and may raise

    An `Issuing` procedure appends requests to a list and may stop with an
    error half-way; what it has issued until then stays issued.

    `Issues m reqs` says that `reqs` is what `m` has to issue: it issues all of
    it when it does not raise, and the beginning of it when it does.  There is
    one rule for each way to build a procedure.

    `Yields m a reqs` says besides that `a` is what `m` returns.

    `Screens V reqs m Q` says that `m` checks a row of requirements: it stops with
    the first one that is violated, or returns something with the property `Q`.

    `label` marks what a procedure issues, say with the caller that waits for
    the answer; `Erases` says that the marks change nothing else. -/

namespace Issuing

variable {ρ ε α β : Type}

/-- A procedure that issues requests of type `ρ` and may raise an `ε`: from what
    has been issued, how it ends and what has been issued by then. -/
def Procedure (ρ ε α : Type) := List ρ → Except ε α × List ρ

namespace Procedure

instance : Monad (Procedure ρ ε) where
  pure a := fun issued => (.ok a, issued)
  bind m f := fun issued =>
    match m issued with
    | (.ok a, issued) => f a issued
    | (.error err, issued) => (.error err, issued)

/-- Raise an error. -/
def raise (err : ε) : Procedure ρ ε α := fun issued => (.error err, issued)

/-- Issue one request; `raises` says whether its receiver raises, given what
    has been issued before. -/
def issue (raises : List ρ → ρ → Option ε) (req : ρ) : Procedure ρ ε Unit := fun issued =>
  match raises issued req with
  | some err => (.error err, issued ++ [req])
  | none => (.ok (), issued ++ [req])

/-- The procedure issues these requests, and no others, up to where it raises. -/
def Issues (m : Procedure ρ ε α) (reqs : List ρ) : Prop :=
  ∀ issued, (∃ a, m issued = (.ok a, issued ++ reqs)) ∨
    ∃ err done, done <+: reqs ∧ m issued = (.error err, issued ++ done)

theorem issues_pure (a : α) : Issues (pure a : Procedure ρ ε α) [] := fun issued =>
  Or.inl ⟨a, by rw [List.append_nil]; rfl⟩

/-- What raises at once issues the beginning of anything. -/
theorem issues_raise (err : ε) (reqs : List ρ) : Issues (raise err : Procedure ρ ε α) reqs :=
  fun issued => Or.inr ⟨err, [], List.nil_prefix, by rw [List.append_nil]; rfl⟩

/-- One request is issued, whether it raises or not. -/
theorem issues_issue (raises : List ρ → ρ → Option ε) (req : ρ) :
    Issues (issue raises req) [req] := by
  intro issued
  simp only [issue]
  cases raises issued req with
  | none => exact Or.inl ⟨(), rfl⟩
  | some err => exact Or.inr ⟨err, [req], List.prefix_rfl, rfl⟩

/-- What returns hands its value to the rest. -/
theorem bind_of_ok {m : Procedure ρ ε α} (f : α → Procedure ρ ε β) {issued issued' : List ρ}
    {a : α} (h : m issued = (.ok a, issued')) : (m >>= f) issued = f a issued' := by
  show (match m issued with
    | (.ok a, issued) => f a issued
    | (.error err, issued) => (.error err, issued)) = _
  rw [h]

/-- What raises keeps the rest from running. -/
theorem bind_of_error {m : Procedure ρ ε α} (f : α → Procedure ρ ε β) {issued issued' : List ρ}
    {err : ε} (h : m issued = (.error err, issued')) :
    (m >>= f) issued = (.error err, issued') := by
  show (match m issued with
    | (.ok a, issued) => f a issued
    | (.error err, issued) => (.error err, issued)) = _
  rw [h]

/-- One procedure after another. -/
theorem Issues.bind {m : Procedure ρ ε α} {f : α → Procedure ρ ε β} {reqs reqs' : List ρ}
    (hm : Issues m reqs) (hf : ∀ a, Issues (f a) reqs') : Issues (m >>= f) (reqs ++ reqs') := by
  intro issued
  rcases hm issued with ⟨a, hrun⟩ | ⟨err, done, hdone, hrun⟩
  · rw [bind_of_ok f hrun]
    rcases hf a (issued ++ reqs) with ⟨b, hrun'⟩ | ⟨err, done, hdone, hrun'⟩
    · exact Or.inl ⟨b, by rw [hrun', List.append_assoc]⟩
    · refine Or.inr ⟨err, reqs ++ done, (List.prefix_append_right_inj reqs).mpr hdone, ?_⟩
      rw [hrun', List.append_assoc]
  · exact Or.inr ⟨err, done, hdone.trans (List.prefix_append _ _), bind_of_error f hrun⟩

/-- `catch`, when all that it does is to raise another error. -/
def rethrow (handle : ε → ε) (m : Procedure ρ ε α) : Procedure ρ ε α := fun issued =>
  match m issued with
  | (.ok a, issued) => (.ok a, issued)
  | (.error err, issued) => (.error (handle err), issued)

/-- An error raised under another name stops at the same request. -/
theorem Issues.rethrow {m : Procedure ρ ε α} {reqs : List ρ} (hm : Issues m reqs)
    (handle : ε → ε) : Issues (m.rethrow handle) reqs := by
  intro issued
  rcases hm issued with ⟨a, hrun⟩ | ⟨err, done, hdone, hrun⟩
  · exact Or.inl ⟨a, by rw [Procedure.rethrow, hrun]⟩
  · exact Or.inr ⟨handle err, done, hdone, by rw [Procedure.rethrow, hrun]⟩

/-- **A loop** issues what its turns issue, one after the other. -/
theorem issues_forM {f : α → Procedure ρ ε PUnit} {g : α → List ρ} (l : List α)
    (hf : ∀ a ∈ l, Issues (f a) (g a)) : Issues (l.forM f) (l.flatMap g) := by
  induction l with
  | nil => exact issues_pure _
  | cons a l ih =>
      rw [List.flatMap_cons]
      show Issues (f a >>= fun _ => l.forM f) _
      exact (hf a (List.mem_cons_self ..)).bind
        (fun _ => ih (fun b hb => hf b (List.mem_cons_of_mem _ hb)))

/-- A procedure that may be left out. -/
theorem issues_ite {m m' : Procedure ρ ε α} {reqs reqs' : List ρ} (p : Prop) [Decidable p]
    (hm : p → Issues m reqs) (hm' : ¬ p → Issues m' reqs') :
    Issues (if p then m else m') (if p then reqs else reqs') := by
  by_cases h : p
  · rw [if_pos h, if_pos h]
    exact hm h
  · rw [if_neg h, if_neg h]
    exact hm' h

/-! ## What is returned -/

/-- The procedure returns this value and issues these requests, or raises and has
    issued their beginning. -/
def Yields (m : Procedure ρ ε α) (a : α) (reqs : List ρ) : Prop :=
  ∀ issued, m issued = (.ok a, issued ++ reqs) ∨
    ∃ err done, done <+: reqs ∧ m issued = (.error err, issued ++ done)

/-- A value that needs no request is yielded. -/
theorem yields_pure (a : α) : Yields (pure a : Procedure ρ ε α) a [] := fun issued =>
  Or.inl (by rw [List.append_nil]; rfl)

/-- What has no value to give yields the unit. -/
theorem Issues.yields {m : Procedure ρ ε Unit} {reqs : List ρ} (hm : Issues m reqs) :
    Yields m () reqs := by
  intro issued
  rcases hm issued with ⟨_, hrun⟩ | hraise
  · exact Or.inl hrun
  · exact Or.inr hraise

/-- One procedure after another. -/
theorem Yields.bind {m : Procedure ρ ε α} {f : α → Procedure ρ ε β} {a : α} {b : β}
    {reqs reqs' : List ρ} (hm : Yields m a reqs) (hf : Yields (f a) b reqs') :
    Yields (m >>= f) b (reqs ++ reqs') := by
  intro issued
  rcases hm issued with hrun | ⟨err, done, hdone, hrun⟩
  · rw [bind_of_ok f hrun]
    rcases hf (issued ++ reqs) with hrun' | ⟨err, done, hdone, hrun'⟩
    · exact Or.inl (by rw [hrun', List.append_assoc])
    · refine Or.inr ⟨err, reqs ++ done, (List.prefix_append_right_inj reqs).mpr hdone, ?_⟩
      rw [hrun', List.append_assoc]
  · exact Or.inr ⟨err, done, hdone.trans (List.prefix_append _ _), bind_of_error f hrun⟩

/-- The procedure does not raise, when this has been issued before. -/
def Returns (m : Procedure ρ ε α) (issued : List ρ) : Prop := ∃ a, (m issued).1 = .ok a

/-- What returns has issued all its requests. -/
theorem Yields.run_of_returns {m : Procedure ρ ε α} {a : α} {reqs : List ρ} (hm : Yields m a reqs)
    {issued : List ρ} (h : Returns m issued) : m issued = (.ok a, issued ++ reqs) := by
  rcases hm issued with hrun | ⟨err, done, -, hrun⟩
  · exact hrun
  · obtain ⟨b, hb⟩ := h
    rw [hrun] at hb
    cases hb

/-- What does not return has raised after the beginning of them. -/
theorem Yields.run_of_not_returns {m : Procedure ρ ε α} {a : α} {reqs : List ρ}
    (hm : Yields m a reqs) {issued : List ρ} (h : ¬ Returns m issued) :
    ∃ err done, done <+: reqs ∧ m issued = (.error err, issued ++ done) := by
  rcases hm issued with hrun | hraise
  · exact absurd ⟨a, by rw [hrun]⟩ h
  · exact hraise

/-- One procedure after another returns when both do. -/
theorem Yields.returns_bind_iff {m : Procedure ρ ε α} {f : α → Procedure ρ ε β} {a : α}
    {reqs : List ρ} (hm : Yields m a reqs) (issued : List ρ) :
    Returns (m >>= f) issued ↔ Returns m issued ∧ Returns (f a) (issued ++ reqs) := by
  rcases hm issued with hrun | ⟨err, done, -, hrun⟩
  · have hm' : Returns m issued := ⟨a, by rw [hrun]⟩
    rw [and_iff_right hm', Returns, Returns, bind_of_ok f hrun]
  · rw [Returns, Returns, bind_of_error f hrun, hrun]
    refine iff_of_false ?_ ?_
    · rintro ⟨b, hb⟩
      cases hb
    · rintro ⟨⟨b, hb⟩, -⟩
      cases hb

theorem returns_pure (a : α) (issued : List ρ) : Returns (pure a : Procedure ρ ε α) issued :=
  ⟨a, rfl⟩

/-- One request returns when nothing is raised at it. -/
theorem returns_issue_iff (raises : List ρ → ρ → Option ε) (req : ρ) (issued : List ρ) :
    Returns (issue raises req) issued ↔ raises issued req = none := by
  rw [Returns, issue]
  cases raises issued req with
  | none => exact iff_of_true ⟨(), rfl⟩ rfl
  | some err =>
      refine iff_of_false ?_ (Option.some_ne_none err)
      rintro ⟨a, ha⟩
      cases ha

/-! ## Checks -/

/-- Raise what there is to complain about, or go on. -/
def check : Option ε → Procedure ρ ε Unit
  | some err => raise err
  | none => pure ()

section Requirements

variable {κ : Type} {Violated : κ → ε → Prop}

/-- None of the requirements is violated; `Violated` says of one requirement what a
    procedure is stopped with on its account. -/
def Met (Violated : κ → ε → Prop) (requirements : List κ) : Prop :=
  ∀ requirement ∈ requirements, ∀ err, ¬ Violated requirement err

/-- In a row of requirements, this is what the first violated one stops a
    procedure with. -/
def FirstViolated (Violated : κ → ε → Prop) (requirements : List κ) (err : ε) : Prop :=
  ∃ before requirement after, requirements = before ++ requirement :: after ∧
    Met Violated before ∧ Violated requirement err

/-- The first of a row is violated, or it is met and another one is the first. -/
theorem firstViolated_cons_iff {requirement : κ} {rest : List κ} {err : ε} :
    FirstViolated Violated (requirement :: rest) err ↔
      Violated requirement err ∨
        (∀ err', ¬ Violated requirement err') ∧ FirstViolated Violated rest err := by
  constructor
  · rintro ⟨before, first, after, hsplit, hmet, hviolated⟩
    cases before with
    | nil =>
        obtain ⟨rfl, -⟩ := List.cons.inj hsplit
        exact Or.inl hviolated
    | cons earlier before =>
        obtain ⟨rfl, hrest⟩ := List.cons.inj hsplit
        obtain ⟨hfirst, hmet⟩ := List.forall_mem_cons.mp hmet
        exact Or.inr ⟨hfirst, before, first, after, hrest, hmet, hviolated⟩
  · rintro (hviolated | ⟨hmet, before, first, after, rfl, hbefore, hviolated⟩)
    · exact ⟨[], requirement, rest, rfl, List.forall_mem_nil _, hviolated⟩
    · exact ⟨requirement :: before, first, after, rfl,
        List.forall_mem_cons.mpr ⟨hmet, hbefore⟩, hviolated⟩

/-- Of two rows, the first one has it, or it is met and the second one has it. -/
theorem firstViolated_append_iff {requirements rest : List κ} {err : ε} :
    FirstViolated Violated (requirements ++ rest) err ↔
      FirstViolated Violated requirements err ∨
        Met Violated requirements ∧ FirstViolated Violated rest err := by
  induction requirements with
  | nil =>
      have hnone : ¬ FirstViolated Violated [] err := by
        rintro ⟨before, _, _, hnil, -⟩
        simp at hnil
      exact ⟨fun h => Or.inr ⟨List.forall_mem_nil _, h⟩, fun h => (h.resolve_left hnone).2⟩
  | cons requirement requirements ih =>
      rw [List.cons_append, firstViolated_cons_iff, ih, firstViolated_cons_iff, Met, Met,
        List.forall_mem_cons, and_or_left, and_assoc, or_assoc]

/-- A row is met, or one of it is the first that is violated. -/
theorem met_or_firstViolated (Violated : κ → ε → Prop) (requirements : List κ) :
    Met Violated requirements ∨ ∃ err, FirstViolated Violated requirements err := by
  induction requirements with
  | nil => exact Or.inl (List.forall_mem_nil _)
  | cons requirement rest ih =>
      by_cases hmet : ∀ err, ¬ Violated requirement err
      · rcases ih with hrest | ⟨err, hfirst⟩
        · exact Or.inl (List.forall_mem_cons.mpr ⟨hmet, hrest⟩)
        · exact Or.inr ⟨err, firstViolated_cons_iff.mpr (Or.inr ⟨hmet, hfirst⟩)⟩
      · push Not at hmet
        obtain ⟨err, hviolated⟩ := hmet
        exact Or.inr ⟨err, firstViolated_cons_iff.mpr (Or.inl hviolated)⟩

/-- **A screen**: the procedure stops with the first of the requirements that is
    violated, and has issued nothing by then; when all are met it returns something
    with the property `Q`. -/
def Screens (Violated : κ → ε → Prop) (requirements : List κ) (m : Procedure ρ ε α)
    (Q : α → Prop) : Prop :=
  ∀ issued, (∀ err, FirstViolated Violated requirements err → m issued = (.error err, issued)) ∧
    (Met Violated requirements → ∃ a, Q a ∧ m issued = (.ok a, issued))

/-- A value that is returned at once needs nothing. -/
theorem Screens.pure {Q : α → Prop} {a : α} (ha : Q a) :
    Screens Violated [] (pure a : Procedure ρ ε α) Q := by
  intro issued
  refine ⟨?_, fun _ => ⟨a, ha, rfl⟩⟩
  rintro err ⟨before, _, _, hnil, -⟩
  simp at hnil

/-- One requirement more: the procedure stops with it when it is violated, and
    screens the others when it is met. -/
theorem Screens.cons {requirement : κ} {rest : List κ} {m : Procedure ρ ε α} {Q : α → Prop}
    (hstop : ∀ err, Violated requirement err → ∀ issued, m issued = (.error err, issued))
    (hgo : (∀ err, ¬ Violated requirement err) → Screens Violated rest m Q) :
    Screens Violated (requirement :: rest) m Q := by
  intro issued
  constructor
  · intro err hfirst
    rcases firstViolated_cons_iff.mp hfirst with hviolated | ⟨hmet, hrest⟩
    · exact hstop err hviolated issued
    · exact (hgo hmet issued).1 err hrest
  · intro hmet
    obtain ⟨hfirst, hrest⟩ := List.forall_mem_cons.mp hmet
    exact (hgo hfirst issued).2 hrest

/-- The same for a check that complains exactly when the requirement is
    violated. -/
theorem Screens.check {requirement : κ} {rest : List κ} {complaint : Option ε}
    {m : Procedure ρ ε α} {Q : α → Prop}
    (hwatches : ∀ err, complaint = some err ↔ Violated requirement err)
    (hm : Screens Violated rest m Q) :
    Screens Violated (requirement :: rest) (Procedure.check complaint >>= fun _ => m) Q := by
  refine .cons ?_ ?_
  · intro err hviolated issued
    rw [(hwatches err).mpr hviolated]
    rfl
  · intro hmet
    have hnone : complaint = none := by
      refine Option.eq_none_iff_forall_ne_some.mpr (fun err herr => ?_)
      exact hmet err ((hwatches err).mp herr)
    rw [hnone]
    exact hm

end Requirements

/-! ## A procedure inside another -/

/-- Run a procedure from nothing issued, as a part of another one. -/
def embed {ρ' ε' : Type} (request : ρ → ρ') (error : ε → ε') (m : Procedure ρ ε α) :
    Procedure ρ' ε' α := fun issued =>
  match m [] with
  | (.ok a, reqs) => (.ok a, issued ++ reqs.map request)
  | (.error err, reqs) => (.error (error err), issued ++ reqs.map request)

/-- Requests under another name are issued in the same order. -/
theorem Issues.embed {ρ' ε' : Type} {m : Procedure ρ ε α} {reqs : List ρ} (hm : Issues m reqs)
    (request : ρ → ρ') (error : ε → ε') : Issues (m.embed request error) (reqs.map request) := by
  intro issued
  rcases hm [] with ⟨a, hrun⟩ | ⟨err, done, hdone, hrun⟩
  · exact Or.inl ⟨a, by rw [Procedure.embed, hrun, List.nil_append]⟩
  · exact Or.inr ⟨error err, done.map request, hdone.map request, by
      rw [Procedure.embed, hrun, List.nil_append]⟩

/-- Whether an embedded procedure returns depends on its own requests only. -/
theorem returns_embed_iff {ρ' ε' : Type} (m : Procedure ρ ε α) (request : ρ → ρ')
    (error : ε → ε') (issued : List ρ') :
    Returns (m.embed request error) issued ↔ Returns m [] := by
  rw [Returns, Returns, Procedure.embed]
  rcases m [] with ⟨result, reqs⟩
  cases result with
  | ok a => exact iff_of_true ⟨a, rfl⟩ ⟨a, rfl⟩
  | error err =>
      refine iff_of_false ?_ ?_
      · rintro ⟨a, ha⟩
        cases ha
      · rintro ⟨a, ha⟩
        cases ha

/-! ## Labels -/

variable {τ : Type}

/-- Run a procedure, with a label on what it issues. -/
def label (t : τ) (m : Procedure ρ ε α) : Procedure (ρ × τ) ε α := fun issued =>
  match m (issued.map Prod.fst) with
  | (result, reqs) => (result, issued ++ (reqs.drop issued.length).map (fun req => (req, t)))

/-- Without the labels the one procedure runs as the other. -/
def Erases (m' : Procedure (ρ × τ) ε α) (m : Procedure ρ ε α) : Prop :=
  ∀ issued, m (issued.map Prod.fst) = ((m' issued).1, (m' issued).2.map Prod.fst)

theorem erases_pure (a : α) : Erases (pure a : Procedure (ρ × τ) ε α) (pure a) := fun _ => rfl

/-- A run with labels is the run without them, each request with the label. -/
theorem label_run {m : Procedure ρ ε α} {issued : List (ρ × τ)} {result : Except ε α}
    {reqs : List ρ} (hrun : m (issued.map Prod.fst) = (result, issued.map Prod.fst ++ reqs))
    (t : τ) : m.label t issued = (result, issued ++ reqs.map (fun req => (req, t))) := by
  have hdrop : (issued.map Prod.fst ++ reqs).drop issued.length = reqs :=
    List.drop_left' (List.length_map ..)
  simp only [label, hrun, hdrop]

/-- Labelled requests are issued in the same order. -/
theorem Issues.label {m : Procedure ρ ε α} {reqs : List ρ} (hm : Issues m reqs) (t : τ) :
    Issues (m.label t) (reqs.map (fun req => (req, t))) := by
  intro issued
  rcases hm (issued.map Prod.fst) with ⟨a, hrun⟩ | ⟨err, done, hdone, hrun⟩
  · exact Or.inl ⟨a, label_run hrun t⟩
  · exact Or.inr ⟨err, _, hdone.map _, label_run hrun t⟩

/-- Without its labels a labelled procedure is what it was. -/
theorem Issues.erases_label {m : Procedure ρ ε α} {reqs : List ρ} (hm : Issues m reqs) (t : τ) :
    Erases (m.label t) m := by
  intro issued
  obtain ⟨result, done, hrun⟩ : ∃ result done,
      m (issued.map Prod.fst) = (result, issued.map Prod.fst ++ done) := by
    rcases hm (issued.map Prod.fst) with ⟨a, hrun⟩ | ⟨err, done, -, hrun⟩
    · exact ⟨_, _, hrun⟩
    · exact ⟨_, _, hrun⟩
  rw [hrun, label_run hrun t]
  simp [Function.comp_def]

/-- One procedure after another. -/
theorem Erases.bind {m' : Procedure (ρ × τ) ε α} {m : Procedure ρ ε α}
    {f' : α → Procedure (ρ × τ) ε β} {f : α → Procedure ρ ε β} (hm : Erases m' m)
    (hf : ∀ a, Erases (f' a) (f a)) : Erases (m' >>= f') (m >>= f) := by
  intro issued
  have hrun := hm issued
  rcases hm' : m' issued with ⟨result, issued'⟩
  rw [hm'] at hrun
  cases result with
  | ok a => rw [bind_of_ok f hrun, bind_of_ok f' hm', hf a issued']
  | error err => rw [bind_of_error f hrun, bind_of_error f' hm']

/-- **A loop**, over what carries the labels. -/
theorem erases_forM {f' : β → Procedure (ρ × τ) ε PUnit} {f : α → Procedure ρ ε PUnit}
    (g : β → α) (l : List β) (hf : ∀ b ∈ l, Erases (f' b) (f (g b))) :
    Erases (l.forM f') ((l.map g).forM f) := by
  induction l with
  | nil => exact erases_pure _
  | cons b l ih =>
      show Erases (f' b >>= fun _ => l.forM f') (f (g b) >>= fun _ => (l.map g).forM f)
      exact (hf b (List.mem_cons_self ..)).bind
        (fun _ => ih (fun c hc => hf c (List.mem_cons_of_mem _ hc)))

end Procedure

end Issuing
