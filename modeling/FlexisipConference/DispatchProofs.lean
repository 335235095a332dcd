import Mathlib.Data.List.Nodup
import FlexisipConference.Library.MachineProofs
import FlexisipConference.ClientProofs

/-! # Dispatch of Core callbacks to reg-event clients

    The machine of this file interleaves the methods of any number of clients
    with Core callbacks.  A method that is inside `sendSubscribe()` or
    `terminate()` waits on a stack; while it waits, the Core may call the
    factory back for any event, other methods may be called, to any depth, and
    `ret` lets the method on top of the stack go on.  Only one thing is ruled
    out: a client that is inside `terminate()` is not unsubscribed again, nor
    destroyed, before that call has returned.

    The invariant relates what an event CARRIES (the reference stored in its
    data) to which event is a client's CURRENT one (`mSubscribeEvent`).  The two
    agree but for one window: from `unsetData` to the return of `terminate()` a
    client still points at the event that no longer refers to it. -/

namespace Dispatch

open Sdks Reginfos Heaps Machines Clients

variable {A R : Type}

/-- What happened so far: calls on listeners, and documents that a client
    processed, with the event they came on. -/
inductive Entry (A : Type) where
  | called (listener : ListenerId) (callback : ClientCallback A)
  | processed (e : EventId) (ri : Reginfo)
  deriving DecidableEq, Repr

/-- The shared state, the methods in progress (innermost first) and the
    history. -/
structure State (A : Type) where
  world : World A
  stack : List Pending
  log : List (Entry A)

/-- Calls of client methods, Core callbacks, and the return of the call that
    the method on top of the stack is inside of. -/
inductive Act (A : Type) where
  | create (address : A)
  | addObserver (c : ClientId) (observer : ListenerId)
  | removeObserver (c : ClientId) (observer : ListenerId)
  | subscribe (c : ClientId) (listener : ListenerId)
  | unsubscribe (c : ClientId)
  | destroy (c : ClientId)
  | onSubscriptionStateChanged (e : EventId) (state : SubscriptionState)
  | onNotifyReceived (e : EventId) (body : NotifyBody)
  | ret

/-- The act is a callback of the Core about this event. -/
def Act.IsCallbackOn (e : EventId) : Act A → Prop
  | .onSubscriptionStateChanged e' _ => e' = e
  | .onNotifyReceived e' _ => e' = e
  | _ => False

/-- The client is alive. -/
def State.alive (m : State A) (c : ClientId) : Bool := (m.world.clients.get? c).isSome

/-- The client is alive and not inside `terminate()`. -/
def State.ready (m : State A) (c : ClientId) : Bool :=
  m.alive c && !m.stack.any (fun p => p.closes = some c)

/-- Enter a method: the state it leaves, and what is pending. -/
def State.enter (m : State A) (r : World A × Option Pending) : State A :=
  { m with world := r.1, stack := r.2.toList ++ m.stack }

/-- The document that a NOTIFY makes a client process. -/
def processedEntry (w : World A) (e : EventId) : NotifyBody → List (Entry A)
  | .reginfo ri => if (w.dispatch e).isSome then [.processed e ri] else []
  | _ => []

/-- The entries for calls on listeners. -/
def calledEntries (out : List (Emission A)) : List (Entry A) :=
  out.map (fun em => .called em.1 em.2)

def step (S : Sdk A R) (m : State A) : Act A → State A
  | .create address => { m with world := m.world.create address }
  | .addObserver c o => if m.alive c then { m with world := m.world.addObserver c o } else m
  | .removeObserver c o => if m.alive c then { m with world := m.world.removeObserver c o } else m
  | .subscribe c listener =>
      if m.alive c then
        let (w, out, p) := m.world.beginSubscribe c listener
        { (m.enter (w, p)) with log := m.log ++ calledEntries out }
      else m
  | .unsubscribe c => if m.ready c then m.enter (m.world.beginUnsubscribe c) else m
  | .destroy c => if m.ready c then m.enter (m.world.beginDestroy c) else m
  | .onSubscriptionStateChanged e state => m.enter (m.world.beginStateChanged e state)
  | .onNotifyReceived e body =>
      let (w, out) := m.world.onNotifyReceived S e body
      { m with world := w, log := m.log ++ processedEntry m.world e body ++ calledEntries out }
  | .ret =>
      match m.stack with
      | [] => m
      | p :: rest => { m with world := m.world.finish p, stack := rest }

/-- The machine, started without any client. -/
def machine (S : Sdk A R) : Machine (State A) (Act A) where
  init := ⟨World.init, [], []⟩
  step := step S

/-! ## Which event is current, and what an event carries -/

/-- The client is alive and this is its `mSubscribeEvent`. -/
def IsCurrent (w : World A) (c : ClientId) (e : EventId) : Prop :=
  ∃ cl, w.clients.get? c = some cl ∧ cl.mSubscribeEvent = some e

/-- The data of the event refers to the client. -/
def Carries (w : World A) (e : EventId) (c : ClientId) : Prop :=
  ∃ ev, w.events.get? e = some ev ∧ ev.data = some c

theorem IsCurrent.inj {w : World A} {c : ClientId} {e e' : EventId} (h : IsCurrent w c e)
    (h' : IsCurrent w c e') : e = e' := by
  obtain ⟨cl, hcl, hcur⟩ := h
  obtain ⟨cl', hcl', hcur'⟩ := h'
  rw [hcl] at hcl'
  obtain rfl := Option.some.inj hcl'
  exact Option.some.inj (hcur.symm.trans hcur')

theorem isCurrent_iff_of_get? {w : World A} {c : ClientId} {cl : Client A}
    (hcl : w.clients.get? c = some cl) (e : EventId) :
    IsCurrent w c e ↔ cl.mSubscribeEvent = some e := by
  constructor
  · rintro ⟨cl', hcl', hcur⟩
    rw [hcl] at hcl'
    obtain rfl := Option.some.inj hcl'
    exact hcur
  · intro hcur
    exact ⟨cl, hcl, hcur⟩

theorem Carries.inj {w : World A} {e : EventId} {c c' : ClientId} (h : Carries w e c)
    (h' : Carries w e c') : c = c' := by
  obtain ⟨ev, hev, hdata⟩ := h
  obtain ⟨ev', hev', hdata'⟩ := h'
  rw [hev] at hev'
  obtain rfl := Option.some.inj hev'
  exact Option.some.inj (hdata.symm.trans hdata')

theorem Carries.lt_next {w : World A} {e : EventId} {c : ClientId} (h : Carries w e c) :
    e < w.events.next := by
  obtain ⟨ev, hev, -⟩ := h
  exact Heap.lt_next_of_get? hev

/-- A terminated event carries nobody. -/
theorem carries_terminate {w : World A} {e e' : EventId} {c : ClientId} :
    Carries (w.terminate e) e' c ↔ e' ≠ e ∧ Carries w e' c := by
  simp only [Carries, World.terminate, Heap.get?_modify]
  by_cases he : e = e'
  · subst he
    simp
  · rw [if_neg he]
    exact ⟨fun h => ⟨Ne.symm he, h⟩, fun h => h.2⟩

/-- Writing a client without touching `mSubscribeEvent` changes no current
    event. -/
theorem isCurrent_updateClient {w : World A} {c c' : ClientId} {e : EventId}
    {f : Client A → Client A} (hf : ∀ cl, (f cl).mSubscribeEvent = cl.mSubscribeEvent) :
    IsCurrent (w.updateClient c f) c' e ↔ IsCurrent w c' e := by
  simp only [IsCurrent, World.updateClient, Heap.get?_modify]
  by_cases hc : c = c'
  · rw [if_pos hc]
    constructor
    · rintro ⟨cl, hcl, hcur⟩
      obtain ⟨cl₀, hcl₀, rfl⟩ := Option.map_eq_some_iff.mp hcl
      exact ⟨cl₀, hcl₀, (hf cl₀).symm.trans hcur⟩
    · rintro ⟨cl, hcl, hcur⟩
      exact ⟨f cl, by rw [hcl]; rfl, (hf cl).trans hcur⟩
  · rw [if_neg hc]

/-- Clearing `mSubscribeEvent` of a client takes its current event away. -/
theorem isCurrent_clear {w : World A} {c c' : ClientId} {e : EventId}
    {f : Client A → Client A} (hf : ∀ cl, (f cl).mSubscribeEvent = none) :
    IsCurrent (w.updateClient c f) c' e ↔ c' ≠ c ∧ IsCurrent w c' e := by
  simp only [IsCurrent, World.updateClient, Heap.get?_modify]
  by_cases hc : c = c'
  · subst hc
    simp only [if_true, ne_eq, not_true_eq_false, false_and, iff_false]
    rintro ⟨cl, hcl, hcur⟩
    obtain ⟨cl₀, -, rfl⟩ := Option.map_eq_some_iff.mp hcl
    rw [hf] at hcur
    cases hcur
  · rw [if_neg hc]
    exact ⟨fun h => ⟨Ne.symm hc, h⟩, fun h => h.2⟩

/-- The state in which a client has just opened its event. -/
def opened (w : World A) (c : ClientId) (cl : Client A) : World A :=
  { w with
    events := w.events.alloc ⟨cl.mTo, some c, false⟩
    clients := w.clients.modify c
      (fun cl => { cl with mSubscribeEvent := some w.events.next }) }

/-- A new event carries the client it is opened for. -/
theorem carries_opened {w : World A} {c c' : ClientId} {cl : Client A} {e : EventId} :
    Carries (opened w c cl) e c' ↔ (e = w.events.next ∧ c' = c) ∨ Carries w e c' := by
  simp only [Carries, opened, Heap.get?_alloc]
  by_cases he : e = w.events.next
  · subst he
    simp [eq_comm]
  · simp [he]

/-- It becomes the event of that client, which had none. -/
theorem isCurrent_opened {w : World A} {c c' : ClientId} {cl : Client A} {e : EventId}
    (hcl : w.clients.get? c = some cl) (hnone : cl.mSubscribeEvent = none) :
    IsCurrent (opened w c cl) c' e ↔ (c' = c ∧ e = w.events.next) ∨ IsCurrent w c' e := by
  simp only [IsCurrent, opened, Heap.get?_modify]
  by_cases hc : c = c'
  · subst hc
    simp [hcl, hnone, eq_comm]
  · simp [hc, Ne.symm hc]

theorem isCurrent_create {w : World A} {address : A} {c : ClientId} {e : EventId} :
    IsCurrent (w.create address) c e ↔ IsCurrent w c e := by
  simp only [IsCurrent, World.create, World.registerClient, Heap.get?_alloc]
  by_cases hc : c = w.clients.next
  · subst hc
    simp
  · rw [if_neg hc]

theorem isCurrent_free {w : World A} {c c' : ClientId} {e : EventId} :
    IsCurrent (World.unregisterClient { w with clients := w.clients.free c }) c' e ↔
      c' ≠ c ∧ IsCurrent w c' e := by
  simp only [IsCurrent, World.unregisterClient, Heap.get?_free]
  by_cases hc : c = c'
  · subst hc
    simp
  · rw [if_neg hc]
    exact ⟨fun h => ⟨Ne.symm hc, h⟩, fun h => h.2⟩

/-! ## The invariant -/

/-- The events whose `terminate()` is in progress. -/
def terminating (stack : List Pending) : List EventId := stack.filterMap Pending.terminating

/-- A client that is alive is inside `terminate()` on its event. -/
def Closing (stack : List Pending) (c : ClientId) (e : EventId) : Prop :=
  .unsubscribe c e ∈ stack ∨ .onSubscriptionStateChanged c e ∈ stack

theorem Closing.mem_terminating {stack : List Pending} {c : ClientId} {e : EventId}
    (h : Closing stack c e) : e ∈ terminating stack := by
  rcases h with h | h <;> exact List.mem_filterMap.mpr ⟨_, h, rfl⟩

theorem Closing.tail {p : Pending} {rest : List Pending} {c : ClientId} {e : EventId}
    (h : Closing rest c e) : Closing (p :: rest) c e :=
  h.imp (List.mem_cons_of_mem p) (List.mem_cons_of_mem p)

theorem terminating_tail {p : Pending} {rest : List Pending} {e : EventId}
    (h : e ∈ terminating rest) : e ∈ terminating (p :: rest) := by
  obtain ⟨q, hq, hqe⟩ := List.mem_filterMap.mp h
  exact List.mem_filterMap.mpr ⟨q, List.mem_cons_of_mem p hq, hqe⟩

/-- The method on top of the stack is the one that closes, or one below it. -/
theorem Closing.cons_iff {p : Pending} {rest : List Pending} {c : ClientId} {e : EventId} :
    Closing (p :: rest) c e ↔ Closing [p] c e ∨ Closing rest c e := by
  simp only [Closing, List.mem_cons, List.not_mem_nil, or_false]
  tauto

theorem closes_iff {stack : List Pending} {c : ClientId} :
    stack.any (fun p => p.closes = some c) = true ↔ ∃ e, Closing stack c e := by
  rw [List.any_eq_true]
  constructor
  · rintro ⟨p, hp, hc⟩
    have hc := of_decide_eq_true hc
    cases p with
    | subscribe c' e => cases hc
    | unsubscribe c' e =>
        obtain rfl := Option.some.inj hc
        exact ⟨e, Or.inl hp⟩
    | destructor c' e => cases hc
    | onSubscriptionStateChanged c' e =>
        obtain rfl := Option.some.inj hc
        exact ⟨e, Or.inr hp⟩
  · rintro ⟨e, hp | hp⟩ <;> exact ⟨_, hp, decide_eq_true rfl⟩

theorem State.alive_iff {m : State A} {c : ClientId} :
    m.alive c = true ↔ ∃ cl, m.world.clients.get? c = some cl :=
  Option.isSome_iff_exists

/-- A client can be called while it is alive and not inside its own `terminate()`.
    -/
theorem State.ready_iff {m : State A} {c : ClientId} :
    m.ready c = true ↔
      (∃ cl, m.world.clients.get? c = some cl) ∧ ∀ e, ¬ Closing m.stack c e := by
  rw [State.ready, Bool.and_eq_true, State.alive_iff, Bool.not_eq_true', ← Bool.not_eq_true,
    closes_iff, not_exists]

/-- What the events carry, which are current, and which are being closed. -/
structure Linked (w : World A) (stack : List Pending) : Prop where
  carried : ∀ e c, Carries w e c → IsCurrent w c e
  current : ∀ c e, IsCurrent w c e → Carries w e c ∨ Closing stack c e
  closing : ∀ e ∈ terminating stack, ∀ c, ¬ Carries w e c
  owner : ∀ c e, Closing stack c e → IsCurrent w c e
  known : ∀ c e, IsCurrent w c e → e < w.events.next
  bounded : ∀ e ∈ terminating stack, e < w.events.next
  distinct : (terminating stack).Nodup

/-- The use count, the registration on the Core, and the absence of undefined
    behaviour. -/
structure Accounted (w : World A) : Prop where
  counted : w.mUseCount = w.clients.liveCount
  listening : w.coreListeners = if 0 < w.mUseCount then 1 else 0
  defined : w.ub = false

/-- The invariant of the machine. -/
structure Consistent (m : State A) : Prop where
  linked : Linked m.world m.stack
  accounted : Accounted m.world

/-- An event that carries a client is not being closed. -/
theorem Linked.not_terminating {w : World A} {stack : List Pending} (h : Linked w stack)
    {e : EventId} {c : ClientId} (hc : Carries w e c) : e ∉ terminating stack :=
  fun he => h.closing e he c hc

/-- Two clients never have the same current event. -/
theorem Linked.exclusive {w : World A} {stack : List Pending} (h : Linked w stack)
    {c c' : ClientId} {e : EventId} (hc : Carries w e c) (hc' : IsCurrent w c' e) : c' = c := by
  rcases h.current c' e hc' with hcar | hclo
  · exact hcar.inj hc
  · exact absurd hc (h.closing e hclo.mem_terminating c)

/-- `terminate()` on the event that a live client carries: the client closes
    it. -/
theorem Linked.terminate {w : World A} {stack : List Pending} (h : Linked w stack)
    {c : ClientId} {e : EventId} (hc : Carries w e c) {p : Pending}
    (hp : p = .unsubscribe c e ∨ p = .onSubscriptionStateChanged c e) :
    Linked (w.terminate e) (p :: stack) := by
  have hterm : terminating (p :: stack) = e :: terminating stack := by
    rcases hp with rfl | rfl <;> rfl
  have hclosing : ∀ c' e', Closing (p :: stack) c' e' ↔
      (c' = c ∧ e' = e) ∨ Closing stack c' e' := by
    intro c' e'
    rcases hp with rfl | rfl <;> simp [Closing, or_assoc, or_left_comm]
  refine ⟨?_, ?_, ?_, ?_, ?_, ?_, ?_⟩
  · intro e' c' hcar
    exact h.carried e' c' (carries_terminate.mp hcar).2
  · -- `e` stays the current event of `c`, which is closing it from now on
    intro c' e' hcur
    rw [carries_terminate, hclosing]
    by_cases he : e' = e
    · subst he
      exact Or.inr (Or.inl ⟨h.exclusive hc hcur, rfl⟩)
    · rcases h.current c' e' hcur with hcar | hclo
      · exact Or.inl ⟨he, hcar⟩
      · exact Or.inr (Or.inr hclo)
  · intro e' he' c' hcar
    rw [hterm] at he'
    obtain ⟨hne, hcar'⟩ := carries_terminate.mp hcar
    rcases List.mem_cons.mp he' with rfl | hmem
    · exact hne rfl
    · exact h.closing e' hmem c' hcar'
  · intro c' e' hclo
    rcases (hclosing c' e').mp hclo with ⟨rfl, rfl⟩ | hold
    · exact h.carried _ _ hc
    · exact h.owner c' e' hold
  · intro c' e' hcur
    simpa [World.terminate] using h.known c' e' hcur
  · intro e' he'
    rw [hterm] at he'
    rw [World.terminate, Heap.next_modify]
    rcases List.mem_cons.mp he' with rfl | hmem
    · exact hc.lt_next
    · exact h.bounded e' hmem
  · rw [hterm]
    exact List.nodup_cons.mpr ⟨h.not_terminating hc, h.distinct⟩

/-- Nothing that a client's observers, devices or event see changes. -/
theorem Linked.congr {w w' : World A} {stack : List Pending} (h : Linked w stack)
    (hcur : ∀ c e, IsCurrent w' c e ↔ IsCurrent w c e)
    (hcar : ∀ e c, Carries w' e c ↔ Carries w e c) (hnext : w'.events.next = w.events.next) :
    Linked w' stack := by
  refine ⟨?_, ?_, ?_, ?_, ?_, ?_, h.distinct⟩
  · intro e c hc
    exact (hcur c e).mpr (h.carried e c ((hcar e c).mp hc))
  · intro c e hc
    rw [hcar]
    exact h.current c e ((hcur c e).mp hc)
  · intro e he c hc
    exact h.closing e he c ((hcar e c).mp hc)
  · intro c e hc
    exact (hcur c e).mpr (h.owner c e hc)
  · intro c e hc
    rw [hnext]
    exact h.known c e ((hcur c e).mp hc)
  · intro e he
    rw [hnext]
    exact h.bounded e he

/-- The current event of a client that is not closing it carries the client. -/
theorem Linked.carries {w : World A} {stack : List Pending} (h : Linked w stack) {c : ClientId}
    {e : EventId} (hcur : IsCurrent w c e) (hidle : ∀ e, ¬ Closing stack c e) : Carries w e c :=
  (h.current c e hcur).resolve_right (hidle e)

/-- A client without an event opens one. -/
theorem Linked.opened {w : World A} {stack : List Pending} (h : Linked w stack) {c : ClientId}
    {cl : Client A} (hcl : w.clients.get? c = some cl) (hnone : cl.mSubscribeEvent = none) :
    Linked (opened w c cl) (.subscribe c w.events.next :: stack) := by
  have hnext : (Dispatch.opened w c cl).events.next = w.events.next + 1 := Heap.next_alloc _ _
  have hclosing : ∀ {c' e}, Closing (.subscribe c w.events.next :: stack) c' e →
      Closing stack c' e := by
    rintro c' e (hmem | hmem)
    · exact Or.inl ((List.mem_cons.mp hmem).resolve_left Pending.noConfusion)
    · exact Or.inr ((List.mem_cons.mp hmem).resolve_left Pending.noConfusion)
  refine ⟨?_, ?_, ?_, ?_, ?_, ?_, h.distinct⟩
  · intro e c' hcar
    rw [isCurrent_opened hcl hnone]
    rcases carries_opened.mp hcar with ⟨rfl, rfl⟩ | hold
    · exact Or.inl ⟨rfl, rfl⟩
    · exact Or.inr (h.carried e c' hold)
  · intro c' e hcur
    rw [carries_opened]
    rcases (isCurrent_opened hcl hnone).mp hcur with ⟨rfl, rfl⟩ | hold
    · exact Or.inl (Or.inl ⟨rfl, rfl⟩)
    · exact (h.current c' e hold).imp Or.inr Closing.tail
  · -- the new event is none of those that are being closed
    intro e he c' hcar
    rcases carries_opened.mp hcar with ⟨rfl, -⟩ | hold
    · exact Nat.lt_irrefl _ (h.bounded _ he)
    · exact h.closing e he c' hold
  · intro c' e hclo
    exact (isCurrent_opened hcl hnone).mpr (Or.inr (h.owner c' e (hclosing hclo)))
  · intro c' e hcur
    rw [hnext]
    rcases (isCurrent_opened hcl hnone).mp hcur with ⟨-, rfl⟩ | hold
    · exact Nat.lt_succ_self _
    · exact Nat.lt_succ_of_lt (h.known c' e hold)
  · intro e he
    rw [hnext]
    exact Nat.lt_succ_of_lt (h.bounded e he)

/-- A client without an event dies. -/
theorem Linked.free {w : World A} {stack : List Pending} (h : Linked w stack) {c : ClientId}
    (hnone : ∀ e, ¬ IsCurrent w c e) :
    Linked (World.unregisterClient { w with clients := w.clients.free c }) stack := by
  have hkeep : ∀ {c' e}, IsCurrent w c' e →
      IsCurrent (World.unregisterClient { w with clients := w.clients.free c }) c' e := by
    intro c' e hcur
    refine isCurrent_free.mpr ⟨?_, hcur⟩
    rintro rfl
    exact hnone e hcur
  refine ⟨?_, ?_, h.closing, ?_, ?_, h.bounded, h.distinct⟩
  · intro e c' hcar
    exact hkeep (h.carried e c' hcar)
  · intro c' e hcur
    exact h.current c' e (isCurrent_free.mp hcur).2
  · intro c' e hclo
    exact hkeep (h.owner c' e hclo)
  · intro c' e hcur
    exact h.known c' e (isCurrent_free.mp hcur).2

/-- A client with an event dies: its destructor terminates the event. -/
theorem Linked.freeClosing {w : World A} {stack : List Pending} (h : Linked w stack)
    {c : ClientId} {e₀ : EventId} (hown : IsCurrent w c e₀) (hidle : ∀ e, ¬ Closing stack c e) :
    Linked ((World.unregisterClient { w with clients := w.clients.free c }).terminate e₀)
      (.destructor c e₀ :: stack) := by
  have hcar₀ := h.carries hown hidle
  have hnext : ((World.unregisterClient { w with clients := w.clients.free c }).terminate
      e₀).events.next = w.events.next := Heap.next_modify _ _ _
  have hclosing : ∀ {c' e}, Closing (.destructor c e₀ :: stack) c' e → Closing stack c' e := by
    rintro c' e (hmem | hmem)
    · exact Or.inl ((List.mem_cons.mp hmem).resolve_left Pending.noConfusion)
    · exact Or.inr ((List.mem_cons.mp hmem).resolve_left Pending.noConfusion)
  refine ⟨?_, ?_, ?_, ?_, ?_, ?_, List.nodup_cons.mpr ⟨h.not_terminating hcar₀, h.distinct⟩⟩
  · intro e c' hcar
    obtain ⟨hne, hcar'⟩ := carries_terminate.mp hcar
    have hcur := h.carried e c' hcar'
    refine isCurrent_free.mpr ⟨?_, hcur⟩
    rintro rfl
    exact hne (hcur.inj hown)
  · intro c' e hcur
    obtain ⟨hne, hcur'⟩ := isCurrent_free.mp hcur
    refine (h.current c' e hcur').imp (fun hcar => carries_terminate.mpr ⟨?_, hcar⟩) Closing.tail
    rintro rfl
    exact hne (h.exclusive hcar₀ hcur')
  · intro e he c' hcar
    obtain ⟨hne, hcar'⟩ := carries_terminate.mp hcar
    rcases List.mem_cons.mp he with rfl | hmem
    · exact hne rfl
    · exact h.closing e hmem c' hcar'
  · intro c' e hclo
    refine isCurrent_free.mpr ⟨?_, h.owner c' e (hclosing hclo)⟩
    rintro rfl
    exact hidle e (hclosing hclo)
  · intro c' e hcur
    rw [hnext]
    exact h.known c' e (isCurrent_free.mp hcur).2
  · intro e he
    rw [hnext]
    rcases List.mem_cons.mp he with rfl | hmem
    · exact h.known c e hown
    · exact h.bounded e hmem

/-- The destructor of a client, up to `terminate()`. -/
theorem Linked.destroy {w : World A} {stack : List Pending} (h : Linked w stack) {c : ClientId}
    {cl : Client A} (hcl : w.clients.get? c = some cl) (hidle : ∀ e, ¬ Closing stack c e) :
    Linked (w.beginDestroy c).1 ((w.beginDestroy c).2.toList ++ stack) := by
  cases hev : cl.mSubscribeEvent with
  | none =>
      have hd : w.beginDestroy c =
          (World.unregisterClient { w with clients := w.clients.free c }, none) := by
        simp [World.beginDestroy, hcl, hev]
      rw [hd]
      refine h.free (fun e hcur => ?_)
      rw [isCurrent_iff_of_get? hcl, hev] at hcur
      cases hcur
  | some e₀ =>
      have hd : w.beginDestroy c =
          ((World.unregisterClient { w with clients := w.clients.free c }).terminate e₀,
            some (.destructor c e₀)) := by
        simp [World.beginDestroy, hcl, hev]
      rw [hd]
      exact h.freeClosing ⟨cl, hcl, hev⟩ hidle

/-- The return of a method that no client alive was closing with: it writes
    nothing. -/
theorem Linked.returned {w : World A} {p : Pending} {rest : List Pending}
    (h : Linked w (p :: rest)) (hp : ∀ c e, ¬ Closing [p] c e) : Linked w rest := by
  refine ⟨h.carried, ?_, fun e he => h.closing e (terminating_tail he),
    fun c e hclo => h.owner c e hclo.tail, h.known, fun e he => h.bounded e (terminating_tail he),
    h.distinct.sublist ((List.sublist_cons_self p rest).filterMap _)⟩
  intro c e hcur
  exact (h.current c e hcur).imp_right
    (fun hclo => (Closing.cons_iff.mp hclo).resolve_left (hp c e))

/-- The return of a method that a client closes its event with: it clears
    `mSubscribeEvent` of this client. -/
theorem Linked.cleared {w : World A} {p : Pending} {rest : List Pending}
    (h : Linked w (p :: rest)) {c₀ : ClientId} {e₀ : EventId} {f : Client A → Client A}
    (hp : ∀ c e, Closing [p] c e ↔ c = c₀ ∧ e = e₀)
    (hf : ∀ cl, (f cl).mSubscribeEvent = none) : Linked (w.updateClient c₀ f) rest := by
  have hclo₀ : Closing (p :: rest) c₀ e₀ :=
    Closing.cons_iff.mpr (Or.inl ((hp c₀ e₀).mpr ⟨rfl, rfl⟩))
  have hown : IsCurrent w c₀ e₀ := h.owner c₀ e₀ hclo₀
  have hnot : e₀ ∉ terminating rest := by
    have hdistinct := h.distinct
    have hterm : terminating (p :: rest) = e₀ :: terminating rest := by
      rcases (hp c₀ e₀).mpr ⟨rfl, rfl⟩ with hmem | hmem <;>
        obtain rfl := List.mem_singleton.mp hmem <;> rfl
    rw [hterm] at hdistinct
    exact (List.nodup_cons.mp hdistinct).1
  refine ⟨?_, ?_, fun e he => h.closing e (terminating_tail he), ?_, ?_,
    fun e he => h.bounded e (terminating_tail he),
    h.distinct.sublist ((List.sublist_cons_self p rest).filterMap _)⟩
  · -- no event carries `c₀`: it could only be `e₀`, which is being closed
    intro e c hcar
    have hcur := h.carried e c hcar
    refine (isCurrent_clear hf).mpr ⟨?_, hcur⟩
    rintro rfl
    have he := hclo₀.mem_terminating
    rw [hown.inj hcur] at he
    exact h.closing e he c hcar
  · intro c e hcur
    obtain ⟨hne, hcur'⟩ := (isCurrent_clear hf).mp hcur
    refine (h.current c e hcur').imp_right (fun hclo => ?_)
    exact (Closing.cons_iff.mp hclo).resolve_left (fun hone => hne ((hp c e).mp hone).1)
  · -- no other pending method closes `c₀`: its event would be `e₀` twice
    intro c e hclo
    refine (isCurrent_clear hf).mpr ⟨?_, h.owner c e hclo.tail⟩
    rintro rfl
    have heq : e = e₀ := (h.owner c e hclo.tail).inj hown
    rw [heq] at hclo
    exact hnot hclo.mem_terminating
  · intro c e hcur
    exact h.known c e ((isCurrent_clear hf).mp hcur).2

/-- The return from `sendSubscribe()` or `terminate()`. -/
theorem Linked.finish {w : World A} {p : Pending} {rest : List Pending}
    (h : Linked w (p :: rest)) : Linked (w.finish p) rest := by
  cases p with
  | subscribe c e => exact h.returned (fun c' e' => by simp [Closing])
  | destructor c e => exact h.returned (fun c' e' => by simp [Closing])
  | unsubscribe c e =>
      have hp : ∀ c' e', Closing [.unsubscribe c e] c' e' ↔ c' = c ∧ e' = e := by simp [Closing]
      exact h.cleared hp (fun _ => rfl)
  | onSubscriptionStateChanged c e =>
      have hp : ∀ c' e', Closing [.onSubscriptionStateChanged c e] c' e' ↔ c' = c ∧ e' = e := by
        simp [Closing]
      exact h.cleared hp (fun _ => rfl)

/-! ## The use count and the Core -/

/-- The accounts depend on the number of clients, the use count and the Core's
    listeners. -/
theorem Accounted.congr {w w' : World A} (h : Accounted w)
    (hcount : w'.clients.liveCount = w.clients.liveCount) (huse : w'.mUseCount = w.mUseCount)
    (hcore : w'.coreListeners = w.coreListeners) (hub : w'.ub = w.ub) : Accounted w' := by
  refine ⟨?_, ?_, hub.trans h.defined⟩
  · rw [huse, hcount, h.counted]
  · rw [hcore, huse, h.listening]

theorem Accounted.updateClient {w : World A} (h : Accounted w) (c : ClientId)
    (f : Client A → Client A) : Accounted (w.updateClient c f) :=
  h.congr (Heap.liveCount_modify _ _ _) rfl rfl rfl

theorem Accounted.terminate {w : World A} (h : Accounted w) (e : EventId) :
    Accounted (w.terminate e) :=
  h.congr rfl rfl rfl rfl

/-- The first client adds the Core's listener, and each one uses it. -/
theorem Accounted.create {w : World A} (h : Accounted w) (address : A) :
    Accounted (w.create address) := by
  have hnonneg : 0 ≤ w.mUseCount := by rw [h.counted]; exact Int.natCast_nonneg _
  refine ⟨?_, ?_, h.defined⟩
  · simp [World.create, World.registerClient, h.counted]
  · have hpos : 0 < w.mUseCount + 1 := by omega
    have hl := h.listening
    simp only [World.create, World.registerClient, if_pos hpos]
    by_cases hzero : w.mUseCount = 0
    · -- the first client puts the factory on the Core
      rw [if_pos hzero, hl, hzero]
      rfl
    · rw [if_neg hzero, hl, if_pos (by omega)]

/-- `unregisterClient` for a client whose destructor has begun. -/
theorem Accounted.unregister {w : World A} (h : Accounted w) {c : ClientId} {cl : Client A}
    (hcl : w.clients.get? c = some cl) :
    Accounted (World.unregisterClient { w with clients := w.clients.free c }) := by
  have hfree : (w.clients.free c).liveCount + 1 = w.clients.liveCount := Heap.liveCount_free hcl
  have hcount := h.counted
  have hl := h.listening
  refine ⟨?_, ?_, h.defined⟩
  · simp only [World.unregisterClient]
    omega
  · have hpos : 0 < w.mUseCount := by omega
    simp only [World.unregisterClient]
    rw [hl, if_pos hpos]
    by_cases hlast : w.mUseCount - 1 = 0
    · -- the last one takes it off
      rw [if_pos hlast, if_neg (by omega)]
    · rw [if_neg hlast, if_pos (by omega)]

/-- The last client takes the listener off, unless a callback has to return first.
    -/
theorem Accounted.destroy {w : World A} (h : Accounted w) {c : ClientId} {cl : Client A}
    (hcl : w.clients.get? c = some cl) : Accounted (w.beginDestroy c).1 := by
  have hun := h.unregister hcl
  cases hev : cl.mSubscribeEvent with
  | none => simpa [World.beginDestroy, hcl, hev] using hun
  | some e => simpa [World.beginDestroy, hcl, hev] using hun.terminate e

/-- What is left of a callback keeps the accounts. -/
theorem Accounted.finish {w : World A} (h : Accounted w) (p : Pending) :
    Accounted (w.finish p) := by
  cases p with
  | subscribe c e => exact h
  | unsubscribe c e => exact h.updateClient c _
  | destructor c e => exact h
  | onSubscriptionStateChanged c e => exact h.updateClient c _

/-! ## One step -/

/-- What the factory finds in the data of an event is a client that is alive
    and has this event as its current one. -/
theorem Linked.dispatch {w : World A} {stack : List Pending} (h : Linked w stack)
    {e : EventId} {c : ClientId} (hd : w.dispatch e = some c) :
    Carries w e c ∧ IsCurrent w c e := by
  have hcar : Carries w e c := by
    rw [World.dispatch] at hd
    split at hd
    · cases hd
    · obtain ⟨ev, hev, hdata⟩ := Option.bind_eq_some_iff.mp hd
      exact ⟨ev, hev, hdata⟩
  exact ⟨hcar, h.carried e c hcar⟩

/-- An event that carries no client is dispatched to none. -/
theorem dispatch_eq_none {w : World A} {e : EventId} (h : ∀ c, ¬ Carries w e c) :
    w.dispatch e = none := by
  cases hd : w.dispatch e with
  | none => rfl
  | some c =>
      rw [World.dispatch] at hd
      split at hd
      · cases hd
      · obtain ⟨ev, hev, hdata⟩ := Option.bind_eq_some_iff.mp hd
        exact absurd ⟨ev, hev, hdata⟩ (h c)

theorem Consistent.updateClient {m : State A} (h : Consistent m) (c : ClientId)
    {f : Client A → Client A} (hf : ∀ cl, (f cl).mSubscribeEvent = cl.mSubscribeEvent) :
    Consistent { m with world := m.world.updateClient c f } :=
  ⟨h.linked.congr (fun _ _ => isCurrent_updateClient hf) (fun _ _ => Iff.rfl) rfl,
    h.accounted.updateClient c f⟩

/-- The beginning of a state change, with the callback that it leaves open. -/
theorem Consistent.onSubscriptionStateChanged {m : State A} (h : Consistent m) (e : EventId)
    (state : SubscriptionState) : Consistent (m.enter (m.world.beginStateChanged e state)) := by
  rw [World.beginStateChanged]
  cases hd : m.world.dispatch e with
  | none => exact h
  | some c =>
      obtain ⟨hcar, cl, hcl, hcur⟩ := h.linked.dispatch hd
      -- two of the states close the event that the callback is about
      have hclose : Consistent
          (m.enter (m.world.terminate e, some (.onSubscriptionStateChanged c e))) :=
        ⟨h.linked.terminate hcar (Or.inr rfl), h.accounted.terminate e⟩
      cases state <;> simp only [hcl, World.beginClientStateChanged, hcur]
      case terminated => exact hclose
      case error => exact hclose
      all_goals exact h

/-- A NOTIFY leaves no callback open. -/
theorem Consistent.onNotifyReceived (S : Sdk A R) {m : State A} (h : Consistent m) (e : EventId)
    (body : NotifyBody) : Consistent (step S m (.onNotifyReceived e body)) := by
  suffices hw : Linked (m.world.onNotifyReceived S e body).1 m.stack ∧
      Accounted (m.world.onNotifyReceived S e body).1 from ⟨hw.1, hw.2⟩
  rw [World.onNotifyReceived]
  cases hd : m.world.dispatch e with
  | none => exact ⟨h.linked, h.accounted⟩
  | some c =>
      obtain ⟨-, cl, hcl, -⟩ := h.linked.dispatch hd
      simp only [hcl]
      cases body with
      | null => exact ⟨h.linked, h.accounted⟩
      | malformed => exact ⟨h.linked, h.accounted⟩
      | reginfo ri =>
          have hu := h.updateClient c (f := fun cl' => { cl' with
            mParticipantDevices := (Reginfos.Client.onNotifyReceived S
              (S.asStringUriOnly cl.mTo) cl.mParticipantDevices ri).1 }) (fun _ => rfl)
          exact ⟨hu.linked, hu.accounted⟩

/-- The beginning of a `subscribe()`. -/
theorem Consistent.subscribe (S : Sdk A R) {m : State A} (h : Consistent m) (c : ClientId)
    (listener : ListenerId) : Consistent (step S m (.subscribe c listener)) := by
  simp only [step]
  by_cases ha : m.alive c = true
  · obtain ⟨cl, hcl⟩ := State.alive_iff.mp ha
    rw [if_pos ha]
    cases hev : cl.mSubscribeEvent with
    | some e =>
        simp only [World.beginSubscribe, hcl, hev]
        exact ⟨h.linked, h.accounted⟩
    | none =>
        simp only [World.beginSubscribe, hcl, hev]
        exact ⟨h.linked.opened hcl hev,
          h.accounted.congr (Heap.liveCount_modify _ _ _) rfl rfl rfl⟩
  · rw [if_neg ha]
    exact h

/-- The beginning of an `unsubscribe()`. -/
theorem Consistent.unsubscribe (S : Sdk A R) {m : State A} (h : Consistent m) (c : ClientId) :
    Consistent (step S m (.unsubscribe c)) := by
  simp only [step]
  by_cases hr : m.ready c = true
  · obtain ⟨⟨cl, hcl⟩, hidle⟩ := State.ready_iff.mp hr
    rw [if_pos hr]
    cases hev : cl.mSubscribeEvent with
    | none =>
        simp only [World.beginUnsubscribe, hcl, hev]
        exact h
    | some e =>
        have hcar : Carries m.world e c := h.linked.carries ⟨cl, hcl, hev⟩ hidle
        simp only [World.beginUnsubscribe, hcl, hev]
        exact ⟨h.linked.terminate hcar (Or.inl rfl), h.accounted.terminate e⟩
  · rw [if_neg hr]
    exact h

/-- The beginning of a destruction. -/
theorem Consistent.destroy (S : Sdk A R) {m : State A} (h : Consistent m) (c : ClientId) :
    Consistent (step S m (.destroy c)) := by
  simp only [step]
  by_cases hr : m.ready c = true
  · obtain ⟨⟨cl, hcl⟩, hidle⟩ := State.ready_iff.mp hr
    rw [if_pos hr]
    exact ⟨h.linked.destroy hcl hidle, h.accounted.destroy hcl⟩
  · rw [if_neg hr]
    exact h

/-- **Step lemma**: every act keeps the invariant. -/
theorem consistent_step (S : Sdk A R) (m : State A) (act : Act A) (h : Consistent m) :
    Consistent (step S m act) := by
  cases act with
  | create address =>
      exact ⟨h.linked.congr (fun _ _ => isCurrent_create) (fun _ _ => Iff.rfl) rfl,
        h.accounted.create address⟩
  | addObserver c o =>
      simp only [step]
      split
      · exact h.updateClient c (fun _ => rfl)
      · exact h
  | removeObserver c o =>
      simp only [step]
      split
      · exact h.updateClient c (fun _ => rfl)
      · exact h
  | subscribe c listener => exact h.subscribe S c listener
  | unsubscribe c => exact h.unsubscribe S c
  | destroy c => exact h.destroy S c
  | onSubscriptionStateChanged e state => exact h.onSubscriptionStateChanged e state
  | onNotifyReceived e body => exact h.onNotifyReceived S e body
  | ret =>
      simp only [step]
      cases hstack : m.stack with
      | nil => exact h
      | cons p rest =>
          have hl := h.linked
          rw [hstack] at hl
          exact ⟨hl.finish, h.accounted.finish p⟩

theorem consistent_init : Consistent (⟨World.init, [], []⟩ : State A) := by
  refine ⟨⟨?_, ?_, ?_, ?_, ?_, ?_, List.nodup_nil⟩, ⟨rfl, rfl, rfl⟩⟩
  · rintro e c ⟨ev, hev, -⟩
    cases hev
  · rintro c e ⟨cl, hcl, -⟩
    cases hcl
  · intro e he
    cases he
  · rintro c e (hmem | hmem) <;> cases hmem
  · rintro c e ⟨cl, hcl, -⟩
    cases hcl
  · intro e he
    cases he

/-- **Run lemma**: the invariant holds after every run. -/
theorem consistent_reach (S : Sdk A R) (acts : List (Act A)) :
    Consistent ((machine S).reach acts) :=
  Machine.invariant_reach (M := machine S) consistent_init (consistent_step S) acts

/-! ## The dispatch invariant -/

/-- A callback on an event that carries no client does nothing at all. -/
theorem step_callback_of_not_carries (S : Sdk A R) {m : State A} {e : EventId}
    (h : ∀ c, ¬ Carries m.world e c) {act : Act A} (hact : act.IsCallbackOn e) :
    step S m act = m := by
  have hd := dispatch_eq_none h
  cases act with
  | onSubscriptionStateChanged e' state =>
      obtain rfl : e' = e := hact
      simp [step, World.beginStateChanged, hd, State.enter]
  | onNotifyReceived e' body =>
      obtain rfl : e' = e := hact
      cases body <;> simp [step, World.onNotifyReceived, hd, processedEntry, calledEntries]
  | _ => exact hact.elim

/-- A callback changes no other client than the one whose current event it is
    about. -/
theorem step_callback_frame (S : Sdk A R) {m : State A} (h : Consistent m) {e : EventId}
    {act : Act A} (hact : act.IsCallbackOn e) {c : ClientId} (hc : ¬ IsCurrent m.world c e) :
    (step S m act).world.clients.get? c = m.world.clients.get? c := by
  cases hd : m.world.dispatch e with
  | none =>
      cases act with
      | onSubscriptionStateChanged e' state =>
          obtain rfl : e' = e := hact
          simp [step, World.beginStateChanged, hd, State.enter]
      | onNotifyReceived e' body =>
          obtain rfl : e' = e := hact
          simp [step, World.onNotifyReceived, hd]
      | _ => exact hact.elim
  | some c₀ =>
      obtain ⟨-, hcur⟩ := h.linked.dispatch hd
      have hne : c₀ ≠ c := by
        rintro rfl
        exact hc hcur
      obtain ⟨cl, hcl, hev⟩ := hcur
      cases act with
      | onSubscriptionStateChanged e' state =>
          obtain rfl : e' = e := hact
          cases state <;>
            simp [step, World.beginStateChanged, hd, hcl, World.beginClientStateChanged, hev,
              State.enter, World.terminate]
      | onNotifyReceived e' body =>
          obtain rfl : e' = e := hact
          cases body with
          | null => simp [step, World.onNotifyReceived, hd, hcl]
          | malformed => simp [step, World.onNotifyReceived, hd, hcl]
          | reginfo ri =>
              simp [step, World.onNotifyReceived, hd, hcl, World.updateClient,
                Heap.get?_modify_ne _ _ hne]
      | _ => exact hact.elim

/-- **EVENT DISPATCH INVARIANT.**  After every run, re-entrant callbacks and calls
    included: an event carries a client exactly when the client is alive, the
    event is its current one and `terminate()` is not in progress on it (so in
    a state without a method in progress, exactly when the event is current);
    a callback changes no client but the one it is dispatched to, and nothing
    at all when the event carries none; a dispatched callback finds its client
    alive, with this event as its non-null `mSubscribeEvent`, and no undefined
    behaviour ever happens; the use count is the number of clients alive, and
    the factory is on the Core, once, exactly while it is positive. -/
theorem event_dispatch_invariant (S : Sdk A R) (acts : List (Act A)) :
    let m := (machine S).reach acts
    (∀ e c, Carries m.world e c ↔ IsCurrent m.world c e ∧ e ∉ terminating m.stack) ∧
    (∀ e act, act.IsCallbackOn e →
      ((∀ c, ¬ Carries m.world e c) → step S m act = m) ∧
      (∀ c, ¬ IsCurrent m.world c e →
        (step S m act).world.clients.get? c = m.world.clients.get? c)) ∧
    (∀ e c, m.world.dispatch e = some c → IsCurrent m.world c e) ∧
    m.world.ub = false ∧
    m.world.mUseCount = m.world.clients.liveCount ∧ 0 ≤ m.world.mUseCount ∧
    m.world.coreListeners = if 0 < m.world.mUseCount then 1 else 0 := by
  intro m
  have h : Consistent m := consistent_reach S acts
  refine ⟨?_, ?_, ?_, h.accounted.defined, h.accounted.counted, ?_, h.accounted.listening⟩
  · intro e c
    constructor
    · intro hcar
      exact ⟨h.linked.carried e c hcar, h.linked.not_terminating hcar⟩
    · rintro ⟨hcur, hnot⟩
      exact (h.linked.current c e hcur).resolve_right (fun hclo => hnot hclo.mem_terminating)
  · intro e act hact
    exact ⟨fun hcar => step_callback_of_not_carries S hcar hact,
      fun c hc => step_callback_frame S h hact hc⟩
  · intro e c hd
    exact (h.linked.dispatch hd).2
  · rw [h.accounted.counted]
    exact Int.natCast_nonneg _

/-- While `Client::unsubscribe` is inside `terminate()`, and so when the Core
    calls back from there, the event is still the client's current one but
    carries no client any more. -/
theorem current_without_reference :
    let m := (machine stringSdk).reach
      [.create "sip:alice@external.example.org", .subscribe 0 7, .ret, .unsubscribe 0,
        .onSubscriptionStateChanged 0 .terminated]
    m.stack = [.unsubscribe 0 0] ∧ IsCurrent m.world 0 0 ∧ ¬ Carries m.world 0 0 := by
  refine ⟨rfl, ⟨_, rfl, rfl⟩, ?_⟩
  rintro ⟨ev, hev, hdata⟩
  cases hev
  cases hdata

end Dispatch
