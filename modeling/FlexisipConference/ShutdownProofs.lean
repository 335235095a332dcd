import FlexisipConference.BindingProofs
import FlexisipConference.ServerProofs

/-! # Stopping the server

    A server that is up is called by the Core, by its chat rooms and by the
    registrar, which tells it when it can be written; messages come for its
    subscriptions.  Stopping takes the server off the listeners of all three and
    unsubscribes all the participants.  What was on its way then still arrives.

    A server that is stopped is frozen (`stopped_is_frozen`): whatever comes, it
    makes no call, binds nothing and holds nothing.  Its bindings and its list
    of chat rooms are left as they were. -/

namespace Shutdown

open Sdks Heaps Machines Clients QuietRun Subscriptions Handlers Invariants HandlerSteps Events
open Lifetime Silence
open Bindings hiding ConferenceServer State machine
open Servers hiding step machine Act

variable {A R : Type}

/-- The server that is up: the chat rooms and the handler, the bindings, and
    whether it is among the state listeners of the registrar. -/
structure Process (A R : Type) where
  server : ServerState A R
  binding : Bindings.State
  stateListener : Bool

/-- What the server is called for; also by the registrar. -/
inductive Act (A R : Type) where
  | server (act : Servers.Act A R)
  | onRegistrarDbWritable (notification : Notification A)

namespace Process

/-- The end of `_init`. -/
def init (S : BindingSdk A R) (conf : Bindings.ConferenceServer) (isWritable : Bool)
    (env : Surroundings A) : Process A R :=
  ⟨ServerState.init, initState S conf isWritable env, true⟩

variable [DecidableEq R]

def step (S : BindingSdk A R) (server : ConferenceServer) (conf : Bindings.ConferenceServer)
    (p : Process A R) : Act A R → Process A R
  | .server .stop =>
      { p with server := p.server.stop S.toSdk server, stateListener := false }
  | .server act => { p with server := Servers.step S.toSdk server p.server act }
  | .onRegistrarDbWritable notification =>
      -- only the listeners are called
      if p.stateListener then
        { p with binding := Bindings.onRegistrarDbWritable S conf p.binding notification }
      else p

end Process

section Rooms

variable [DecidableEq R]

/-- The machine of the server that is up. -/
def machine (S : BindingSdk A R) (server : ConferenceServer) (conf : Bindings.ConferenceServer)
    (isWritable : Bool) (env : Surroundings A) : Machine (Process A R) (Act A R) where
  init := Process.init S conf isWritable env
  step := Process.step S server conf

end Rooms

/-- Nobody calls the server any more, and its store is empty. -/
structure Stopped (S : Sdk A R) (p : Process A R) : Prop where
  sound : Sound S p.server.mSubscriptionHandler
  store : p.server.mSubscriptionHandler.mSubscriptions = []
  coreListener : p.server.coreListener = false
  listened : p.server.listened = []
  stateListener : p.stateListener = false

/-! ## A handler with an empty store -/

section Empty

variable {S : Sdk A R} {sys : System A R} (h : Sound S sys) (hempty : sys.mSubscriptions = [])

include h hempty

/-- No client is alive. -/
theorem no_client (c : ClientId) : sys.world.clients.get? c = none := by
  cases hcl : sys.world.clients.get? c with
  | none => rfl
  | some cl =>
      obtain ⟨s, hs, -⟩ := (alive_iff_referenced h).mp ⟨cl, hcl⟩
      rw [stored, hempty] at hs
      cases hs

/-- A handler without subscriptions has no client, so a NOTIFY finds nobody. -/
theorem onNotifyReceived_of_empty (e : EventId) (body : Reginfos.NotifyBody) :
    sys.onNotifyReceived S e body = sys := by
  rcases notify_cases h.inv.rest e body with hquiet | ⟨c, cl, -, hcl, -⟩
  · simp [System.onNotifyReceived, hquiet, System.deliver]
  · rw [no_client h hempty c] at hcl
    cases hcl

theorem onSubscriptionStateChanged_of_empty (e : EventId) (state : SubscriptionState) :
    { sys with world := sys.world.onSubscriptionStateChanged e state } = sys := by
  rcases stateChanged_cases h.inv.rest e state with hquiet | ⟨c, ⟨cl, hcl, -⟩, -⟩
  · rw [hquiet]
  · rw [no_client h hempty c] at hcl
    cases hcl

theorem no_registrarListener : sys.registrarListeners = [] := by
  refine List.eq_nil_iff_forall_not_mem.mpr ?_
  intro p hin
  obtain ⟨hs, -⟩ := (h.inv.attached.registrar.2 p.1 p.2).mp hin
  rw [stored, hempty] at hs
  cases hs

/-- An own subscription that is left somewhere is not active. -/
theorem inactive_of_empty {s : SubscriptionId} {sub : OwnRegistrationSubscription A R}
    (hs : sys.subs.get? s = some (.own sub)) : sub.mActive = false := by
  refine Bool.eq_false_iff.mpr ?_
  intro htrue
  have hactive : isActive sys s = true := by
    rw [isActive, hs]
    exact htrue
  have hin := ((h.inv.attached.active s).mp hactive).1
  rw [stored, hempty] at hin
  cases hin

/-- A message to a subscription that has left is ignored. -/
theorem tellOwn_of_empty (s : SubscriptionId)
    {calls : OwnRegistrationSubscription A R → List (ChatRoomCall A)}
    (hcalls : ∀ sub : OwnRegistrationSubscription A R, sub.mActive = false → calls sub = []) :
    sys.tellOwn s calls = sys := by
  rw [System.tellOwn]
  split
  · rename_i sub hs
    rw [hcalls sub (inactive_of_empty h hempty hs), List.map_nil, List.append_nil]
  · rfl

omit h in
theorem unsubscribeAll_of_empty [DecidableEq R] : sys.unsubscribeAll S = sys := by
  rw [System.unsubscribeAll, System.removeAllSubscriptions, hempty]
  simp only [List.map_nil, List.foldl_nil]
  rw [← hempty]

end Empty

section Rooms

variable [DecidableEq R]

/-- No operation but a subscribe changes a handler with an empty store. -/
theorem step_of_empty {S : Sdk A R} (server : ConferenceServer) {sys : System A R}
    (h : Sound S sys) (hempty : sys.mSubscriptions = []) {op : Op A R}
    (hop : ∀ cr address, op ≠ .subscribe cr address) : Handlers.step S server sys op = sys := by
  cases op with
  | subscribe chatRoom address => exact absurd rfl (hop chatRoom address)
  | unsubscribe chatRoom address =>
      show sys.unsubscribe S chatRoom address = sys
      rcases unsubscribe_cases h chatRoom address with ⟨-, hsame⟩ | ⟨entry, hin, -⟩
      · exact hsame
      · rw [hempty] at hin
        cases hin
  | unsubscribeAll => exact unsubscribeAll_of_empty hempty
  | onNotifyReceived e body => exact onNotifyReceived_of_empty h hempty e body
  | onSubscriptionStateChanged e state =>
      exact onSubscriptionStateChanged_of_empty h hempty e state
  | onRecordFound s r =>
      exact tellOwn_of_empty h hempty s
        (fun _ hsub => OwnRegistrationSubscription.onRecordFound_inactive S hsub r)
  | onContactRegistered s r uid =>
      exact tellOwn_of_empty h hempty s
        (fun _ hsub => OwnRegistrationSubscription.onContactRegistered_inactive S hsub r uid)

/-! ## The stopped server -/

/-- Stopping a server takes it off all the listeners and empties its store. -/
theorem stopped_stop {S : BindingSdk A R} (server : ConferenceServer)
    (conf : Bindings.ConferenceServer) {p : Process A R} (h : Legal S.toSdk p.server) :
    Stopped S.toSdk (p.step S server conf (.server .stop)) where
  sound := sound_step S.toSdk server _ .unsubscribeAll h.sound
  store := h.sound.unsubscribeAll.2.1
  coreListener := rfl
  listened := List.filter_eq_nil_iff.mpr (fun cr hin hnot =>
    of_decide_eq_true hnot (h.listened cr hin))
  stateListener := rfl

/-- **A stopped server does not move.** -/
theorem Stopped.step {S : BindingSdk A R} (server : ConferenceServer)
    (conf : Bindings.ConferenceServer) {p : Process A R} (h : Stopped S.toSdk p)
    (act : Act A R) : p.step S server conf act = p := by
  -- a message finds nobody
  have hmessage : ∀ op : Op A R, (∀ cr address, op ≠ .subscribe cr address) →
      p.server.handle S.toSdk server op = p.server := by
    intro op hop
    rw [ServerState.handle, step_of_empty server h.sound h.store hop]
  cases act with
  | onRegistrarDbWritable notification =>
      rw [Process.step, h.stateListener]
      rfl
  | server act =>
      have hserver : ∀ st : ServerState A R, st = p.server → { p with server := st } = p := by
        rintro _ rfl
        rfl
      cases act with
      | stop =>
          have hlistened : p.server.listened.filter (· ∉ p.server.mChatRooms) =
              p.server.listened := by
            rw [h.listened]
            rfl
          have hstop : p.server.stop S.toSdk server = p.server := by
            rw [ServerState.stop, hlistened, ← h.coreListener]
            exact hmessage .unsubscribeAll (fun _ _ heq => by cases heq)
          rw [Process.step, hstop, ← h.stateListener]
      | onChatRoomStateChanged cr state =>
          refine hserver _ ?_
          rw [Servers.step, h.coreListener]
          rfl
      | onParticipantRegistrationSubscriptionRequested cr participantAddr =>
          refine hserver _ ?_
          rw [Servers.step, h.listened, if_neg List.not_mem_nil]
      | onParticipantRegistrationUnsubscriptionRequested cr participantAddr =>
          refine hserver _ ?_
          rw [Servers.step, h.listened, if_neg List.not_mem_nil]
      | onNotifyReceived e body => exact hserver _ (hmessage _ (fun _ _ heq => by cases heq))
      | onSubscriptionStateChanged e state =>
          exact hserver _ (hmessage _ (fun _ _ heq => by cases heq))
      | onRecordFound s r => exact hserver _ (hmessage _ (fun _ _ heq => by cases heq))
      | onContactRegistered s r uid => exact hserver _ (hmessage _ (fun _ _ heq => by cases heq))

/-- The server inside the process keeps its laws. -/
theorem legal_process_step (S : BindingSdk A R) (server : ConferenceServer)
    (conf : Bindings.ConferenceServer) (p : Process A R) (act : Act A R)
    (h : Legal S.toSdk p.server) : Legal S.toSdk (p.step S server conf act).server := by
  cases act with
  | onRegistrarDbWritable notification =>
      rw [Process.step]
      split <;> exact h
  | server act =>
      have hlegal := legal_step S.toSdk server p.server act h
      cases act <;> exact hlegal

/-- What is called does an operation of the handler, or none. -/
theorem process_step_cases (S : BindingSdk A R) (server : ConferenceServer)
    (conf : Bindings.ConferenceServer) (p : Process A R) (act : Act A R) :
    (p.step S server conf act).server.mSubscriptionHandler = p.server.mSubscriptionHandler ∨
      ∃ op, (p.step S server conf act).server.mSubscriptionHandler =
        Handlers.step S.toSdk server p.server.mSubscriptionHandler op := by
  cases act with
  | onRegistrarDbWritable notification =>
      left
      rw [Process.step]
      split <;> rfl
  | server act =>
      have hcases : (Servers.step S.toSdk server p.server act).mSubscriptionHandler =
          p.server.mSubscriptionHandler ∨ ∃ op,
          (Servers.step S.toSdk server p.server act).mSubscriptionHandler =
            Handlers.step S.toSdk server p.server.mSubscriptionHandler op := by
        rcases Servers.step_cases S.toSdk server p.server act with hsame | ⟨-, hop⟩
        · exact Or.inl hsame
        · exact Or.inr hop
      cases act <;> exact hcases

/-- What a server has left when it has stopped, from what it was before. -/
structure Left (S : Sdk A R) (p p' : Process A R) : Prop where
  /-- Its list of chat rooms and its bindings. -/
  mChatRooms : p'.server.mChatRooms = p.server.mChatRooms
  binding : p'.binding = p.binding
  /-- Each subscription was stopped, and no chat room was called. -/
  log : p'.server.mSubscriptionHandler.log = p.server.mSubscriptionHandler.log ++
    (stored p.server.mSubscriptionHandler).map .stopped
  /-- No subscription, client, dialog or watch. -/
  stored : stored p'.server.mSubscriptionHandler = []
  clients : ∀ c, p'.server.mSubscriptionHandler.world.clients.get? c = none
  events : ∀ e, ¬ IsLive p'.server.mSubscriptionHandler.world e
  coreListeners : p'.server.mSubscriptionHandler.world.coreListeners = 0
  registrarListeners : p'.server.mSubscriptionHandler.registrarListeners = []

/-- `_stop` leaves a handler without subscriptions. -/
theorem left_stop {S : BindingSdk A R} (server : ConferenceServer)
    (conf : Bindings.ConferenceServer) {p : Process A R} (h : Legal S.toSdk p.server) :
    Left S.toSdk p (p.step S server conf (.server .stop)) := by
  obtain ⟨hclients, hevents, hcore⟩ := unsubscribeAll_releases h.sound
  have hstopped := stopped_stop server conf h
  refine ⟨rfl, rfl, h.sound.unsubscribeAll.2.2.2.2, ?_, hclients, hevents, hcore,
    no_registrarListener hstopped.sound hstopped.store⟩
  rw [HandlerSteps.stored, hstopped.store]
  rfl

/-- **A STOPPED SERVER IS FROZEN.**  Whatever has happened before a stop and
    whatever comes after it, the server stays as the stop has left it: it has
    stopped every subscription and released all that they held, has called no
    chat room, and keeps its list of chat rooms and its bindings. -/
theorem stopped_is_frozen (S : BindingSdk A R) (server : ConferenceServer)
    (conf : Bindings.ConferenceServer) (isWritable : Bool) (env : Surroundings A)
    (before after : List (Act A R)) :
    let M := machine S server conf isWritable env
    M.reach (before ++ .server .stop :: after) = M.reach (before ++ [.server .stop]) ∧
      Left S.toSdk (M.reach before) (M.reach (before ++ .server .stop :: after)) := by
  intro M
  have hlegal : Legal S.toSdk (M.reach before).server :=
    Machine.invariant_reach (M := M) (I := fun p => Legal S.toSdk p.server)
      ⟨Sound.init S.toSdk, fun _ hin => absurd hin List.not_mem_nil⟩
      (legal_process_step S server conf) before
  have hstop : M.reach (before ++ [.server .stop]) =
      (M.reach before).step S server conf (.server .stop) := M.reach_concat before _
  have hfrozen : M.reach (before ++ .server .stop :: after) =
      M.reach (before ++ [.server .stop]) := by
    rw [← List.singleton_append, ← List.append_assoc, M.reach_append]
    refine Machine.invariant_run (M := M)
      (I := fun p => p = M.reach (before ++ [.server .stop])) ?_ after _ rfl
    intro p act hp
    subst hp
    rw [hstop]
    exact (stopped_stop server conf hlegal).step server conf act
  refine ⟨hfrozen, ?_⟩
  rw [hfrozen, hstop]
  exact left_stop server conf hlegal

end Rooms

end Shutdown
