import FlexisipConference.LifetimeProofs

/-! # What the operations of the handler do to the clients

    A subscribe of an external participant JOINS one client: it becomes an
    observer of it, and the client opens an event or replays its list.  An
    unsubscribe takes one observer off, and the client dies with the last one.
    Of a NOTIFY and of a state change only the client of the event sees
    anything.  All other clients stay as they are, and no event that has ceased
    to be current ever becomes current again. -/

namespace ClientSteps

open Sdks Reginfos Heaps Multimaps Machines Clients Dispatch QuietRun Events Subscriptions Handlers
open Invariants HandlerSteps Lifetime

variable {A R : Type}

/-! ## Joining a client -/

/-- A client with one more observer, and with an event. -/
def joined (w : World A) (s : SubscriptionId) (cl : Client A) : Client A :=
  { cl with
    mSubscribeEvent := some (cl.mSubscribeEvent.getD w.events.next)
    observers := cl.observers ++ [s] }

/-- The start of an external subscription, as its client sees it. -/
theorem join_world {w : World A} {c : ClientId} {cl : Client A}
    (hcl : w.clients.get? c = some cl) (s : SubscriptionId) :
    ((w.addObserver c s).subscribe c s).1.clients.get? c = some (joined w s cl) ∧
    (∀ c' ≠ c, ((w.addObserver c s).subscribe c s).1.clients.get? c' = w.clients.get? c') ∧
    ((w.addObserver c s).subscribe c s).1.events =
      (if cl.mSubscribeEvent.isSome then w.events
        else w.events.alloc ⟨cl.mTo, some c, false⟩) ∧
    ((w.addObserver c s).subscribe c s).2 =
      if cl.mSubscribeEvent.isSome then [(s, .onNotifyReceived cl.mParticipantDevices)]
        else [] := by
  have hobs := get?_addObserver hcl s
  have hother : ∀ c' ≠ c, (w.addObserver c s).clients.get? c' = w.clients.get? c' :=
    fun c' hne => Heap.get?_modify_ne _ _ (Ne.symm hne)
  cases hev : cl.mSubscribeEvent with
  | some e =>
      rw [subscribe_replay hobs hev]
      refine ⟨hobs.trans ?_, hother, rfl, rfl⟩
      rw [joined, hev, Option.getD_some, ← hev]
  | none =>
      rw [subscribe_open hobs hev]
      refine ⟨?_, fun c' hne => ?_, rfl, rfl⟩
      · show ((w.addObserver c s).clients.modify c _).get? c = _
        rw [Heap.get?_modify_self, hobs, joined, hev]
        rfl
      · show ((w.addObserver c s).clients.modify c _).get? c' = _
        rw [Heap.get?_modify_ne _ _ (Ne.symm hne), hother c' hne]

/-- The client that an address resolves to, in the world in which the
    subscription starts. -/
theorem acquire_client {S : Sdk A R} {sys : System A R} {owning : List SubscriptionId}
    (h : Owned S sys owning) (address : A) :
    ∃ cl, (sys.acquireClient S address).1.world.clients.get? (sys.acquireClient S address).2 =
        some cl ∧
      (∀ c' ≠ (sys.acquireClient S address).2,
        (sys.acquireClient S address).1.world.clients.get? c' = sys.world.clients.get? c') ∧
      (sys.acquireClient S address).1.world.events = sys.world.events ∧
      ((sys.world.clients.get? (sys.acquireClient S address).2 = some cl ∧
          S.asStringUriOnlyOrdered cl.mTo = S.asStringUriOnlyOrdered address) ∨
        ((sys.acquireClient S address).2 = sys.world.clients.next ∧
          cl = ⟨address, none, [], []⟩ ∧
          ∀ c' cl', sys.world.clients.get? c' = some cl' →
            S.asStringUriOnlyOrdered cl'.mTo ≠ S.asStringUriOnlyOrdered address)) := by
  rcases acquire_cases h address with ⟨c, address', obs, hf, hord, hacq⟩ | ⟨hnone, hacq⟩
  · obtain ⟨cl, hcl, rfl, -⟩ := face_eq_some_iff.mp hf
    rw [hacq]
    exact ⟨cl, hcl, fun _ _ => rfl, rfl, Or.inl ⟨hcl, hord⟩⟩
  · rw [hacq]
    refine ⟨⟨address, none, [], []⟩, Heap.get?_alloc_self _ _, fun c' hne => ?_, rfl,
      Or.inr ⟨rfl, rfl, fun c' cl' hcl' => ?_⟩⟩
    · exact (Heap.get?_alloc _ _ c').trans (if_neg hne)
    · exact hnone c' cl'.mTo cl'.observers (face_eq_some_iff.mpr ⟨cl', hcl', rfl, rfl⟩)

section Joining

variable [DecidableEq R]

/-- What a subscribe that adds an external subscription has done to the
    clients: `c` is the one that the address resolves to, and `cl` what it was
    before, or a new one. -/
structure Joined (S : Sdk A R) (server : ConferenceServer) (sys : System A R) (chatRoom : R)
    (address : A) (c : ClientId) (cl : Client A) : Prop where
  origin : (sys.world.clients.get? c = some cl ∧
      S.asStringUriOnlyOrdered cl.mTo = S.asStringUriOnlyOrdered address) ∨
    (c = sys.world.clients.next ∧ cl = ⟨address, none, [], []⟩ ∧
      ∀ c' cl', sys.world.clients.get? c' = some cl' →
        S.asStringUriOnlyOrdered cl'.mTo ≠ S.asStringUriOnlyOrdered address)
  pointer : (sys.acquireClient S address).2 = c
  acquired : (sys.acquireClient S address).1.world.clients.get? c = some cl
  opening : (sys.acquireClient S address).1.world.events = sys.world.events
  client : (sys.subscribe S server chatRoom address).world.clients.get? c =
    some (joined sys.world sys.subs.next cl)
  others : ∀ c' ≠ c, (sys.subscribe S server chatRoom address).world.clients.get? c' =
    sys.world.clients.get? c'
  events : (sys.subscribe S server chatRoom address).world.events =
    if cl.mSubscribeEvent.isSome then sys.world.events
      else sys.world.events.alloc ⟨cl.mTo, some c, false⟩
  log : (sys.subscribe S server chatRoom address).log = sys.log ++ .started sys.subs.next ::
    if cl.mSubscribeEvent.isSome then
      [.called sys.subs.next chatRoom (.setParticipantDevices address
        ((ExternalRegistrationSubscription.make server.capabilityCheckEnabled chatRoom address
          c).compatibleDevices S cl.mParticipantDevices))]
    else []

/-- **A subscribe of an external participant joins one client.** -/
theorem subscribe_joins {S : Sdk A R} (server : ConferenceServer) {sys : System A R}
    (h : Sound S sys) {chatRoom : R} {address : A}
    (hfind : sys.findSubscription S chatRoom address = false)
    (hlocal : S.getDomain address ∉ server.localDomains) :
    ∃ c cl, Joined S server sys chatRoom address c cl := by
  obtain ⟨cl, hcl, hother, hevents, horigin⟩ := acquire_client h.inv.owned address
  obtain ⟨hclient, hothers, hworld, hout⟩ := join_world hcl sys.subs.next
  have hw := world_subscribe_external server h.inv.owned hfind hlocal
  refine ⟨(sys.acquireClient S address).2, cl, horigin, rfl, hcl, hevents, ?_,
    fun c' hne => ?_, ?_, ?_⟩
  · rw [hw, hclient, joined, joined, hevents]
  · rw [hw, hothers c' hne, hother c' hne]
  · rw [hw, hworld, hevents]
  · -- the replay reaches the chat room through the new subscription
    obtain ⟨hsubs, -, hlog⟩ := createExternal_frame h.inv.owned server chatRoom address
    rw [subscribe_remote S hfind hlocal, System.startSubscription,
      start_external S (get?_added_external h.inv.owned server chatRoom address)]
    show (sys.createExternal S server chatRoom address).log ++ [.started sys.subs.next] ++
      List.flatMap (System.callsOf S (sys.createExternal S server chatRoom address).subs)
        (((sys.acquireClient S address).1.world.addObserver (sys.acquireClient S address).2
          sys.subs.next).subscribe (sys.acquireClient S address).2 sys.subs.next).2 = _
    rw [hlog, hout, List.append_assoc, List.singleton_append]
    refine congrArg (fun calls => sys.log ++ Handlers.Entry.started sys.subs.next :: calls) ?_
    by_cases hopen : cl.mSubscribeEvent.isSome
    · rw [if_pos hopen, if_pos hopen, List.flatMap_singleton, System.callsOf, hsubs]
      simp only [Heap.get?_alloc_self]
      rfl
    · rw [if_neg hopen, if_neg hopen]
      rfl

/-- An own subscription makes no call when it starts. -/
theorem log_subscribe_own (S : Sdk A R) (server : ConferenceServer) {sys : System A R}
    {chatRoom : R} {address : A} (hfind : sys.findSubscription S chatRoom address = false)
    (hlocal : S.getDomain address ∈ server.localDomains) :
    (sys.subscribe S server chatRoom address).log = sys.log ++ [.started sys.subs.next] := by
  have hget : ((sys.createOwn S server chatRoom address).addSubscription S address
      sys.subs.next).subs.get? sys.subs.next = some (.own
        (OwnRegistrationSubscription.make S server.capabilityCheckEnabled chatRoom address)) :=
    Heap.get?_alloc_self _ _
  rw [subscribe_local S hfind hlocal, System.startSubscription, start_own S hget]
  rfl

end Joining

/-! ## Leaving a client -/

theorem world_dropEntry_own (S : Sdk A R) {sys : System A R} {entry : String × SubscriptionId}
    {sub : OwnRegistrationSubscription A R} (hsub : sys.subs.get? entry.2 = some (.own sub)) :
    (dropEntry S sys entry).world = sys.world := by
  have hstop := stop_writeOwn S hsub
  obtain ⟨hsubs, -, -, hworld⟩ := writeOwn_frame { sys with log := sys.log ++ [.stopped entry.2] }
    entry.2 (sub.stop S)
  have hown : (sys.stop S entry.2).subs.get? entry.2 = some (.own (sub.stop S).1) := by
    rw [hstop, hsubs]
    show (sys.subs.modify entry.2 _).get? entry.2 = _
    rw [Heap.get?_modify_self, hsub]
    rfl
  rw [dropEntry, System.releaseSubscription]
  simp only [hown]
  rw [hstop, hworld]

/-- An external subscription that is dropped leaves its client, which dies with its
    last owner. -/
theorem world_dropEntry_external (S : Sdk A R) {sys : System A R}
    {entry : String × SubscriptionId} {sub : ExternalRegistrationSubscription A R}
    (hsub : sys.subs.get? entry.2 = some (.external sub)) :
    (dropEntry S sys entry).world =
      if sys.useCount sub.mClient - 1 = 0 then
        (sys.world.removeObserver sub.mClient entry.2).destroy sub.mClient
      else sys.world.removeObserver sub.mClient entry.2 := by
  rw [dropEntry, stop_external S hsub, System.releaseSubscription]
  simp only [hsub]
  rfl

/-- **An unsubscribe takes one observer off**: a client that is alive afterwards
    is as it was, but for the observer that has left. -/
theorem client_dropEntry {S : Sdk A R} {sys : System A R} (h : Sound S sys)
    {entry : String × SubscriptionId} (hin : entry ∈ sys.mSubscriptions) {c : ClientId}
    {cl' : Client A} (hcl' : (dropEntry S sys entry).world.clients.get? c = some cl') :
    ∃ cl, sys.world.clients.get? c = some cl ∧
      cl' = if clientOf sys entry.2 = some c
        then { cl with observers := cl.observers.erase entry.2 } else cl := by
  have hs : entry.2 ∈ stored sys := mem_stored.mpr ⟨entry, hin, rfl⟩
  obtain ⟨sub, hsub⟩ := Option.isSome_iff_exists.mp
    (Option.isSome_map.symm.trans (h.inv.owned.made entry.2 hs))
  cases sub with
  | own sub =>
      rw [world_dropEntry_own S hsub] at hcl'
      rw [clientOf_own hsub]
      exact ⟨cl', hcl', rfl⟩
  | external sub =>
      have hpointer := clientOf_external hsub
      obtain ⟨cl₀, hcl₀⟩ := h.inv.owned.client_alive hs hpointer
      have hremoved : (sys.world.removeObserver sub.mClient entry.2).clients.get? sub.mClient =
          some { cl₀ with observers := cl₀.observers.erase entry.2 } := by
        simp [World.removeObserver, World.updateClient, hcl₀]
      -- the client is not the one that dies
      have hkept : (sys.world.removeObserver sub.mClient entry.2).clients.get? c = some cl' := by
        rw [world_dropEntry_external S hsub] at hcl'
        split at hcl'
        · rw [clients_destroy hremoved, Heap.get?_free] at hcl'
          split at hcl'
          · cases hcl'
          · exact hcl'
        · exact hcl'
      rw [hpointer]
      by_cases hc : sub.mClient = c
      · subst hc
        rw [hremoved] at hkept
        exact ⟨cl₀, hcl₀, by rw [if_pos rfl]; exact (Option.some.inj hkept).symm⟩
      · refine ⟨cl', ?_, by rw [if_neg (fun heq => hc (Option.some.inj heq))]⟩
        rw [← hkept]
        exact (Heap.get?_modify_ne _ _ hc).symm

/-! ## Every operation -/

theorem world_tellOwn (sys : System A R) (s : SubscriptionId)
    (calls : OwnRegistrationSubscription A R → List (ChatRoomCall A)) :
    (sys.tellOwn s calls).world = sys.world := by
  rw [System.tellOwn]
  split <;> rfl

section Steps

variable [DecidableEq R]

theorem world_onRecordFound (S : Sdk A R) (server : ConferenceServer) (sys : System A R)
    (s : SubscriptionId) (r : Option Record) :
    (step S server sys (.onRecordFound s r)).world = sys.world :=
  world_tellOwn sys s _

theorem world_onContactRegistered (S : Sdk A R) (server : ConferenceServer) (sys : System A R)
    (s : SubscriptionId) (r : Record) (uid : String) :
    (step S server sys (.onContactRegistered s r uid)).world = sys.world :=
  world_tellOwn sys s _

/-- All that an operation can do to a client that is alive afterwards. -/
inductive Becomes (S : Sdk A R) (server : ConferenceServer) (sys : System A R) (op : Op A R)
    (c : ClientId) (cl' : Client A) : Prop where
  | same (hcl : sys.world.clients.get? c = some cl')
  | joined (chatRoom : R) (address : A) (cl : Client A) (hop : op = .subscribe chatRoom address)
      (hfind : sys.findSubscription S chatRoom address = false)
      (hlocal : S.getDomain address ∉ server.localDomains)
      (hjoined : Joined S server sys chatRoom address c cl)
      (heq : cl' = ClientSteps.joined sys.world sys.subs.next cl)
  | left (entry : String × SubscriptionId) (cl : Client A) (hin : entry ∈ sys.mSubscriptions)
      (hpointer : clientOf sys entry.2 = some c) (hcl : sys.world.clients.get? c = some cl)
      (hgone : step S server sys op = dropEntry S sys entry)
      (heq : cl' = { cl with observers := cl.observers.erase entry.2 })
  | ended (e : EventId) (state : SubscriptionState) (cl : Client A)
      (hop : op = .onSubscriptionStateChanged e state)
      (hcl : sys.world.clients.get? c = some cl) (hev : cl.mSubscribeEvent = some e)
      (heq : cl' = { cl with mSubscribeEvent := none, mParticipantDevices := [] })
  | notified (e : EventId) (ri : Reginfo) (cl : Client A)
      (hop : op = .onNotifyReceived e (.reginfo ri))
      (hcl : sys.world.clients.get? c = some cl) (hev : cl.mSubscribeEvent = some e)
      (heq : cl' = { cl with mParticipantDevices :=
        (Reginfos.Client.onNotifyReceived S (S.asStringUriOnly cl.mTo)
          cl.mParticipantDevices ri).1 })

/-- **Step lemma**: what becomes of the clients. -/
theorem client_step {S : Sdk A R} (server : ConferenceServer) {sys : System A R}
    (h : Sound S sys) (op : Op A R) {c : ClientId} {cl' : Client A}
    (hcl' : (step S server sys op).world.clients.get? c = some cl') :
    Becomes S server sys op c cl' := by
  cases op with
  | subscribe chatRoom address =>
      change (sys.subscribe S server chatRoom address).world.clients.get? c = some cl' at hcl'
      cases hfind : sys.findSubscription S chatRoom address with
      | true =>
          rw [subscribe_found S server hfind] at hcl'
          exact .same hcl'
      | false =>
          by_cases hlocal : S.getDomain address ∈ server.localDomains
          · rw [world_subscribe_own S server hfind hlocal] at hcl'
            exact .same hcl'
          · obtain ⟨c₀, cl, hjoined⟩ := subscribe_joins server h hfind hlocal
            by_cases hc : c = c₀
            · subst hc
              rw [hjoined.client] at hcl'
              exact .joined chatRoom address cl rfl hfind hlocal hjoined
                (Option.some.inj hcl').symm
            · rw [hjoined.others c hc] at hcl'
              exact .same hcl'
  | unsubscribe chatRoom address =>
      change (sys.unsubscribe S chatRoom address).world.clients.get? c = some cl' at hcl'
      rcases unsubscribe_cases h chatRoom address with ⟨-, hsame⟩ | ⟨entry, hin, -, -, hdrop⟩
      · rw [hsame] at hcl'
        exact .same hcl'
      · rw [hdrop] at hcl'
        obtain ⟨cl, hcl, heq⟩ := client_dropEntry h hin hcl'
        by_cases hpointer : clientOf sys entry.2 = some c
        · rw [if_pos hpointer] at heq
          exact .left entry cl hin hpointer hcl hdrop heq
        · rw [if_neg hpointer] at heq
          exact .same (heq ▸ hcl)
  | unsubscribeAll =>
      change (sys.unsubscribeAll S).world.clients.get? c = some cl' at hcl'
      rw [(unsubscribeAll_releases h).1 c] at hcl'
      cases hcl'
  | onNotifyReceived e body =>
      change (sys.world.onNotifyReceived S e body).1.clients.get? c = some cl' at hcl'
      rcases notify_cases h.inv.rest e body with hsame | ⟨c₀, cl, ri, hcl, hev, rfl, hw⟩
      · rw [hsame] at hcl'
        exact .same hcl'
      · rw [hw] at hcl'
        change (sys.world.clients.modify c₀ _).get? c = some cl' at hcl'
        by_cases hc : c₀ = c
        · subst hc
          rw [Heap.get?_modify_self, hcl] at hcl'
          exact .notified e ri cl rfl hcl hev (Option.some.inj hcl').symm
        · rw [Heap.get?_modify_ne _ _ hc] at hcl'
          exact .same hcl'
  | onSubscriptionStateChanged e state =>
      change (sys.world.onSubscriptionStateChanged e state).clients.get? c = some cl' at hcl'
      rcases stateChanged_cases h.inv.rest e state with hsame | ⟨c₀, ⟨cl, hcl, hev⟩, -, hw⟩
      · rw [hsame] at hcl'
        exact .same hcl'
      · rw [hw] at hcl'
        change (sys.world.clients.modify c₀ _).get? c = some cl' at hcl'
        by_cases hc : c₀ = c
        · subst hc
          rw [Heap.get?_modify_self, hcl] at hcl'
          exact .ended e state cl rfl hcl hev (Option.some.inj hcl').symm
        · rw [Heap.get?_modify_ne _ _ hc] at hcl'
          exact .same hcl'
  | onRecordFound s r =>
      rw [world_onRecordFound] at hcl'
      exact .same hcl'
  | onContactRegistered s r uid =>
      rw [world_onContactRegistered] at hcl'
      exact .same hcl'

/-- The end of its event leaves a client without event and list. -/
theorem client_ended {S : Sdk A R} (server : ConferenceServer) {sys : System A R}
    (h : Sound S sys) {c : ClientId} {cl : Client A} {e : EventId}
    (hcl : sys.world.clients.get? c = some cl) (hev : cl.mSubscribeEvent = some e)
    {state : SubscriptionState} (hstate : state = .terminated ∨ state = .error) :
    (step S server sys (.onSubscriptionStateChanged e state)).world.clients.get? c =
      some { cl with mSubscribeEvent := none, mParticipantDevices := [] } := by
  have hd : sys.world.dispatch e = some c := h.inv.rest.dispatch_iff.mpr ⟨cl, hcl, hev⟩
  show (sys.world.onSubscriptionStateChanged e state).clients.get? c = _
  rw [World.onSubscriptionStateChanged, World.beginStateChanged, hd]
  rcases hstate with rfl | rfl <;>
    simp [hcl, World.beginClientStateChanged, hev, World.finish?, World.finish,
      World.updateClient, World.terminate]

/-- A NOTIFY with a document leaves the client of its event with a new list. -/
theorem client_notified {S : Sdk A R} (server : ConferenceServer) {sys : System A R}
    (h : Sound S sys) {c : ClientId} {cl : Client A} {e : EventId}
    (hcl : sys.world.clients.get? c = some cl) (hev : cl.mSubscribeEvent = some e)
    (ri : Reginfo) :
    (step S server sys (.onNotifyReceived e (.reginfo ri))).world.clients.get? c =
      some { cl with mParticipantDevices :=
        (Reginfos.Client.onNotifyReceived S (S.asStringUriOnly cl.mTo)
          cl.mParticipantDevices ri).1 } := by
  show (sys.world.onNotifyReceived S e (.reginfo ri)).1.clients.get? c = _
  rw [notify_current h.inv.rest hcl hev]
  show (sys.world.clients.modify c _).get? c = _
  rw [Heap.get?_modify_self, hcl]
  rfl

/-- A client that is not new keeps its address. -/
theorem mTo_step {S : Sdk A R} (server : ConferenceServer) {sys : System A R} (h : Sound S sys)
    (op : Op A R) {c : ClientId} {cl' : Client A} (hc : c < sys.world.clients.next)
    (hcl' : (step S server sys op).world.clients.get? c = some cl') :
    ∃ cl, sys.world.clients.get? c = some cl ∧ cl.mTo = cl'.mTo := by
  cases client_step server h op hcl' with
  | same hcl => exact ⟨cl', hcl, rfl⟩
  | joined chatRoom address cl hop hfind hlocal hjoined heq =>
      obtain rfl := heq
      rcases hjoined.origin with ⟨hcl, -⟩ | ⟨rfl, -⟩
      · exact ⟨cl, hcl, rfl⟩
      · exact absurd hc (Nat.lt_irrefl _)
  | left entry cl hin hpointer hcl hgone heq => exact ⟨cl, hcl, by rw [heq]⟩
  | ended e state cl hop hcl hev heq => exact ⟨cl, hcl, by rw [heq]⟩
  | notified e ri cl hop hcl hev heq => exact ⟨cl, hcl, by rw [heq]⟩

/-- No identity of an object is given out twice. -/
theorem next_step {S : Sdk A R} (server : ConferenceServer) {sys : System A R} (h : Sound S sys)
    (op : Op A R) :
    sys.world.clients.next ≤ (step S server sys op).world.clients.next ∧
      sys.world.events.next ≤ (step S server sys op).world.events.next := by
  have hcall : ∀ call : Call A R,
      sys.world.clients.next ≤ (step S server sys call.op).world.clients.next ∧
        sys.world.events.next ≤ (step S server sys call.op).world.events.next := fun call =>
    ⟨(follows_call S server h call).1.clients, (follows_call S server h call).1.events⟩
  cases op with
  | subscribe chatRoom address => exact hcall (.subscribe chatRoom address)
  | unsubscribe chatRoom address => exact hcall (.unsubscribe chatRoom address)
  | unsubscribeAll => exact hcall .unsubscribeAll
  | onNotifyReceived e body =>
      have hevents : (sys.world.onNotifyReceived S e body).1.events = sys.world.events := by
        rcases notify_cases h.inv.rest e body with hsame | ⟨c, cl, ri, -, -, -, hw⟩
        · rw [hsame]
        · rw [hw]
          rfl
      exact ⟨(next_onNotifyReceived h.inv.rest e body).ge, by rw [← hevents]; exact Nat.le_refl _⟩
  | onSubscriptionStateChanged e state =>
      refine ⟨(next_onSubscriptionStateChanged h.inv.rest e state).ge, ?_⟩
      show sys.world.events.next ≤ (sys.world.onSubscriptionStateChanged e state).events.next
      rcases stateChanged_cases h.inv.rest e state with hsame | ⟨c, -, -, hw⟩
      · rw [hsame]
      · rw [hw]
        exact (Heap.next_modify _ _ _).ge
  | onRecordFound s r =>
      rw [world_onRecordFound]
      exact ⟨Nat.le_refl _, Nat.le_refl _⟩
  | onContactRegistered s r uid =>
      rw [world_onContactRegistered]
      exact ⟨Nat.le_refl _, Nat.le_refl _⟩

/-- **Events age**: one that was made before is current for nobody but the client
    that it was current for. -/
theorem isCurrent_step {S : Sdk A R} (server : ConferenceServer) {sys : System A R}
    (h : Sound S sys) (op : Op A R) {c : ClientId} {e : EventId}
    (hcur : IsCurrent (step S server sys op).world c e) (he : e < sys.world.events.next) :
    IsCurrent sys.world c e := by
  obtain ⟨cl', hcl', hev'⟩ := hcur
  cases client_step server h op hcl' with
  | same hcl => exact ⟨cl', hcl, hev'⟩
  | joined chatRoom address cl hop hfind hlocal hjoined heq =>
      rw [heq] at hev'
      have hopened : cl.mSubscribeEvent.getD sys.world.events.next = e := Option.some.inj hev'
      cases hev : cl.mSubscribeEvent with
      | none =>
          rw [hev, Option.getD_none] at hopened
          exact absurd hopened (Nat.ne_of_gt he)
      | some e₀ =>
          rw [hev, Option.getD_some] at hopened
          rcases hjoined.origin with ⟨hcl, -⟩ | ⟨-, hfresh, -⟩
          · exact ⟨cl, hcl, by rw [hev, hopened]⟩
          · rw [hfresh] at hev
            cases hev
  | left entry cl hin hpointer hcl hgone heq => exact ⟨cl, hcl, by rw [← hev', heq]⟩
  | ended e₀ state cl hop hcl hev heq =>
      rw [heq] at hev'
      cases hev'
  | notified e₀ ri cl hop hcl hev heq => exact ⟨cl, hcl, by rw [← hev', heq]⟩

/-- However a run goes on, an event that is known gets no other client. -/
theorem isCurrent_run {S : Sdk A R} (server : ConferenceServer) {sys : System A R}
    (h : Sound S sys) (ops : List (Op A R)) {e : EventId} (he : e < sys.world.events.next) :
    Sound S ((machine S server).run sys ops) ∧
      e < ((machine S server).run sys ops).world.events.next ∧
      ∀ c, IsCurrent ((machine S server).run sys ops).world c e → IsCurrent sys.world c e :=
  Machine.invariant_run (M := machine S server)
    (I := fun sys' => Sound S sys' ∧ e < sys'.world.events.next ∧
      ∀ c, IsCurrent sys'.world c e → IsCurrent sys.world c e)
    (fun sys' op h' => ⟨sound_step S server sys' op h'.1,
      Nat.lt_of_lt_of_le h'.2.1 (next_step server h'.1 op).2,
      fun c hcur => h'.2.2 c (isCurrent_step server h'.1 op hcur h'.2.1)⟩)
    ops sys ⟨h, he, fun _ hcur => hcur⟩

end Steps

end ClientSteps
