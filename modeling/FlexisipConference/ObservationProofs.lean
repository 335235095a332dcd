import FlexisipConference.CallProofs

/-! # What the operations do to one participant

    Of the state of the handler a participant has its subscriptions in the
    store, the clients that serve them and the events of these.  This file says
    what each operation does to them, without the objects of others: which
    participant a subscription and an event are for never changes; the client
    that serves a subscription changes as `effect` says; and the calls on behalf
    of a participant are those that its subscriptions make. -/

namespace Observations

open Sdks Reginfos Heaps Machines Clients Dispatch QuietRun Events Subscriptions Handlers
open Invariants HandlerSteps Stores Fanout Silence Lifetime Notifies ClientSteps Calls

variable {A R : Type}

/-- A participant: its user name and its domain. -/
abbrev Participant := String × String

/-- The participant that a subscription is for. -/
def participantOf (S : Sdk A R) (sys : System A R) (s : SubscriptionId) : Option Participant :=
  (subject sys s).map (fun sub => S.participant sub.base.mParticipant)

/-- The participant that an event was made for. -/
def eventOf (S : Sdk A R) (w : World A) (e : EventId) : Option Participant :=
  (w.events.get? e).map (fun ev => S.participant ev.toAddress)

/-- A client without its observers. -/
def seen (cl : Client A) : Client A := { cl with observers := [] }

/-- What a subscription sees of the client that serves it. -/
def clientSeenBy (sys : System A R) (s : SubscriptionId) : Option (Client A) :=
  ((clientOf sys s).bind sys.world.clients.get?).map seen

theorem clientSeenBy_of_get? {sys : System A R} {s : SubscriptionId} {c : ClientId}
    {cl : Client A} (hpointer : clientOf sys s = some c)
    (hcl : sys.world.clients.get? c = some cl) : clientSeenBy sys s = some (seen cl) := by
  rw [clientSeenBy, hpointer, Option.bind_some, hcl, Option.map_some]

/-- What a subscription sees of its client is the client without its observers. -/
theorem clientSeenBy_eq_some_iff {sys : System A R} {s : SubscriptionId} {v : Client A} :
    clientSeenBy sys s = some v ↔ ∃ c cl, clientOf sys s = some c ∧
      sys.world.clients.get? c = some cl ∧ seen cl = v := by
  constructor
  · intro h
    obtain ⟨cl, hcl, hv⟩ := Option.map_eq_some_iff.mp h
    obtain ⟨c, hpointer, hget⟩ := Option.bind_eq_some_iff.mp hcl
    exact ⟨c, cl, hpointer, hget, hv⟩
  · rintro ⟨c, cl, hpointer, hcl, rfl⟩
    exact clientSeenBy_of_get? hpointer hcl

/-! ## Whose the objects are -/

/-- A client serves subscriptions of its participant only. -/
theorem participantOf_served {S : Sdk A R} {sys : System A R} (h : Sound S sys)
    {s : SubscriptionId} (hs : s ∈ stored sys) {c : ClientId} (hpointer : clientOf sys s = some c)
    {cl : Client A} (hcl : sys.world.clients.get? c = some cl) :
    participantOf S sys s = some (S.participant cl.mTo) := by
  obtain ⟨sub, hsub, rfl⟩ := clientOf_eq_some_iff.mp hpointer
  have hord := h.inv.owned.served s hs sub hsub _ _ (face_eq_some_iff.mpr ⟨cl, hcl, rfl, rfl⟩)
  rw [participantOf, subject_external_iff.mpr hsub, Option.map_some,
    S.participant_of_ordered hord]
  rfl

/-- The current event of a client is for its participant. -/
theorem eventOf_current {S : Sdk A R} {w : World A} (h : AtRest S w) {c : ClientId}
    {cl : Client A} {e : EventId} (hcl : w.clients.get? c = some cl)
    (hev : cl.mSubscribeEvent = some e) : eventOf S w e = some (S.participant cl.mTo) := by
  have hcur : IsCurrent w c e := ⟨cl, hcl, hev⟩
  obtain ⟨ev, hget, -⟩ := h.carries_iff.mpr hcur
  rw [eventOf, hget, Option.map_some, toAddress_of_isCurrent h hcl hcur hget]

/-- What two subscriptions in the store see of clients with the same ordered URI
    is the same. -/
theorem clientSeenBy_inj {S : Sdk A R} {sys : System A R} (h : Sound S sys)
    {s s' : SubscriptionId} {v v' : Client A} (hv : clientSeenBy sys s = some v)
    (hv' : clientSeenBy sys s' = some v')
    (hord : S.asStringUriOnlyOrdered v.mTo = S.asStringUriOnlyOrdered v'.mTo) : v = v' := by
  obtain ⟨c, cl, -, hcl, rfl⟩ := clientSeenBy_eq_some_iff.mp hv
  obtain ⟨c', cl', -, hcl', rfl⟩ := clientSeenBy_eq_some_iff.mp hv'
  obtain rfl : c = c' := h.inv.owned.ordered_inj (face_eq_some_iff.mpr ⟨cl, hcl, rfl, rfl⟩)
    (face_eq_some_iff.mpr ⟨cl', hcl', rfl, rfl⟩) hord
  rw [Option.some.inj (hcl.symm.trans hcl')]

/-! ## Events keep their addresses -/

/-- No event is made, and none gets another address. -/
def SameEvents (w w' : World A) : Prop :=
  w'.events.next = w.events.next ∧
    ∀ e, (w'.events.get? e).map (·.toAddress) = (w.events.get? e).map (·.toAddress)

theorem SameEvents.refl (w : World A) : SameEvents w w := ⟨rfl, fun _ => rfl⟩

theorem SameEvents.trans {w w' w'' : World A} (h : SameEvents w w') (h' : SameEvents w' w'') :
    SameEvents w w'' :=
  ⟨h'.1.trans h.1, fun e => (h'.2 e).trans (h.2 e)⟩

theorem sameEvents_of_events {w w' : World A} (h : w'.events = w.events) : SameEvents w w' := by
  refine ⟨by rw [h], fun e => by rw [h]⟩

/-- Ending an event does not change whose it was. -/
theorem sameEvents_terminate (w : World A) (e : EventId) : SameEvents w (w.terminate e) := by
  refine ⟨Heap.next_modify _ _ _, fun e' => ?_⟩
  show ((w.events.modify e _).get? e').map _ = _
  rw [Heap.get?_modify]
  split
  · cases w.events.get? e' <;> rfl
  · rfl

theorem SameEvents.eventOf (S : Sdk A R) {w w' : World A} (h : SameEvents w w') (e : EventId) :
    eventOf S w' e = eventOf S w e := by
  have haddress := congrArg (Option.map S.participant) (h.2 e)
  simpa [Observations.eventOf, Function.comp_def] using haddress

/-- Destroying a client makes no event. -/
theorem sameEvents_destroy {w : World A} {c : ClientId} {cl : Client A}
    (hcl : w.clients.get? c = some cl) : SameEvents w (w.destroy c) := by
  cases hev : cl.mSubscribeEvent with
  | none =>
      rw [destroy_of_none hcl hev]
      exact sameEvents_of_events rfl
  | some e =>
      rw [destroy_of_some hcl hev]
      exact (sameEvents_of_events rfl).trans (sameEvents_terminate _ e)

/-- Taking observers off and destroying clients makes no event. -/
theorem teardown_sameEvents : Teardown (A := A) SameEvents where
  refl := SameEvents.refl
  trans := SameEvents.trans
  removeObserver := fun _ _ _ => sameEvents_of_events rfl
  destroy := sameEvents_destroy

/-! ## The calls on a chat room -/

section Rooms

variable [DecidableEq R]

/-- The calls on a chat room that some of the subscriptions make. -/
def callsOn (q : SubscriptionId → Prop) [DecidablePred q] (chatRoom : R)
    (log : List (Handlers.Entry A R)) : List (ChatRoomCall A) :=
  log.filterMap fun
    | .called s r call => if r = chatRoom ∧ q s then some call else none
    | _ => none

/-- The calls on a chat room on behalf of a participant. -/
def callsFor (S : Sdk A R) (p : Participant) (chatRoom : R) (sys : System A R) :
    List (ChatRoomCall A) :=
  callsOn (fun s => participantOf S sys s = some p) chatRoom sys.log

theorem callsOn_append (q : SubscriptionId → Prop) [DecidablePred q] (chatRoom : R)
    (log new : List (Handlers.Entry A R)) :
    callsOn q chatRoom (log ++ new) = callsOn q chatRoom log ++ callsOn q chatRoom new :=
  List.filterMap_append

/-- Only the subscriptions that make calls matter. -/
theorem callsOn_congr {q q' : SubscriptionId → Prop} [DecidablePred q] [DecidablePred q']
    {chatRoom : R} {log : List (Handlers.Entry A R)}
    (h : ∀ s call, Handlers.Entry.called s chatRoom call ∈ log → (q s ↔ q' s)) :
    callsOn q chatRoom log = callsOn q' chatRoom log := by
  refine List.filterMap_congr (fun entry hin => ?_)
  cases entry with
  | called s r call =>
      by_cases hr : r = chatRoom
      · subst hr
        simp only [h s call hin]
      · simp only [hr, false_and, if_false]
  | started s => rfl
  | stopped s => rfl

/-- Nobody who counts has called. -/
theorem callsOn_eq_nil {q : SubscriptionId → Prop} [DecidablePred q] {chatRoom : R}
    {log : List (Handlers.Entry A R)}
    (h : ∀ s call, Handlers.Entry.called s chatRoom call ∈ log → ¬ q s) :
    callsOn q chatRoom log = [] := by
  refine List.filterMap_eq_nil_iff.mpr (fun entry hin => ?_)
  cases entry with
  | called s r call =>
      refine if_neg ?_
      rintro ⟨rfl, hq⟩
      exact h s call hin hq
  | started s => rfl
  | stopped s => rfl

/-- When one of them makes all the calls, they are its calls. -/
theorem callsOn_eq_callsMadeBy {q : SubscriptionId → Prop} [DecidablePred q] {chatRoom : R}
    {log : List (Handlers.Entry A R)} {s : SubscriptionId}
    (hone : ∀ s' r call, Handlers.Entry.called s' r call ∈ log → (r = chatRoom ∧ q s' ↔ s' = s)) :
    callsOn q chatRoom log = callsMadeBy s log := by
  refine List.filterMap_congr (fun entry hin => ?_)
  cases entry with
  | called s' r call => simp only [hone s' r call hin]
  | started s' => rfl
  | stopped s' => rfl

/-- The calls of one subscription, all on one chat room. -/
theorem callsOn_map (q : SubscriptionId → Prop) [DecidablePred q] (chatRoom : R)
    (s : SubscriptionId) (r : R) (calls : List (ChatRoomCall A)) :
    callsOn q chatRoom (calls.map (Handlers.Entry.called s r)) =
      if r = chatRoom ∧ q s then calls else [] := by
  rw [callsOn, List.filterMap_map]
  by_cases h : r = chatRoom ∧ q s
  · rw [if_pos h]
    refine (List.filterMap_congr (fun call _ => ?_)).trans List.filterMap_some
    exact if_pos h
  · rw [if_neg h]
    exact List.filterMap_eq_nil_iff.mpr (fun call _ => if_neg h)

/-- The calls of a NOTIFY on a chat room are those of the one subscription for it
    that the client serves. -/
theorem callsOn_notify {S : Sdk A R} {sys : System A R} (h : Sound S sys) {c : ClientId}
    {cl : Client A} {e : EventId} (hcl : sys.world.clients.get? c = some cl)
    (hev : cl.mSubscribeEvent = some e) (ri : Reginfo) (q : SubscriptionId → Prop)
    [DecidablePred q] {s : SubscriptionId} (hs : s ∈ stored sys)
    {sub : ExternalRegistrationSubscription A R} (hsub : sys.subs.get? s = some (.external sub))
    (hclient : sub.mClient = c) (hq : q s) :
    callsOn q sub.mChatRoom ((sys.world.onNotifyReceived S e (.reginfo ri)).2.flatMap
        (System.callsOf S sys.subs)) =
      (Reginfos.Client.onNotifyReceived S (S.asStringUriOnly cl.mTo)
        cl.mParticipantDevices ri).2.flatMap (sub.callback S) := by
  have hpointer : clientOf sys s = some c := by rw [clientOf_external hsub, hclient]
  have hone : ∀ s' r call, Handlers.Entry.called s' r call ∈
      (sys.world.onNotifyReceived S e (.reginfo ri)).2.flatMap (System.callsOf S sys.subs) →
        (r = sub.mChatRoom ∧ q s' ↔ s' = s) := by
    intro s' r call hin
    obtain ⟨hs', hpointer', hroom'⟩ := calls_notify h hcl hev hin
    constructor
    · rintro ⟨rfl, -⟩
      obtain ⟨sub', hsub', hclient'⟩ := clientOf_eq_some_iff.mp hpointer'
      rw [System.getChatRoom, hsub'] at hroom'
      exact served_room_inj h hs hs' hsub hsub' (hclient'.trans hclient.symm)
        (Option.some.inj hroom')
    · rintro rfl
      rw [System.getChatRoom, hsub] at hroom'
      exact ⟨(Option.some.inj hroom').symm, hq⟩
  rw [callsOn_eq_callsMadeBy hone, callsMadeBy_emissions S _ hsub,
    notify_tells h hcl hev ri hs hpointer]

end Rooms

/-! ## What becomes of a client -/

section Steps

variable [DecidableEq R]

/-- What an operation makes of a client that it leaves alive. -/
def effect (S : Sdk A R) (server : ConferenceServer) (sys : System A R) (op : Op A R)
    (cl : Client A) : Client A :=
  match op with
  | .subscribe chatRoom address =>
      if sys.findSubscription S chatRoom address = false ∧
          S.getDomain address ∉ server.localDomains ∧
          S.asStringUriOnlyOrdered cl.mTo = S.asStringUriOnlyOrdered address then
        { cl with mSubscribeEvent := some (cl.mSubscribeEvent.getD sys.world.events.next) }
      else cl
  | .onNotifyReceived e (.reginfo ri) =>
      if cl.mSubscribeEvent = some e then
        { cl with mParticipantDevices :=
          (Reginfos.Client.onNotifyReceived S (S.asStringUriOnly cl.mTo)
            cl.mParticipantDevices ri).1 }
      else cl
  | .onSubscriptionStateChanged e state =>
      if cl.mSubscribeEvent = some e ∧ (state = .terminated ∨ state = .error) then
        { cl with mSubscribeEvent := none, mParticipantDevices := [] }
      else cl
  | _ => cl

/-- The event of a client after an operation is the one before, or a new one. -/
theorem effect_event (S : Sdk A R) (server : ConferenceServer) (sys : System A R) (op : Op A R)
    (cl : Client A) {e : EventId} (hev : (effect S server sys op cl).mSubscribeEvent = some e) :
    cl.mSubscribeEvent = some e ∨ e = sys.world.events.next := by
  unfold effect at hev
  split at hev
  · split at hev
    · cases h : cl.mSubscribeEvent with
      | none =>
          rw [h] at hev
          exact Or.inr (Option.some.inj hev).symm
      | some e' =>
          rw [h] at hev
          exact Or.inl hev
    · exact Or.inl hev
  · split at hev <;> exact Or.inl hev
  · split at hev
    · cases hev
    · exact Or.inl hev
  · exact Or.inl hev

/-- A subscribe changes the client with the ordered URI of the address, if it
    makes an external subscription. -/
theorem effect_subscribe {S : Sdk A R} (server : ConferenceServer) {sys : System A R}
    (h : Sound S sys) (chatRoom : R) (address : A) {c : ClientId} {cl cl' : Client A}
    (hcl : sys.world.clients.get? c = some cl)
    (hcl' : (sys.subscribe S server chatRoom address).world.clients.get? c = some cl') :
    seen cl' = effect S server sys (.subscribe chatRoom address) (seen cl) := by
  rw [effect]
  cases hfind : sys.findSubscription S chatRoom address with
  | true =>
      rw [subscribe_found S server hfind, hcl] at hcl'
      rw [if_neg (fun hall => Bool.noConfusion hall.1), Option.some.inj hcl']
  | false =>
      by_cases hlocal : S.getDomain address ∈ server.localDomains
      · rw [world_subscribe_own S server hfind hlocal, hcl] at hcl'
        rw [if_neg (fun hall => hall.2.1 hlocal), Option.some.inj hcl']
      · obtain ⟨c₀, cl₀, hjoined⟩ := subscribe_joins server h hfind hlocal
        by_cases hc : c = c₀
        · subst hc
          rcases hjoined.origin with ⟨hcl₀, hord⟩ | ⟨hnew, -⟩
          · obtain rfl := Option.some.inj (hcl.symm.trans hcl₀)
            rw [hjoined.client] at hcl'
            rw [← Option.some.inj hcl', if_pos ⟨rfl, hlocal, hord⟩]
            rfl
          · exact absurd (Heap.lt_next_of_get? hcl) (by rw [hnew]; exact Nat.lt_irrefl _)
        · rw [hjoined.others c hc, hcl] at hcl'
          rw [if_neg, Option.some.inj hcl']
          -- another live client has another ordered URI
          rintro ⟨-, -, hord⟩
          rcases hjoined.origin with ⟨hcl₀, hord₀⟩ | ⟨-, -, hnone⟩
          · exact hc (h.inv.owned.ordered_inj (face_eq_some_iff.mpr ⟨cl, hcl, rfl, rfl⟩)
              (face_eq_some_iff.mpr ⟨cl₀, hcl₀, rfl, rfl⟩) (hord.trans hord₀.symm))
          · exact hnone c cl hcl hord

/-- A NOTIFY changes the client of its event, if it has a document. -/
theorem effect_notify {S : Sdk A R} (server : ConferenceServer) {sys : System A R}
    (h : Sound S sys) (e : EventId) (body : NotifyBody) {c : ClientId} {cl cl' : Client A}
    (hcl : sys.world.clients.get? c = some cl)
    (hcl' : (step S server sys (.onNotifyReceived e body)).world.clients.get? c = some cl') :
    seen cl' = effect S server sys (.onNotifyReceived e body) (seen cl) := by
  have hother : (∀ ri, body = .reginfo ri → cl.mSubscribeEvent ≠ some e) → cl' = cl := by
    intro hnot
    change (sys.world.onNotifyReceived S e body).1.clients.get? c = some cl' at hcl'
    rcases notify_cases h.inv.rest e body with hsame | ⟨c₀, cl₀, ri, hcl₀, hev, hbody, hw⟩
    · rw [hsame, hcl] at hcl'
      exact (Option.some.inj hcl').symm
    · have hc : c₀ ≠ c := by
        rintro rfl
        rw [hcl] at hcl₀
        obtain rfl := Option.some.inj hcl₀
        exact hnot ri hbody hev
      rw [hw] at hcl'
      change (sys.world.clients.modify c₀ _).get? c = some cl' at hcl'
      rw [Heap.get?_modify_ne _ _ hc, hcl] at hcl'
      exact (Option.some.inj hcl').symm
  cases body with
  | null => rw [hother (fun ri heq => by cases heq)]; rfl
  | malformed => rw [hother (fun ri heq => by cases heq)]; rfl
  | reginfo ri =>
      rw [effect]
      by_cases hev : cl.mSubscribeEvent = some e
      · rw [client_notified server h hcl hev ri] at hcl'
        rw [if_pos (show (seen cl).mSubscribeEvent = some e from hev), ← Option.some.inj hcl']
        rfl
      · rw [if_neg (show (seen cl).mSubscribeEvent ≠ some e from hev),
          hother (fun _ _ => hev)]

/-- A state change changes the client of its event, if it ends it. -/
theorem effect_stateChanged {S : Sdk A R} (server : ConferenceServer) {sys : System A R}
    (h : Sound S sys) (e : EventId) (state : SubscriptionState) {c : ClientId}
    {cl cl' : Client A} (hcl : sys.world.clients.get? c = some cl)
    (hcl' : (step S server sys (.onSubscriptionStateChanged e state)).world.clients.get? c =
      some cl') :
    seen cl' = effect S server sys (.onSubscriptionStateChanged e state) (seen cl) := by
  rw [effect]
  by_cases hends : cl.mSubscribeEvent = some e ∧ (state = .terminated ∨ state = .error)
  · rw [client_ended server h hcl hends.1 hends.2] at hcl'
    rw [if_pos (show (seen cl).mSubscribeEvent = some e ∧ _ from hends), ← Option.some.inj hcl']
    rfl
  · rw [if_neg (show ¬ ((seen cl).mSubscribeEvent = some e ∧ _) from hends)]
    change (sys.world.onSubscriptionStateChanged e state).clients.get? c = some cl' at hcl'
    rcases stateChanged_cases h.inv.rest e state with hsame | ⟨c₀, ⟨cl₀, hcl₀, hev⟩, hstate, hw⟩
    · rw [hsame, hcl] at hcl'
      rw [Option.some.inj hcl']
    · have hc : c₀ ≠ c := by
        rintro rfl
        rw [hcl] at hcl₀
        obtain rfl := Option.some.inj hcl₀
        exact hends ⟨hev, hstate⟩
      rw [hw] at hcl'
      change (sys.world.clients.modify c₀ _).get? c = some cl' at hcl'
      rw [Heap.get?_modify_ne _ _ hc, hcl] at hcl'
      rw [Option.some.inj hcl']

/-- **Every operation** makes of a client what `effect` says. -/
theorem client_effect {S : Sdk A R} (server : ConferenceServer) {sys : System A R}
    (h : Sound S sys) (op : Op A R) {c : ClientId} {cl cl' : Client A}
    (hcl : sys.world.clients.get? c = some cl)
    (hcl' : (step S server sys op).world.clients.get? c = some cl') :
    seen cl' = effect S server sys op (seen cl) := by
  cases op with
  | subscribe chatRoom address => exact effect_subscribe server h chatRoom address hcl hcl'
  | unsubscribe chatRoom address =>
      change (sys.unsubscribe S chatRoom address).world.clients.get? c = some cl' at hcl'
      rcases unsubscribe_cases h chatRoom address with ⟨-, hsame⟩ | ⟨entry, hin, -, -, hdrop⟩
      · rw [hsame, hcl] at hcl'
        rw [Option.some.inj hcl']
        rfl
      · rw [hdrop] at hcl'
        obtain ⟨cl₀, hcl₀, heq⟩ := client_dropEntry h hin hcl'
        obtain rfl := Option.some.inj (hcl.symm.trans hcl₀)
        rw [heq]
        split <;> rfl
  | unsubscribeAll =>
      change (sys.unsubscribeAll S).world.clients.get? c = some cl' at hcl'
      rw [(unsubscribeAll_releases h).1 c] at hcl'
      cases hcl'
  | onNotifyReceived e body => exact effect_notify server h e body hcl hcl'
  | onSubscriptionStateChanged e state => exact effect_stateChanged server h e state hcl hcl'
  | onRecordFound s r =>
      rw [world_onRecordFound, hcl] at hcl'
      rw [Option.some.inj hcl']
      rfl
  | onContactRegistered s r uid =>
      rw [world_onContactRegistered, hcl] at hcl'
      rw [Option.some.inj hcl']
      rfl

theorem clientOf_step {S : Sdk A R} (server : ConferenceServer) {sys : System A R}
    (h : Sound S sys) (op : Op A R) {s : SubscriptionId} (hs : s < sys.subs.next) :
    clientOf (step S server sys op) s = clientOf sys s := by
  rw [clientOf, clientOf, (onward_step S server h op).subject s hs]

/-- **What a subscription sees of its client** changes as `effect` says. -/
theorem clientSeenBy_step {S : Sdk A R} (server : ConferenceServer) {sys : System A R}
    (h : Sound S sys) (op : Op A R) {s : SubscriptionId} (hs : s ∈ stored sys)
    (hs' : s ∈ stored (step S server sys op)) :
    clientSeenBy (step S server sys op) s =
      (clientSeenBy sys s).map (effect S server sys op) := by
  have hpointer' := clientOf_step server h op (h.lt_next hs)
  cases hpointer : clientOf sys s with
  | none => rw [clientSeenBy, clientSeenBy, hpointer', hpointer]; rfl
  | some c =>
      rw [hpointer] at hpointer'
      obtain ⟨cl, hcl⟩ := h.inv.owned.client_alive hs hpointer
      obtain ⟨cl', hcl'⟩ :=
        (sound_step S server sys op h).inv.owned.client_alive hs' hpointer'
      rw [clientSeenBy_of_get? hpointer' hcl', clientSeenBy_of_get? hpointer hcl,
        Option.map_some, client_effect server h op hcl hcl']

/-- The client that a new external subscription joins: the one that others in
    the store see under its ordered URI, or a new one. -/
theorem joined_seen {S : Sdk A R} {server : ConferenceServer} {sys : System A R}
    (h : Sound S sys) {chatRoom : R} {address : A} {c : ClientId} {cl : Client A}
    (hjoined : Joined S server sys chatRoom address c cl) :
    (∃ s ∈ stored sys, clientSeenBy sys s = some (seen cl) ∧
        S.asStringUriOnlyOrdered cl.mTo = S.asStringUriOnlyOrdered address) ∨
      (cl = ⟨address, none, [], []⟩ ∧ ∀ s v, clientSeenBy sys s = some v →
        S.asStringUriOnlyOrdered v.mTo ≠ S.asStringUriOnlyOrdered address) := by
  rcases hjoined.origin with ⟨hcl, hord⟩ | ⟨-, hnew, hnone⟩
  · obtain ⟨s, hs, hpointer⟩ := h.inv.owned.alive_iff.mp ⟨cl, hcl⟩
    exact Or.inl ⟨s, hs, clientSeenBy_of_get? hpointer hcl, hord⟩
  · refine Or.inr ⟨hnew, fun s v hv => ?_⟩
    obtain ⟨c', cl', -, hcl', rfl⟩ := clientSeenBy_eq_some_iff.mp hv
    exact hnone c' cl' hcl'

end Steps

end Observations
