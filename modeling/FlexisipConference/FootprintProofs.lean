import FlexisipConference.SharingProofs
import Mathlib.Data.List.Dedup
import Mathlib.Data.List.Perm.Subperm

/-! # What the handler holds

    Chat rooms share the clients of their participants of other domains: what the
    handler holds for these depends on how many ordered URIs the store has, not
    on how many chat rooms.  It does not share what it has at the registrar: one
    listener for each own subscription.

    The clients store remembers the clients weakly, and erases what has expired
    only when it is asked for the same URI again.  So it has an entry for every
    ordered URI of another domain that was ever subscribed (`remembered_iff`),
    and can lock those that the store still has. -/

namespace Footprint

open Sdks Heaps Multimaps Machines Clients Dispatch QuietRun Events Subscriptions Handlers
open Invariants HandlerSteps Lifetime Sharing

variable {A R : Type}

/-- The ordered URI under which a subscription asks for its client. -/
def orderedUri? (S : Sdk A R) : Subscription A R → Option String
  | .own _ => none
  | .external sub => some (S.asStringUriOnlyOrdered sub.mParticipant)

/-- That of a subscription that was made. -/
def uriOf (S : Sdk A R) (sys : System A R) (s : SubscriptionId) : Option String :=
  (subject sys s).bind (orderedUri? S)

/-- The ordered URIs of the store, each once. -/
def storedUris (S : Sdk A R) (sys : System A R) : List String :=
  ((stored sys).filterMap (uriOf S sys)).dedup

theorem uriOf_eq_some_iff {S : Sdk A R} {sys : System A R} {s : SubscriptionId} {uri : String} :
    uriOf S sys s = some uri ↔ ∃ sub, sys.subs.get? s = some (.external sub) ∧
      S.asStringUriOnlyOrdered sub.mParticipant = uri := by
  rw [uriOf, Option.bind_eq_some_iff]
  constructor
  · rintro ⟨made, hmade, huri⟩
    cases made with
    | own sub => cases huri
    | external sub => exact ⟨sub, subject_external_iff.mp hmade, Option.some.inj huri⟩
  · rintro ⟨sub, hsub, rfl⟩
    exact ⟨.external sub, subject_external_iff.mpr hsub, rfl⟩

/-- The ordered URIs of the store are those of the clients alive. -/
theorem mem_storedUris {S : Sdk A R} {sys : System A R} (h : Sound S sys) {uri : String} :
    uri ∈ storedUris S sys ↔ ∃ c cl, sys.world.clients.get? c = some cl ∧
      S.asStringUriOnlyOrdered cl.mTo = uri := by
  rw [storedUris, List.mem_dedup, List.mem_filterMap]
  constructor
  · rintro ⟨s, hs, huri⟩
    obtain ⟨sub, hsub, rfl⟩ := uriOf_eq_some_iff.mp huri
    obtain ⟨cl, hcl, hord⟩ := client_of_stored h hs hsub
    exact ⟨sub.mClient, cl, hcl, hord⟩
  · rintro ⟨c, cl, hcl, rfl⟩
    obtain ⟨s, hs, sub, hsub, rfl⟩ := (alive_iff_referenced h).mp ⟨cl, hcl⟩
    obtain ⟨_, hcl', hord⟩ := client_of_stored h hs hsub
    obtain rfl := Option.some.inj (hcl.symm.trans hcl')
    exact ⟨s, hs, uriOf_eq_some_iff.mpr ⟨sub, hsub, hord.symm⟩⟩

/-- The clients store has a client that is alive under its ordered URI only. -/
theorem mClients_of_alive {S : Sdk A R} {sys : System A R} (h : Sound S sys) {c : ClientId}
    {cl : Client A} (hcl : sys.world.clients.get? c = some cl) (uri : String) :
    sys.mClients uri = some c ↔ uri = S.asStringUriOnlyOrdered cl.mTo :=
  h.inv.owned.remembered c cl.mTo cl.observers (face_eq_some_iff.mpr ⟨cl, hcl, rfl, rfl⟩) uri

/-- The client that the store has for each of its ordered URIs. -/
def clientFor (sys : System A R) (uri : String) : ClientId := (sys.mClients uri).getD 0

/-- The client of a URI in the store is alive, and made for an address with that
    URI. -/
theorem clientFor_spec {S : Sdk A R} {sys : System A R} (h : Sound S sys) {uri : String}
    (huri : uri ∈ storedUris S sys) : ∃ cl, sys.world.clients.get? (clientFor sys uri) = some cl ∧
      S.asStringUriOnlyOrdered cl.mTo = uri := by
  obtain ⟨c, cl, hcl, hord⟩ := (mem_storedUris h).mp huri
  have hc : clientFor sys uri = c := by
    rw [clientFor, (mClients_of_alive h hcl uri).mpr hord.symm]
    rfl
  rw [hc]
  exact ⟨cl, hcl, hord⟩

/-- **As many clients as ordered URIs.** -/
theorem liveCount_eq {S : Sdk A R} {sys : System A R} (h : Sound S sys) :
    sys.world.clients.liveCount = (storedUris S sys).length := by
  have hnodup : ((storedUris S sys).map (clientFor sys)).Nodup := by
    refine (List.nodup_dedup _).map_on ?_
    intro uri huri uri' huri' hsame
    obtain ⟨cl, hcl, rfl⟩ := clientFor_spec h huri
    obtain ⟨cl', hcl', rfl⟩ := clientFor_spec h huri'
    rw [hsame] at hcl
    rw [Option.some.inj (hcl.symm.trans hcl')]
  rw [Heap.liveCount_eq_length hnodup, List.length_map]
  intro c
  constructor
  · intro hc
    obtain ⟨uri, huri, rfl⟩ := List.mem_map.mp hc
    obtain ⟨cl, hcl, -⟩ := clientFor_spec h huri
    exact ⟨cl, hcl⟩
  · rintro ⟨cl, hcl⟩
    refine List.mem_map.mpr ⟨_, (mem_storedUris h).mpr ⟨c, cl, hcl, rfl⟩, ?_⟩
    rw [clientFor, (mClients_of_alive h hcl _).mpr rfl]
    rfl

/-- The ordered URI that an event was addressed to. -/
def eventUri (S : Sdk A R) (w : World A) (e : EventId) : Option String :=
  (w.events.get? e).map (fun ev => S.asStringUriOnlyOrdered ev.toAddress)

/-- The event of a client is sent to its URI. -/
theorem eventUri_of_isCurrent {S : Sdk A R} {sys : System A R} (h : Sound S sys) {c : ClientId}
    {e : EventId} (hcur : IsCurrent sys.world c e) : ∃ cl, sys.world.clients.get? c = some cl ∧
      eventUri S sys.world e = some (S.asStringUriOnlyOrdered cl.mTo) := by
  obtain ⟨cl, hcl, -⟩ := id hcur
  obtain ⟨ev, hev, -⟩ := (isLive_iff h.inv.rest).mpr ⟨c, hcur⟩
  refine ⟨cl, hcl, ?_⟩
  rw [eventUri, hev, Option.map_some, toAddress_of_isCurrent h.inv.rest hcl hcur hev]

/-- **At most as many live dialogs as ordered URIs.** -/
theorem liveEvents_le {S : Sdk A R} {sys : System A R} (h : Sound S sys) {live : List EventId}
    (hnodup : live.Nodup) (hlive : ∀ e ∈ live, IsLive sys.world e) :
    live.length ≤ (storedUris S sys).length := by
  have hcurrent : ∀ e ∈ live, ∃ c cl, IsCurrent sys.world c e ∧
      sys.world.clients.get? c = some cl ∧
      eventUri S sys.world e = some (S.asStringUriOnlyOrdered cl.mTo) := by
    intro e he
    obtain ⟨c, hcur⟩ := (isLive_iff h.inv.rest).mp (hlive e he)
    obtain ⟨cl, hcl, huri⟩ := eventUri_of_isCurrent h hcur
    exact ⟨c, cl, hcur, hcl, huri⟩
  -- two dialogs to one URI have the same client, and a client has one
  have hinj : (live.map (eventUri S sys.world)).Nodup := by
    refine hnodup.map_on ?_
    intro e he e' he' hsame
    obtain ⟨c, cl, hcur, hcl, huri⟩ := hcurrent e he
    obtain ⟨c', cl', hcur', hcl', huri'⟩ := hcurrent e' he'
    rw [huri, huri'] at hsame
    have hc := (mClients_of_alive h hcl _).mpr rfl
    have hc' := (mClients_of_alive h hcl' _).mpr (Option.some.inj hsame)
    obtain rfl := Option.some.inj (hc.symm.trans hc')
    exact hcur.inj hcur'
  have hsub : live.map (eventUri S sys.world) ⊆ (storedUris S sys).map some := by
    intro uri huri
    obtain ⟨e, he, rfl⟩ := List.mem_map.mp huri
    obtain ⟨c, cl, -, hcl, huri'⟩ := hcurrent e he
    rw [huri']
    exact List.mem_map.mpr ⟨_, (mem_storedUris h).mpr ⟨c, cl, hcl, rfl⟩, rfl⟩
  have hle := (List.subperm_of_subset hinj hsub).length_le
  rwa [List.length_map, List.length_map] at hle

/-- **As many listeners at the registrar as own subscriptions with an AOR.** -/
theorem registrarListeners_length {S : Sdk A R} {sys : System A R} (h : Sound S sys) :
    sys.registrarListeners.length = (stored sys).countP (fun s => (keyOf S sys s).isSome) := by
  obtain ⟨hnodup, hmem⟩ := h.inv.attached.registrar
  have hnodup' : ((stored sys).filterMap
      (fun s => (keyOf S sys s).map (fun key => (key, s)))).Nodup := by
    refine h.stored_nodup.filterMap ?_
    intro s s' p hp hp'
    obtain ⟨key, -, rfl⟩ := Option.map_eq_some_iff.mp hp
    obtain ⟨key', -, hsame⟩ := Option.map_eq_some_iff.mp hp'
    exact (Prod.mk.inj hsame).2.symm
  have hperm := (List.perm_ext_iff_of_nodup hnodup hnodup').mpr (fun p => by
    rw [hmem p.1 p.2, List.mem_filterMap]
    constructor
    · rintro ⟨hs, hkey⟩
      exact ⟨p.2, hs, by rw [hkey]; rfl⟩
    · rintro ⟨s, hs, hkey⟩
      obtain ⟨key, hkey', rfl⟩ := Option.map_eq_some_iff.mp hkey
      exact ⟨hs, hkey'⟩)
  rw [hperm.length_eq, List.length_filterMap_eq_countP]
  refine List.countP_congr ?_
  intro s _
  rw [Option.isSome_map]

/-- The Core is listened to while there is a client. -/
theorem coreListeners_eq {S : Sdk A R} {sys : System A R} (h : Sound S sys) :
    sys.world.coreListeners = if storedUris S sys = [] then 0 else 1 := by
  have hacc := h.inv.rest.accounted
  rw [hacc.listening, hacc.counted, liveCount_eq h]
  cases storedUris S sys <;> simp

/-! ## The clients store -/

theorem mClients_writeOwn (sys : System A R) (s : SubscriptionId)
    (r : OwnRegistrationSubscription A R × List RegistrarRequest) :
    (sys.writeOwn s r).mClients = sys.mClients := by
  have hrequests : ∀ (reqs : List RegistrarRequest) (sys : System A R),
      (reqs.foldl (fun sys req => sys.request s req) sys).mClients = sys.mClients := by
    intro reqs
    induction reqs with
    | nil => intro sys; rfl
    | cons req reqs ih =>
        intro sys
        rw [List.foldl_cons, ih]
        cases req <;> rfl
  exact hrequests r.2 _

theorem mClients_start (S : Sdk A R) (sys : System A R) (s : SubscriptionId) :
    (sys.start S s).mClients = sys.mClients := by
  cases hs : sys.subs.get? s with
  | none => rw [start_none S hs]
  | some made =>
      cases made with
      | own sub =>
          rw [start_writeOwn S hs]
          exact mClients_writeOwn _ s (sub.start S)
      | external sub =>
          rw [start_external S hs]
          rfl

theorem mClients_stop (S : Sdk A R) (sys : System A R) (s : SubscriptionId) :
    (sys.stop S s).mClients = sys.mClients := by
  cases hs : sys.subs.get? s with
  | none => rw [stop_none S hs]
  | some made =>
      cases made with
      | own sub =>
          rw [stop_writeOwn S hs]
          exact mClients_writeOwn _ s (sub.stop S)
      | external sub => rw [stop_external S hs]

/-- A client that is given up leaves its entry behind. -/
theorem mClients_release (sys : System A R) (s : SubscriptionId) :
    (sys.releaseSubscription s).mClients = sys.mClients := by
  rw [System.releaseSubscription]
  split <;> rfl

theorem mClients_dropEntry (S : Sdk A R) (sys : System A R) (entry : String × SubscriptionId) :
    (dropEntry S sys entry).mClients = sys.mClients :=
  (mClients_release _ entry.2).trans (mClients_stop S sys entry.2)

/-- Entries outlive even `unsubscribeAll`. -/
theorem mClients_unsubscribeAll [DecidableEq R] (S : Sdk A R) (sys : System A R) :
    (sys.unsubscribeAll S).mClients = sys.mClients := by
  have hfold : ∀ (f : System A R → SubscriptionId → System A R),
      (∀ sys s, (f sys s).mClients = sys.mClients) → ∀ (ids : List SubscriptionId) sys,
        (ids.foldl f sys).mClients = sys.mClients := by
    intro f hf ids
    induction ids with
    | nil => intro sys; rfl
    | cons s ids ih =>
        intro sys
        rw [List.foldl_cons, ih, hf]
  exact (hfold _ mClients_release _ _).trans (hfold _ (mClients_stop S) _ sys)

theorem mClients_tellOwn (sys : System A R) (s : SubscriptionId)
    (calls : OwnRegistrationSubscription A R → List (ChatRoomCall A)) :
    (sys.tellOwn s calls).mClients = sys.mClients := by
  rw [System.tellOwn]
  split <;> rfl

/-- Acquiring a client leaves an entry under the ordered URI, and the others as
    they are. -/
theorem remembers_acquireClient (S : Sdk A R) (sys : System A R) (address : A) (uri : String) :
    ((sys.acquireClient S address).1.mClients uri).isSome ↔
      (sys.mClients uri).isSome ∨ S.asStringUriOnlyOrdered address = uri := by
  have hnew : ((sys.newClient S address).1.mClients uri).isSome ↔
      (sys.mClients uri).isSome ∨ S.asStringUriOnlyOrdered address = uri := by
    show (Function.update sys.mClients (S.asStringUriOnlyOrdered address)
      (some sys.world.clients.next) uri).isSome ↔ _
    by_cases huri : uri = S.asStringUriOnlyOrdered address
    · subst huri
      rw [Function.update_self]
      exact iff_of_true rfl (Or.inr rfl)
    · rw [Function.update_of_ne huri, or_iff_left (fun heq => huri heq.symm)]
  rw [System.acquireClient]
  cases hc : sys.mClients (S.asStringUriOnlyOrdered address) with
  | none => exact hnew
  | some c =>
      by_cases hcount : sys.useCount c ≠ 0
      · simp only [if_pos hcount]
        refine (or_iff_left_of_imp ?_).symm
        rintro rfl
        rw [hc]
        rfl
      · simp only [if_neg hcount]
        exact hnew

section Runs

variable [DecidableEq R]

/-- An operation that asks the clients store for a client, under this URI. -/
def Asks (S : Sdk A R) (server : ConferenceServer) (uri : String) (sys : System A R) :
    Op A R → Prop
  | .subscribe chatRoom address =>
      sys.findSubscription S chatRoom address = false ∧
        S.getDomain address ∉ server.localDomains ∧ S.asStringUriOnlyOrdered address = uri
  | _ => False

/-- **Step lemma**: an entry is made by asking for it, and never erased for
    good. -/
theorem remembers_step_iff (S : Sdk A R) (server : ConferenceServer) (uri : String)
    (sys : System A R) (op : Op A R) (h : Sound S sys) :
    ((Handlers.step S server sys op).mClients uri).isSome ↔
      (sys.mClients uri).isSome ∨ Asks S server uri sys op := by
  have hquiet : ∀ {op : Op A R}, (Handlers.step S server sys op).mClients = sys.mClients →
      ¬ Asks S server uri sys op → (((Handlers.step S server sys op).mClients uri).isSome ↔
        (sys.mClients uri).isSome ∨ Asks S server uri sys op) := by
    intro op hsame hnot
    rw [hsame, or_iff_left hnot]
  cases op with
  | subscribe chatRoom address =>
      cases hfind : sys.findSubscription S chatRoom address with
      | true =>
          refine hquiet ?_ ?_
          · exact congrArg System.mClients (subscribe_found S server hfind)
          · intro hasks
            have := hasks.1
            rw [hfind] at this
            cases this
      | false =>
          by_cases hlocal : S.getDomain address ∈ server.localDomains
          · refine hquiet ?_ (fun hasks => hasks.2.1 hlocal)
            show (sys.subscribe S server chatRoom address).mClients = _
            rw [subscribe_local S hfind hlocal]
            exact mClients_start S _ _
          · show ((sys.subscribe S server chatRoom address).mClients uri).isSome ↔ _
            have hsame : (sys.subscribe S server chatRoom address).mClients =
                (sys.acquireClient S address).1.mClients := by
              rw [subscribe_remote S hfind hlocal]
              exact mClients_start S _ _
            rw [hsame, remembers_acquireClient]
            exact or_congr_right ⟨fun huri => ⟨hfind, hlocal, huri⟩, fun hasks => hasks.2.2⟩
  | unsubscribe chatRoom address =>
      refine hquiet ?_ id
      show (sys.unsubscribe S chatRoom address).mClients = _
      rcases unsubscribe_cases h chatRoom address with ⟨-, hsame⟩ | ⟨entry, -, -, -, hdrop⟩
      · rw [hsame]
      · rw [hdrop, mClients_dropEntry]
  | unsubscribeAll => exact hquiet (mClients_unsubscribeAll S sys) id
  | onNotifyReceived e body => exact hquiet rfl id
  | onSubscriptionStateChanged e state => exact hquiet rfl id
  | onRecordFound s r => exact hquiet (mClients_tellOwn sys s _) id
  | onContactRegistered s r uid => exact hquiet (mClients_tellOwn sys s _) id

/-- **THE CLIENTS STORE ONLY GROWS.**  After a run it has an entry under an ordered
    URI exactly when some subscribe of the run has asked for a client under this
    URI, whether or not that participant has left since; and the entry can be
    locked exactly when the store still has a subscription with this URI. -/
theorem clients_store_grows (S : Sdk A R) (server : ConferenceServer) (ops : List (Op A R))
    (uri : String) :
    let sys := (Handlers.machine S server).reach ops
    ((sys.mClients uri).isSome ↔ ∃ pre op, pre ++ [op] <+: ops ∧
      Asks S server uri ((Handlers.machine S server).reach pre) op) ∧
    ((∃ c, sys.mClients uri = some c ∧ sys.useCount c ≠ 0) ↔ uri ∈ storedUris S sys) := by
  intro sys
  have hsound : Sound S sys := sound_reach S server ops
  constructor
  · have hsince := Machine.since_iff_exists_prefix (M := Handlers.machine S server)
      (I := fun sys => (sys.mClients uri).isSome = true) (J := Sound S)
      (fun sys op h => sound_step S server sys op h)
      (fun sys op h => remembers_step_iff S server uri sys op h) ops System.init (Sound.init S)
    rw [or_iff_right (fun hnone => nomatch hnone)] at hsince
    exact hsince
  · constructor
    · rintro ⟨c, hc, hcount⟩
      obtain ⟨cl, hcl⟩ := isSome_face.mp ((hsound.inv.owned.alive c).mpr hcount)
      rw [(mClients_of_alive hsound hcl uri).mp hc]
      exact (mem_storedUris hsound).mpr ⟨c, cl, hcl, rfl⟩
    · intro huri
      obtain ⟨c, cl, hcl, hord⟩ := (mem_storedUris hsound).mp huri
      exact ⟨c, (mClients_of_alive hsound hcl uri).mpr hord.symm,
        (hsound.inv.owned.alive c).mp (isSome_face.mpr ⟨cl, hcl⟩)⟩

end Runs

/-! ## All that is held -/

/-- What the handler holds, in terms of its store. -/
structure Holds (S : Sdk A R) (sys : System A R) : Prop where
  clients : sys.world.clients.liveCount = (storedUris S sys).length
  events : ∀ live : List EventId, live.Nodup → (∀ e ∈ live, IsLive sys.world e) →
    live.length ≤ (storedUris S sys).length
  coreListeners : sys.world.coreListeners = if storedUris S sys = [] then 0 else 1
  registrarListeners : sys.registrarListeners.length =
    (stored sys).countP (fun s => (keyOf S sys s).isSome)

/-- **WHAT THE HANDLER HOLDS.**  After every run there are as many clients as
    ordered URIs in the store, at most as many live dialogs, one registration on
    the Core as long as there are some, and one listener at the registrar for
    each own subscription that has an AOR. -/
theorem holds_reach [DecidableEq R] (S : Sdk A R) (server : ConferenceServer)
    (ops : List (Op A R)) : Holds S ((Handlers.machine S server).reach ops) := by
  have hsound := sound_reach S server ops
  exact ⟨liveCount_eq hsound, fun _ hnodup hlive => liveEvents_le hsound hnodup hlive,
    coreListeners_eq hsound, registrarListeners_length hsound⟩

end Footprint
