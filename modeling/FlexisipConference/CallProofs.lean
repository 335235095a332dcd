import FlexisipConference.FanoutProofs
import FlexisipConference.SilenceProofs
import FlexisipConference.ClientStepProofs

/-! # Who is in the store, and who calls

    An operation puts at most one subscription into the store, the one that a
    subscribe makes, and the calls that it brings about are made by
    subscriptions in the store, each on its own chat room.  What one
    subscription does can be read off the log; of the emissions of a client it
    is what it makes of the callbacks addressed to it. -/

namespace Calls

open Sdks Reginfos Heaps Machines Clients QuietRun Subscriptions Handlers Invariants HandlerSteps
open Stores Silence Notifies ClientSteps

variable {A R : Type}

/-! ## The calls of one subscription -/

/-- The calls that a subscription makes, in order. -/
def callsMadeBy (s : SubscriptionId) (log : List (Handlers.Entry A R)) : List (ChatRoomCall A) :=
  log.filterMap fun
    | .called s' _ call => if s' = s then some call else none
    | _ => none

theorem callsMadeBy_append (s : SubscriptionId) (log new : List (Handlers.Entry A R)) :
    callsMadeBy s (log ++ new) = callsMadeBy s log ++ callsMadeBy s new :=
  List.filterMap_append

/-- Entries of other subscriptions. -/
theorem callsMadeBy_eq_nil {s : SubscriptionId} {new : List (Handlers.Entry A R)}
    (h : ∀ s' room call, Handlers.Entry.called s' room call ∈ new → s' ≠ s) :
    callsMadeBy s new = [] := by
  refine List.filterMap_eq_nil_iff.mpr (fun entry hin => ?_)
  cases entry with
  | called s' room call => exact if_neg (h s' room call hin)
  | started s' => rfl
  | stopped s' => rfl

/-- Entries of other subscriptions add nothing to the calls of one. -/
theorem callsMadeBy_others {s : SubscriptionId} (log : List (Handlers.Entry A R))
    {new : List (Handlers.Entry A R)}
    (h : ∀ s' room call, Handlers.Entry.called s' room call ∈ new → s' ≠ s) :
    callsMadeBy s (log ++ new) = callsMadeBy s log := by
  have hnone : callsMadeBy s new = [] := callsMadeBy_eq_nil h
  rw [callsMadeBy_append, hnone, List.append_nil]

/-- The calls that a new subscription makes when it starts. -/
theorem callsMadeBy_started (s s' : SubscriptionId) (log new : List (Handlers.Entry A R)) :
    callsMadeBy s (log ++ .started s' :: new) = callsMadeBy s log ++ callsMadeBy s new := by
  rw [callsMadeBy_append]
  rfl

theorem callsMadeBy_map (s : SubscriptionId) (room : R) (calls : List (ChatRoomCall A)) :
    callsMadeBy s (calls.map (Handlers.Entry.called s room)) = calls := by
  induction calls with
  | nil => rfl
  | cons call calls ih =>
      show callsMadeBy s ([Handlers.Entry.called s room call] ++
        calls.map (Handlers.Entry.called s room)) = _
      rw [callsMadeBy_append, ih]
      simp [callsMadeBy]

/-- A subscription has made a call when it is logged, on whichever chat room. -/
theorem mem_callsMadeBy {s : SubscriptionId} {log : List (Handlers.Entry A R)}
    {call : ChatRoomCall A} :
    call ∈ callsMadeBy s log ↔ ∃ room, Handlers.Entry.called s room call ∈ log := by
  rw [callsMadeBy, List.mem_filterMap]
  constructor
  · rintro ⟨entry, hin, heq⟩
    cases entry with
    | called s' room call' =>
        obtain ⟨rfl, hcall⟩ := Option.ite_none_right_eq_some.mp heq
        rw [← Option.some.inj hcall]
        exact ⟨room, hin⟩
    | started s' => cases heq
    | stopped s' => cases heq
  · rintro ⟨room, hin⟩
    exact ⟨_, hin, if_pos rfl⟩

/-- What the emissions of a client make a subscription do. -/
theorem callsMadeBy_emissions (S : Sdk A R) (subs : Heap (Subscription A R)) {s : SubscriptionId}
    {sub : ExternalRegistrationSubscription A R} (hsub : subs.get? s = some (.external sub))
    (out : List (Emission A)) :
    callsMadeBy s (out.flatMap (System.callsOf S subs)) =
      (callbacksTo s out).flatMap (sub.callback S) := by
  induction out with
  | nil => rfl
  | cons em out ih =>
      obtain ⟨o, cb⟩ := em
      rw [List.flatMap_cons, callsMadeBy_append, ih]
      show _ = (List.filterMap _ ((o, cb) :: out)).flatMap (sub.callback S)
      rw [List.filterMap_cons]
      by_cases ho : o = s
      · subst ho
        rw [System.callsOf, hsub]
        simp only [if_true, List.flatMap_cons]
        rw [callsMadeBy_map]
        rfl
      · have hnone : callsMadeBy s (System.callsOf S subs (o, cb)) = [] := by
          refine callsMadeBy_eq_nil (fun s' room call hin => ?_)
          obtain ⟨_, _, heq⟩ := callsBy_callsOf S subs (o, cb) _ hin
          obtain ⟨rfl, -, -⟩ := Handlers.Entry.called.inj heq
          exact ho
        rw [hnone]
        simp only [if_neg ho]
        rfl

/-- The calls of a NOTIFY are made by the subscriptions in the store that point
    to the client of the event, each on its own chat room. -/
theorem calls_notify {S : Sdk A R} {sys : System A R} (h : Sound S sys) {c : ClientId}
    {cl : Client A} {e : EventId} (hcl : sys.world.clients.get? c = some cl)
    (hev : cl.mSubscribeEvent = some e) {ri : Reginfo} {s : SubscriptionId} {room : R}
    {call : ChatRoomCall A}
    (hin : Handlers.Entry.called s room call ∈
      (sys.world.onNotifyReceived S e (.reginfo ri)).2.flatMap (System.callsOf S sys.subs)) :
    s ∈ stored sys ∧ clientOf sys s = some c ∧ sys.getChatRoom s = some room := by
  rw [notify_current h.inv.rest hcl hev] at hin
  obtain ⟨em, hem, hcall⟩ := List.mem_flatMap.mp hin
  obtain ⟨cb, -, hem⟩ := List.mem_flatMap.mp hem
  obtain ⟨o, ho, rfl⟩ := List.mem_map.mp hem
  rw [S.mem_notifyOrder] at ho
  obtain ⟨hs, hpointer⟩ := ((observers_iff h hcl).2 o).mp ho
  obtain ⟨sub, hsub, -⟩ := clientOf_eq_some_iff.mp hpointer
  simp only [System.callsOf, hsub] at hcall
  obtain ⟨_, -, heq⟩ := List.mem_map.mp hcall
  obtain ⟨rfl, rfl, -⟩ := Handlers.Entry.called.inj heq
  exact ⟨hs, hpointer, by rw [System.getChatRoom, hsub]; rfl⟩

/-! ## The operations -/

/-- The calls of an own subscription are on its chat room. -/
theorem calls_tellOwn {S : Sdk A R} {sys : System A R} (h : Sound S sys) (s : SubscriptionId)
    {calls : OwnRegistrationSubscription A R → List (ChatRoomCall A)}
    (hcalls : ∀ sub, sub.mActive = false → calls sub = []) :
    ∃ new, (sys.tellOwn s calls).log = sys.log ++ new ∧ ∀ s' room call,
      Handlers.Entry.called s' room call ∈ new →
        s' ∈ stored sys ∧ sys.getChatRoom s' = some room := by
  by_cases hs : s ∈ stored sys
  · rw [System.tellOwn]
    split
    · rename_i sub hsub
      refine ⟨_, rfl, fun s' room call hin => ?_⟩
      obtain ⟨_, -, heq⟩ := List.mem_map.mp hin
      obtain ⟨rfl, rfl, -⟩ := Handlers.Entry.called.inj heq
      exact ⟨hs, by rw [System.getChatRoom, hsub]; rfl⟩
    · exact no_new_calls _
  · rw [tellOwn_of_inactive (isActive_of_not_stored h hs) hcalls]
    exact no_new_calls _

/-- A message brings no subscription, so its calls are of those that were there. -/
theorem calls_message {sys sys' : System A R} (hkeeps : Keeps sys sys')
    (hcalls : ∃ new, sys'.log = sys.log ++ new ∧ ∀ s room call,
      Handlers.Entry.called s room call ∈ new →
        s ∈ stored sys ∧ sys.getChatRoom s = some room) :
    ∃ new, sys'.log = sys.log ++ new ∧ ∀ s room call,
      Handlers.Entry.called s room call ∈ new →
        s ∈ stored sys' ∧ sys'.getChatRoom s = some room := by
  obtain ⟨new, hlog, hnew⟩ := hcalls
  refine ⟨new, hlog, fun s room call hin => ?_⟩
  rw [stored, hkeeps.2.2, hkeeps.getChatRoom]
  exact hnew s room call hin

section Rooms

variable [DecidableEq R]

/-- A subscription in the store after an operation was there before, for the
    same chat room, or it is the one that a subscribe has made. -/
theorem stored_step (S : Sdk A R) (server : ConferenceServer) {sys : System A R}
    (h : Sound S sys) (op : Op A R) {s : SubscriptionId}
    (hs : s ∈ stored (step S server sys op)) :
    (s ∈ stored sys ∧ (step S server sys op).getChatRoom s = sys.getChatRoom s) ∨
      ∃ chatRoom address, op = .subscribe chatRoom address ∧
        (step S server sys op).getChatRoom s = some chatRoom := by
  have honward := onward_step S server h op
  by_cases hlt : s < sys.subs.next
  · left
    refine ⟨honward.entered s hs hlt, ?_⟩
    rw [getChatRoom_eq, honward.subject s hlt, ← getChatRoom_eq]
  · right
    have hnew : s ∉ stored sys := fun hold => hlt (h.lt_next hold)
    cases op with
    | subscribe chatRoom address =>
        refine ⟨chatRoom, address, rfl, ?_⟩
        have hadded : ∀ {made : Subscription A R},
            Added S sys (sys.subscribe S server chatRoom address) made →
            made.base.mChatRoom = chatRoom →
            (sys.subscribe S server chatRoom address).getChatRoom s = some chatRoom := by
          intro made hadd hroom
          rcases hadd.mem_stored_iff.mp hs with rfl | hold
          · rw [getChatRoom_eq, hadd.subject, if_pos rfl, Option.map_some, base_fixed, hroom]
          · exact absurd hold hnew
        rcases subscribe_cases S server h chatRoom address with
          ⟨-, hsame⟩ | ⟨-, -, hadd, -⟩ | ⟨-, -, hadd, -⟩
        · change s ∈ stored (sys.subscribe S server chatRoom address) at hs
          rw [hsame] at hs
          exact absurd hs hnew
        · exact hadded hadd rfl
        · exact hadded hadd rfl
    | unsubscribe chatRoom address =>
        change s ∈ stored (sys.unsubscribe S chatRoom address) at hs
        rcases unsubscribe_cases h chatRoom address with ⟨-, hsame⟩ | ⟨entry, hin, -, -, hdrop⟩
        · rw [hsame] at hs
          exact absurd hs hnew
        · rw [hdrop, stored, mSubscriptions_dropEntry] at hs
          exact absurd ((stored_perm_erase hin).mem_iff.mpr (List.mem_cons_of_mem _ hs)) hnew
    | unsubscribeAll =>
        change s ∈ stored (sys.unsubscribeAll S) at hs
        rw [stored, h.unsubscribeAll.2.1] at hs
        cases hs
    | onNotifyReceived e body =>
        have hsame : stored (step S server sys (.onNotifyReceived e body)) = stored sys :=
          (keeps_onNotifyReceived S sys e body).stored
        rw [hsame] at hs
        exact absurd hs hnew
    | onSubscriptionStateChanged e state => exact absurd hs hnew
    | onRecordFound s' r =>
        have hsame : stored (step S server sys (.onRecordFound s' r)) = stored sys :=
          (keeps_tellOwn sys s' _).stored
        rw [hsame] at hs
        exact absurd hs hnew
    | onContactRegistered s' r uid =>
        have hsame : stored (step S server sys (.onContactRegistered s' r uid)) = stored sys :=
          (keeps_tellOwn sys s' _).stored
        rw [hsame] at hs
        exact absurd hs hnew

/-- **Who calls whom**: the calls of an operation are made by subscriptions in
    the store, each on its own chat room. -/
theorem calls_step (S : Sdk A R) (server : ConferenceServer) {sys : System A R}
    (h : Sound S sys) (op : Op A R) :
    ∃ new, (step S server sys op).log = sys.log ++ new ∧ ∀ s room call,
      Handlers.Entry.called s room call ∈ new →
        s ∈ stored (step S server sys op) ∧
          (step S server sys op).getChatRoom s = some room := by
  cases op with
  | subscribe chatRoom address =>
      show ∃ new, (sys.subscribe S server chatRoom address).log = sys.log ++ new ∧ _
      rcases subscribe_cases S server h chatRoom address with
        ⟨-, hsame⟩ | ⟨hfind, hlocal, -⟩ | ⟨hfind, hlocal, hadd, -⟩
      · rw [hsame]
        exact no_new_calls _
      · refine ⟨_, log_subscribe_own S server hfind hlocal, fun s room call hin => ?_⟩
        cases List.mem_singleton.mp hin
      · obtain ⟨c, cl, hjoined⟩ := subscribe_joins server h hfind hlocal
        refine ⟨_, hjoined.log, fun s room call hin => ?_⟩
        -- the only call is the replay to the new subscription
        have hreplay : s = sys.subs.next ∧ room = chatRoom := by
          rcases List.mem_cons.mp hin with heq | hin
          · cases heq
          · split at hin
            · obtain ⟨rfl, rfl, -⟩ := Handlers.Entry.called.inj (List.mem_singleton.mp hin)
              exact ⟨rfl, rfl⟩
            · cases hin
        obtain ⟨rfl, rfl⟩ := hreplay
        refine ⟨hadd.mem_stored_iff.mpr (Or.inl rfl), ?_⟩
        show (sys.subscribe S server room address).getChatRoom sys.subs.next = some room
        rw [getChatRoom_eq, hadd.subject, if_pos rfl]
        rfl
  | unsubscribe chatRoom address =>
      obtain ⟨new, hlog, hnone⟩ := log_unsubscribe h chatRoom address
      exact ⟨new, hlog, fun s room call hin => absurd hin (hnone s room call)⟩
  | unsubscribeAll =>
      obtain ⟨new, hlog, hnone⟩ := log_unsubscribeAll h
      exact ⟨new, hlog, fun s room call hin => absurd hin (hnone s room call)⟩
  | onNotifyReceived e body =>
      refine calls_message (keeps_onNotifyReceived S sys e body)
        ⟨_, log_onNotifyReceived S sys e body, fun s room call hin => ?_⟩
      obtain ⟨em, hem, hcall⟩ := List.mem_flatMap.mp hin
      have hstored := notify_callers h e body em hem
      rw [System.callsOf] at hcall
      split at hcall
      · rename_i sub hsub
        obtain ⟨_, -, heq⟩ := List.mem_map.mp hcall
        obtain ⟨rfl, rfl, -⟩ := Handlers.Entry.called.inj heq
        exact ⟨hstored, by rw [System.getChatRoom, hsub]; rfl⟩
      · cases hcall
  | onSubscriptionStateChanged e state =>
      exact no_new_calls _
  | onRecordFound s r =>
      exact calls_message (keeps_tellOwn sys s _) (calls_tellOwn h s
        (fun _ hsub => OwnRegistrationSubscription.onRecordFound_inactive S hsub r))
  | onContactRegistered s r uid =>
      exact calls_message (keeps_tellOwn sys s _) (calls_tellOwn h s
        (fun _ hsub => OwnRegistrationSubscription.onContactRegistered_inactive S hsub r uid))

end Rooms

end Calls
