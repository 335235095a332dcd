import Mathlib.Data.Nat.Count
import FlexisipConference.ObservationProofs

/-! # Participants do not disturb each other

    All participants share the store, the clients store, the factory with its
    one listener on the Core, and the event dispatcher.  Still a participant is
    served as if it were alone: purge a run of every step that belongs to
    others, and the calls made on behalf of the participant, its entries in the
    store and what these see of their clients are the same, up to the names of
    the objects.

    Identities are given out in order, so without the objects of others the one
    of an object is its RANK: the number of earlier objects of the same
    participant.  `Similar` relates the two runs by it; an operation of another
    participant keeps it on its own, and one of the participant together with
    its renaming. -/

namespace Similarities

open Sdks Reginfos Heaps Machines Clients Dispatch QuietRun Events Subscriptions Handlers
open Invariants HandlerSteps Stores Fanout Silence Lifetime Notifies ClientSteps Calls
open Observations

variable {A R : Type}

/-! ## Ranks -/

/-- The name of a subscription without those of other participants. -/
def subRank (S : Sdk A R) (p : Participant) (sys : System A R) (s : SubscriptionId) :
    SubscriptionId :=
  Nat.count (fun i => participantOf S sys i = some p) s

/-- The name of an event without those of other participants. -/
def eventRank (S : Sdk A R) (p : Participant) (w : World A) (e : EventId) : EventId :=
  Nat.count (fun i => eventOf S w i = some p) e

theorem count_congr {q q' : Nat → Prop} [DecidablePred q] [DecidablePred q'] {n : Nat}
    (h : ∀ i < n, q i ↔ q' i) : Nat.count q n = Nat.count q' n :=
  Nat.le_antisymm (Nat.count_mono_left (fun i hi => (h i hi).mp))
    (Nat.count_mono_left (fun i hi => (h i hi).mpr))

theorem subRank_inj {S : Sdk A R} {p : Participant} {sys : System A R} {s s' : SubscriptionId}
    (hs : participantOf S sys s = some p) (hs' : participantOf S sys s' = some p)
    (heq : subRank S p sys s = subRank S p sys s') : s = s' :=
  Nat.count_injective (p := fun i => participantOf S sys i = some p) hs hs' heq

theorem eventRank_inj {S : Sdk A R} {p : Participant} {w : World A} {e e' : EventId}
    (he : eventOf S w e = some p) (he' : eventOf S w e' = some p)
    (heq : eventRank S p w e = eventRank S p w e') : e = e' :=
  Nat.count_injective (p := fun i => eventOf S w i = some p) he he' heq

/-- A subscription without the name of its client. -/
def anonymous : Subscription A R → Subscription A R
  | .own sub => .own sub
  | .external sub => .external { sub with mClient := 0 }

theorem base_anonymous (sub : Subscription A R) : (anonymous sub).base = sub.base := by
  cases sub <;> rfl

theorem made_of_participantOf {S : Sdk A R} {sys : System A R} {s : SubscriptionId}
    {p : Participant} (h : participantOf S sys s = some p) :
    ∃ made, sys.subs.get? s = some made := by
  obtain ⟨sub, hsub, -⟩ := Option.map_eq_some_iff.mp h
  obtain ⟨made, hmade, -⟩ := Option.map_eq_some_iff.mp hsub
  exact ⟨made, hmade⟩

/-- Only subscriptions that were made are for a participant. -/
theorem lt_of_participantOf {S : Sdk A R} {sys : System A R} {s : SubscriptionId}
    {p : Participant} (h : participantOf S sys s = some p) : s < sys.subs.next := by
  obtain ⟨made, hmade⟩ := made_of_participantOf h
  exact Heap.lt_next_of_get? hmade

/-- The key of an entry says which participant its subscription is for. -/
theorem key_iff {S : Sdk A R} {sys : System A R} (h : Sound S sys)
    {entry : String × SubscriptionId} (hin : entry ∈ sys.mSubscriptions) {address : A} :
    entry.1 = System.getSubscriptionKey S address ↔
      participantOf S sys entry.2 = some (S.participant address) := by
  obtain ⟨sub, hsub, hkeyed⟩ := h.keyed entry hin
  rw [hkeyed, getSubscriptionKey_inj, participantOf, hsub, Option.map_some, Option.some.injEq]

/-- What a subscription of a participant sees is a client of the participant, and
    its event is one of the participant. -/
theorem seen_by {S : Sdk A R} {sys : System A R} (h : Sound S sys) {p : Participant}
    {s : SubscriptionId} (hs : s ∈ stored sys) (hp : participantOf S sys s = some p)
    {v : Client A} (hv : clientSeenBy sys s = some v) :
    S.participant v.mTo = p ∧ ∀ e, v.mSubscribeEvent = some e →
      e < sys.world.events.next ∧ eventOf S sys.world e = some p := by
  obtain ⟨c, cl, hpointer, hcl, rfl⟩ := clientSeenBy_eq_some_iff.mp hv
  have howner := participantOf_served h hs hpointer hcl
  rw [hp] at howner
  have hto : S.participant cl.mTo = p := (Option.some.inj howner).symm
  refine ⟨hto, fun e hev => ⟨h.inv.rest.linked.known c e ⟨cl, hcl, hev⟩, ?_⟩⟩
  rw [eventOf_current h.inv.rest hcl hev, hto]

/-- A message to a subscription of another participant makes no call on behalf of
    this one. -/
theorem others_tellOwn {S : Sdk A R} {sys : System A R} {s : SubscriptionId} {p : Participant}
    (hs : decide (participantOf S sys s = some p) = false)
    (calls : OwnRegistrationSubscription A R → List (ChatRoomCall A)) :
    ∃ new, (sys.tellOwn s calls).log = sys.log ++ new ∧ ∀ s' room call,
      Handlers.Entry.called s' room call ∈ new →
        participantOf S (sys.tellOwn s calls) s' ≠ some p := by
  obtain ⟨new, hlog, hby⟩ := log_tellOwn sys s calls
  refine ⟨new, hlog, fun s' room call hin => ?_⟩
  obtain ⟨_, _, heq⟩ := hby _ hin
  obtain ⟨rfl, -, -⟩ := Handlers.Entry.called.inj heq
  rw [participantOf, (keeps_tellOwn sys s' calls).1]
  exact of_decide_eq_false hs

section Runs

variable [DecidableEq R]

/-! ## What an operation makes -/

/-- An operation makes no subscription, or it is a subscribe that makes one for
    its participant. -/
theorem subs_step (S : Sdk A R) (server : ConferenceServer) {sys : System A R}
    (h : Sound S sys) (op : Op A R) :
    ((step S server sys op).subs.next = sys.subs.next ∧
      subject (step S server sys op) = subject sys) ∨
    ∃ chatRoom address made, op = .subscribe chatRoom address ∧
      Added S sys (step S server sys op) made ∧ made.base.mParticipant = address ∧
        made.base.mChatRoom = chatRoom := by
  cases op with
  | subscribe chatRoom address =>
      show ((sys.subscribe S server chatRoom address).subs.next = _ ∧
        subject (sys.subscribe S server chatRoom address) = _) ∨ _
      rcases subscribe_cases S server h chatRoom address with
        ⟨-, hsame⟩ | ⟨-, -, hadd, -⟩ | ⟨-, -, hadd, -⟩
      · rw [hsame]
        exact Or.inl ⟨rfl, rfl⟩
      · exact Or.inr ⟨chatRoom, address, _, rfl, hadd, rfl, rfl⟩
      · exact Or.inr ⟨chatRoom, address, _, rfl, hadd, rfl, rfl⟩
  | unsubscribe chatRoom address =>
      left
      show (sys.unsubscribe S chatRoom address).subs.next = _ ∧
        subject (sys.unsubscribe S chatRoom address) = _
      rcases unsubscribe_cases h chatRoom address with ⟨-, hsame⟩ | ⟨entry, -, -, -, hdrop⟩
      · rw [hsame]
        exact ⟨rfl, rfl⟩
      · rw [hdrop]
        exact ⟨next_dropEntry S sys entry, subject_dropEntry S sys entry⟩
  | unsubscribeAll =>
      obtain ⟨-, -, hnext, hsubject, -⟩ := h.unsubscribeAll
      exact Or.inl ⟨hnext, hsubject⟩
  | onNotifyReceived e body =>
      have hkeeps := keeps_onNotifyReceived S sys e body
      exact Or.inl ⟨hkeeps.2.1, hkeeps.1⟩
  | onSubscriptionStateChanged e state => exact Or.inl ⟨rfl, rfl⟩
  | onRecordFound s r =>
      have hkeeps := keeps_tellOwn sys s (fun sub => sub.onRecordFound S r)
      exact Or.inl ⟨hkeeps.2.1, hkeeps.1⟩
  | onContactRegistered s r uid =>
      have hkeeps := keeps_tellOwn sys s (fun sub => sub.onContactRegistered S r uid)
      exact Or.inl ⟨hkeeps.2.1, hkeeps.1⟩

/-- A subscription stays for its participant. -/
theorem participantOf_step {S : Sdk A R} (server : ConferenceServer) {sys : System A R}
    (h : Sound S sys) (op : Op A R) {s : SubscriptionId} (hs : s < sys.subs.next) :
    participantOf S (step S server sys op) s = participantOf S sys s := by
  rw [participantOf, participantOf, (onward_step S server h op).subject s hs]

theorem subRank_step {S : Sdk A R} (server : ConferenceServer) {sys : System A R}
    (h : Sound S sys) (op : Op A R) (p : Participant) {s : SubscriptionId}
    (hs : s ≤ sys.subs.next) : subRank S p (step S server sys op) s = subRank S p sys s :=
  count_congr (fun i hi => by rw [participantOf_step server h op (Nat.lt_of_lt_of_le hi hs)])

/-- An operation makes no event, or it is a subscribe that joins a client
    without one. -/
theorem events_step (S : Sdk A R) (server : ConferenceServer) {sys : System A R}
    (h : Sound S sys) (op : Op A R) :
    SameEvents sys.world (step S server sys op).world ∨
    ∃ chatRoom address c cl, op = .subscribe chatRoom address ∧
      Joined S server sys chatRoom address c cl ∧ cl.mSubscribeEvent = none ∧
      (step S server sys op).world.events = sys.world.events.alloc ⟨cl.mTo, some c, false⟩ := by
  cases op with
  | subscribe chatRoom address =>
      show SameEvents sys.world (sys.subscribe S server chatRoom address).world ∨ _
      cases hfind : sys.findSubscription S chatRoom address with
      | true =>
          rw [subscribe_found S server hfind]
          exact Or.inl (SameEvents.refl _)
      | false =>
          by_cases hlocal : S.getDomain address ∈ server.localDomains
          · rw [world_subscribe_own S server hfind hlocal]
            exact Or.inl (SameEvents.refl _)
          · obtain ⟨c, cl, hjoined⟩ := subscribe_joins server h hfind hlocal
            have hevents := hjoined.events
            cases hev : cl.mSubscribeEvent with
            | some e =>
                rw [hev] at hevents
                exact Or.inl (sameEvents_of_events hevents)
            | none =>
                rw [hev] at hevents
                exact Or.inr ⟨chatRoom, address, c, cl, rfl, hjoined, hev, hevents⟩
  | unsubscribe chatRoom address =>
      left
      show SameEvents sys.world (sys.unsubscribe S chatRoom address).world
      rcases unsubscribe_cases h chatRoom address with ⟨-, hsame⟩ | ⟨entry, hin, -, -, hdrop⟩
      · rw [hsame]
        exact SameEvents.refl _
      · rw [hdrop]
        exact teardown_sameEvents.dropEntry h hin
  | unsubscribeAll => exact Or.inl (teardown_sameEvents.unsubscribeAll h)
  | onNotifyReceived e body =>
      left
      show SameEvents sys.world (sys.world.onNotifyReceived S e body).1
      rcases notify_cases h.inv.rest e body with hsame | ⟨c, cl, ri, -, -, -, hw⟩
      · rw [hsame]
        exact SameEvents.refl _
      · rw [hw]
        exact sameEvents_of_events rfl
  | onSubscriptionStateChanged e state =>
      left
      show SameEvents sys.world (sys.world.onSubscriptionStateChanged e state)
      rcases stateChanged_cases h.inv.rest e state with hsame | ⟨c, -, -, hw⟩
      · rw [hsame]
        exact SameEvents.refl _
      · rw [hw]
        exact (sameEvents_terminate _ e).trans (sameEvents_of_events rfl)
  | onRecordFound s r =>
      rw [world_onRecordFound]
      exact Or.inl (SameEvents.refl _)
  | onContactRegistered s r uid =>
      rw [world_onContactRegistered]
      exact Or.inl (SameEvents.refl _)

theorem eventOf_step {S : Sdk A R} (server : ConferenceServer) {sys : System A R}
    (h : Sound S sys) (op : Op A R) {e : EventId} (he : e < sys.world.events.next) :
    eventOf S (step S server sys op).world e = eventOf S sys.world e := by
  rcases events_step S server h op with hsame | ⟨_, _, c, cl, -, -, -, hevents⟩
  · exact hsame.eventOf S e
  · rw [eventOf, hevents, Heap.get?_alloc, if_neg (Nat.ne_of_lt he), eventOf]

/-- The rank of an event depends on those opened before it, so it stays. -/
theorem eventRank_step {S : Sdk A R} (server : ConferenceServer) {sys : System A R}
    (h : Sound S sys) (op : Op A R) (p : Participant) {e : EventId}
    (he : e ≤ sys.world.events.next) :
    eventRank S p (step S server sys op).world e = eventRank S p sys.world e :=
  count_congr (fun i hi => by rw [eventOf_step server h op (Nat.lt_of_lt_of_le hi he)])

/-- A new subscription counts for its participant only. -/
theorem subRank_added {S : Sdk A R} (server : ConferenceServer) {sys : System A R}
    (h : Sound S sys) (p : Participant) {op : Op A R} {made : Subscription A R}
    (hadd : Added S sys (step S server sys op) made) :
    participantOf S (step S server sys op) sys.subs.next =
        some (S.participant made.base.mParticipant) ∧
      subRank S p (step S server sys op) (step S server sys op).subs.next =
        subRank S p sys sys.subs.next +
          if S.participant made.base.mParticipant = p then 1 else 0 := by
  have hnew : participantOf S (step S server sys op) sys.subs.next =
      some (S.participant made.base.mParticipant) := by
    rw [participantOf, hadd.subject, if_pos rfl, Option.map_some, base_fixed]
  refine ⟨hnew, ?_⟩
  rw [hadd.next, ← subRank_step server h op p (Nat.le_refl _)]
  refine (Nat.count_succ _ _).trans ?_
  simp only [hnew, Option.some.injEq]
  rfl

/-- After a subscribe a subscription of a participant is the new one or one that
    there was. -/
theorem participantOf_added {S : Sdk A R} (server : ConferenceServer) {sys : System A R}
    (h : Sound S sys) {p : Participant} {op : Op A R} {made : Subscription A R}
    (hadd : Added S sys (step S server sys op) made) {s : SubscriptionId}
    (hs : participantOf S (step S server sys op) s = some p) :
    s = sys.subs.next ∨ s < sys.subs.next ∧ participantOf S sys s = some p := by
  have hlt := lt_of_participantOf hs
  rw [hadd.next] at hlt
  rcases Nat.lt_succ_iff_lt_or_eq.mp hlt with hlt | heq
  · exact Or.inr ⟨hlt, by rw [← hs, participantOf_step server h op hlt]⟩
  · exact Or.inl heq

/-- A new event counts for the participant of its client only. -/
theorem eventRank_opened {S : Sdk A R} (server : ConferenceServer) {sys : System A R}
    (h : Sound S sys) (p : Participant) {op : Op A R} {c : ClientId} {address : A}
    (halloc : (step S server sys op).world.events =
      sys.world.events.alloc ⟨address, some c, false⟩) :
    eventRank S p (step S server sys op).world (step S server sys op).world.events.next =
      eventRank S p sys.world sys.world.events.next +
        if S.participant address = p then 1 else 0 := by
  have hnew : eventOf S (step S server sys op).world sys.world.events.next =
      some (S.participant address) := by
    rw [eventOf, halloc, Heap.get?_alloc_self, Option.map_some]
  rw [halloc, Heap.next_alloc, ← eventRank_step server h op p (Nat.le_refl _)]
  refine (Nat.count_succ _ _).trans ?_
  simp only [hnew, Option.some.injEq]
  rfl

/-- A client that a subscribe joins is for the participant of the subscribe. -/
theorem participant_joined {S : Sdk A R} {server : ConferenceServer} {sys : System A R}
    {chatRoom : R} {address : A} {c : ClientId} {cl : Client A}
    (hjoined : Joined S server sys chatRoom address c cl) :
    S.asStringUriOnlyOrdered cl.mTo = S.asStringUriOnlyOrdered address ∧
      S.participant cl.mTo = S.participant address := by
  have hord : S.asStringUriOnlyOrdered cl.mTo = S.asStringUriOnlyOrdered address := by
    rcases hjoined.origin with ⟨-, hord⟩ | ⟨-, hnew, -⟩
    · exact hord
    · rw [hnew]
  exact ⟨hord, S.participant_of_ordered hord⟩

/-- The callers in the log were made. -/
def CallersMade (sys : System A R) : Prop :=
  ∀ s room call, Handlers.Entry.called s room call ∈ sys.log → s < sys.subs.next

/-- After every operation, whoever has called has been made. -/
theorem CallersMade.step {S : Sdk A R} (server : ConferenceServer) {sys : System A R}
    (h : Sound S sys) (hmade : CallersMade sys) (op : Op A R) :
    CallersMade (step S server sys op) := by
  intro s room call hin
  obtain ⟨new, hlog, hnew⟩ := calls_step S server h op
  rw [hlog] at hin
  rcases List.mem_append.mp hin with hin | hin
  · exact Nat.lt_of_lt_of_le (hmade s room call hin) (onward_step S server h op).next
  · exact (sound_step S server sys op h).lt_next (hnew s room call hin).1

/-- An operation adds to the calls on behalf of a participant those of its new
    entries in the log. -/
theorem callsFor_step {S : Sdk A R} (server : ConferenceServer) {sys : System A R}
    (h : Sound S sys) (hmade : CallersMade sys) (op : Op A R) (p : Participant) (chatRoom : R)
    {new : List (Handlers.Entry A R)} (hlog : (step S server sys op).log = sys.log ++ new) :
    callsFor S p chatRoom (step S server sys op) = callsFor S p chatRoom sys ++
      callsOn (fun s => participantOf S (step S server sys op) s = some p) chatRoom new := by
  rw [callsFor, hlog, callsOn_append, callsFor]
  refine congrArg (· ++ _) (callsOn_congr (fun s call hin => ?_))
  rw [participantOf_step server h op (hmade s chatRoom call hin)]

/-! ## The steps of a participant -/

/-- The step is one of the participant: it is a call for it, or a message to one
    of its subscriptions or on one of its events.  `unsubscribeAll` is for every
    participant. -/
def belongs (S : Sdk A R) (p : Participant) (sys : System A R) : Op A R → Bool
  | .subscribe _ address => S.participant address = p
  | .unsubscribe _ address => S.participant address = p
  | .unsubscribeAll => true
  | .onNotifyReceived e _ => eventOf S sys.world e = some p
  | .onSubscriptionStateChanged e _ => eventOf S sys.world e = some p
  | .onRecordFound s _ => participantOf S sys s = some p
  | .onContactRegistered s _ _ => participantOf S sys s = some p

/-- The step with the names that its objects have without those of others. -/
def renamed (S : Sdk A R) (p : Participant) (sys : System A R) : Op A R → Op A R
  | .onNotifyReceived e body => .onNotifyReceived (eventRank S p sys.world e) body
  | .onSubscriptionStateChanged e state =>
      .onSubscriptionStateChanged (eventRank S p sys.world e) state
  | .onRecordFound s r => .onRecordFound (subRank S p sys s) r
  | .onContactRegistered s r uid => .onContactRegistered (subRank S p sys s) r uid
  | op => op

/-- A client with its event renamed. -/
def renameEvent (ρ : EventId → EventId) (cl : Client A) : Client A :=
  { cl with mSubscribeEvent := cl.mSubscribeEvent.map ρ }

@[simp] theorem renameEvent_mTo (ρ : EventId → EventId) (cl : Client A) :
    (renameEvent ρ cl).mTo = cl.mTo := rfl

theorem renameEvent_congr {ρ ρ' : EventId → EventId} {cl : Client A}
    (h : ∀ e, cl.mSubscribeEvent = some e → ρ e = ρ' e) :
    renameEvent ρ cl = renameEvent ρ' cl :=
  congrArg (fun ev => { cl with mSubscribeEvent := ev }) (Option.map_congr h)

/-- `alone` is `sys` as far as the participant is concerned, with each object
    named by its rank. -/
structure Similar (S : Sdk A R) (p : Participant) (sys alone : System A R) : Prop where
  events : alone.world.events.next = eventRank S p sys.world sys.world.events.next
  subs : alone.subs.next = subRank S p sys sys.subs.next
  content : ∀ s, participantOf S sys s = some p →
    (subject alone (subRank S p sys s)).map anonymous = (subject sys s).map anonymous
  entries : ∀ s', s' ∈ stored alone ↔
    ∃ s ∈ stored sys, participantOf S sys s = some p ∧ subRank S p sys s = s'
  client : ∀ s ∈ stored sys, participantOf S sys s = some p →
    clientSeenBy alone (subRank S p sys s) =
      (clientSeenBy sys s).map (renameEvent (eventRank S p sys.world))
  calls : ∀ chatRoom, callsFor S p chatRoom sys = callsFor S p chatRoom alone

/-! ## The steps of others -/

/-- A step of another participant makes nothing for this one. -/
theorem others_make {S : Sdk A R} (server : ConferenceServer) {sys : System A R}
    (h : Sound S sys) {op : Op A R} {p : Participant} (hop : belongs S p sys op = false) :
    subRank S p (step S server sys op) (step S server sys op).subs.next =
        subRank S p sys sys.subs.next ∧
      eventRank S p (step S server sys op).world (step S server sys op).world.events.next =
        eventRank S p sys.world sys.world.events.next ∧
      ∀ s, participantOf S (step S server sys op) s = some p →
        s < sys.subs.next ∧ participantOf S sys s = some p := by
  refine ⟨?_, ?_, ?_⟩
  · rcases subs_step S server h op with ⟨hnext, -⟩ | ⟨chatRoom, address, made, rfl, hadd, hto, -⟩
    · rw [hnext, subRank_step server h op p (Nat.le_refl _)]
    · rw [(subRank_added server h p hadd).2, hto, if_neg (of_decide_eq_false hop), Nat.add_zero]
  · rcases events_step S server h op with
      ⟨hnext, -⟩ | ⟨chatRoom, address, c, cl, rfl, hjoined, -, halloc⟩
    · rw [hnext, eventRank_step server h op p (Nat.le_refl _)]
    · rw [eventRank_opened server h p halloc, (participant_joined hjoined).2,
        if_neg (of_decide_eq_false hop), Nat.add_zero]
  · intro s hs
    rcases subs_step S server h op with ⟨-, hsame⟩ | ⟨chatRoom, address, made, rfl, hadd, hto, -⟩
    · have hp : participantOf S sys s = some p := by
        rw [← hs, participantOf, participantOf, hsame]
      exact ⟨lt_of_participantOf hp, hp⟩
    · rcases participantOf_added server h hadd hs with rfl | hold
      · rw [(subRank_added server h p hadd).1, hto] at hs
        exact absurd (Option.some.inj hs) (of_decide_eq_false hop)
      · exact hold

/-- A step of another participant does nothing to a client of this one. -/
theorem effect_others {S : Sdk A R} (server : ConferenceServer) {sys : System A R} {op : Op A R}
    {p : Participant} (hop : belongs S p sys op = false) {v : Client A}
    (hto : S.participant v.mTo = p)
    (hev : ∀ e, v.mSubscribeEvent = some e → eventOf S sys.world e = some p) :
    effect S server sys op v = v := by
  cases op with
  | subscribe chatRoom address =>
      refine if_neg ?_
      rintro ⟨-, -, hord⟩
      exact of_decide_eq_false hop ((S.participant_of_ordered hord).symm.trans hto)
  | unsubscribe chatRoom address => rfl
  | unsubscribeAll => rfl
  | onNotifyReceived e body =>
      cases body with
      | null => rfl
      | malformed => rfl
      | reginfo ri => exact if_neg (fun heq => of_decide_eq_false hop (hev e heq))
  | onSubscriptionStateChanged e state =>
      exact if_neg (fun hends => of_decide_eq_false hop (hev e hends.1))
  | onRecordFound s r => rfl
  | onContactRegistered s r uid => rfl

/-- A step of another participant makes no call on behalf of this one. -/
theorem others_call {S : Sdk A R} (server : ConferenceServer) {sys : System A R}
    (h : Sound S sys) {op : Op A R} {p : Participant} (hop : belongs S p sys op = false) :
    ∃ new, (step S server sys op).log = sys.log ++ new ∧ ∀ s room call,
      Handlers.Entry.called s room call ∈ new →
        participantOf S (step S server sys op) s ≠ some p := by
  cases op with
  | subscribe chatRoom address =>
      have hadded : ∀ {made : Subscription A R},
          Added S sys (step S server sys (.subscribe chatRoom address)) made →
          made.base.mParticipant = address → ∃ new,
            (step S server sys (.subscribe chatRoom address)).log = sys.log ++ new ∧
            ∀ s room call, Handlers.Entry.called s room call ∈ new →
              participantOf S (step S server sys (.subscribe chatRoom address)) s ≠ some p := by
        intro made hadd hto
        obtain ⟨calls, hlog, hby⟩ := hadd.log
        refine ⟨_, hlog, fun s room call hin => ?_⟩
        rcases List.mem_cons.mp hin with heq | hin
        · cases heq
        · obtain ⟨_, _, heq⟩ := hby _ hin
          obtain ⟨rfl, -, -⟩ := Handlers.Entry.called.inj heq
          rw [(subRank_added server h p hadd).1, hto]
          exact fun heq => of_decide_eq_false hop (Option.some.inj heq)
      rcases subscribe_cases S server h chatRoom address with
        ⟨-, hsame⟩ | ⟨-, -, hadd, -⟩ | ⟨-, -, hadd, -⟩
      · rw [show step S server sys (.subscribe chatRoom address) = sys from hsame]
        exact no_new_calls _
      · exact hadded hadd rfl
      · exact hadded hadd rfl
  | unsubscribe chatRoom address =>
      obtain ⟨new, hlog, hnone⟩ := log_unsubscribe h chatRoom address
      exact ⟨new, hlog, fun s room call hin => absurd hin (hnone s room call)⟩
  | unsubscribeAll => cases hop
  | onNotifyReceived e body =>
      have hkeeps := keeps_onNotifyReceived S sys e body
      refine ⟨_, log_onNotifyReceived S sys e body, fun s room call hin heq => ?_⟩
      rw [participantOf, show subject (step S server sys (.onNotifyReceived e body)) = subject sys
        from hkeeps.1] at heq
      rcases notify_cases h.inv.rest e body with hsame | ⟨c, cl, ri, hcl, hev, rfl, -⟩
      · rw [hsame] at hin
        cases hin
      · -- only the subscriptions that the client serves are told
        obtain ⟨hs, hpointer, -⟩ := calls_notify h hcl hev hin
        have howner : participantOf S sys s = eventOf S sys.world e :=
          (participantOf_served h hs hpointer hcl).trans (eventOf_current h.inv.rest hcl hev).symm
        exact of_decide_eq_false hop (howner.symm.trans heq)
  | onSubscriptionStateChanged e state =>
      exact no_new_calls _
  | onRecordFound s r => exact others_tellOwn hop _
  | onContactRegistered s r uid => exact others_tellOwn hop _

/-- A step of another participant takes nothing of this one off the store. -/
theorem others_keep {S : Sdk A R} (server : ConferenceServer) {sys : System A R}
    (h : Sound S sys) {op : Op A R} {p : Participant} (hop : belongs S p sys op = false)
    {s : SubscriptionId} (hs : s ∈ stored sys) (hp : participantOf S sys s = some p) :
    s ∈ stored (step S server sys op) := by
  cases op with
  | subscribe chatRoom address =>
      show s ∈ stored (sys.subscribe S server chatRoom address)
      rcases subscribe_cases S server h chatRoom address with
        ⟨-, hsame⟩ | ⟨-, -, hadd, -⟩ | ⟨-, -, hadd, -⟩
      · rw [hsame]
        exact hs
      · exact hadd.mem_stored_iff.mpr (Or.inr hs)
      · exact hadd.mem_stored_iff.mpr (Or.inr hs)
  | unsubscribe chatRoom address =>
      show s ∈ stored (sys.unsubscribe S chatRoom address)
      rcases unsubscribe_cases h chatRoom address with ⟨-, hsame⟩ | ⟨entry, hin, hkey, -, hdrop⟩
      · rw [hsame]
        exact hs
      · rw [hdrop, stored, mSubscriptions_dropEntry]
        rcases List.mem_cons.mp ((stored_perm_erase hin).mem_iff.mp hs) with rfl | hrest
        · -- the entry is one of the other participant
          have howner := (key_iff h hin).mp hkey
          rw [hp] at howner
          exact absurd (Option.some.inj howner).symm (of_decide_eq_false hop)
        · exact hrest
  | unsubscribeAll => cases hop
  | onNotifyReceived e body =>
      show s ∈ stored (sys.onNotifyReceived S e body)
      rw [(keeps_onNotifyReceived S sys e body).stored]
      exact hs
  | onSubscriptionStateChanged e state => exact hs
  | onRecordFound s' r =>
      show s ∈ stored (sys.tellOwn s' _)
      rw [(keeps_tellOwn sys s' _).stored]
      exact hs
  | onContactRegistered s' r uid =>
      show s ∈ stored (sys.tellOwn s' _)
      rw [(keeps_tellOwn sys s' _).stored]
      exact hs

/-- **A step of another participant** keeps the states similar. -/
theorem Similar.others {S : Sdk A R} (server : ConferenceServer) {p : Participant}
    {sys alone : System A R} (hsim : Similar S p sys alone) (h : Sound S sys)
    (hmade : CallersMade sys) {op : Op A R} (hop : belongs S p sys op = false) :
    Similar S p (step S server sys op) alone := by
  obtain ⟨hsubs, hevents, hmine⟩ := others_make server h hop
  have hrank : ∀ s, s < sys.subs.next →
      subRank S p (step S server sys op) s = subRank S p sys s :=
    fun s hs => subRank_step server h op p (Nat.le_of_lt hs)
  refine ⟨hsim.events.trans hevents.symm, hsim.subs.trans hsubs.symm, ?_, ?_, ?_, ?_⟩
  · intro s hs
    obtain ⟨hlt, hp⟩ := hmine s hs
    rw [hrank s hlt, hsim.content s hp, (onward_step S server h op).subject s hlt]
  · intro s'
    rw [hsim.entries]
    constructor
    · rintro ⟨s, hs, hp, heq⟩
      have hlt := h.lt_next hs
      exact ⟨s, others_keep server h hop hs hp, by rw [participantOf_step server h op hlt, hp],
        by rw [hrank s hlt, heq]⟩
    · rintro ⟨s, hs, hp, heq⟩
      obtain ⟨hlt, hp⟩ := hmine s hp
      exact ⟨s, (onward_step S server h op).entered s hs hlt, hp, by rw [← hrank s hlt, heq]⟩
  · intro s hs hp
    obtain ⟨hlt, hp⟩ := hmine s hp
    have hs₀ := (onward_step S server h op).entered s hs hlt
    rw [hrank s hlt, hsim.client s hs₀ hp, clientSeenBy_step server h op hs₀ hs]
    cases hv : clientSeenBy sys s with
    | none => rfl
    | some v =>
        obtain ⟨hto, hev⟩ := seen_by h hs₀ hp hv
        rw [Option.map_some, Option.map_some, Option.map_some,
          effect_others server hop hto (fun e he => (hev e he).2)]
        refine congrArg some (renameEvent_congr (fun e he => ?_))
        exact (eventRank_step server h op p (Nat.le_of_lt (hev e he).1)).symm
  · intro chatRoom
    obtain ⟨new, hlog, hnew⟩ := others_call server h hop
    rw [callsFor_step server h hmade op p chatRoom hlog,
      callsOn_eq_nil (fun s call hin => hnew s chatRoom call hin), List.append_nil,
      hsim.calls]

/-! ## What the two sides have in common -/

section Similarity

variable {S : Sdk A R} {p : Participant} {sys alone : System A R}

/-- Both have the same participant, chat room and kind. -/
theorem Similar.base (hsim : Similar S p sys alone) {s : SubscriptionId}
    (hp : participantOf S sys s = some p) :
    participantOf S alone (subRank S p sys s) = some p ∧
      alone.getChatRoom (subRank S p sys s) = sys.getChatRoom s := by
  have hbase : (subject alone (subRank S p sys s)).map Subscription.base =
      (subject sys s).map Subscription.base := by
    have := congrArg (Option.map Subscription.base) (hsim.content s hp)
    simpa only [Option.map_map, Function.comp_def, base_anonymous] using this
  constructor
  · rw [← hp, participantOf, participantOf]
    have := congrArg (Option.map (fun base => S.participant base.mParticipant)) hbase
    simpa only [Option.map_map, Function.comp_def] using this
  · rw [getChatRoom_eq, getChatRoom_eq]
    have := congrArg (Option.map (fun base => base.mChatRoom)) hbase
    simpa only [Option.map_map, Function.comp_def] using this

/-- A new name is not yet in use. -/
theorem Similar.rank_lt (hsim : Similar S p sys alone) {s : SubscriptionId}
    (hp : participantOf S sys s = some p) : subRank S p sys s < alone.subs.next := by
  rw [hsim.subs]
  exact Nat.count_strict_mono (p := fun i => participantOf S sys i = some p) hp
    (lt_of_participantOf hp)

/-- A subscription of the participant is in both stores or in none. -/
theorem Similar.mem_iff (hsim : Similar S p sys alone) {s : SubscriptionId}
    (hp : participantOf S sys s = some p) :
    subRank S p sys s ∈ stored alone ↔ s ∈ stored sys := by
  rw [hsim.entries]
  constructor
  · rintro ⟨s', hs', hp', heq⟩
    rw [← subRank_inj hp' hp heq]
    exact hs'
  · exact fun hs => ⟨s, hs, hp, rfl⟩

/-- The external subscriptions of the participant differ in the name of the
    client only. -/
theorem Similar.external (hsim : Similar S p sys alone) {s : SubscriptionId}
    (hp : participantOf S sys s = some p) {sub : ExternalRegistrationSubscription A R}
    (hsub : sys.subs.get? s = some (.external sub)) :
    ∃ sub', alone.subs.get? (subRank S p sys s) = some (.external sub') ∧
      sub'.toRegistrationSubscription = sub.toRegistrationSubscription := by
  have hcontent := hsim.content s hp
  rw [subject_external_iff.mpr hsub] at hcontent
  obtain ⟨made, hmade, heq⟩ := Option.map_eq_some_iff.mp hcontent
  cases made with
  | own own => cases heq
  | external sub' =>
      refine ⟨sub', subject_external_iff.mp hmade, ?_⟩
      have hbase := congrArg Subscription.base heq
      rwa [base_anonymous, base_anonymous] at hbase

/-- The own subscriptions of the participant are the same. -/
theorem Similar.own (hsim : Similar S p sys alone) (h : Sound S sys) (h' : Sound S alone)
    {s : SubscriptionId} (hp : participantOf S sys s = some p)
    {sub : OwnRegistrationSubscription A R} (hsub : sys.subs.get? s = some (.own sub)) :
    alone.subs.get? (subRank S p sys s) = some (.own sub) := by
  have hcontent := hsim.content s hp
  have hsubject : subject sys s = some (fixed (.own sub)) := by rw [subject, hsub, Option.map_some]
  rw [hsubject] at hcontent
  obtain ⟨made, hmade, heq⟩ := Option.map_eq_some_iff.mp hcontent
  obtain ⟨sub', hsub', hfixed⟩ := Option.map_eq_some_iff.mp hmade
  cases sub' with
  | external ext =>
      rw [← hfixed] at heq
      cases heq
  | own own =>
      rw [← hfixed] at heq
      have hrest : { own with mActive := false } = { sub with mActive := false } :=
        Subscription.own.inj heq
      -- both are active exactly while they are in the store
      have hkey : keyOf S alone (subRank S p sys s) = keyOf S sys s := by
        rw [keyOf, keyOf, hsubject, hmade, ← hfixed]
        exact congrArg (Option.bind · (registrarKey? S))
          (congrArg some (congrArg Subscription.own hrest))
      have hactive : own.mActive = sub.mActive := by
        have hiff := h.inv.attached.active s
        have hiff' := h'.inv.attached.active (subRank S p sys s)
        rw [hkey, hsim.mem_iff hp, ← hiff] at hiff'
        rw [Bool.eq_iff_iff]
        simpa [isActive, hsub, hsub'] using hiff'
      rw [hsub']
      obtain ⟨base, aor, active⟩ := own
      obtain ⟨base', aor', active'⟩ := sub
      obtain ⟨rfl, rfl, -⟩ := OwnRegistrationSubscription.mk.inj hrest
      obtain rfl : active = active' := hactive
      rfl

end Similarity

end Runs

end Similarities
