import FlexisipConference.StoreProofs

/-! # Silence after leaving

    An own subscription lives on in the messages that are addressed to it, and
    an external one in the observer list of its client until it is taken off.
    Neither makes a call once it has left the store: only subscriptions in the
    store make calls, and one that has left never comes back, since every
    subscribe makes a new object. -/

namespace Silence

open Sdks Heaps Machines Clients Subscriptions Handlers Invariants HandlerSteps Stores

variable {A R : Type}

/-! ## Who can make a call -/

/-- A subscription in the store that is not active ignores every message. -/
theorem tellOwn_of_inactive {sys : System A R} {s : SubscriptionId}
    (h : isActive sys s = false)
    {calls : OwnRegistrationSubscription A R → List (ChatRoomCall A)}
    (hcalls : ∀ sub, sub.mActive = false → calls sub = []) : sys.tellOwn s calls = sys := by
  rw [System.tellOwn]
  split
  · rename_i sub hsub
    have hinactive : sub.mActive = false := by simpa [isActive, hsub] using h
    rw [hcalls sub hinactive, List.map_nil, List.append_nil]
  · rfl

/-- A subscription outside the store is not active. -/
theorem isActive_of_not_stored {S : Sdk A R} {sys : System A R} (h : Sound S sys)
    {s : SubscriptionId} (hs : s ∉ stored sys) : isActive sys s = false := by
  cases hactive : isActive sys s with
  | false => rfl
  | true => exact absurd ((h.inv.attached.active s).mp hactive).1 hs

/-- The late answer to a fetch reaches nobody once the subscription has left. -/
theorem onRecordFound_of_not_stored {S : Sdk A R} {sys : System A R} (h : Sound S sys)
    {s : SubscriptionId} (hs : s ∉ stored sys) (r : Option Record) :
    sys.tellOwn s (fun sub => sub.onRecordFound S r) = sys :=
  tellOwn_of_inactive (isActive_of_not_stored h hs)
    (fun _ hsub => OwnRegistrationSubscription.onRecordFound_inactive S hsub r)

theorem onContactRegistered_of_not_stored {S : Sdk A R} {sys : System A R} (h : Sound S sys)
    {s : SubscriptionId} (hs : s ∉ stored sys) (r : Record) (uid : String) :
    sys.tellOwn s (fun sub => sub.onContactRegistered S r uid) = sys :=
  tellOwn_of_inactive (isActive_of_not_stored h hs)
    (fun _ hsub => OwnRegistrationSubscription.onContactRegistered_inactive S hsub r uid)

/-- An own subscription in the store is active exactly when it has an AOR. -/
theorem active_of_stored {S : Sdk A R} {sys : System A R} (h : Sound S sys) {s : SubscriptionId}
    {sub : OwnRegistrationSubscription A R} (hs : s ∈ stored sys)
    (hown : sys.subs.get? s = some (.own sub)) : sub.mActive = sub.mParticipantAor.isSome := by
  have hactive := h.inv.attached.active s
  rw [isActive, hown, keyOf_own S hown, Option.isSome_map, and_iff_right hs] at hactive
  exact Bool.eq_iff_iff.mpr hactive

section Heard

variable {S : Sdk A R} {sys : System A R} {s : SubscriptionId}
  {sub : OwnRegistrationSubscription A R}

/-- An own subscription in the store whose AOR parsed makes its calls on its chat
    room. -/
theorem tellOwn_of_stored (h : Sound S sys) (hs : s ∈ stored sys)
    (hsub : sys.subs.get? s = some (.own sub)) (haor : sub.mParticipantAor.isSome)
    (calls : OwnRegistrationSubscription A R → List (ChatRoomCall A)) :
    sub.mActive = true ∧ (sys.tellOwn s calls).log =
      sys.log ++ (calls sub).map (Handlers.Entry.called s sub.mChatRoom) := by
  refine ⟨(active_of_stored h hs hsub).trans haor, ?_⟩
  rw [System.tellOwn, hsub]

/-- It passes a fetched record on. -/
theorem onRecordFound_of_stored (h : Sound S sys) (hs : s ∈ stored sys)
    (hsub : sys.subs.get? s = some (.own sub)) (haor : sub.mParticipantAor.isSome)
    (r : Option Record) :
    (sys.tellOwn s (fun sub => sub.onRecordFound S r)).log = sys.log ++
      [Handlers.Entry.called s sub.mChatRoom (ChatRoomCall.setParticipantDevices
        sub.mParticipant (sub.recordDevices S r))] := by
  obtain ⟨hactive, hlog⟩ := tellOwn_of_stored h hs hsub haor (fun sub => sub.onRecordFound S r)
  rw [hlog, OwnRegistrationSubscription.onRecordFound, OwnRegistrationSubscription.processRecord,
    hactive]
  rfl

/-- The public GRUU of the contact that has just registered, when the chat room
    accepts the contact. -/
def registered? (S : Sdk A R) (sub : OwnRegistrationSubscription A R) (r : Record)
    (uid : String) : Option A :=
  if uid.isEmpty then none
  else
    (S.extractContactByUniqueId r uid).bind fun ct =>
      (getPubGruu S ct).filter fun _ => sub.isContactCompatible S ct.orgLinphoneSpecs

/-- It passes a changed record on, and then the contact that has registered. -/
theorem onContactRegistered_of_stored (h : Sound S sys) (hs : s ∈ stored sys)
    (hsub : sys.subs.get? s = some (.own sub)) (haor : sub.mParticipantAor.isSome)
    (r : Record) (uid : String) :
    (sys.tellOwn s (fun sub => sub.onContactRegistered S r uid)).log = sys.log ++
      (ChatRoomCall.setParticipantDevices sub.mParticipant (sub.recordDevices S (some r)) ::
        (registered? S sub r uid).toList.map (fun pubGruu =>
          .notifyParticipantDeviceRegistration (some pubGruu))).map
            (Handlers.Entry.called s sub.mChatRoom) := by
  obtain ⟨hactive, hlog⟩ :=
    tellOwn_of_stored h hs hsub haor (fun sub => sub.onContactRegistered S r uid)
  rw [hlog, OwnRegistrationSubscription.onContactRegistered,
    OwnRegistrationSubscription.processRecord, hactive, registered?]
  refine congrArg (fun calls => sys.log ++ List.map _ (_ :: calls)) ?_
  by_cases huid : uid.isEmpty
  · rw [if_pos huid, if_pos huid]
    rfl
  · rw [if_neg huid, if_neg huid]
    cases S.extractContactByUniqueId r uid with
    | none => rfl
    | some ct =>
        cases hgruu : getPubGruu S ct with
        | none => simp [hgruu]
        | some pubGruu =>
            by_cases haccepted : sub.isContactCompatible S ct.orgLinphoneSpecs
            · simp [hgruu, haccepted, Option.filter]
            · simp [hgruu, haccepted]

end Heard

/-- The calls of a NOTIFY are made by subscriptions in the store. -/
theorem notify_callers {S : Sdk A R} {sys : System A R} (h : Sound S sys) (e : EventId)
    (body : Reginfos.NotifyBody) :
    ∀ em ∈ (sys.world.onNotifyReceived S e body).2, em.1 ∈ stored sys := by
  intro em hem
  rcases QuietRun.notify_cases h.inv.rest e body with hsame | ⟨c, cl, ri, hcl, -, -, hw⟩
  · rw [hsame] at hem
    cases hem
  · rw [hw] at hem
    obtain ⟨cb, -, hem⟩ := List.mem_flatMap.mp hem
    obtain ⟨s, hs, rfl⟩ := List.mem_map.mp hem
    rw [S.mem_notifyOrder] at hs
    exact (((observers_iff h hcl).2 s).mp hs).1

/-! ## From one state to a later one -/

/-- Of the subscriptions made before, only those that were in the store are in
    it later, and only they have made calls. -/
structure Onward (sys sys' : System A R) : Prop where
  calls : ∃ new, sys'.log = sys.log ++ new ∧ ∀ s room call,
    Handlers.Entry.called s room call ∈ new → s < sys.subs.next → s ∈ stored sys
  entered : ∀ s ∈ stored sys', s < sys.subs.next → s ∈ stored sys
  next : sys.subs.next ≤ sys'.subs.next
  subject : ∀ s < sys.subs.next, subject sys' s = subject sys s

theorem Onward.refl (sys : System A R) : Onward sys sys :=
  ⟨no_new_calls _, fun _ hs _ => hs,
    Nat.le_refl _, fun _ _ => rfl⟩

theorem Onward.trans {sys sys' sys'' : System A R} (h : Onward sys sys')
    (h' : Onward sys' sys'') : Onward sys sys'' := by
  obtain ⟨new, hlog, hnew⟩ := h.calls
  obtain ⟨new', hlog', hnew'⟩ := h'.calls
  have hlt : ∀ s < sys.subs.next, s < sys'.subs.next := fun s hs => Nat.lt_of_lt_of_le hs h.next
  refine ⟨⟨new ++ new', by rw [hlog', hlog, List.append_assoc], fun s room call hin hs => ?_⟩,
    fun s hin hs => h.entered s (h'.entered s hin (hlt s hs)) hs, Nat.le_trans h.next h'.next,
    fun s hs => (h'.subject s (hlt s hs)).trans (h.subject s hs)⟩
  rcases List.mem_append.mp hin with hin | hin
  · exact hnew s room call hin hs
  · exact h.entered s (hnew' s room call hin (hlt s hs)) hs

/-- An added entry is one for a new subscription, which makes all the calls. -/
theorem onward_added {S : Sdk A R} {sys sys' : System A R} {sub : Subscription A R}
    (hadd : Added S sys sys' sub) : Onward sys sys' := by
  obtain ⟨calls, hlog, hby⟩ := hadd.log
  refine ⟨⟨_, hlog, fun s room call hin hs => ?_⟩, fun s hin hs => ?_, ?_, fun s hs => ?_⟩
  · rcases List.mem_cons.mp hin with heq | hin
    · cases heq
    · obtain ⟨_, _, heq⟩ := hby _ hin
      obtain ⟨rfl, -, -⟩ := Handlers.Entry.called.inj heq
      exact absurd hs (Nat.lt_irrefl _)
  · rcases hadd.mem_stored_iff.mp hin with rfl | hold
    · exact absurd hs (Nat.lt_irrefl _)
    · exact hold
  · rw [hadd.next]
    exact Nat.le_succ _
  · rw [hadd.subject, if_neg (Nat.ne_of_lt hs)]

/-- An unsubscribe brings no subscription. -/
theorem onward_dropEntry (S : Sdk A R) {sys : System A R} {entry : String × SubscriptionId}
    (hin : entry ∈ sys.mSubscriptions) : Onward sys (dropEntry S sys entry) := by
  refine ⟨⟨_, log_dropEntry S sys entry, fun s room call hcall _ => ?_⟩, fun s hs _ => ?_,
    (next_dropEntry S sys entry).ge, fun s _ => congrFun (subject_dropEntry S sys entry) s⟩
  · cases List.mem_singleton.mp hcall
  · rw [stored, mSubscriptions_dropEntry] at hs
    exact (stored_perm_erase hin).mem_iff.mpr (List.mem_cons_of_mem _ hs)

theorem onward_unsubscribeAll {S : Sdk A R} {sys : System A R} (h : Sound S sys) :
    Onward sys (sys.unsubscribeAll S) := by
  obtain ⟨-, hempty, hnext, hsubject, hlog⟩ := h.unsubscribeAll
  refine ⟨⟨_, hlog, fun s room call hcall _ => ?_⟩, fun s hs _ => ?_, hnext.ge,
    fun s _ => congrFun hsubject s⟩
  · obtain ⟨_, -, heq⟩ := List.mem_map.mp hcall
    cases heq
  · rw [stored, hempty] at hs
    cases hs

/-- A message makes calls of subscriptions in the store. -/
theorem onward_message {sys sys' : System A R} (hkeeps : Keeps sys sys')
    (hcalls : ∃ new, sys'.log = sys.log ++ new ∧ ∀ s room call,
      Handlers.Entry.called s room call ∈ new → s ∈ stored sys) : Onward sys sys' := by
  obtain ⟨new, hlog, hnew⟩ := hcalls
  refine ⟨⟨new, hlog, fun s room call hin _ => hnew s room call hin⟩, fun s hs _ => ?_,
    hkeeps.2.1.ge, fun s _ => congrFun hkeeps.1 s⟩
  rw [stored, hkeeps.2.2] at hs
  exact hs

/-- A message makes those call that are in the store. -/
theorem onward_tellOwn {S : Sdk A R} {sys : System A R} (h : Sound S sys) (s : SubscriptionId)
    {calls : OwnRegistrationSubscription A R → List (ChatRoomCall A)}
    (hcalls : ∀ sub, sub.mActive = false → calls sub = []) :
    Onward sys (sys.tellOwn s calls) := by
  by_cases hs : s ∈ stored sys
  · obtain ⟨new, hlog, hby⟩ := log_tellOwn sys s calls
    refine onward_message (keeps_tellOwn sys s calls) ⟨new, hlog, fun s' room call hin => ?_⟩
    obtain ⟨_, _, heq⟩ := hby _ hin
    obtain ⟨rfl, -, -⟩ := Handlers.Entry.called.inj heq
    exact hs
  · rw [tellOwn_of_inactive (isActive_of_not_stored h hs) hcalls]
    exact Onward.refl sys

section Runs

variable [DecidableEq R]

/-- **Step lemma**: every operation goes onward. -/
theorem onward_step (S : Sdk A R) (server : ConferenceServer) {sys : System A R}
    (h : Sound S sys) (op : Op A R) : Onward sys (step S server sys op) := by
  cases op with
  | subscribe chatRoom address =>
      show Onward sys (sys.subscribe S server chatRoom address)
      rcases subscribe_cases S server h chatRoom address with
        ⟨-, hsame⟩ | ⟨-, -, hadd, -⟩ | ⟨-, -, hadd, -⟩
      · rw [hsame]
        exact Onward.refl sys
      · exact onward_added hadd
      · exact onward_added hadd
  | unsubscribe chatRoom address =>
      show Onward sys (sys.unsubscribe S chatRoom address)
      rcases unsubscribe_cases h chatRoom address with ⟨-, hsame⟩ | ⟨entry, hin, -, -, hdrop⟩
      · rw [hsame]
        exact Onward.refl sys
      · rw [hdrop]
        exact onward_dropEntry S hin
  | unsubscribeAll => exact onward_unsubscribeAll h
  | onNotifyReceived e body =>
      refine onward_message (keeps_onNotifyReceived S sys e body)
        ⟨_, log_onNotifyReceived S sys e body, fun s room call hin => ?_⟩
      obtain ⟨em, hem, hcall⟩ := List.mem_flatMap.mp hin
      obtain ⟨_, _, heq⟩ := callsBy_callsOf S sys.subs em _ hcall
      obtain ⟨rfl, -, -⟩ := Handlers.Entry.called.inj heq
      exact notify_callers h e body em hem
  | onSubscriptionStateChanged e state =>
      exact onward_message ⟨rfl, rfl, rfl⟩
        (no_new_calls _)
  | onRecordFound s r =>
      exact onward_tellOwn h s
        (fun _ hsub => OwnRegistrationSubscription.onRecordFound_inactive S hsub r)
  | onContactRegistered s r uid =>
      exact onward_tellOwn h s
        (fun _ hsub => OwnRegistrationSubscription.onContactRegistered_inactive S hsub r uid)

/-- What one step does, every run does. -/
theorem onward_run (S : Sdk A R) (server : ConferenceServer) {sys : System A R}
    (h : Sound S sys) (ops : List (Op A R)) :
    Sound S ((machine S server).run sys ops) ∧ Onward sys ((machine S server).run sys ops) :=
  Machine.invariant_run (M := machine S server) (I := fun sys' => Sound S sys' ∧ Onward sys sys')
    (fun sys' op h' => ⟨sound_step S server sys' op h'.1,
      h'.2.trans (onward_step S server h'.1 op)⟩) ops sys ⟨h, Onward.refl sys⟩

/-- After an operation that takes a pair off, the store has no subscription for
    it. -/
theorem no_pair_of_left (S : Sdk A R) (server : ConferenceServer) (ops : List (Op A R))
    {op : Op A R} {p : Pair R} (hop : operationOn S p op = some false) :
    ∀ s ∈ stored ((machine S server).reach (ops ++ [op])),
      pairOf S ((machine S server).reach (ops ++ [op])) s ≠ some p := by
  intro s hs hp
  -- the last operation on the pair would have to be a subscribe
  have hwanted := (refines_reach S server (ops ++ [op]) p).mp ⟨s, hs, hp⟩
  rw [wanted_iff_last, lastOperation, List.reverse_append, List.reverse_singleton,
    List.singleton_append, List.findSome?_cons, hop] at hwanted
  cases hwanted

/-- **No update after leaving.** Let an operation take a pair of a participant
    and a chat room off: an unsubscribe of the pair, or unsubscribeAll.  However
    the run goes on, the subscriptions for the pair that were made before never
    come back, make no call and ignore every message; the subscription that the
    pair has after a later subscribe is a new object, and passes on the records
    that it is told and the contacts that register. -/
theorem no_update_after_leaving (S : Sdk A R) (server : ConferenceServer) (ops : List (Op A R))
    (op : Op A R) (p : Pair R) (hop : operationOn S p op = some false) (later : List (Op A R)) :
    let left := (machine S server).reach (ops ++ [op])
    let sys := (machine S server).run left later
    ∃ new, sys.log = left.log ++ new ∧
      (∀ s < left.subs.next, pairOf S left s = some p →
        s ∉ stored sys ∧ (∀ room call, Handlers.Entry.called s room call ∉ new) ∧
        (∀ r, step S server sys (.onRecordFound s r) = sys) ∧
        (∀ r uid, step S server sys (.onContactRegistered s r uid) = sys)) ∧
      (∀ s ∈ stored sys, pairOf S sys s = some p → left.subs.next ≤ s) ∧
      (∀ s ∈ stored sys, ∀ sub, sys.subs.get? s = some (.own sub) → sub.mParticipantAor.isSome →
        (∀ r, (step S server sys (.onRecordFound s r)).log = sys.log ++
          [.called s sub.mChatRoom (.setParticipantDevices sub.mParticipant
            (sub.recordDevices S r))]) ∧
        ∀ r uid, (step S server sys (.onContactRegistered s r uid)).log = sys.log ++
          (.setParticipantDevices sub.mParticipant (sub.recordDevices S (some r)) ::
            (registered? S sub r uid).toList.map (fun pubGruu =>
              .notifyParticipantDeviceRegistration (some pubGruu))).map
                (.called s sub.mChatRoom)) := by
  intro left sys
  have hleft : Sound S left := sound_reach S server (ops ++ [op])
  have hnone := no_pair_of_left S server ops hop
  obtain ⟨hsys, honward⟩ := onward_run S server hleft later
  obtain ⟨new, hlog, hnew⟩ := honward.calls
  refine ⟨new, hlog, fun s hs hp => ?_, fun s hs hp => ?_, fun s hs sub hsub haor =>
    ⟨onRecordFound_of_stored hsys hs hsub haor, onContactRegistered_of_stored hsys hs hsub haor⟩⟩
  · have hgone : s ∉ stored sys := fun hin => hnone s (honward.entered s hin hs) hp
    exact ⟨hgone, fun room call hin => hnone s (hnew s room call hin hs) hp,
      fun r => onRecordFound_of_not_stored hsys hgone r,
      fun r uid => onContactRegistered_of_not_stored hsys hgone r uid⟩
  · -- one made before would still be for the pair, and in the store when it left
    by_contra hlt
    have hs' : s < left.subs.next := Nat.lt_of_not_le hlt
    rw [pairOf, honward.subject s hs', ← pairOf] at hp
    exact hnone s (honward.entered s hs hs') hp

end Runs

/-- A record with the phone of a local participant. -/
def sampleRecord : Record :=
  ⟨[⟨"uid-1", some "sip:bob@example.org;gr=phone", "\"groupchat/1.2\"", "Phone"⟩]⟩

/-- `no_update_after_leaving` at work: the participant leaves and joins again,
    and the reply to the first fetch comes last. -/
theorem no_update_after_leaving_rejoin :
    let left := (machine stringSdk sampleServer).reach
      ([.subscribe Capabilities.conference "sip:bob@example.org"] ++
        [.unsubscribe Capabilities.conference "sip:bob@example.org"])
    let sys := (machine stringSdk sampleServer).run left
      [.subscribe Capabilities.conference "sip:bob@example.org",
        .onRecordFound 0 (some sampleRecord)]
    (∀ room call, Handlers.Entry.called 0 room call ∉ sys.log) ∧
      step stringSdk sampleServer sys (.onRecordFound 0 (some sampleRecord)) = sys ∧
      (step stringSdk sampleServer sys (.onRecordFound 1 (some sampleRecord))).log = sys.log ++
        [.called 1 Capabilities.conference (.setParticipantDevices "sip:bob@example.org"
          [⟨some "sip:bob@example.org;gr=phone", "Phone", ["groupchat/1.2"]⟩])] ∧
      (step stringSdk sampleServer sys (.onContactRegistered 1 sampleRecord "uid-1")).log =
        sys.log ++ [.called 1 Capabilities.conference (.setParticipantDevices
            "sip:bob@example.org"
            [⟨some "sip:bob@example.org;gr=phone", "Phone", ["groupchat/1.2"]⟩]),
          .called 1 Capabilities.conference (.notifyParticipantDeviceRegistration
            (some "sip:bob@example.org;gr=phone"))] := by
  intro left sys
  obtain ⟨new, hlog, hold, -, hnew⟩ := no_update_after_leaving stringSdk sampleServer
    [.subscribe Capabilities.conference "sip:bob@example.org"]
    (.unsubscribe Capabilities.conference "sip:bob@example.org")
    (("bob", "example.org"), Capabilities.conference) (by decide)
    [.subscribe Capabilities.conference "sip:bob@example.org",
      .onRecordFound 0 (some sampleRecord)]
  obtain ⟨-, hsilent, hsame, -⟩ := hold 0 (by decide) (by decide)
  obtain ⟨hfound, hregistered⟩ := hnew 1 (by decide) _ rfl (by decide)
  refine ⟨fun room call hin => ?_, hsame _, (hfound (some sampleRecord)).trans (by decide),
    (hregistered sampleRecord "uid-1").trans (by decide)⟩
  rw [hlog] at hin
  rcases List.mem_append.mp hin with hin | hin
  · have hleft : left.log = [.started 0, .stopped 0] := by decide
    rw [hleft] at hin
    simp at hin
  · exact hsilent room call hin

end Silence
