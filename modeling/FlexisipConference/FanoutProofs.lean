import FlexisipConference.NotifyProofs
import FlexisipConference.StoreProofs

/-! # The fan-out of a NOTIFY

    A client calls each of its observers for each callback that a NOTIFY makes,
    and an observer passes it on to its chat room.  The observers of the client
    are the subscriptions in the store that point to it, each once, and two of
    them are never for the same chat room: they have the same participant,
    because their addresses have the same ordered URI, and the store has one
    entry for a participant and a chat room.  So a chat room is told each
    snapshot exactly once. -/

namespace Fanout

open Sdks Reginfos Heaps Machines Clients QuietRun Subscriptions Handlers Invariants HandlerSteps
open Stores Notifies

variable {A R : Type}

/-- The device lists set on a chat room, each with the participant it was set
    for. -/
def devicesSetOn [DecidableEq R] (chatRoom : R) (log : List (Handlers.Entry A R)) :
    List (A × List (ParticipantDeviceIdentity A)) :=
  log.filterMap fun
    | .called _ r (.setParticipantDevices participant devices) =>
        if r = chatRoom then some (participant, devices) else none
    | _ => none

/-- A function that is empty on all elements of a list but one. -/
theorem flatMap_single {α β : Type} {l : List α} {f : α → List β} {a : α} (hnodup : l.Nodup)
    (ha : a ∈ l) (hother : ∀ b ∈ l, b ≠ a → f b = []) : l.flatMap f = f a := by
  obtain ⟨pre, post, rfl⟩ := List.append_of_mem ha
  have hgone := (List.nodup_cons.mp (List.nodup_middle.mp hnodup)).1
  have hpre : pre.flatMap f = [] := List.flatMap_eq_nil_iff.mpr (fun b hb =>
    hother b (List.mem_append_left _ hb) (fun heq => hgone (heq ▸ List.mem_append_left _ hb)))
  have hpost : post.flatMap f = [] := List.flatMap_eq_nil_iff.mpr (fun b hb =>
    hother b (List.mem_append_right _ (List.mem_cons_of_mem _ hb))
      (fun heq => hgone (heq ▸ List.mem_append_right _ hb)))
  rw [List.flatMap_append, List.flatMap_cons, hpre, hpost, List.nil_append, List.append_nil]

/-- Two subscriptions in the store that a client serves are for different chat
    rooms. -/
theorem served_room_inj {S : Sdk A R} {sys : System A R} (h : Sound S sys) {s s' : SubscriptionId}
    (hs : s ∈ stored sys) (hs' : s' ∈ stored sys)
    {sub sub' : ExternalRegistrationSubscription A R}
    (hsub : sys.subs.get? s = some (.external sub))
    (hsub' : sys.subs.get? s' = some (.external sub')) (hclient : sub'.mClient = sub.mClient)
    (hroom : sub'.mChatRoom = sub.mChatRoom) : s' = s := by
  obtain ⟨cl, hcl⟩ := h.inv.owned.client_alive hs (clientOf_external hsub)
  have hface : face sys.world sub.mClient = some (cl.mTo, cl.observers) :=
    face_eq_some_iff.mpr ⟨cl, hcl, rfl, rfl⟩
  -- both addresses have the ordered URI of the client, so one participant
  have hord := h.inv.owned.served s hs sub hsub _ _ hface
  have hord' := h.inv.owned.served s' hs' sub' hsub' _ _ (hclient ▸ hface)
  have hparticipant : S.participant sub'.mParticipant = S.participant sub.mParticipant :=
    S.participant_of_ordered (hord'.symm.trans hord)
  refine stored_unique h hs' hs (p := (S.participant sub.mParticipant, sub.mChatRoom)) ?_ ?_
  · rw [pairOf, subject_external_iff.mpr hsub']
    show some (S.participant sub'.mParticipant, sub'.mChatRoom) = _
    rw [hparticipant, hroom]
  · rw [pairOf, subject_external_iff.mpr hsub]
    rfl

section Rooms

variable [DecidableEq R]

/-- One subscription passes a snapshot on to its chat room, filtered. -/
theorem devicesSetOn_callsOf (S : Sdk A R) {sys : System A R} {s : SubscriptionId}
    {sub : ExternalRegistrationSubscription A R} (hsub : sys.subs.get? s = some (.external sub))
    (cb : ClientCallback A) :
    devicesSetOn sub.mChatRoom (System.callsOf S sys.subs (s, cb)) =
      (snapshots [cb]).map (fun devices => (sub.mParticipant, devices.filter (fun device =>
        sub.isContactCompatible S
          (S.getCapabilityDescriptor device.capabilityDescriptor)))) := by
  rw [System.callsOf, hsub]
  cases cb with
  | onNotifyReceived devices =>
      simp [devicesSetOn, snapshots, ExternalRegistrationSubscription.callback,
        ExternalRegistrationSubscription.onNotifyReceived,
        ExternalRegistrationSubscription.compatibleDevices]
  | onRefreshed device =>
      simp only [ExternalRegistrationSubscription.callback,
        ExternalRegistrationSubscription.onRefreshed]
      split <;> simp [devicesSetOn, snapshots]

/-- A subscription sets nothing on other chat rooms. -/
theorem devicesSetOn_other {S : Sdk A R} {sys : System A R} {chatRoom : R} {em : Emission A}
    (h : ∀ sub, sys.subs.get? em.1 = some (.external sub) → sub.mChatRoom ≠ chatRoom) :
    devicesSetOn chatRoom (System.callsOf S sys.subs em) = [] := by
  rw [System.callsOf]
  split
  · rename_i sub hsub
    refine List.filterMap_eq_nil_iff.mpr (fun entry hentry => ?_)
    obtain ⟨call, -, rfl⟩ := List.mem_map.mp hentry
    cases call with
    | setParticipantDevices participant devices => exact if_neg (h sub hsub)
    | notifyParticipantDeviceRegistration device => rfl
  · rfl

/-- One callback of a client to all its observers sets on a chat room that it
    serves what the one subscription for the chat room sets. -/
theorem devicesSetOn_callback {S : Sdk A R} {sys : System A R} (h : Sound S sys)
    {s : SubscriptionId} (hs : s ∈ stored sys) {sub : ExternalRegistrationSubscription A R}
    (hsub : sys.subs.get? s = some (.external sub)) {cl : Client A}
    (hcl : sys.world.clients.get? sub.mClient = some cl) (cb : ClientCallback A) :
    devicesSetOn sub.mChatRoom
        (((S.notifyOrder cl.observers).map (·, cb)).flatMap (System.callsOf S sys.subs)) =
      devicesSetOn sub.mChatRoom (System.callsOf S sys.subs (s, cb)) := by
  obtain ⟨hnodup, hmem⟩ := observers_iff h hcl
  rw [List.flatMap_map, devicesSetOn, List.filterMap_flatMap]
  refine flatMap_single (f := fun o => devicesSetOn sub.mChatRoom
    (System.callsOf S sys.subs (o, cb))) ((S.notifyOrder_perm _).nodup_iff.mpr hnodup) ?_ ?_
  · rw [S.mem_notifyOrder, hmem]
    exact ⟨hs, clientOf_external hsub⟩
  · intro s' hs' hne
    rw [S.mem_notifyOrder, hmem] at hs'
    refine devicesSetOn_other (fun sub' hsub' hroom => hne ?_)
    have hclient : sub'.mClient = sub.mClient :=
      Option.some.inj ((clientOf_external hsub').symm.trans hs'.2)
    exact served_room_inj h hs hs'.1 hsub hsub' hclient hroom

end Rooms

/-- What a NOTIFY on the current event of a client adds to the log. -/
theorem log_notify {S : Sdk A R} {sys : System A R} (h : Sound S sys) {c : ClientId}
    {cl : Client A} {e : EventId} (hcl : sys.world.clients.get? c = some cl)
    (hev : cl.mSubscribeEvent = some e) (ri : Reginfo) :
    (sys.onNotifyReceived S e (.reginfo ri)).log = sys.log ++
      ((Reginfos.Client.onNotifyReceived S (S.asStringUriOnly cl.mTo)
        cl.mParticipantDevices ri).2.flatMap
          (fun cb => ((S.notifyOrder cl.observers).map (·, cb)).flatMap
            (System.callsOf S sys.subs))) := by
  rw [log_onNotifyReceived, notify_current h.inv.rest hcl hev, List.flatMap_assoc]

/-- What a NOTIFY makes the client of its event do, all the subscriptions in the
    store that point to the client are told. -/
theorem notify_tells {S : Sdk A R} {sys : System A R} (h : Sound S sys) {c : ClientId}
    {cl : Client A} {e : EventId} (hcl : sys.world.clients.get? c = some cl)
    (hev : cl.mSubscribeEvent = some e) (ri : Reginfo) {s : SubscriptionId} (hs : s ∈ stored sys)
    (hpointer : clientOf sys s = some c) :
    callbacksTo s (sys.world.onNotifyReceived S e (.reginfo ri)).2 =
      (Reginfos.Client.onNotifyReceived S (S.asStringUriOnly cl.mTo)
        cl.mParticipantDevices ri).2 := by
  obtain ⟨hnodup, hmem⟩ := observers_iff h hcl
  have hcount : cl.observers.count s = 1 :=
    List.count_eq_one_of_mem hnodup ((hmem s).mpr ⟨hs, hpointer⟩)
  rw [notify_current h.inv.rest hcl hev, callbacksTo_flatMap, hcount]
  exact List.flatMap_singleton' _

/-- The snapshots of a list of callbacks, callback by callback. -/
theorem snapshots_eq_flatMap (out : List (ClientCallback A)) :
    snapshots out = out.flatMap (fun cb => snapshots [cb]) := by
  induction out with
  | nil => rfl
  | cons cb out ih =>
      rw [List.flatMap_cons, ← ih]
      cases cb <;> rfl

/-- **Exact fan-out.** In every state reached, a NOTIFY that a client processes
    sets on each chat room that the client serves each of its snapshots once, for
    the participant of the subscription and reduced to the devices compatible
    with the chat room; and every call is on a chat room that the client
    serves. -/
theorem notify_fans_out [DecidableEq R] (S : Sdk A R) (server : ConferenceServer)
    (ops : List (Op A R)) (c : ClientId) (cl : Client A) (e : EventId) (ri : Reginfo)
    (hcl : ((machine S server).reach ops).world.clients.get? c = some cl)
    (hev : cl.mSubscribeEvent = some e) :
    let sys := (machine S server).reach ops
    let out := (Reginfos.Client.onNotifyReceived S (S.asStringUriOnly cl.mTo)
      cl.mParticipantDevices ri).2
    ∃ new, (step S server sys (.onNotifyReceived e (.reginfo ri))).log = sys.log ++ new ∧
      (∀ s ∈ stored sys, ∀ sub, sys.subs.get? s = some (.external sub) → sub.mClient = c →
        devicesSetOn sub.mChatRoom new =
          (snapshots out).map (fun devices => (sub.mParticipant, devices.filter (fun device =>
            sub.isContactCompatible S
              (S.getCapabilityDescriptor device.capabilityDescriptor))))) ∧
      (∀ entry ∈ new, ∃ s ∈ stored sys, ∃ sub call, sys.subs.get? s = some (.external sub) ∧
        sub.mClient = c ∧ entry = .called s sub.mChatRoom call) := by
  intro sys out
  have h : Sound S sys := sound_reach S server ops
  refine ⟨_, log_notify h hcl hev ri, fun s hs sub hsub hclient => ?_, fun entry hentry => ?_⟩
  · subst hclient
    -- callback by callback, the chat room hears of the one subscription for it
    rw [devicesSetOn, List.filterMap_flatMap, snapshots_eq_flatMap, List.map_flatMap]
    refine congrArg (List.flatMap · out) (funext fun cb => ?_)
    exact (devicesSetOn_callback h hs hsub hcl cb).trans (devicesSetOn_callsOf S hsub cb)
  · obtain ⟨cb, -, hentry⟩ := List.mem_flatMap.mp hentry
    obtain ⟨em, hem, hentry⟩ := List.mem_flatMap.mp hentry
    obtain ⟨s, hs, rfl⟩ := List.mem_map.mp hem
    rw [S.mem_notifyOrder, (observers_iff h hcl).2 s] at hs
    obtain ⟨sub, hsub, hclient⟩ := clientOf_eq_some_iff.mp hs.2
    simp only [System.callsOf, hsub] at hentry
    obtain ⟨call, -, rfl⟩ := List.mem_map.mp hentry
    exact ⟨s, hs.1, sub, call, hsub, hclient, rfl⟩

/-- A group chat and an encrypted chat room with one external participant. -/
def sampleOps : List (Op String (BitVec 32)) :=
  [.subscribe Capabilities.conference "sip:alice@external.example.org",
    .subscribe Capabilities.encrypted "sip:alice@external.example.org"]

/-- The phone of the participant, for group chats only. -/
def samplePhone : Contact :=
  ⟨"sip:alice@external.example.org;gr=phone", none, [⟨specsParam, "\"groupchat/1.2\""⟩],
    .registered, .active⟩

/-- `notify_fans_out` at work: both chat rooms are told, and only the first
    accepts the phone. -/
theorem notify_fans_out_two_rooms :
    ∃ new, (step stringSdk sampleServer ((machine stringSdk sampleServer).reach sampleOps)
        (.onNotifyReceived 0 (.reginfo [⟨"sip:alice@external.example.org", .active,
          [samplePhone]⟩]))).log = ((machine stringSdk sampleServer).reach sampleOps).log ++ new ∧
      devicesSetOn Capabilities.conference new = [("sip:alice@external.example.org",
        [⟨some "sip:alice@external.example.org;gr=phone", "", ["groupchat/1.2"]⟩])] ∧
      devicesSetOn Capabilities.encrypted new = [("sip:alice@external.example.org", [])] := by
  obtain ⟨new, hlog, hrooms, -⟩ := notify_fans_out stringSdk sampleServer sampleOps 0
    ⟨"sip:alice@external.example.org", some 0, [], [0, 1]⟩ 0
    [⟨"sip:alice@external.example.org", .active, [samplePhone]⟩] (by decide) (by decide)
  refine ⟨new, hlog, ?_, ?_⟩
  · exact (hrooms 0 (by decide) (.make true Capabilities.conference
      "sip:alice@external.example.org" 0) rfl rfl).trans (by decide)
  · exact (hrooms 1 (by decide) (.make true Capabilities.encrypted
      "sip:alice@external.example.org" 0) rfl rfl).trans (by decide)

end Fanout
