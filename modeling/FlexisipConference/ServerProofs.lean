import FlexisipConference.CallProofs

/-! # The chat rooms of the server

    The server puts a chat room in its list, and itself among the listeners of
    the chat room, when the chat room is instantiated; it takes both back when
    the chat room is deleted.  In between the chat room asks it to subscribe and
    to unsubscribe participants.  Stopping unsubscribes them all.  Deleting a
    chat room does not: what is in the store for it then stays there, and no
    request can take it off any more.

    `none_outlives_iff` says exactly which runs keep the store to the chat rooms
    in the list: those in which a chat room is deleted only when the store has
    nothing for it. -/

namespace Servers

open Sdks Heaps Machines Clients Subscriptions Handlers Invariants HandlerSteps Lifetime Calls

variable {A R : Type}

/-- `linphone::ChatRoom::State`. -/
inductive ChatRoomState where
  | none
  | instantiated
  | creationPending
  | created
  | creationFailed
  | terminationPending
  | terminated
  | terminationFailed
  | deleted
  deriving DecidableEq, Repr

/-- The state of the server.  `listened` are the chat rooms that have it among
    their listeners, `coreListener` says whether the Core has. -/
structure ServerState (A R : Type) where
  mSubscriptionHandler : System A R
  mChatRooms : List R
  coreListener : Bool
  listened : List R

/-- What the server is called for: by the Core, by a chat room, or to stop; and
    the messages to its subscriptions. -/
inductive Act (A R : Type) where
  | onChatRoomStateChanged (cr : R) (state : ChatRoomState)
  | onParticipantRegistrationSubscriptionRequested (cr : R) (participantAddr : A)
  | onParticipantRegistrationUnsubscriptionRequested (cr : R) (participantAddr : A)
  | stop
  | onNotifyReceived (e : EventId) (body : Reginfos.NotifyBody)
  | onSubscriptionStateChanged (e : EventId) (state : SubscriptionState)
  | onRecordFound (s : SubscriptionId) (r : Option Record)
  | onContactRegistered (s : SubscriptionId) (r : Record) (uid : String)

namespace ServerState

/-- The server has just started. -/
def init : ServerState A R := ⟨System.init, [], true, []⟩

variable [DecidableEq R]

/-- An operation of the handler. -/
def handle (S : Sdk A R) (server : ConferenceServer) (st : ServerState A R) (op : Op A R) :
    ServerState A R :=
  { st with mSubscriptionHandler := Handlers.step S server st.mSubscriptionHandler op }

/-- `ConferenceServer::onChatRoomStateChanged`. -/
def onChatRoomStateChanged (st : ServerState A R) (cr : R) : ChatRoomState → ServerState A R
  | .instantiated =>
      { st with mChatRooms := st.mChatRooms ++ [cr], listened := st.listened ++ [cr] }
  | .deleted =>
      { st with
        listened := st.listened.filter (· ≠ cr)
        mChatRooms := st.mChatRooms.filter (· ≠ cr) }
  | _ => st

/-- `ConferenceServer::onParticipantRegistrationSubscriptionRequested`. -/
def onParticipantRegistrationSubscriptionRequested (S : Sdk A R) (server : ConferenceServer)
    (st : ServerState A R) (cr : R) (participantAddr : A) : ServerState A R :=
  st.handle S server (.subscribe cr participantAddr)

/-- `ConferenceServer::onParticipantRegistrationUnsubscriptionRequested`. -/
def onParticipantRegistrationUnsubscriptionRequested (S : Sdk A R) (server : ConferenceServer)
    (st : ServerState A R) (cr : R) (participantAddr : A) : ServerState A R :=
  st.handle S server (.unsubscribe cr participantAddr)

/-- `ConferenceServer::_stop`. -/
def stop (S : Sdk A R) (server : ConferenceServer) (st : ServerState A R) : ServerState A R :=
  { st with coreListener := false, listened := st.listened.filter (· ∉ st.mChatRooms) }.handle
    S server .unsubscribeAll

end ServerState

/-! ## The store and the list of chat rooms -/

/-- What holds whatever the chat rooms do. -/
structure Legal (S : Sdk A R) (st : ServerState A R) : Prop where
  sound : Sound S st.mSubscriptionHandler
  listened : ∀ cr ∈ st.listened, cr ∈ st.mChatRooms

/-- Each subscription in the store is for a chat room in the list. -/
def Held (st : ServerState A R) : Prop :=
  ∀ s ∈ stored st.mSubscriptionHandler, ∃ cr ∈ st.mChatRooms,
    st.mSubscriptionHandler.getChatRoom s = some cr

/-- While the store is kept to the list, the clients alive are those that a chat
    room in the list uses. -/
theorem Held.alive_iff {S : Sdk A R} {st : ServerState A R} (hlegal : Legal S st)
    (h : Held st) (c : ClientId) :
    (∃ cl, st.mSubscriptionHandler.world.clients.get? c = some cl) ↔
      ∃ cr ∈ st.mChatRooms, ∃ s ∈ stored st.mSubscriptionHandler, ∃ sub,
        st.mSubscriptionHandler.subs.get? s = some (.external sub) ∧ sub.mChatRoom = cr ∧
          sub.mClient = c := by
  rw [alive_iff_referenced hlegal.sound]
  constructor
  · rintro ⟨s, hs, sub, hsub, hclient⟩
    obtain ⟨cr, hcr, hroom⟩ := h s hs
    rw [System.getChatRoom, hsub] at hroom
    exact ⟨cr, hcr, s, hs, sub, hsub, Option.some.inj hroom, hclient⟩
  · rintro ⟨cr, -, s, hs, sub, hsub, -, hclient⟩
    exact ⟨s, hs, sub, hsub, hclient⟩

section Rooms

variable [DecidableEq R]

/-! ## The machine of the server -/

/-- A call reaches the server only while it is a listener of the caller. -/
def step (S : Sdk A R) (server : ConferenceServer) (st : ServerState A R) :
    Act A R → ServerState A R
  | .onChatRoomStateChanged cr state =>
      if st.coreListener then st.onChatRoomStateChanged cr state else st
  | .onParticipantRegistrationSubscriptionRequested cr participantAddr =>
      if cr ∈ st.listened then
        st.onParticipantRegistrationSubscriptionRequested S server cr participantAddr
      else st
  | .onParticipantRegistrationUnsubscriptionRequested cr participantAddr =>
      if cr ∈ st.listened then
        st.onParticipantRegistrationUnsubscriptionRequested S server cr participantAddr
      else st
  | .stop => st.stop S server
  | .onNotifyReceived e body => st.handle S server (.onNotifyReceived e body)
  | .onSubscriptionStateChanged e state => st.handle S server (.onSubscriptionStateChanged e state)
  | .onRecordFound s r => st.handle S server (.onRecordFound s r)
  | .onContactRegistered s r uid => st.handle S server (.onContactRegistered s r uid)

/-- The machine of the server. -/
def machine (S : Sdk A R) (server : ConferenceServer) : Machine (ServerState A R) (Act A R) where
  init := ServerState.init
  step := step S server

/-- A chat room is deleted only when the store has nothing for it. -/
def CleanDeletion (S : Sdk A R) (st : ServerState A R) : Act A R → Prop
  | .onChatRoomStateChanged cr .deleted =>
      st.coreListener = true →
        ∀ address, st.mSubscriptionHandler.findSubscription S cr address = false
  | _ => True

theorem Legal.handle {S : Sdk A R} (server : ConferenceServer) {st : ServerState A R}
    (h : Legal S st) (op : Op A R) : Legal S (st.handle S server op) :=
  ⟨sound_step S server _ op h.sound, h.listened⟩

theorem Legal.onChatRoomStateChanged {S : Sdk A R} {st : ServerState A R} (h : Legal S st)
    (cr : R) (state : ChatRoomState) : Legal S (st.onChatRoomStateChanged cr state) := by
  cases state with
  | instantiated =>
      refine ⟨h.sound, fun cr' hin => ?_⟩
      rcases List.mem_append.mp hin with hin | hin
      · exact List.mem_append_left _ (h.listened cr' hin)
      · exact List.mem_append_right _ hin
  | deleted =>
      refine ⟨h.sound, fun cr' hin => ?_⟩
      obtain ⟨hin, hne⟩ := List.mem_filter.mp hin
      exact List.mem_filter.mpr ⟨h.listened cr' hin, hne⟩
  | none => exact h
  | creationPending => exact h
  | created => exact h
  | creationFailed => exact h
  | terminationPending => exact h
  | terminated => exact h
  | terminationFailed => exact h

/-- **Step lemma**: every act of the server keeps its laws. -/
theorem legal_step (S : Sdk A R) (server : ConferenceServer) (st : ServerState A R)
    (act : Act A R) (h : Legal S st) : Legal S (step S server st act) := by
  cases act with
  | onChatRoomStateChanged cr state =>
      rw [step]
      split
      · exact h.onChatRoomStateChanged cr state
      · exact h
  | onParticipantRegistrationSubscriptionRequested cr participantAddr =>
      rw [step]
      split
      · exact h.handle server _
      · exact h
  | onParticipantRegistrationUnsubscriptionRequested cr participantAddr =>
      rw [step]
      split
      · exact h.handle server _
      · exact h
  | stop =>
      exact ⟨sound_step S server _ .unsubscribeAll h.sound,
        fun cr hin => h.listened cr (List.mem_filter.mp hin).1⟩
  | onNotifyReceived e body => exact h.handle server _
  | onSubscriptionStateChanged e state => exact h.handle server _
  | onRecordFound s r => exact h.handle server _
  | onContactRegistered s r uid => exact h.handle server _

/-- An operation of the handler keeps the store to the list, if it is no
    subscribe for a chat room outside. -/
theorem Held.handle {S : Sdk A R} (server : ConferenceServer) {st : ServerState A R}
    (hlegal : Legal S st) (h : Held st) {op : Op A R}
    (hop : ∀ cr address, op = .subscribe cr address → cr ∈ st.mChatRooms) :
    Held (st.handle S server op) := by
  intro s hs
  rcases stored_step S server hlegal.sound op hs with ⟨hold, hroom⟩ | ⟨cr, address, heq, hroom⟩
  · obtain ⟨cr, hin, hcr⟩ := h s hold
    exact ⟨cr, hin, hroom.trans hcr⟩
  · exact ⟨cr, hop cr address heq, hroom⟩

/-- Deleting a chat room keeps the store to the list exactly when the store has
    nothing for it. -/
theorem held_deleted_iff {S : Sdk A R} {st : ServerState A R} (hlegal : Legal S st)
    (h : Held st) (cr : R) :
    Held (st.onChatRoomStateChanged cr .deleted) ↔
      ∀ address, st.mSubscriptionHandler.findSubscription S cr address = false := by
  constructor
  · intro hheld address
    rw [← Bool.not_eq_true, findSubscription_iff]
    rintro ⟨entry, hin, -, hroom⟩
    obtain ⟨cr', hin', hroom'⟩ := hheld entry.2 (mem_stored.mpr ⟨entry, hin, rfl⟩)
    obtain rfl : cr' = cr := Option.some.inj (hroom'.symm.trans hroom)
    exact of_decide_eq_true (List.mem_filter.mp hin').2 rfl
  · intro hnone s hs
    obtain ⟨cr', hin', hroom'⟩ := h s hs
    refine ⟨cr', List.mem_filter.mpr ⟨hin', decide_eq_true ?_⟩, hroom'⟩
    rintro rfl
    -- the store would find the subscription under its participant
    obtain ⟨entry, hin, rfl⟩ := mem_stored.mp hs
    obtain ⟨sub, -, hkey⟩ := hlegal.sound.keyed entry hin
    have hfound := (findSubscription_iff S st.mSubscriptionHandler cr'
      sub.base.mParticipant).mpr ⟨entry, hin, hkey, hroom'⟩
    rw [hnone] at hfound
    cases hfound

/-- **Step lemma**: a step keeps the store to the list exactly when it meets
    `CleanDeletion`. -/
theorem held_step_iff (S : Sdk A R) (server : ConferenceServer) (st : ServerState A R)
    (act : Act A R) (hlegal : Legal S st) (h : Held st) :
    Held (step S server st act) ↔ CleanDeletion S st act := by
  have hmessage : ∀ op : Op A R, (∀ cr address, op ≠ .subscribe cr address) →
      (Held (st.handle S server op) ↔ True) := fun op hop =>
    iff_true_intro (h.handle server hlegal (fun cr address heq => absurd heq (hop cr address)))
  cases act with
  | onChatRoomStateChanged cr state =>
      rw [step]
      split
      · rename_i hcore
        cases state with
        | deleted =>
            rw [held_deleted_iff hlegal h cr]
            exact ⟨fun hnone _ => hnone, fun hnone => hnone hcore⟩
        | instantiated =>
            refine iff_of_true (fun s hs => ?_) trivial
            obtain ⟨cr', hin, hroom⟩ := h s hs
            exact ⟨cr', List.mem_append_left _ hin, hroom⟩
        | none => exact iff_of_true h trivial
        | creationPending => exact iff_of_true h trivial
        | created => exact iff_of_true h trivial
        | creationFailed => exact iff_of_true h trivial
        | terminationPending => exact iff_of_true h trivial
        | terminated => exact iff_of_true h trivial
        | terminationFailed => exact iff_of_true h trivial
      · rename_i hcore
        refine iff_of_true h ?_
        cases state with
        | deleted => exact fun hon => absurd hon hcore
        | _ => trivial
  | onParticipantRegistrationSubscriptionRequested cr participantAddr =>
      rw [step]
      split
      · rename_i hin
        refine iff_of_true (h.handle server hlegal (fun cr' address heq => ?_)) trivial
        obtain ⟨rfl, -⟩ := Op.subscribe.inj heq
        exact hlegal.listened cr hin
      · exact iff_of_true h trivial
  | onParticipantRegistrationUnsubscriptionRequested cr participantAddr =>
      rw [step]
      split
      · exact hmessage _ (fun _ _ heq => by cases heq)
      · exact iff_of_true h trivial
  | stop =>
      refine iff_of_true (fun s hs => ?_) trivial
      change s ∈ stored (st.mSubscriptionHandler.unsubscribeAll S) at hs
      rw [stored, hlegal.sound.unsubscribeAll.2.1] at hs
      cases hs
  | onNotifyReceived e body => exact hmessage _ (fun _ _ heq => by cases heq)
  | onSubscriptionStateChanged e state => exact hmessage _ (fun _ _ heq => by cases heq)
  | onRecordFound s r => exact hmessage _ (fun _ _ heq => by cases heq)
  | onContactRegistered s r uid => exact hmessage _ (fun _ _ heq => by cases heq)

/-- The subscriptions of a run stay with the chat rooms in the list: the entries
    of the store are for them, they alone are called, a client is alive while
    one of them uses it, and the registrar listens for them only. -/
structure NoneOutlives (S : Sdk A R) (server : ConferenceServer) (acts : List (Act A R)) :
    Prop where
  held : ∀ pre, pre <+: acts → Held ((machine S server).reach pre)
  silent : ∀ pre act, pre ++ [act] <+: acts → ∃ new,
    ((machine S server).reach (pre ++ [act])).mSubscriptionHandler.log =
      ((machine S server).reach pre).mSubscriptionHandler.log ++ new ∧
    ∀ s room call, Handlers.Entry.called s room call ∈ new →
      room ∈ ((machine S server).reach pre).mChatRooms
  released : ∀ pre, pre <+: acts → ∀ c,
    let st := (machine S server).reach pre
    (∃ cl, st.mSubscriptionHandler.world.clients.get? c = some cl) ↔
      ∃ cr ∈ st.mChatRooms, ∃ s ∈ stored st.mSubscriptionHandler, ∃ sub,
        st.mSubscriptionHandler.subs.get? s = some (.external sub) ∧ sub.mChatRoom = cr ∧
          sub.mClient = c
  unlistened : ∀ pre, pre <+: acts → ∀ k s,
    (k, s) ∈ ((machine S server).reach pre).mSubscriptionHandler.registrarListeners →
      ∃ cr ∈ ((machine S server).reach pre).mChatRooms,
        ((machine S server).reach pre).mSubscriptionHandler.getChatRoom s = some cr

theorem legal_reach (S : Sdk A R) (server : ConferenceServer) (acts : List (Act A R)) :
    Legal S ((machine S server).reach acts) :=
  Machine.invariant_reach (M := machine S server)
    ⟨Sound.init S, fun _ hin => absurd hin List.not_mem_nil⟩ (legal_step S server) acts

/-- What a step of the server does to the handler, and to the list. -/
theorem step_cases (S : Sdk A R) (server : ConferenceServer) (st : ServerState A R)
    (act : Act A R) :
    (step S server st act).mSubscriptionHandler = st.mSubscriptionHandler ∨
      (step S server st act).mChatRooms = st.mChatRooms ∧ ∃ op,
        (step S server st act).mSubscriptionHandler =
          Handlers.step S server st.mSubscriptionHandler op := by
  cases act with
  | onChatRoomStateChanged cr state =>
      left
      rw [step]
      split
      · cases state <;> rfl
      · rfl
  | onParticipantRegistrationSubscriptionRequested cr participantAddr =>
      rw [step]
      split
      · exact Or.inr ⟨rfl, .subscribe cr participantAddr, rfl⟩
      · exact Or.inl rfl
  | onParticipantRegistrationUnsubscriptionRequested cr participantAddr =>
      rw [step]
      split
      · exact Or.inr ⟨rfl, .unsubscribe cr participantAddr, rfl⟩
      · exact Or.inl rfl
  | stop => exact Or.inr ⟨rfl, .unsubscribeAll, rfl⟩
  | onNotifyReceived e body => exact Or.inr ⟨rfl, .onNotifyReceived e body, rfl⟩
  | onSubscriptionStateChanged e state =>
      exact Or.inr ⟨rfl, .onSubscriptionStateChanged e state, rfl⟩
  | onRecordFound s r => exact Or.inr ⟨rfl, .onRecordFound s r, rfl⟩
  | onContactRegistered s r uid => exact Or.inr ⟨rfl, .onContactRegistered s r uid, rfl⟩

/-- While the store is kept to the list, only chat rooms in the list are
    called. -/
theorem silent_step (S : Sdk A R) (server : ConferenceServer) {st : ServerState A R}
    (hlegal : Legal S st) {act : Act A R} (h : Held (step S server st act)) :
    ∃ new, (step S server st act).mSubscriptionHandler.log =
        st.mSubscriptionHandler.log ++ new ∧
      ∀ s room call, Handlers.Entry.called s room call ∈ new → room ∈ st.mChatRooms := by
  rcases step_cases S server st act with hsame | ⟨hrooms, op, hop⟩
  · rw [hsame]
    exact no_new_calls _
  · obtain ⟨new, hlog, hnew⟩ := calls_step S server hlegal.sound op
    rw [hop]
    refine ⟨new, hlog, fun s room call hin => ?_⟩
    obtain ⟨hs, hroom⟩ := hnew s room call hin
    rw [← hop] at hs hroom
    obtain ⟨cr, hcr, hsame⟩ := h s hs
    rw [hrooms] at hcr
    rw [Option.some.inj (hroom.symm.trans hsame)]
    exact hcr

/-- **SUBSCRIPTIONS AND CHAT ROOMS.** In a run of the server no subscription
    outlives its chat room exactly when each chat room is deleted only after all
    its participants have been unsubscribed. -/
theorem none_outlives_iff (S : Sdk A R) (server : ConferenceServer) (acts : List (Act A R)) :
    NoneOutlives S server acts ↔
      (machine S server).Along (CleanDeletion S) (machine S server).init acts := by
  have hinit : Legal S (machine S server).init :=
    ⟨Sound.init S, fun _ hin => absurd hin List.not_mem_nil⟩
  have hheld := Machine.forall_prefix_iff_along (M := machine S server) (I := Held)
    (J := Legal S) (legal_step S server) (held_step_iff S server) acts (machine S server).init
    hinit (fun _ hin => absurd hin List.not_mem_nil)
  constructor
  · exact fun h => hheld.mp h.held
  · intro halong
    have hall : ∀ pre, pre <+: acts → Held ((machine S server).reach pre) := hheld.mpr halong
    refine ⟨hall, fun pre act hpre => ?_, fun pre hpre c => ?_, fun pre hpre k s hin => ?_⟩
    · have h := hall (pre ++ [act]) hpre
      rw [Machine.reach_concat] at h ⊢
      exact silent_step S server (legal_reach S server pre) h
    · exact (hall pre hpre).alive_iff (legal_reach S server pre) c
    · have hlistening := ((legal_reach S server pre).sound.inv.attached.registrar.2 k s).mp hin
      exact hall pre hpre s hlistening.1

/-- A chat room is deleted while it still has a participant: the subscription
    stays in the store, and the next NOTIFY sets devices on the chat room. -/
theorem deleted_room_still_called :
    let acts : List (Act String (BitVec 32)) :=
      [.onChatRoomStateChanged Capabilities.conference .instantiated,
        .onParticipantRegistrationSubscriptionRequested Capabilities.conference
          "sip:alice@external.example.org",
        .onChatRoomStateChanged Capabilities.conference .deleted]
    let st := (machine stringSdk sampleServer).reach acts
    st.mChatRooms = [] ∧ stored st.mSubscriptionHandler = [0] ∧
    (step stringSdk sampleServer st (.onNotifyReceived 0 (.reginfo
      [⟨"sip:alice@external.example.org", .terminated, []⟩]))).mSubscriptionHandler.log =
        [.started 0, .called 0 Capabilities.conference
          (.setParticipantDevices "sip:alice@external.example.org" [])] ∧
    ¬ NoneOutlives stringSdk sampleServer acts := by
  intro acts st
  have hrooms : st.mChatRooms = [] := by decide
  have hstored : stored st.mSubscriptionHandler = [0] := by decide
  refine ⟨hrooms, hstored, by decide, fun h => ?_⟩
  have hheld : Held st := h.held acts (List.prefix_refl acts)
  obtain ⟨cr, hcr, -⟩ := hheld 0 (by rw [hstored]; exact List.mem_singleton_self 0)
  rw [hrooms] at hcr
  cases hcr

end Rooms

end Servers
