import FlexisipConference.RefinementProofs
import FlexisipConference.StartRaceProofs

/-! # The handler and an asynchronous registrar

    The own subscriptions of all the chat rooms share one registrar.  It takes
    the requests of each subscription in the order of issue, at instants of its
    own; the records change in between; and its messages are delivered later,
    those to one subscription in the order in which they were produced, while
    participants join and leave.

    For as long as it is in the store, a subscription goes through the steps of
    the isolated race between `start()` and the record, whatever the others do
    (`isolated`).  So the whole system keeps every chat room up to date with its
    local participants in exactly the runs in which no record changes, for the
    chat room, between the evaluation of a fetch and the activation of the
    change subscription behind it (`registrar_up_to_date_iff`). -/

namespace Registrars

open Sdks Reginfos Heaps Multimaps Machines Clients QuietRun Subscriptions Handlers Invariants
open HandlerSteps Stores Lifetime ClientSteps Notifies Calls Silence Refinements StartRace

variable {A R : Type}

/-- The handler and the registrar.  For each subscription: its requests that are
    not evaluated, the key under which it is told of changes, and the messages
    that are not delivered. -/
structure State (A R : Type) where
  system : System A R
  records : String → Option Record
  requests : SubscriptionId → List RegistrarRequest
  watched : SubscriptionId → Option String
  outbox : SubscriptionId → List Message

/-- The handler is called, an event of another domain is called back, a record
    changes, the registrar evaluates the next request of a subscription, or the
    next message to one is delivered. -/
inductive Act (A R : Type) where
  | call (call : Call A R)
  | onNotifyReceived (e : EventId) (body : NotifyBody)
  | onSubscriptionStateChanged (e : EventId) (state : SubscriptionState)
  | change (key : String) (r : Record) (uid : String)
  | serve (s : SubscriptionId)
  | deliver (s : SubscriptionId)

/-- What a subscription asks of the registrar when it is stopped. -/
def stopRequests (S : Sdk A R) (sys : System A R) (s : SubscriptionId) :
    List (SubscriptionId × RegistrarRequest) :=
  match sys.subs.get? s with
  | some (.own sub) => (sub.stop S).2.map (s, ·)
  | _ => []

/-- The requests that are meant for the queue of a subscription. -/
def addressed (s : SubscriptionId) (issued : List (SubscriptionId × RegistrarRequest)) :
    List RegistrarRequest :=
  issued.filterMap (fun p => if p.1 = s then some p.2 else none)

/-- What the message is for the handler. -/
def messageOp (s : SubscriptionId) : Message → Op A R
  | .recordFound r => .onRecordFound s r
  | .contactRegistered r uid => .onContactRegistered s r uid

namespace State

/-- The server has just started, on a registrar with these records. -/
def init (records : String → Option Record) : State A R :=
  ⟨System.init, records, fun _ => [], fun _ => none, fun _ => []⟩

/-- The registrar evaluates a request of a subscription. -/
def evaluate (S : Sdk A R) (st : State A R) (s : SubscriptionId) : RegistrarRequest → State A R
  | .fetch aor =>
      { st with
        outbox := Function.update st.outbox s
          (st.outbox s ++ [.recordFound (st.records (S.recordKey aor))]) }
  | .subscribe key => { st with watched := Function.update st.watched s (some key) }
  | .unsubscribe _ => { st with watched := Function.update st.watched s none }

end State

section Rooms

variable [DecidableEq R]

/-- The requests that a call of the handler issues, to `RegistrarDb`, through the
    subscriptions that it starts and stops. -/
def issued (S : Sdk A R) (server : ConferenceServer) (sys : System A R) :
    Call A R → List (SubscriptionId × RegistrarRequest)
  | .subscribe chatRoom address =>
      if sys.findSubscription S chatRoom address then []
      else if S.getDomain address ∈ server.localDomains then
        ((OwnRegistrationSubscription.make S server.capabilityCheckEnabled chatRoom
          address).start S).2.map (sys.subs.next, ·)
      else []
  | .unsubscribe chatRoom address =>
      ((sys.mSubscriptions.equalRange (System.getSubscriptionKey S address)).filter
        (fun entry => sys.getChatRoom entry.2 = some chatRoom)).flatMap
          (fun entry => stopRequests S sys entry.2)
  | .unsubscribeAll => (stored sys).flatMap (stopRequests S sys)

def step (S : Sdk A R) (server : ConferenceServer) (st : State A R) : Act A R → State A R
  | .call call =>
      { st with
        system := Handlers.step S server st.system call.op
        requests := fun s => st.requests s ++ addressed s (issued S server st.system call) }
  | .onNotifyReceived e body =>
      { st with system := Handlers.step S server st.system (.onNotifyReceived e body) }
  | .onSubscriptionStateChanged e state =>
      { st with system := Handlers.step S server st.system (.onSubscriptionStateChanged e state) }
  | .change key r uid =>
      { st with
        records := Function.update st.records key (some r)
        outbox := fun s => if st.watched s = some key
          then st.outbox s ++ [.contactRegistered r uid] else st.outbox s }
  | .serve s =>
      match st.requests s with
      | [] => st
      | request :: rest =>
          State.evaluate S { st with requests := Function.update st.requests s rest } s request
  | .deliver s =>
      match st.outbox s with
      | [] => st
      | message :: rest =>
          { st with
            outbox := Function.update st.outbox s rest
            system := Handlers.step S server st.system (messageOp s message) }

/-- The machine of the handler and the registrar. -/
def machine (S : Sdk A R) (server : ConferenceServer) (records : String → Option Record) :
    Machine (State A R) (Act A R) where
  init := State.init records
  step := step S server

end Rooms

/-! ## One subscription among them -/

/-- An own subscription in the store, which has an AOR. -/
structure Starts (sys : System A R) (s : SubscriptionId)
    (sub : OwnRegistrationSubscription A R) (aor : String) : Prop where
  stored : s ∈ stored sys
  own : sys.subs.get? s = some (.own sub)
  aor : sub.mParticipantAor = some aor

/-- What concerns one subscription, as a state of the isolated race. -/
def view (S : Sdk A R) (st : State A R) (s : SubscriptionId)
    (sub : OwnRegistrationSubscription A R) (aor : String) : StartRace.State A R where
  record := st.records (S.recordKey aor)
  requests := st.requests s
  subscribed := (st.watched s).isSome
  outbox := st.outbox s
  sub := sub
  calls := callsMadeBy s st.system.log

/-- What concerns an own subscription that has no AOR: nothing. -/
structure Idle (st : State A R) (s : SubscriptionId)
    (sub : OwnRegistrationSubscription A R) : Prop where
  active : sub.mActive = false
  requests : st.requests s = []
  watched : st.watched s = none
  outbox : st.outbox s = []
  calls : callsMadeBy s st.system.log = []

/-- What an action is for the isolated race of one subscription. -/
def project (s : SubscriptionId) (key : String) : Act A R → Option Step
  | .change key' r uid => if key' = key then some (.change r uid) else none
  | .serve s' => if s' = s then some .serve else none
  | .deliver s' => if s' = s then some .deliver else none
  | _ => none

/-- Where the registrar is with the two requests of `start()`. -/
inductive Phase (S : Sdk A R) (aor : String) : List RegistrarRequest → Option String → Prop where
  | issued : Phase S aor [.fetch aor, .subscribe (S.recordKey aor)] none
  | fetched : Phase S aor [.subscribe (S.recordKey aor)] none
  | activated : Phase S aor [] (some (S.recordKey aor))

theorem Phase.watched {S : Sdk A R} {aor : String} {requests : List RegistrarRequest}
    {watched : Option String} (h : Phase S aor requests watched) :
    watched = none ∨ watched = some (S.recordKey aor) := by
  cases h with
  | issued => exact Or.inl rfl
  | fetched => exact Or.inl rfl
  | activated => exact Or.inr rfl

/-- The registrar serves each subscription in the store, and knows none that is
    not made yet. -/
structure Wired (S : Sdk A R) (st : State A R) : Prop where
  sound : Sound S st.system
  unknown : ∀ s, st.system.subs.next ≤ s → st.requests s = [] ∧ st.watched s = none ∧
    st.outbox s = [] ∧ callsMadeBy s st.system.log = []
  phase : ∀ s sub aor, Starts st.system s sub aor → Phase S aor (st.requests s) (st.watched s)

/-! ## Who is asked for what -/

theorem addressed_eq_nil {s : SubscriptionId} {reqs : List (SubscriptionId × RegistrarRequest)}
    (h : ∀ p ∈ reqs, p.1 ≠ s) : addressed s reqs = [] :=
  List.filterMap_eq_nil_iff.mpr (fun p hp => if_neg (h p hp))

theorem addressed_own (s : SubscriptionId) (reqs : List RegistrarRequest) :
    addressed s (reqs.map (s, ·)) = reqs := by
  rw [addressed, List.filterMap_map]
  simp

theorem stopRequests_by (S : Sdk A R) (sys : System A R) (s : SubscriptionId) :
    ∀ p ∈ stopRequests S sys s, p.1 = s := by
  intro p hp
  rw [stopRequests] at hp
  split at hp
  · obtain ⟨_, -, rfl⟩ := List.mem_map.mp hp
    rfl
  · cases hp

/-- What is dropped has left the store. -/
theorem not_stored_dropEntry {S : Sdk A R} {sys : System A R} (h : Sound S sys)
    {entry : String × SubscriptionId} (hin : entry ∈ sys.mSubscriptions) :
    entry.2 ∉ HandlerSteps.stored (dropEntry S sys entry) := by
  rw [HandlerSteps.stored, mSubscriptions_dropEntry]
  exact (List.nodup_cons.mp ((stored_perm_erase hin).nodup_iff.mp h.stored_nodup)).1

section Rooms

variable [DecidableEq R]

/-- A subscription that neither enters nor leaves the store issues nothing. -/
theorem issued_by {S : Sdk A R} {server : ConferenceServer} {sys : System A R} (h : Sound S sys)
    (call : Call A R) : ∀ p ∈ issued S server sys call,
      (p.1 = sys.subs.next ∧ sys.subs.next < (Handlers.step S server sys call.op).subs.next) ∨
      (p.1 ∈ HandlerSteps.stored sys ∧
        p.1 ∉ HandlerSteps.stored (Handlers.step S server sys call.op)) := by
  intro p hp
  cases call with
  | subscribe chatRoom address =>
      rw [issued] at hp
      split at hp
      · cases hp
      · rename_i hfind
        split at hp
        · rename_i hlocal
          obtain ⟨_, -, rfl⟩ := List.mem_map.mp hp
          refine Or.inl ⟨rfl, ?_⟩
          show _ < (sys.subscribe S server chatRoom address).subs.next
          rw [(added_own server h (Bool.eq_false_iff.mpr hfind) hlocal).next]
          exact Nat.lt_succ_self _
        · cases hp
  | unsubscribe chatRoom address =>
      right
      obtain ⟨entry, hentry, hreq⟩ := List.mem_flatMap.mp hp
      obtain ⟨hrange, hroom⟩ := List.mem_filter.mp hentry
      obtain ⟨hin, hkey⟩ := Multimap.mem_equalRange.mp hrange
      have hroom := of_decide_eq_true hroom
      rw [stopRequests_by S sys entry.2 p hreq]
      refine ⟨mem_stored.mpr ⟨entry, hin, rfl⟩, ?_⟩
      show entry.2 ∉ HandlerSteps.stored (sys.unsubscribe S chatRoom address)
      rcases unsubscribe_cases h chatRoom address with
        ⟨hnone, -⟩ | ⟨entry', hin', hkey', hroom', hdrop⟩
      · exact absurd hroom (hnone entry hin hkey)
      · -- the store has one entry for the pair
        obtain rfl := h.single entry hin entry' hin' (hkey.trans hkey'.symm)
          (hroom.trans hroom'.symm)
        rw [hdrop]
        exact not_stored_dropEntry h hin
  | unsubscribeAll =>
      right
      obtain ⟨s, hs, hreq⟩ := List.mem_flatMap.mp hp
      rw [stopRequests_by S sys s p hreq]
      refine ⟨hs, ?_⟩
      show s ∉ HandlerSteps.stored (sys.unsubscribeAll S)
      rw [HandlerSteps.stored, h.unsubscribeAll.2.1]
      exact List.not_mem_nil

/-- A subscription that stays in the store issues nothing more. -/
theorem issued_of_stays {S : Sdk A R} {server : ConferenceServer} {sys : System A R}
    (h : Sound S sys) (call : Call A R) {s : SubscriptionId} (hs : s ∈ HandlerSteps.stored sys)
    (hstays : s ∈ HandlerSteps.stored (Handlers.step S server sys call.op)) :
    addressed s (issued S server sys call) = [] := by
  refine addressed_eq_nil ?_
  intro p hp
  rintro rfl
  rcases issued_by h call p hp with ⟨hnew, -⟩ | ⟨-, hgone⟩
  · exact absurd (h.lt_next hs) (hnew ▸ Nat.lt_irrefl _)
  · exact hgone hstays

/-- A subscription that was never made issues nothing. -/
theorem issued_unknown {S : Sdk A R} {server : ConferenceServer} {sys : System A R}
    (h : Sound S sys) (call : Call A R) {s : SubscriptionId}
    (hs : (Handlers.step S server sys call.op).subs.next ≤ s) :
    addressed s (issued S server sys call) = [] := by
  refine addressed_eq_nil ?_
  intro p hp
  rintro rfl
  rcases issued_by h call p hp with ⟨hnew, hlt⟩ | ⟨hold, -⟩
  · rw [hnew] at hs
    exact absurd hlt (Nat.not_lt.mpr hs)
  · have hle := (onward_step S server h call.op).next
    exact absurd (h.lt_next hold) (Nat.not_lt.mpr (Nat.le_trans hle hs))

end Rooms

/-! ## What becomes of one subscription -/

theorem Starts.active {S : Sdk A R} {sys : System A R} (h : Sound S sys) {s : SubscriptionId}
    {sub : OwnRegistrationSubscription A R} {aor : String} (hs : Starts sys s sub aor) :
    sub.mActive = true := by
  rw [active_of_stored h hs.stored hs.own, hs.aor]
  rfl

theorem subject_own {sys : System A R} {s : SubscriptionId}
    {sub : OwnRegistrationSubscription A R} (hs : sys.subs.get? s = some (.own sub)) :
    subject sys s = some (.own { sub with mActive := false }) := by
  rw [subject, hs]
  rfl

/-- What is fixed about two subscriptions is all there is, but for the activity. -/
theorem own_of_subject {sys : System A R} {s : SubscriptionId}
    {sub : OwnRegistrationSubscription A R}
    (h : subject sys s = some (.own { sub with mActive := false })) :
    ∃ sub', sys.subs.get? s = some (.own sub') ∧ sub'.mParticipantAor = sub.mParticipantAor ∧
      (sub'.mActive = sub.mActive → sub' = sub) := by
  rw [subject] at h
  cases hget : sys.subs.get? s with
  | none =>
      rw [hget] at h
      cases h
  | some made =>
      rw [hget] at h
      cases made with
      | external sub' => cases h
      | own sub' =>
          obtain ⟨hbase, haor, -⟩ := OwnRegistrationSubscription.mk.inj
            (Subscription.own.inj (Option.some.inj h))
          refine ⟨sub', rfl, haor, ?_⟩
          intro hactive
          cases sub
          cases sub'
          rw [OwnRegistrationSubscription.mk.injEq]
          exact ⟨hbase, haor, hactive⟩

section Rooms

variable [DecidableEq R]

/-- An own subscription that is in the store after an operation was there before,
    as it is, or the operation has made it. -/
theorem own_of_step {S : Sdk A R} (server : ConferenceServer) {sys : System A R}
    (h : Sound S sys) (op : Op A R) {s : SubscriptionId}
    {sub : OwnRegistrationSubscription A R}
    (hs : s ∈ HandlerSteps.stored (Handlers.step S server sys op))
    (hown : (Handlers.step S server sys op).subs.get? s = some (.own sub)) :
    (s ∈ HandlerSteps.stored sys ∧ sys.subs.get? s = some (.own sub)) ∨
      ∃ chatRoom address, op = .subscribe chatRoom address ∧
        sys.findSubscription S chatRoom address = false ∧
        S.getDomain address ∈ server.localDomains ∧ s = sys.subs.next ∧
        { sub with mActive := false } =
          OwnRegistrationSubscription.make S server.capabilityCheckEnabled chatRoom address := by
  have hsound := sound_step S server sys op h
  have hactive := active_of_stored hsound hs hown
  by_cases hlt : s < sys.subs.next
  · left
    have honward := onward_step S server h op
    have hstored := honward.entered s hs hlt
    obtain ⟨sub', hget, haor, hsame⟩ :=
      own_of_subject ((honward.subject s hlt).symm.trans (subject_own hown))
    have hactive' := active_of_stored h hstored hget
    obtain rfl := hsame (by rw [hactive', haor, hactive])
    exact ⟨hstored, hget⟩
  · right
    have hnew : s ∉ HandlerSteps.stored sys := fun hold => hlt (h.lt_next hold)
    rcases stored_step S server h op hs with ⟨hold, -⟩ | ⟨chatRoom, address, rfl, -⟩
    · exact absurd hold hnew
    · have hmem : s ∈ HandlerSteps.stored (sys.subscribe S server chatRoom address) := hs
      have hget : (sys.subscribe S server chatRoom address).subs.get? s = some (.own sub) := hown
      rcases subscribe_cases S server h chatRoom address with
        ⟨-, hsame⟩ | ⟨hfind, hlocal, hadd, -⟩ | ⟨-, -, hadd, -⟩
      · rw [hsame] at hmem
        exact absurd hmem hnew
      · obtain rfl := (hadd.mem_stored_iff.mp hmem).resolve_right hnew
        refine ⟨chatRoom, address, rfl, hfind, hlocal, rfl, ?_⟩
        have hsubject := (subject_own hget).symm.trans (hadd.subject sys.subs.next)
        rw [if_pos rfl] at hsubject
        exact Subscription.own.inj (Option.some.inj hsubject)
      · obtain rfl := (hadd.mem_stored_iff.mp hmem).resolve_right hnew
        have hsubject := (subject_own hget).symm.trans (hadd.subject sys.subs.next)
        rw [if_pos rfl] at hsubject
        cases hsubject

/-- The same for a subscription that has an AOR, which is active from the call
    that makes it on. -/
theorem starts_of_step {S : Sdk A R} (server : ConferenceServer) {sys : System A R}
    (h : Sound S sys) (op : Op A R) {s : SubscriptionId}
    {sub : OwnRegistrationSubscription A R} {aor : String}
    (hs : Starts (Handlers.step S server sys op) s sub aor) :
    Starts sys s sub aor ∨
      ∃ chatRoom address, op = .subscribe chatRoom address ∧
        sys.findSubscription S chatRoom address = false ∧
        S.getDomain address ∈ server.localDomains ∧ s = sys.subs.next ∧
        sub = { OwnRegistrationSubscription.make S server.capabilityCheckEnabled chatRoom address
          with mActive := true } := by
  rcases own_of_step server h op hs.stored hs.own with
    ⟨hstored, hget⟩ | ⟨chatRoom, address, hop, hfind, hlocal, hnext, hmade⟩
  · exact Or.inl ⟨hstored, hget, hs.aor⟩
  · refine Or.inr ⟨chatRoom, address, hop, hfind, hlocal, hnext, ?_⟩
    have hactive := hs.active (sound_step S server sys op h)
    rw [← hmade]
    cases sub
    simp only at hactive
    subst hactive
    rfl

/-- A call of the handler adds no call of a subscription made before. -/
theorem callsMadeBy_call {S : Sdk A R} (server : ConferenceServer) {sys : System A R}
    (h : Sound S sys) (call : Call A R) {s : SubscriptionId} (hlt : s < sys.subs.next) :
    callsMadeBy s (Handlers.step S server sys call.op).log = callsMadeBy s sys.log := by
  cases call with
  | subscribe chatRoom address =>
      show callsMadeBy s (sys.subscribe S server chatRoom address).log = _
      have hadded : ∀ {made : Subscription A R},
          Added S sys (sys.subscribe S server chatRoom address) made →
          callsMadeBy s (sys.subscribe S server chatRoom address).log = callsMadeBy s sys.log := by
        intro made hadd
        obtain ⟨calls, hlog, hby⟩ := hadd.log
        rw [hlog]
        refine callsMadeBy_others sys.log ?_
        intro s' room call hin
        rcases List.mem_cons.mp hin with heq | hin
        · cases heq
        · obtain ⟨_, _, heq⟩ := hby _ hin
          obtain ⟨rfl, -, -⟩ := Handlers.Entry.called.inj heq
          exact (Nat.ne_of_lt hlt).symm
      rcases subscribe_cases S server h chatRoom address with
        ⟨-, hsame⟩ | ⟨-, -, hadd, -⟩ | ⟨-, -, hadd, -⟩
      · rw [hsame]
      · exact hadded hadd
      · exact hadded hadd
  | unsubscribe chatRoom address =>
      obtain ⟨new, hlog, hnone⟩ := log_unsubscribe h chatRoom address
      show callsMadeBy s (sys.unsubscribe S chatRoom address).log = _
      rw [hlog]
      exact callsMadeBy_others sys.log (fun s' room call hin => absurd hin (hnone s' room call))
  | unsubscribeAll =>
      obtain ⟨new, hlog, hnone⟩ := log_unsubscribeAll h
      show callsMadeBy s (sys.unsubscribeAll S).log = _
      rw [hlog]
      exact callsMadeBy_others sys.log (fun s' room call hin => absurd hin (hnone s' room call))

omit [DecidableEq R] in
/-- A NOTIFY adds no call of an own subscription. -/
theorem callsMadeBy_notify {S : Sdk A R} {sys : System A R} (h : Sound S sys) (e : EventId)
    (body : NotifyBody) {s : SubscriptionId} (hown : clientOf sys s = none) :
    callsMadeBy s (sys.onNotifyReceived S e body).log = callsMadeBy s sys.log := by
  rw [log_onNotifyReceived]
  refine callsMadeBy_others sys.log ?_
  intro s' room call hin
  rintro rfl
  obtain ⟨em, hem, -⟩ := List.mem_flatMap.mp hin
  rcases notify_cases h.inv.rest e body with hsame | ⟨c, cl, ri, hcl, hev, rfl, -⟩
  · rw [hsame] at hem
    cases hem
  · obtain ⟨-, hpointer, -⟩ := calls_notify h hcl hev hin
    rw [hown] at hpointer
    cases hpointer

omit [DecidableEq R] in
/-- A message to a subscription adds the calls that it makes of the message, and
    none of another subscription. -/
theorem callsMadeBy_tellOwn {sys : System A R} {s : SubscriptionId}
    {sub : OwnRegistrationSubscription A R} (hsub : sys.subs.get? s = some (.own sub))
    (s' : SubscriptionId) (calls : OwnRegistrationSubscription A R → List (ChatRoomCall A)) :
    callsMadeBy s (sys.tellOwn s' calls).log =
      callsMadeBy s sys.log ++ if s' = s then calls sub else [] := by
  by_cases hs : s' = s
  · subst hs
    rw [if_pos rfl, System.tellOwn, hsub]
    show callsMadeBy s' (sys.log ++ _) = _
    rw [callsMadeBy_append, callsMadeBy_map]
  · rw [if_neg hs, List.append_nil]
    obtain ⟨entries, hlog, hby⟩ := log_tellOwn sys s' calls
    rw [hlog]
    refine callsMadeBy_others sys.log ?_
    intro s'' room call hin
    obtain ⟨_, _, heq⟩ := hby _ hin
    obtain ⟨rfl, -, -⟩ := Handlers.Entry.called.inj heq
    exact hs

/-- Of a message, the calls of a subscription are those that it makes of its own
    messages. -/
theorem callsMadeBy_deliver {S : Sdk A R} (server : ConferenceServer) {sys : System A R}
    {s : SubscriptionId} {sub : OwnRegistrationSubscription A R}
    (hsub : sys.subs.get? s = some (.own sub)) (s' : SubscriptionId) (message : Message) :
    callsMadeBy s (Handlers.step S server sys (messageOp s' message)).log =
      callsMadeBy s sys.log ++ if s' = s then handle S sub message else [] := by
  cases message with
  | recordFound r => exact callsMadeBy_tellOwn hsub s' _
  | contactRegistered r uid => exact callsMadeBy_tellOwn hsub s' _

/-- The step of the isolated race that an action is, if it is one. -/
def follow (S : Sdk A R) (m : StartRace.State A R) : Option Step → StartRace.State A R
  | none => m
  | some s => StartRace.step S m s

omit [DecidableEq R] in
/-- What `start()` leaves, for the isolated race. -/
theorem start_of_aor (S : Sdk A R) {sub : OwnRegistrationSubscription A R} {aor : String}
    (haor : sub.mParticipantAor = some aor) :
    sub.start S =
      ({ sub with mActive := true }, [.fetch aor, .subscribe (S.recordKey aor)]) := by
  rw [OwnRegistrationSubscription.start, haor]

/-- A subscription that a call has made begins its race. -/
theorem view_made {S : Sdk A R} {server : ConferenceServer} {st : State A R} (h : Wired S st)
    {chatRoom : R} {address : A} {aor : String}
    (hfind : st.system.findSubscription S chatRoom address = false)
    (hlocal : S.getDomain address ∈ server.localDomains)
    (haor : (OwnRegistrationSubscription.make S server.capabilityCheckEnabled chatRoom
      address).mParticipantAor = some aor) :
    view S (step S server st (.call (.subscribe chatRoom address))) st.system.subs.next
        { OwnRegistrationSubscription.make S server.capabilityCheckEnabled chatRoom address with
          mActive := true } aor =
      (StartRace.machine S (OwnRegistrationSubscription.make S server.capabilityCheckEnabled
        chatRoom address) (st.records (S.recordKey aor))).init := by
  obtain ⟨hrequests, hwatched, houtbox, hcalls⟩ := h.unknown _ (Nat.le_refl _)
  have hissued : addressed st.system.subs.next
      (issued S server st.system (.subscribe chatRoom address)) =
      [.fetch aor, .subscribe (S.recordKey aor)] := by
    rw [issued, hfind, if_neg Bool.false_ne_true, if_pos hlocal, addressed_own,
      start_of_aor S haor]
  have hlog : callsMadeBy st.system.subs.next
      (Handlers.step S server st.system (.subscribe chatRoom address)).log = [] := by
    show callsMadeBy _ (st.system.subscribe S server chatRoom address).log = []
    rw [log_subscribe_own S server hfind hlocal, callsMadeBy_started, hcalls]
    rfl
  rw [view, StartRace.machine, StartRace.State.mk.injEq, start_of_aor S haor]
  refine ⟨rfl, ?_, ?_, houtbox, rfl, hlog⟩
  · show st.requests _ ++ addressed _ _ = _
    rw [hrequests, hissued]
    rfl
  · show (st.watched _).isSome = false
    rw [hwatched]
    rfl

omit [DecidableEq R] in
/-- Evaluating a request of one subscription leaves the others alone. -/
theorem evaluate_apart (S : Sdk A R) (st : State A R) {s s' : SubscriptionId} (hne : s ≠ s')
    (request : RegistrarRequest) :
    (st.evaluate S s' request).system = st.system ∧
      (st.evaluate S s' request).records = st.records ∧
      (st.evaluate S s' request).requests s = st.requests s ∧
      (st.evaluate S s' request).watched s = st.watched s ∧
      (st.evaluate S s' request).outbox s = st.outbox s := by
  cases request with
  | fetch aor => exact ⟨rfl, rfl, rfl, rfl, Function.update_of_ne hne _ _⟩
  | subscribe key => exact ⟨rfl, rfl, rfl, Function.update_of_ne hne _ _, rfl⟩
  | unsubscribe key => exact ⟨rfl, rfl, rfl, Function.update_of_ne hne _ _, rfl⟩

/-- Serving one subscription is nothing to another. -/
theorem serve_apart (S : Sdk A R) (server : ConferenceServer) (st : State A R)
    {s s' : SubscriptionId} (hne : s ≠ s') :
    (step S server st (.serve s')).records = st.records ∧
      (step S server st (.serve s')).requests s = st.requests s ∧
      (step S server st (.serve s')).watched s = st.watched s ∧
      (step S server st (.serve s')).outbox s = st.outbox s := by
  rw [step]
  split
  · exact ⟨rfl, rfl, rfl, rfl⟩
  · rename_i request rest _
    obtain ⟨-, hrecords, hrequests, hwatched, houtbox⟩ := evaluate_apart S
      { st with requests := Function.update st.requests s' rest } hne request
    exact ⟨hrecords, hrequests.trans (Function.update_of_ne hne _ _), hwatched, houtbox⟩

theorem serve_system (S : Sdk A R) (server : ConferenceServer) (st : State A R)
    (s : SubscriptionId) : (step S server st (.serve s)).system = st.system := by
  rw [step]
  split
  · rfl
  · rename_i request _ _
    cases request <;> rfl

/-- What the registrar has done about a subscription when it has served it. -/
theorem serve_own (S : Sdk A R) (server : ConferenceServer) (st : State A R)
    {s : SubscriptionId} {aor : String} (h : Phase S aor (st.requests s) (st.watched s))
    (sub : OwnRegistrationSubscription A R) :
    view S (step S server st (.serve s)) s sub aor =
        StartRace.step S (view S st s sub aor) .serve ∧
      Phase S aor ((step S server st (.serve s)).requests s)
        ((step S server st (.serve s)).watched s) := by
  generalize hrequests : st.requests s = requests at h
  generalize hwatched : st.watched s = watched at h
  cases h with
  | issued =>
      simp only [step, view, StartRace.step, hrequests, State.evaluate, StartRace.evaluate,
        Function.update_self, hwatched]
      exact ⟨trivial, .fetched⟩
  | fetched =>
      simp only [step, view, StartRace.step, hrequests, State.evaluate, StartRace.evaluate,
        Function.update_self, hwatched]
      exact ⟨rfl, .activated⟩
  | activated =>
      simp only [step, view, StartRace.step, hrequests, hwatched]
      exact ⟨trivial, .activated⟩

/-- A change of a record, in the race of a subscription to it and apart from the
    others. -/
theorem view_change {S : Sdk A R} (server : ConferenceServer) {st : State A R} (h : Wired S st)
    {s : SubscriptionId} {sub : OwnRegistrationSubscription A R} {aor : String}
    (hs : Starts st.system s sub aor) (key : String) (r : Record) (uid : String) :
    view S (step S server st (.change key r uid)) s sub aor =
      follow S (view S st s sub aor)
        (project s (S.recordKey aor) (.change key r uid : Act A R)) := by
  have hwatched := (h.phase s sub aor hs).watched
  by_cases hkey : key = S.recordKey aor
  · subst hkey
    rw [project, if_pos rfl, follow, StartRace.step, view, view, StartRace.State.mk.injEq]
    refine ⟨Function.update_self .., rfl, rfl, ?_, rfl, rfl⟩
    rcases hwatched with hnone | hsome
    · simp [step, hnone]
    · simp [step, hsome]
  · rw [project, if_neg hkey, follow, view, view, StartRace.State.mk.injEq]
    refine ⟨Function.update_of_ne (Ne.symm hkey) _ _, rfl, rfl, if_neg ?_, rfl, rfl⟩
    rcases hwatched with hnone | hsome
    · rw [hnone]
      intro heq
      cases heq
    · rw [hsome]
      intro heq
      exact hkey (Option.some.inj heq).symm

/-- The registrar serves one subscription. -/
theorem view_serve {S : Sdk A R} (server : ConferenceServer) {st : State A R} (h : Wired S st)
    {s : SubscriptionId} {sub : OwnRegistrationSubscription A R} {aor : String}
    (hs : Starts st.system s sub aor) (s' : SubscriptionId) :
    view S (step S server st (.serve s')) s sub aor =
      follow S (view S st s sub aor) (project s (S.recordKey aor) (.serve s' : Act A R)) := by
  by_cases hs' : s' = s
  · subst hs'
    rw [project, if_pos rfl, follow]
    exact (serve_own S server st (h.phase s' sub aor hs) sub).1
  · obtain ⟨hrecords, hrequests, hwatched, houtbox⟩ := serve_apart S server st (Ne.symm hs')
    rw [project, if_neg hs', follow, view, view, StartRace.State.mk.injEq,
      serve_system, hrecords, hrequests, hwatched, houtbox]
    exact ⟨rfl, rfl, rfl, rfl, rfl, rfl⟩

/-- A message is delivered, to the subscription or to another one. -/
theorem view_deliver {S : Sdk A R} (server : ConferenceServer) {st : State A R} (h : Wired S st)
    {s : SubscriptionId} {sub : OwnRegistrationSubscription A R} {aor : String}
    (s' : SubscriptionId) (hs : Starts (step S server st (.deliver s')).system s sub aor) :
    Starts st.system s sub aor ∧ view S (step S server st (.deliver s')) s sub aor =
      follow S (view S st s sub aor) (project s (S.recordKey aor) (.deliver s' : Act A R)) := by
  cases hout : st.outbox s' with
  | nil =>
      have hstay : step S server st (.deliver s') = st := by rw [step, hout]
      rw [hstay] at hs ⊢
      refine ⟨hs, ?_⟩
      rw [project]
      split
      · rename_i hs'
        subst hs'
        rw [follow, StartRace.step, view, hout]
      · rfl
  | cons message rest =>
      have hstep : step S server st (.deliver s') = { st with
          outbox := Function.update st.outbox s' rest
          system := Handlers.step S server st.system (messageOp s' message) } := by
        rw [step, hout]
      rw [hstep] at hs ⊢
      rcases starts_of_step server h.sound (messageOp s' message) hs with hold | ⟨_, _, hop, -⟩
      · refine ⟨hold, ?_⟩
        have hcalls := callsMadeBy_deliver (S := S) server hold.own s' message
        by_cases hs' : s' = s
        · subst hs'
          rw [if_pos rfl] at hcalls
          rw [project, if_pos rfl, follow, StartRace.step]
          simp only [view, hout, hcalls, Function.update_self]
        · rw [if_neg hs', List.append_nil] at hcalls
          rw [project, if_neg hs', follow]
          simp only [view, hcalls, Function.update_of_ne (Ne.symm hs')]
      · cases message <;> cases hop

/-- **One subscription among the others** goes through its own race: an action
    is a step of it, or leaves it alone. -/
theorem view_step {S : Sdk A R} (server : ConferenceServer) {st : State A R} (h : Wired S st)
    (act : Act A R) {s : SubscriptionId} {sub : OwnRegistrationSubscription A R} {aor : String}
    (hs : Starts (step S server st act).system s sub aor) :
    (∃ chatRoom address, act = .call (.subscribe chatRoom address) ∧
      s = st.system.subs.next ∧
      (OwnRegistrationSubscription.make S server.capabilityCheckEnabled chatRoom
        address).mParticipantAor = some aor ∧
      view S (step S server st act) s sub aor =
        (StartRace.machine S (OwnRegistrationSubscription.make S server.capabilityCheckEnabled
          chatRoom address) (st.records (S.recordKey aor))).init) ∨
    (Starts st.system s sub aor ∧
      view S (step S server st act) s sub aor =
        follow S (view S st s sub aor) (project s (S.recordKey aor) act)) := by
  -- where only the handler moves, and makes no call of the subscription
  have hquiet : ∀ {sys' : System A R}, Starts st.system s sub aor →
      callsMadeBy s sys'.log = callsMadeBy s st.system.log →
      view S { st with system := sys' } s sub aor = view S st s sub aor := by
    intro sys' _ hlog
    rw [view, hlog]
    rfl
  cases act with
  | call call =>
      rcases starts_of_step server h.sound call.op hs with
        hold | ⟨chatRoom, address, hop, hfind, hlocal, rfl, rfl⟩
      · right
        refine ⟨hold, ?_⟩
        show view S _ s sub aor = view S st s sub aor
        have hrequests : st.requests s ++ addressed s (issued S server st.system call) =
            st.requests s := by
          rw [issued_of_stays h.sound call hold.stored hs.stored, List.append_nil]
        rw [view, view, StartRace.State.mk.injEq]
        exact ⟨rfl, hrequests, rfl, rfl, rfl,
          callsMadeBy_call server h.sound call (h.sound.lt_next hold.stored)⟩
      · left
        obtain rfl : call = .subscribe chatRoom address := by
          cases call with
          | subscribe chatRoom' address' =>
              obtain ⟨rfl, rfl⟩ := Op.subscribe.inj hop
              rfl
          | unsubscribe chatRoom' address' => cases hop
          | unsubscribeAll => cases hop
        exact ⟨chatRoom, address, rfl, rfl, hs.aor, view_made h hfind hlocal hs.aor⟩
  | onNotifyReceived e body =>
      rcases starts_of_step server h.sound (.onNotifyReceived e body) hs with
        hold | ⟨_, _, hop, -⟩
      · exact Or.inr ⟨hold, hquiet hold
          (callsMadeBy_notify h.sound e body (clientOf_own hold.own))⟩
      · cases hop
  | onSubscriptionStateChanged e state =>
      rcases starts_of_step server h.sound (.onSubscriptionStateChanged e state) hs with
        hold | ⟨_, _, hop, -⟩
      · exact Or.inr ⟨hold, hquiet hold rfl⟩
      · cases hop
  | change key r uid => exact Or.inr ⟨hs, view_change server h hs key r uid⟩
  | serve s' =>
      have hold : Starts st.system s sub aor := serve_system S server st s' ▸ hs
      exact Or.inr ⟨hold, view_serve server h hold s'⟩
  | deliver s' => exact Or.inr (view_deliver server h s' hs)

/-- What the handler is called for when an action is taken, if it is. -/
def handlerOp (st : State A R) : Act A R → Option (Op A R)
  | .call call => some call.op
  | .onNotifyReceived e body => some (.onNotifyReceived e body)
  | .onSubscriptionStateChanged e state => some (.onSubscriptionStateChanged e state)
  | .change _ _ _ => none
  | .serve _ => none
  | .deliver s => (st.outbox s).head?.map (messageOp s)

/-- The handler takes a step of its own machine, or none. -/
theorem system_step (S : Sdk A R) (server : ConferenceServer) (st : State A R) (act : Act A R) :
    (step S server st act).system =
      match handlerOp st act with
      | none => st.system
      | some op => Handlers.step S server st.system op := by
  cases act with
  | call call => rfl
  | onNotifyReceived e body => rfl
  | onSubscriptionStateChanged e state => rfl
  | change key r uid => rfl
  | serve s => exact serve_system S server st s
  | deliver s =>
      rw [step, handlerOp]
      cases st.outbox s <;> rfl

/-- An action touches the queues of a subscription that is not made yet only by
    making it. -/
theorem unknown_step {S : Sdk A R} (server : ConferenceServer) {st : State A R} (h : Wired S st)
    (act : Act A R) {s : SubscriptionId} (hs : (step S server st act).system.subs.next ≤ s) :
    (step S server st act).requests s = [] ∧ (step S server st act).watched s = none ∧
      (step S server st act).outbox s = [] ∧
      callsMadeBy s (step S server st act).system.log = [] := by
  have hmono : st.system.subs.next ≤ (step S server st act).system.subs.next := by
    rw [system_step]
    split
    · exact Nat.le_refl _
    · exact (onward_step S server h.sound _).next
  obtain ⟨hrequests, hwatched, houtbox, hcalls⟩ := h.unknown s (Nat.le_trans hmono hs)
  have hquiet : callsMadeBy s (step S server st act).system.log = [] := by
    rw [system_step] at hs ⊢
    split
    · exact hcalls
    · rename_i op hop
      rw [hop] at hs
      obtain ⟨new, hlog, hby⟩ := calls_step S server h.sound op
      rw [hlog, callsMadeBy_others, hcalls]
      rintro s' room call hin rfl
      have hlt := (sound_step S server st.system op h.sound).lt_next (hby s' room call hin).1
      exact absurd hlt (Nat.not_lt.mpr hs)
  cases act with
  | call call =>
      refine ⟨?_, hwatched, houtbox, hquiet⟩
      show st.requests s ++ addressed s (issued S server st.system call) = []
      rw [hrequests, issued_unknown h.sound call hs]
      rfl
  | onNotifyReceived e body => exact ⟨hrequests, hwatched, houtbox, hquiet⟩
  | onSubscriptionStateChanged e state => exact ⟨hrequests, hwatched, houtbox, hquiet⟩
  | change key r uid =>
      refine ⟨hrequests, hwatched, ?_, hquiet⟩
      have hnot : st.watched s ≠ some key := by
        rw [hwatched]
        exact fun heq => nomatch heq
      exact (if_neg hnot).trans houtbox
  | serve s' =>
      by_cases hs' : s = s'
      · subst hs'
        have hstay : step S server st (.serve s) = st := by rw [step, hrequests]
        rw [hstay]
        exact ⟨hrequests, hwatched, houtbox, hcalls⟩
      · obtain ⟨-, hsame, hsame', hsame''⟩ := serve_apart S server st hs'
        exact ⟨hsame.trans hrequests, hsame'.trans hwatched, hsame''.trans houtbox, hquiet⟩
  | deliver s' =>
      cases hout : st.outbox s' with
      | nil =>
          have hstay : step S server st (.deliver s') = st := by rw [step, hout]
          rw [hstay]
          exact ⟨hrequests, hwatched, houtbox, hcalls⟩
      | cons message rest =>
          have hne : s ≠ s' := by
            rintro rfl
            rw [houtbox] at hout
            cases hout
          have hstep : (step S server st (.deliver s')).outbox =
              Function.update st.outbox s' rest ∧
              (step S server st (.deliver s')).requests = st.requests ∧
              (step S server st (.deliver s')).watched = st.watched := by
            rw [step, hout]
            exact ⟨rfl, rfl, rfl⟩
          obtain ⟨hout', hreq', hwatched'⟩ := hstep
          rw [hout', hreq', hwatched', Function.update_of_ne hne]
          exact ⟨hrequests, hwatched, houtbox, hquiet⟩

/-- The registrar goes on serving the subscriptions in the store. -/
theorem phase_step {S : Sdk A R} (server : ConferenceServer) {st : State A R} (h : Wired S st)
    (act : Act A R) {s : SubscriptionId} {sub : OwnRegistrationSubscription A R} {aor : String}
    (hs : Starts (step S server st act).system s sub aor) :
    Phase S aor ((step S server st act).requests s) ((step S server st act).watched s) := by
  rcases view_step server h act hs with ⟨chatRoom, address, rfl, rfl, haor, hview⟩ | ⟨hold, -⟩
  · have hrequests : (step S server st (.call (.subscribe chatRoom address))).requests
        st.system.subs.next = ((OwnRegistrationSubscription.make S
          server.capabilityCheckEnabled chatRoom address).start S).2 :=
      congrArg StartRace.State.requests hview
    rw [hrequests, start_of_aor S haor]
    have hwatched : (step S server st (.call (.subscribe chatRoom address))).watched
        st.system.subs.next = none := (h.unknown _ (Nat.le_refl _)).2.1
    rw [hwatched]
    exact .issued
  · have hphase := h.phase s sub aor hold
    cases act with
    | call call =>
        show Phase S aor (st.requests s ++ addressed s (issued S server st.system call))
          (st.watched s)
        rw [issued_of_stays h.sound call hold.stored hs.stored, List.append_nil]
        exact hphase
    | onNotifyReceived e body => exact hphase
    | onSubscriptionStateChanged e state => exact hphase
    | change key r uid => exact hphase
    | serve s' =>
        by_cases hs' : s = s'
        · subst hs'
          exact (serve_own S server st hphase sub).2
        · obtain ⟨-, hrequests, hwatched, -⟩ := serve_apart S server st hs'
          rw [hrequests, hwatched]
          exact hphase
    | deliver s' =>
        have hsame : (step S server st (.deliver s')).requests s = st.requests s ∧
            (step S server st (.deliver s')).watched s = st.watched s := by
          rw [step]
          split <;> exact ⟨rfl, rfl⟩
        rw [hsame.1, hsame.2]
        exact hphase

/-- **Every action keeps the registrar wired to the handler.** -/
theorem wired_step (S : Sdk A R) (server : ConferenceServer) (st : State A R) (act : Act A R)
    (h : Wired S st) : Wired S (step S server st act) := by
  refine ⟨?_, fun s hs => unknown_step server h act hs,
    fun s sub aor hs => phase_step server h act hs⟩
  rw [system_step]
  split
  · exact h.sound
  · exact sound_step S server st.system _ h.sound

omit [DecidableEq R] in
theorem wired_init (S : Sdk A R) (records : String → Option Record) :
    Wired S (State.init records : State A R) where
  sound := Sound.init S
  unknown := fun _ _ => ⟨rfl, rfl, rfl, rfl⟩
  phase := fun _ _ _ hs => nomatch hs.stored

theorem wired_reach (S : Sdk A R) (server : ConferenceServer) (records : String → Option Record)
    (acts : List (Act A R)) : Wired S ((machine S server records).reach acts) :=
  Machine.invariant_reach (M := machine S server records) (wired_init S records)
    (fun st act h => wired_step S server st act h) acts

/-- A subscription with an AOR has been made by a subscribe, and has run its race
    since then. -/
theorem race_of_starts (S : Sdk A R) (server : ConferenceServer)
    (records : String → Option Record) (acts : List (Act A R)) {s : SubscriptionId}
    {sub : OwnRegistrationSubscription A R} {aor : String}
    (hs : Starts ((machine S server records).reach acts).system s sub aor) :
    ∃ pre chatRoom address post, acts = pre ++ .call (.subscribe chatRoom address) :: post ∧
      s = ((machine S server records).reach pre).system.subs.next ∧
      view S ((machine S server records).reach acts) s sub aor =
        (StartRace.machine S (OwnRegistrationSubscription.make S server.capabilityCheckEnabled
          chatRoom address) (((machine S server records).reach pre).records
            (S.recordKey aor))).reach (post.filterMap (project s (S.recordKey aor))) := by
  induction acts using List.reverseRecOn with
  | nil => exact nomatch hs.stored
  | append_singleton acts act ih =>
      rw [Machine.reach_concat] at hs ⊢
      rcases view_step server (wired_reach S server records acts) act hs with
        ⟨chatRoom, address, rfl, rfl, -, hview⟩ | ⟨hold, hview⟩
      · exact ⟨acts, chatRoom, address, [], rfl, rfl, hview⟩
      · obtain ⟨pre, chatRoom, address, post, rfl, hmade, hrace⟩ := ih hold
        refine ⟨pre, chatRoom, address, post ++ [act], by simp, hmade, hview.trans ?_⟩
        rw [hrace, List.filterMap_append, Machine.reach_append]
        cases hproject : project s (S.recordKey aor) act with
        | none => rw [List.filterMap_cons_none hproject]; rfl
        | some step => rw [List.filterMap_cons_some hproject]; rfl

/-! ## A subscription without an AOR -/

/-- A call that makes a subscription without an AOR leaves it idle. -/
theorem idle_made {S : Sdk A R} {server : ConferenceServer} {st : State A R} (h : Wired S st)
    {chatRoom : R} {address : A} {sub : OwnRegistrationSubscription A R}
    (hfind : st.system.findSubscription S chatRoom address = false)
    (hlocal : S.getDomain address ∈ server.localDomains) (hactive : sub.mActive = false)
    (haor : (OwnRegistrationSubscription.make S server.capabilityCheckEnabled chatRoom
      address).mParticipantAor = none) :
    Idle (step S server st (.call (.subscribe chatRoom address))) st.system.subs.next sub := by
  obtain ⟨hrequests, hwatched, houtbox, hcalls⟩ := h.unknown _ (Nat.le_refl _)
  refine ⟨hactive, ?_, hwatched, houtbox, ?_⟩
  · show st.requests _ ++ addressed _ (issued S server st.system _) = []
    rw [hrequests, issued, hfind, if_neg Bool.false_ne_true, if_pos hlocal, addressed_own,
      OwnRegistrationSubscription.start, haor]
    rfl
  · show callsMadeBy _ (st.system.subscribe S server chatRoom address).log = []
    rw [log_subscribe_own S server hfind hlocal, callsMadeBy_started, hcalls]
    rfl

/-- A subscription that is idle stays so for as long as it is in the store. -/
theorem Idle.step {S : Sdk A R} {server : ConferenceServer} {st : State A R} (h : Wired S st)
    {s : SubscriptionId} {sub : OwnRegistrationSubscription A R} (hidle : Idle st s sub)
    (act : Act A R) (hs : s ∈ HandlerSteps.stored st.system)
    (hown : st.system.subs.get? s = some (.own sub))
    (hstays : s ∈ HandlerSteps.stored (step S server st act).system) :
    Idle (step S server st act) s sub := by
  obtain ⟨hactive, hrequests, hwatched, houtbox, hcalls⟩ := hidle
  cases act with
  | call call =>
      refine ⟨hactive, ?_, hwatched, houtbox, ?_⟩
      · show st.requests s ++ addressed s (issued S server st.system call) = []
        rw [issued_of_stays h.sound call hs hstays, hrequests]
        rfl
      · exact (callsMadeBy_call server h.sound call (h.sound.lt_next hs)).trans hcalls
  | onNotifyReceived e body =>
      exact ⟨hactive, hrequests, hwatched, houtbox,
        (callsMadeBy_notify h.sound e body (clientOf_own hown)).trans hcalls⟩
  | onSubscriptionStateChanged e state => exact ⟨hactive, hrequests, hwatched, houtbox, hcalls⟩
  | change key r uid =>
      have hnot : st.watched s ≠ some key := by
        rw [hwatched]
        exact (Option.some_ne_none key).symm
      exact ⟨hactive, hrequests, hwatched, (if_neg hnot).trans houtbox, hcalls⟩
  | serve s' =>
      by_cases hs' : s = s'
      · subst hs'
        have hstay : Registrars.step S server st (.serve s) = st := by
          rw [Registrars.step, hrequests]
        rw [hstay]
        exact ⟨hactive, hrequests, hwatched, houtbox, hcalls⟩
      · obtain ⟨-, hsame, hsame', hsame''⟩ := serve_apart S server st hs'
        refine ⟨hactive, hsame.trans hrequests, hsame'.trans hwatched, hsame''.trans houtbox, ?_⟩
        rw [serve_system]
        exact hcalls
  | deliver s' =>
      cases hout : st.outbox s' with
      | nil =>
          have hstay : Registrars.step S server st (.deliver s') = st := by
            rw [Registrars.step, hout]
          rw [hstay]
          exact ⟨hactive, hrequests, hwatched, houtbox, hcalls⟩
      | cons message rest =>
          -- there is no message to an idle subscription
          have hne : s' ≠ s := by
            rintro rfl
            rw [houtbox] at hout
            cases hout
          have hstep : Registrars.step S server st (.deliver s') = { st with
              outbox := Function.update st.outbox s' rest
              system := Handlers.step S server st.system (messageOp s' message) } := by
            rw [Registrars.step, hout]
          rw [hstep]
          refine ⟨hactive, hrequests, hwatched,
            (Function.update_of_ne hne.symm _ _).trans houtbox, ?_⟩
          show callsMadeBy s (Handlers.step S server st.system (messageOp s' message)).log = []
          rw [callsMadeBy_deliver server hown, if_neg hne, hcalls]
          rfl

/-- An own subscription in the store after an action was there before, or the
    action has made it. -/
theorem own_of_act {S : Sdk A R} (server : ConferenceServer) {st : State A R} (h : Wired S st)
    (act : Act A R) {s : SubscriptionId} {sub : OwnRegistrationSubscription A R}
    (hs : s ∈ HandlerSteps.stored (step S server st act).system)
    (hown : (step S server st act).system.subs.get? s = some (.own sub)) :
    (s ∈ HandlerSteps.stored st.system ∧ st.system.subs.get? s = some (.own sub)) ∨
      ∃ chatRoom address, act = .call (.subscribe chatRoom address) ∧
        st.system.findSubscription S chatRoom address = false ∧
        S.getDomain address ∈ server.localDomains ∧ s = st.system.subs.next ∧
        { sub with mActive := false } =
          OwnRegistrationSubscription.make S server.capabilityCheckEnabled chatRoom address := by
  rw [system_step] at hs hown
  cases hop : handlerOp st act with
  | none =>
      rw [hop] at hs hown
      exact Or.inl ⟨hs, hown⟩
  | some op =>
      rw [hop] at hs hown
      refine (own_of_step server h.sound op hs hown).imp_right ?_
      rintro ⟨chatRoom, address, rfl, hmade⟩
      refine ⟨chatRoom, address, ?_, hmade⟩
      cases act with
      | call call =>
          cases call with
          | subscribe chatRoom' address' =>
              obtain ⟨rfl, rfl⟩ := Op.subscribe.inj (Option.some.inj hop)
              rfl
          | unsubscribe chatRoom' address' => cases hop
          | unsubscribeAll => cases hop
      | onNotifyReceived e body => cases hop
      | onSubscriptionStateChanged e state => cases hop
      | change key r uid => cases hop
      | serve s' => cases hop
      | deliver s' =>
          obtain ⟨message, -, hmessage⟩ := Option.map_eq_some_iff.mp hop
          cases message <;> cases hmessage

/-- A subscription without an AOR has been made by a subscribe too, and nothing
    has concerned it since then. -/
theorem idle_of_no_aor (S : Sdk A R) (server : ConferenceServer)
    (records : String → Option Record) (acts : List (Act A R)) {s : SubscriptionId}
    {sub : OwnRegistrationSubscription A R} (haor : sub.mParticipantAor = none)
    (hs : s ∈ HandlerSteps.stored ((machine S server records).reach acts).system)
    (hown : ((machine S server records).reach acts).system.subs.get? s = some (.own sub)) :
    ∃ pre chatRoom address post, acts = pre ++ .call (.subscribe chatRoom address) :: post ∧
      s = ((machine S server records).reach pre).system.subs.next ∧
      Idle ((machine S server records).reach acts) s sub := by
  induction acts using List.reverseRecOn with
  | nil => cases hs
  | append_singleton acts act ih =>
      have hwired := wired_reach S server records acts
      have hactive := active_of_stored (wired_reach S server records (acts ++ [act])).sound hs hown
      rw [haor] at hactive
      rw [Machine.reach_concat] at hs hown ⊢
      rcases own_of_act server hwired act hs hown with
        ⟨hold, hsame⟩ | ⟨chatRoom, address, rfl, hfind, hlocal, rfl, hmade⟩
      · obtain ⟨pre, chatRoom, address, post, rfl, hnext, hidle⟩ := ih hold hsame
        refine ⟨pre, chatRoom, address, post ++ [act], by simp, hnext, ?_⟩
        exact hidle.step hwired act hold hsame hs
      · refine ⟨acts, chatRoom, address, [], rfl, rfl, ?_⟩
        exact idle_made hwired hfind hlocal hactive (by rw [← hmade]; exact haor)

/-- **EACH SUBSCRIPTION RUNS ITS OWN RACE.**  Whatever else goes on, an own
    subscription in the store has been made by some subscribe of the run.  If its
    participant has an AOR, what concerns it is the state that the isolated race
    from there on, over the steps that concern it, leads to; if not, it is
    inactive and nothing concerns it. -/
theorem isolated (S : Sdk A R) (server : ConferenceServer) (records : String → Option Record)
    (acts : List (Act A R)) {s : SubscriptionId} {sub : OwnRegistrationSubscription A R}
    (hs : s ∈ HandlerSteps.stored ((machine S server records).reach acts).system)
    (hown : ((machine S server records).reach acts).system.subs.get? s = some (.own sub)) :
    ∃ pre chatRoom address post, acts = pre ++ .call (.subscribe chatRoom address) :: post ∧
      s = ((machine S server records).reach pre).system.subs.next ∧
      (∀ aor, sub.mParticipantAor = some aor →
        view S ((machine S server records).reach acts) s sub aor =
          (StartRace.machine S (OwnRegistrationSubscription.make S server.capabilityCheckEnabled
            chatRoom address) (((machine S server records).reach pre).records
              (S.recordKey aor))).reach (post.filterMap (project s (S.recordKey aor)))) ∧
      (sub.mParticipantAor = none → Idle ((machine S server records).reach acts) s sub) := by
  cases haor : sub.mParticipantAor with
  | some aor =>
      obtain ⟨pre, chatRoom, address, post, hacts, hnext, hrace⟩ :=
        race_of_starts S server records acts ⟨hs, hown, haor⟩
      refine ⟨pre, chatRoom, address, post, hacts, hnext, ?_, ?_⟩
      · intro aor' hsame
        obtain rfl := Option.some.inj hsame
        exact hrace
      · intro hnone
        cases hnone
  | none =>
      obtain ⟨pre, chatRoom, address, post, hacts, hnext, hidle⟩ :=
        idle_of_no_aor S server records acts haor hs hown
      refine ⟨pre, chatRoom, address, post, hacts, hnext, ?_, fun _ => hidle⟩
      intro aor hsome
      cases hsome

/-- A subscription whose phone registers after both requests are evaluated, and
    one of a participant that has no AOR. -/
theorem isolated_phone :
    let phone : Record :=
      ⟨[⟨"phone", some "sip:bob@example.org;gr=phone", "groupchat", "phone"⟩]⟩
    let acts : List (Act String (BitVec 32)) :=
      [.call (.subscribe 1#32 "sip:bob@example.org"), .serve 0, .serve 0,
        .call (.subscribe 1#32 "tel:carol@example.org"),
        .change "sip:bob@example.org" phone "phone", .deliver 0, .serve 1]
    let M := machine stringSdk sampleServer (fun _ => none)
    let sub := { OwnRegistrationSubscription.make stringSdk true 1#32 "sip:bob@example.org"
      with mActive := true }
    (∃ pre chatRoom address post, acts = pre ++ .call (.subscribe chatRoom address) :: post ∧
      0 = (M.reach pre).system.subs.next ∧
      view stringSdk (M.reach acts) 0 sub "sip:bob@example.org" =
        (StartRace.machine stringSdk (OwnRegistrationSubscription.make stringSdk
          sampleServer.capabilityCheckEnabled chatRoom address) ((M.reach pre).records
            (stringSdk.recordKey "sip:bob@example.org"))).reach
              (post.filterMap (project 0 (stringSdk.recordKey "sip:bob@example.org")))) ∧
    Idle (M.reach acts) 1
      (OwnRegistrationSubscription.make stringSdk true 1#32 "tel:carol@example.org") := by
  intro phone acts M sub
  have hbob : (M.reach acts).system.subs.get? 0 = some (.own sub) := rfl
  have hcarol : (M.reach acts).system.subs.get? 1 = some (.own
    (OwnRegistrationSubscription.make stringSdk true 1#32 "tel:carol@example.org")) := rfl
  obtain ⟨pre, chatRoom, address, post, hacts, hnext, hrace, -⟩ :=
    isolated stringSdk sampleServer (fun _ => none) acts (by decide) hbob
  obtain ⟨_, _, _, _, -, -, -, hidle⟩ :=
    isolated stringSdk sampleServer (fun _ => none) acts (by decide) hcarol
  exact ⟨⟨pre, chatRoom, address, post, hacts, hnext, hrace _ (by decide)⟩, hidle (by decide)⟩

/-! ## Up to date with the registrar -/

end Rooms

/-- Once the fetch is evaluated, what the chat room will have been told when the
    messages are delivered ends with the list of the record as it is. -/
def Told (S : Sdk A R) (m : StartRace.State A R) : Prop :=
  m.requests.length < 2 → lastList (drained S m) = some (m.sub.recordDevices S m.record)

/-- A change between the two instants does not change the list. -/
def Covered (S : Sdk A R) (m : StartRace.State A R) : Step → Prop
  | .change r _ => m.requests.length = 1 →
      m.sub.recordDevices S (some r) = m.sub.recordDevices S m.record
  | .serve => True
  | .deliver => True

/-- The result of a fetch ends with the list of the record. -/
theorem lastList_recordFound (S : Sdk A R) {sub : OwnRegistrationSubscription A R}
    (h : sub.mActive = true) (calls : List (ChatRoomCall A)) (r : Option Record) :
    lastList (calls ++ handle S sub (.recordFound r)) = some (sub.recordDevices S r) := by
  have hset := lastList_append_set calls sub.mParticipant (sub.recordDevices S r)
  simpa [handle, OwnRegistrationSubscription.onRecordFound,
    OwnRegistrationSubscription.processRecord, h] using hset

/-- A delivery moves a message and changes nothing to what will be told. -/
theorem told_deliver_iff (S : Sdk A R) (m : StartRace.State A R) :
    Told S (StartRace.step S m .deliver) ↔ Told S m := by
  obtain ⟨hdrained, hrecord, hrequests, -, hsub⟩ := StartRace.step_deliver S m
  rw [Told, Told, hdrained, hrecord, hrequests, hsub]

/-- An evaluation keeps the chat room up to date: that of the fetch brings the
    record as it is. -/
theorem told_serve {S : Sdk A R} {m : StartRace.State A R} {aor : String}
    {watched : Option String} (hphase : Phase S aor m.requests watched)
    (hactive : m.sub.mActive = true) (h : Told S m) : Told S (StartRace.step S m .serve) := by
  generalize hrequests : m.requests = requests at hphase
  cases hphase with
  | issued =>
      intro _
      have hlast := lastList_recordFound S hactive (drained S m) m.record
      simpa [StartRace.step, hrequests, StartRace.evaluate, drained] using hlast
  | fetched =>
      intro _
      have hlast := h (by rw [hrequests]; exact Nat.one_lt_two)
      simpa [StartRace.step, hrequests, StartRace.evaluate, drained] using hlast
  | activated =>
      have hstay : StartRace.step S m .serve = m := by simp [StartRace.step, hrequests]
      rw [hstay]
      exact h

/-- A change keeps the chat room up to date unless it falls between the two
    instants and changes the list. -/
theorem told_change_iff {S : Sdk A R} {m : StartRace.State A R} {aor : String}
    {watched : Option String} (hphase : Phase S aor m.requests watched)
    (hwatched : m.subscribed = watched.isSome) (hactive : m.sub.mActive = true)
    (h : Told S m) (r : Record) (uid : String) :
    Told S (StartRace.step S m (.change r uid)) ↔ Covered S m (.change r uid) := by
  generalize hrequests : m.requests = requests at hphase
  cases hphase with
  | issued =>
      -- the fetch is still to come
      refine iff_of_true ?_ ?_
      · intro hlt
        have hlt' : m.requests.length < 2 := hlt
        rw [hrequests] at hlt'
        exact absurd hlt' (Nat.lt_irrefl 2)
      · intro hone
        rw [hrequests] at hone
        cases hone
  | fetched =>
      -- nobody is told of the change
      have hlast := h (by rw [hrequests]; exact Nat.one_lt_two)
      have hquiet : drained S (StartRace.step S m (.change r uid)) = drained S m := by
        simp [StartRace.step, hwatched, drained]
      have hone : m.requests.length = 1 := by rw [hrequests]; rfl
      constructor
      · intro htold _
        have hlast' := htold (by rw [StartRace.step, hone]; exact Nat.one_lt_two)
        rw [hquiet, hlast] at hlast'
        exact (Option.some.inj hlast').symm
      · intro hcovered _
        rw [hquiet, hlast, ← hcovered hone]
        rfl
  | activated =>
      -- the message of the change is on its way
      refine iff_of_true ?_ ?_
      · intro _
        have hlast := lastList_contactRegistered S hactive (drained S m) r uid
        simpa [StartRace.step, hwatched, drained] using hlast
      · intro hone
        rw [hrequests] at hone
        cases hone

/-- **The race, step by step**: only a change between the two instants can put
    the chat room out of date. -/
theorem told_step_iff {S : Sdk A R} {m : StartRace.State A R} {aor : String}
    {watched : Option String} (hphase : Phase S aor m.requests watched)
    (hwatched : m.subscribed = watched.isSome) (hactive : m.sub.mActive = true)
    (h : Told S m) (s : Step) : Told S (StartRace.step S m s) ↔ Covered S m s := by
  cases s with
  | change r uid => exact told_change_iff hphase hwatched hactive h r uid
  | serve => exact iff_of_true (told_serve hphase hactive h) trivial
  | deliver => exact iff_of_true ((told_deliver_iff S m).mpr h) trivial

/-- Each own subscription in the store whose fetch is evaluated will have left its
    chat room, when its messages are delivered, with the devices of the record of
    its participant. -/
def Informed (S : Sdk A R) (st : State A R) : Prop :=
  ∀ s sub aor, Starts st.system s sub aor → (st.requests s).length < 2 →
    lastList (callsMadeBy s st.system.log ++ (st.outbox s).flatMap (handle S sub)) =
      some (sub.recordDevices S (st.records (S.recordKey aor)))

/-- A change of a record changes no list of a subscription to it that is between
    its two instants: the fetch is evaluated, the change subscription is not. -/
def Gapless (S : Sdk A R) (st : State A R) : Act A R → Prop
  | .change key r _ => ∀ s sub aor, Starts st.system s sub aor → S.recordKey aor = key →
      (st.requests s).length = 1 →
        sub.recordDevices S (some r) = sub.recordDevices S (st.records key)
  | _ => True

/-- All are informed when each one is told, as the race of its own shows it. -/
theorem informed_iff_told (S : Sdk A R) (st : State A R) :
    Informed S st ↔ ∀ s sub aor, Starts st.system s sub aor → Told S (view S st s sub aor) :=
  Iff.rfl

section Rooms

variable [DecidableEq R]

/-- What an action does to one subscription in the store: it is told, or it is
    the change that it misses. -/
theorem told_view_iff {S : Sdk A R} (server : ConferenceServer) {st : State A R} (h : Wired S st)
    (hinformed : Informed S st) (act : Act A R) {s : SubscriptionId}
    {sub : OwnRegistrationSubscription A R} {aor : String}
    (hs : Starts (step S server st act).system s sub aor) :
    Told S (view S (step S server st act) s sub aor) ↔
      ∀ r uid, act = .change (S.recordKey aor) r uid → (st.requests s).length = 1 →
        sub.recordDevices S (some r) = sub.recordDevices S (st.records (S.recordKey aor)) := by
  rcases view_step server h act hs with ⟨chatRoom, address, rfl, rfl, haor, hview⟩ | ⟨hold, hview⟩
  · -- it has just been made, and its fetch is to come
    refine iff_of_true ?_ (fun r uid hact => nomatch hact)
    intro hlt
    rw [hview] at hlt
    have htwo : (StartRace.machine S (OwnRegistrationSubscription.make S
        server.capabilityCheckEnabled chatRoom address)
          (st.records (S.recordKey aor))).init.requests =
        [.fetch aor, .subscribe (S.recordKey aor)] := by
      rw [machine_init S haor]
    rw [htwo] at hlt
    exact absurd hlt (Nat.lt_irrefl 2)
  · have hphase := h.phase s sub aor hold
    have hactive := hold.active h.sound
    have htold : Told S (view S st s sub aor) := hinformed s sub aor hold
    have hsteps : ∀ race, Told S (StartRace.step S (view S st s sub aor) race) ↔
        Covered S (view S st s sub aor) race :=
      fun race => told_step_iff hphase rfl hactive htold race
    rw [hview]
    cases act with
    | change key r uid =>
        by_cases hkey : key = S.recordKey aor
        · rw [project, if_pos hkey, follow, hsteps]
          constructor
          · rintro hcovered r' uid' hact hone
            obtain ⟨-, rfl, rfl⟩ := Act.change.inj hact
            exact hcovered hone
          · intro hall hone
            exact hall r uid (by rw [hkey]) hone
        · rw [project, if_neg hkey]
          exact iff_of_true htold (fun r' uid' hact => absurd (Act.change.inj hact).1 hkey)
    | serve s' =>
        refine iff_of_true ?_ (fun r uid hact => nomatch hact)
        rw [project]
        split
        · exact (hsteps .serve).mpr trivial
        · exact htold
    | deliver s' =>
        refine iff_of_true ?_ (fun r uid hact => nomatch hact)
        rw [project]
        split
        · exact (hsteps .deliver).mpr trivial
        · exact htold
    | call call => exact iff_of_true htold (fun r uid hact => nomatch hact)
    | onNotifyReceived e body => exact iff_of_true htold (fun r uid hact => nomatch hact)
    | onSubscriptionStateChanged e state =>
        exact iff_of_true htold (fun r uid hact => nomatch hact)

/-- **Step lemma**: a step keeps all informed exactly when it leaves no gap. -/
theorem informed_step_iff {S : Sdk A R} (server : ConferenceServer) {st : State A R}
    (h : Wired S st) (hinformed : Informed S st) (act : Act A R) :
    Informed S (step S server st act) ↔ Gapless S st act := by
  rw [informed_iff_told]
  constructor
  · intro hall
    cases act with
    | change key r uid =>
        rintro s sub aor hs rfl hone
        exact (told_view_iff server h hinformed (.change _ r uid) hs).mp (hall s sub aor hs)
          r uid rfl hone
    | call call => trivial
    | onNotifyReceived e body => trivial
    | onSubscriptionStateChanged e state => trivial
    | serve s => trivial
    | deliver s => trivial
  · intro hgapless s sub aor hs
    refine (told_view_iff server h hinformed act hs).mpr ?_
    rintro r uid rfl hone
    exact hgapless s sub aor hs rfl hone

/-- **WHEN THE CHAT ROOMS FOLLOW THE REGISTRAR.**  In every state of a run each
    subscription whose fetch is evaluated leaves its chat room, when its messages
    are delivered, with the devices of the record, exactly when no change of a
    record in the run changes the list of a subscription that is between the
    evaluation of its fetch and that of its change subscription. -/
theorem registrar_up_to_date_iff (S : Sdk A R) (server : ConferenceServer)
    (records : String → Option Record) (acts : List (Act A R)) :
    (∀ pre, pre <+: acts → Informed S ((machine S server records).reach pre)) ↔
      (machine S server records).Along (Gapless S) (State.init records) acts :=
  Machine.forall_prefix_iff_along (M := machine S server records) (J := Wired S)
    (fun st act h => wired_step S server st act h)
    (fun _ act h hinformed => informed_step_iff server h hinformed act)
    acts (State.init records) (wired_init S records) (fun _ _ _ hs => nomatch hs.stored)

end Rooms

end Registrars
