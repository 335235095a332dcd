import FlexisipConference.NotifyProofs
import FlexisipConference.FanoutProofs
import FlexisipConference.ClientStepProofs

/-! # Devices without an address

    The address of a device comes from the URI of its contact, and is null when
    the URI cannot be parsed.  `processRecord` leaves such a contact out;
    `Client::onNotifyReceived` does not, so the observers are handed an identity
    without an address, and `notifyRegistration` dereferences it.

    `addresses_iff` says exactly which runs hand over addresses only: those in
    which every contact with specs that a client reads has a URI that parses.
    Then no call on a chat room has a null address. -/

namespace Addresses

open Sdks Reginfos Notifies Heaps Machines Clients QuietRun Subscriptions Handlers Invariants
open HandlerSteps Stores Fanout Lifetime ClientSteps

variable {A R : Type}

/-- An identity with an address. -/
def HasAddress (d : ParticipantDeviceIdentity A) : Prop := d.address.isSome = true

/-- A client alive has an observer. -/
theorem observers_ne_nil {S : Sdk A R} {sys : System A R} (h : Sound S sys) {c : ClientId}
    {cl : Client A} (hcl : sys.world.clients.get? c = some cl) :
    ∃ s, s ∈ S.notifyOrder cl.observers := by
  obtain ⟨s, hs, hpointer⟩ := h.inv.owned.alive_iff.mp ⟨cl, hcl⟩
  exact ⟨s, S.mem_notifyOrder.mpr (((observers_iff h hcl).2 s).mpr ⟨hs, hpointer⟩)⟩

section Emissions

variable [DecidableEq R]

/-- The calls that an operation makes the clients make on their observers. -/
def emitted (S : Sdk A R) (server : ConferenceServer) (sys : System A R) :
    Op A R → List (Emission A)
  | .subscribe chatRoom address =>
      if sys.findSubscription S chatRoom address then []
      else if S.getDomain address ∈ server.localDomains then []
      else
        let (acquired, c) := sys.acquireClient S address
        ((acquired.world.addObserver c sys.subs.next).subscribe c sys.subs.next).2
  | .onNotifyReceived e body => (sys.world.onNotifyReceived S e body).2
  | _ => []

/-- Every device handed to an observer by the operation has an address. -/
def HandsAddresses (S : Sdk A R) (server : ConferenceServer) (sys : System A R) (op : Op A R) :
    Prop :=
  ∀ em ∈ emitted S server sys op, ∀ d ∈ handed em.2, HasAddress d

/-- When the operation is a NOTIFY that a client processes, the contacts with
    specs of the registrations that the client goes through have URIs that
    parse. -/
def Parsable (S : Sdk A R) (sys : System A R) : Op A R → Prop
  | .onNotifyReceived e (.reginfo ri) => ∀ c cl, sys.world.clients.get? c = some cl →
      cl.mSubscribeEvent = some e →
      ∀ registration ∈ visited (S.asStringUriOnly cl.mTo) ri,
        ∀ contact ∈ registration.contacts, hasSpecs contact = true →
          (S.createAddress contact.uri).isSome = true
  | _ => True

/-- A subscribe that is not for a known pair or a local participant emits what
    the client that it joins replays. -/
theorem emitted_subscribe {S : Sdk A R} {server : ConferenceServer} {sys : System A R}
    (h : Sound S sys) {chatRoom : R} {address : A} {em : Emission A}
    (hem : em ∈ emitted S server sys (.subscribe chatRoom address)) :
    ∃ c cl, sys.world.clients.get? c = some cl ∧
      em = (sys.subs.next, .onNotifyReceived cl.mParticipantDevices) := by
  simp only [emitted] at hem
  split at hem
  · cases hem
  · split at hem
    · cases hem
    · obtain ⟨cl, hcl, -, -, horigin⟩ := acquire_client h.inv.owned address
      rw [(join_world hcl sys.subs.next).2.2.2] at hem
      split at hem
      · rename_i hopen
        rcases horigin with ⟨hcl', -⟩ | ⟨-, rfl, -⟩
        · exact ⟨_, cl, hcl', List.mem_singleton.mp hem⟩
        · cases hopen
      · cases hem

/-- What a NOTIFY hands over to some observer. -/
theorem handed_notify {S : Sdk A R} (server : ConferenceServer) {sys : System A R} (h : Sound S sys)
    {c : ClientId} {cl : Client A} {e : EventId} (hcl : sys.world.clients.get? c = some cl)
    (hev : cl.mSubscribeEvent = some e) (ri : Reginfo) (d : ParticipantDeviceIdentity A) :
    (∃ em ∈ emitted S server sys (.onNotifyReceived e (.reginfo ri)), d ∈ handed em.2) ↔
      ∃ registration ∈ visited (S.asStringUriOnly cl.mTo) ri,
        ∃ contact ∈ registration.contacts, contact.identity? S = some d := by
  rw [← mem_handed_iff S _ cl.mParticipantDevices]
  simp only [emitted, notify_current h.inv.rest hcl hev]
  constructor
  · rintro ⟨em, hem, hd⟩
    obtain ⟨cb, hcb, hem⟩ := List.mem_flatMap.mp hem
    obtain ⟨_, -, rfl⟩ := List.mem_map.mp hem
    exact ⟨cb, hcb, hd⟩
  · rintro ⟨cb, hcb, hd⟩
    obtain ⟨s, hs⟩ := observers_ne_nil h hcl
    exact ⟨(s, cb), List.mem_flatMap.mpr ⟨cb, hcb, List.mem_map_of_mem hs⟩, hd⟩

end Emissions

/-- The contacts with specs have URIs that parse exactly when the identities
    that they give have addresses. -/
theorem parse_iff (S : Sdk A R) (contacts : List Contact) :
    (∀ contact ∈ contacts, hasSpecs contact = true →
        (S.createAddress contact.uri).isSome = true) ↔
      ∀ d, ∀ contact ∈ contacts, contact.identity? S = some d → HasAddress d := by
  constructor
  · intro hparse d contact hin hidentity
    obtain ⟨value, hspecs, rfl⟩ := Option.map_eq_some_iff.mp hidentity
    exact hparse contact hin (by rw [hasSpecs_eq, hspecs]; rfl)
  · intro hall contact hin hspecs
    rw [hasSpecs_eq] at hspecs
    obtain ⟨value, hspecs⟩ := Option.isSome_iff_exists.mp hspecs
    exact hall (contact.identityWith S value) contact hin
      (by rw [Contact.identity?, hspecs]; rfl)

/-! ## The calls on the chat rooms -/

/-- No address in the call is null. -/
def Safe : ChatRoomCall A → Prop
  | .setParticipantDevices _ devices => ∀ d ∈ devices, HasAddress d
  | .notifyParticipantDeviceRegistration device => device.isSome = true

/-- The calls in the log are safe. -/
def SafeLog (log : List (Handlers.Entry A R)) : Prop :=
  ∀ s chatRoom call, Handlers.Entry.called s chatRoom call ∈ log → Safe call

/-- An observer that is handed addresses makes safe calls. -/
theorem safe_callsOf {S : Sdk A R} {subs : Heap (Subscription A R)} {em : Emission A}
    (hem : ∀ d ∈ handed em.2, HasAddress d) : SafeLog (System.callsOf S subs em) := by
  intro s chatRoom call hin
  rw [System.callsOf] at hin
  split at hin
  · rename_i sub hsub
    obtain ⟨call', hcall, heq⟩ := List.mem_map.mp hin
    obtain ⟨-, -, rfl⟩ := Handlers.Entry.called.inj heq
    obtain ⟨o, cb⟩ := em
    cases cb with
    | onNotifyReceived devices =>
        obtain rfl := List.mem_singleton.mp hcall
        exact fun d hd => hem d (List.mem_of_mem_filter hd)
    | onRefreshed device =>
        simp only [ExternalRegistrationSubscription.callback,
          ExternalRegistrationSubscription.onRefreshed] at hcall
        split at hcall
        · obtain rfl := List.mem_singleton.mp hcall
          exact hem device (List.mem_singleton_self _)
        · cases hcall
  · cases hin

/-- The devices of a record have addresses: `processRecord` leaves out the
    others. -/
theorem recordLoop_addresses (S : Sdk A R) (sub : OwnRegistrationSubscription A R)
    (contacts : List ExtendedContact) : ∀ d ∈ sub.recordLoop S contacts, HasAddress d := by
  induction contacts with
  | nil => exact List.forall_mem_nil _
  | cons ec rest ih =>
      rw [OwnRegistrationSubscription.recordLoop]
      cases hgruu : getPubGruu S ec with
      | none => exact ih
      | some addr =>
          simp only
          split
          · exact List.forall_mem_cons.mpr ⟨rfl, ih⟩
          · exact ih

theorem safe_processRecord (S : Sdk A R) (sub : OwnRegistrationSubscription A R)
    (r : Option Record) : ∀ call ∈ sub.processRecord S r, Safe call := by
  intro call hin
  rw [OwnRegistrationSubscription.processRecord] at hin
  split at hin
  · cases hin
  · obtain rfl := List.mem_singleton.mp hin
    cases r with
    | none => exact List.forall_mem_nil _
    | some r => exact recordLoop_addresses S sub r.extendedContacts

theorem safe_onContactRegistered (S : Sdk A R) (sub : OwnRegistrationSubscription A R)
    (r : Record) (uid : String) : ∀ call ∈ sub.onContactRegistered S r uid, Safe call := by
  intro call hin
  rw [OwnRegistrationSubscription.onContactRegistered] at hin
  split at hin
  · cases hin
  · rcases List.mem_append.mp hin with hin | hin
    · exact safe_processRecord S sub (some r) call hin
    · split at hin
      · cases hin
      · cases hextract : S.extractContactByUniqueId r uid with
        | none => simp [hextract] at hin
        | some ct =>
            cases hgruu : getPubGruu S ct with
            | none => simp [hextract, hgruu] at hin
            | some pubGruu =>
                simp only [hextract, hgruu] at hin
                split at hin
                · obtain rfl := List.mem_singleton.mp hin
                  rfl
                · cases hin

theorem SafeLog.append {log new : List (Handlers.Entry A R)} (h : SafeLog log)
    (hnew : SafeLog new) : SafeLog (log ++ new) := by
  intro s chatRoom call hin
  rcases List.mem_append.mp hin with hin | hin
  · exact h s chatRoom call hin
  · exact hnew s chatRoom call hin

theorem SafeLog.tellOwn {sys : System A R} (h : SafeLog sys.log) (s : SubscriptionId)
    {calls : OwnRegistrationSubscription A R → List (ChatRoomCall A)}
    (hcalls : ∀ sub, ∀ call ∈ calls sub, Safe call) : SafeLog (sys.tellOwn s calls).log := by
  rw [System.tellOwn]
  split
  · rename_i sub hsub
    refine h.append (fun s' chatRoom call hin => ?_)
    obtain ⟨call', hcall, heq⟩ := List.mem_map.mp hin
    obtain ⟨-, -, rfl⟩ := Handlers.Entry.called.inj heq
    exact hcalls sub call' hcall
  · exact h

/-! ## Runs -/

/-- The devices that the clients keep have addresses. -/
def KeepsAddresses (w : World A) : Prop :=
  ∀ c cl, w.clients.get? c = some cl → ∀ d ∈ cl.mParticipantDevices, HasAddress d

section Runs

variable [DecidableEq R]

/-- **One operation** hands over addresses only, exactly when the documents
    parse; before it, the clients keep addresses only. -/
theorem parsable_iff (S : Sdk A R) (server : ConferenceServer) (sys : System A R) (op : Op A R)
    (h : Sound S sys) (hkeeps : KeepsAddresses sys.world) :
    Parsable S sys op ↔ HandsAddresses S server sys op := by
  cases op with
  | subscribe chatRoom address =>
      refine iff_of_true trivial (fun em hem d hd => ?_)
      obtain ⟨c, cl, hcl, rfl⟩ := emitted_subscribe h hem
      exact hkeeps c cl hcl d hd
  | onNotifyReceived e body =>
      rcases notify_cases h.inv.rest e body with hsame | ⟨c, cl, ri, hcl, hev, rfl, -⟩
      · -- no client processes the NOTIFY
        refine iff_of_true ?_ (fun em hem => ?_)
        · cases body with
          | null => trivial
          | malformed => trivial
          | reginfo ri =>
              intro c cl hcl hev registration hr contact hin hspecs
              obtain ⟨value, hvalue⟩ := Option.isSome_iff_exists.mp (hasSpecs_eq contact ▸ hspecs)
              obtain ⟨em, hem, -⟩ := (handed_notify server h hcl hev ri
                (contact.identityWith S value)).mpr
                ⟨registration, hr, contact, hin, by rw [Contact.identity?, hvalue]; rfl⟩
              simp only [emitted, hsame] at hem
              cases hem
        · simp only [emitted, hsame] at hem
          cases hem
      · constructor
        · intro hparse em hem d hd
          obtain ⟨registration, hr, contact, hin, hidentity⟩ :=
            (handed_notify server h hcl hev ri d).mp ⟨em, hem, hd⟩
          exact (parse_iff S registration.contacts).mp (hparse c cl hcl hev registration hr) d
            contact hin hidentity
        · intro hhands c' cl' hcl' hev' registration hr
          refine (parse_iff S registration.contacts).mpr (fun d contact hin hidentity => ?_)
          obtain ⟨em, hem, hd⟩ := (handed_notify server h hcl' hev' ri d).mpr
            ⟨registration, hr, contact, hin, hidentity⟩
          exact hhands em hem d hd
  | unsubscribe chatRoom address => exact iff_of_true trivial (List.forall_mem_nil _)
  | unsubscribeAll => exact iff_of_true trivial (List.forall_mem_nil _)
  | onSubscriptionStateChanged e state => exact iff_of_true trivial (List.forall_mem_nil _)
  | onRecordFound s r => exact iff_of_true trivial (List.forall_mem_nil _)
  | onContactRegistered s r uid => exact iff_of_true trivial (List.forall_mem_nil _)

/-- An operation whose documents parse leaves the clients with addresses
    only. -/
theorem keepsAddresses_step {S : Sdk A R} (server : ConferenceServer) {sys : System A R}
    {op : Op A R} (h : Sound S sys) (hkeeps : KeepsAddresses sys.world)
    (hparse : Parsable S sys op) : KeepsAddresses (step S server sys op).world := by
  intro c cl' hcl' d hd
  cases client_step server h op hcl' with
  | same hcl => exact hkeeps c cl' hcl d hd
  | joined chatRoom address cl hop hfind hlocal hjoined heq =>
      obtain rfl := heq
      rcases hjoined.origin with ⟨hcl, -⟩ | ⟨-, rfl, -⟩
      · exact hkeeps c cl hcl d hd
      · cases hd
  | left entry cl hin hpointer hcl hgone heq =>
      obtain rfl := heq
      exact hkeeps c cl hcl d hd
  | ended e state cl hop hcl hev heq =>
      obtain rfl := heq
      cases hd
  | notified e ri cl hop hcl hev heq =>
      obtain rfl := heq
      obtain rfl := hop
      by_cases hm : matching (S.asStringUriOnly cl.mTo) ri = []
      · have hd' : d ∈ (Reginfos.Client.onNotifyReceived S (S.asStringUriOnly cl.mTo)
            cl.mParticipantDevices ri).1 := hd
        rw [onNotifyReceived_unmatched S hm] at hd'
        exact hkeeps c cl hcl d hd'
      · -- what is kept was handed over
        obtain ⟨registration, hr, contact, hin, hidentity⟩ :=
          (mem_handed_iff S _ _ ri d).mp (handed_of_kept S hm _ hd)
        exact (parse_iff S registration.contacts).mp (hparse c cl hcl hev registration hr) d
          contact hin hidentity

/-- An operation that hands over addresses only makes safe calls. -/
theorem safeLog_step {S : Sdk A R} (server : ConferenceServer) {sys : System A R} {op : Op A R}
    (h : Sound S sys) (hlog : SafeLog sys.log) (hkeeps : KeepsAddresses sys.world)
    (hhands : HandsAddresses S server sys op) : SafeLog (step S server sys op).log := by
  have hquiet : ∀ {new : List (Handlers.Entry A R)},
      (∀ s chatRoom call, Handlers.Entry.called s chatRoom call ∉ new) → SafeLog new :=
    fun hnone s chatRoom call hin => absurd hin (hnone s chatRoom call)
  cases op with
  | subscribe chatRoom address =>
      show SafeLog (sys.subscribe S server chatRoom address).log
      rcases subscribe_cases S server h chatRoom address with
        ⟨-, hsame⟩ | ⟨hfind, hlocal, -, -⟩ | ⟨hfind, hlocal, -, -⟩
      · rw [hsame]
        exact hlog
      · rw [log_subscribe_own S server hfind hlocal]
        exact hlog.append (hquiet (by simp))
      · obtain ⟨c, cl, hjoined⟩ := subscribe_joins server h hfind hlocal
        rw [hjoined.log]
        refine hlog.append (fun s chatRoom' call hin => ?_)
        rcases List.mem_cons.mp hin with heq | hin
        · cases heq
        · split at hin
          · rename_i hopen
            obtain ⟨-, -, rfl⟩ := Handlers.Entry.called.inj (List.mem_singleton.mp hin)
            rcases hjoined.origin with ⟨hcl, -⟩ | ⟨-, rfl, -⟩
            · exact fun d hd => hkeeps c cl hcl d (List.mem_of_mem_filter hd)
            · cases hopen
          · cases hin
  | unsubscribe chatRoom address =>
      show SafeLog (sys.unsubscribe S chatRoom address).log
      obtain ⟨new, hnew, hnone⟩ := log_unsubscribe h chatRoom address
      rw [hnew]
      exact hlog.append (hquiet hnone)
  | unsubscribeAll =>
      show SafeLog (sys.unsubscribeAll S).log
      obtain ⟨new, hnew, hnone⟩ := log_unsubscribeAll h
      rw [hnew]
      exact hlog.append (hquiet hnone)
  | onNotifyReceived e body =>
      show SafeLog (sys.onNotifyReceived S e body).log
      rw [log_onNotifyReceived]
      refine hlog.append (fun s chatRoom call hin => ?_)
      obtain ⟨em, hem, hin⟩ := List.mem_flatMap.mp hin
      exact safe_callsOf (hhands em hem) s chatRoom call hin
  | onSubscriptionStateChanged e state => exact hlog
  | onRecordFound s r => exact hlog.tellOwn s (fun sub => safe_processRecord S sub r)
  | onContactRegistered s r uid =>
      exact hlog.tellOwn s (fun sub => safe_onContactRegistered S sub r uid)

/-- **WHICH RUNS HAND OVER ADDRESSES ONLY**, and make no call on a chat room with
    a null address: exactly those in which the contacts with specs of every
    registration that a client goes through have URIs that parse. -/
theorem addresses_iff (S : Sdk A R) (server : ConferenceServer) (ops : List (Op A R)) :
    ((machine S server).Along (HandsAddresses S server) (machine S server).init ops ∧
        SafeLog ((machine S server).reach ops).log) ↔
      (machine S server).Along (Parsable S) (machine S server).init ops := by
  have hkeep : ∀ sys op, Sound S sys ∧ KeepsAddresses sys.world → Parsable S sys op →
      Sound S (step S server sys op) ∧ KeepsAddresses (step S server sys op).world :=
    fun sys op hI hP => ⟨sound_step S server sys op hI.1, keepsAddresses_step server hI.1 hI.2 hP⟩
  have hinit : Sound S (System.init : System A R) ∧
      KeepsAddresses (System.init : System A R).world :=
    ⟨Sound.init S, fun c cl hcl => by cases hcl⟩
  have hiff := Machine.along_iff_of_keeps (M := machine S server)
    (I := fun sys => Sound S sys ∧ KeepsAddresses sys.world)
    (fun sys op hI => parsable_iff S server sys op hI.1 hI.2) hkeep ops System.init hinit
  constructor
  · rintro ⟨hhands, -⟩
    exact hiff.mpr hhands
  · intro hparse
    refine ⟨hiff.mp hparse, ?_⟩
    -- along the run the log stays safe, because the clients keep addresses only
    exact (Machine.invariant_along (M := machine S server)
      (I := fun sys => (Sound S sys ∧ KeepsAddresses sys.world) ∧ SafeLog sys.log)
      (fun sys op hI hP => ⟨hkeep sys op hI.1 hP, safeLog_step server hI.1.1 hI.2 hI.1.2
        ((parsable_iff S server sys op hI.1.1 hI.1.2).mp hP)⟩)
      ops System.init ⟨hinit, fun s chatRoom call hin => absurd hin List.not_mem_nil⟩ hparse).2

end Runs

/-- A refreshed phone whose URI is no address. -/
def mailContact : Contact :=
  ⟨"mailto:alice@external.example.org", none, [⟨specsParam, "\"groupchat/1.2\""⟩], .refreshed,
    .active⟩

/-- A contact with a URI that is no address makes `notifyRegistration` be called
    with a null address. -/
theorem null_address_announced :
    let ops : List (Op String (BitVec 32)) :=
      [.subscribe Capabilities.conference "sip:alice@external.example.org",
        .onNotifyReceived 0 (.reginfo
          [⟨"sip:alice@external.example.org", .active, [mailContact]⟩])]
    ((machine stringSdk sampleServer).reach ops).log =
      [.started 0, .called 0 Capabilities.conference
        (.notifyParticipantDeviceRegistration none)] ∧
    ¬ ((machine stringSdk sampleServer).Along (HandsAddresses stringSdk sampleServer)
        (machine stringSdk sampleServer).init ops ∧
      SafeLog ((machine stringSdk sampleServer).reach ops).log) := by
  intro ops
  have hlog : ((machine stringSdk sampleServer).reach ops).log = [.started 0,
      .called 0 Capabilities.conference (.notifyParticipantDeviceRegistration none)] := by decide
  refine ⟨hlog, fun hboth => ?_⟩
  have hsafe := hboth.2 0 Capabilities.conference (.notifyParticipantDeviceRegistration none)
    (by rw [hlog]; simp)
  cases hsafe

end Addresses
