import FlexisipConference.CallProofs

/-! # Which devices are announced

    A subscription tells its chat room the devices of the participant in two
    ways: it sets the whole list, and it announces one device that has just
    registered.  The own kind sets the list of a record and then announces a
    contact of the same record.  The external kind announces the refreshed
    contacts of a document while it reads them, and sets the list after them,
    or not at all when everything is refreshed.  So it may announce a device
    before any list, or one that is in no list.

    `only_known_iff` says exactly in which runs a subscription announces only
    devices of the list that it set last. -/

namespace Announcements

open Sdks Reginfos Heaps Machines Clients Dispatch QuietRun Subscriptions Handlers Invariants
open HandlerSteps Stores Fanout Silence Notifies ClientSteps Calls

variable {A R : Type}

/-! ## Announcements and lists -/

/-- The list that is set after some calls, when `known` was set before. -/
def latestFrom (known : Option (List (ParticipantDeviceIdentity A))) :
    List (ChatRoomCall A) → Option (List (ParticipantDeviceIdentity A))
  | [] => known
  | .setParticipantDevices _ devices :: calls => latestFrom (some devices) calls
  | .notifyParticipantDeviceRegistration _ :: calls => latestFrom known calls

/-- The list that a subscription set last, if it set any. -/
def latestSet (calls : List (ChatRoomCall A)) : Option (List (ParticipantDeviceIdentity A)) :=
  latestFrom none calls

/-- The list that was set last has a device with this address. -/
def Lists (known : Option (List (ParticipantDeviceIdentity A))) (device : Option A) : Prop :=
  ∃ devices, known = some devices ∧ ∃ d ∈ devices, d.address = device

/-- A subscription announces only devices of the list that it set last. -/
def OnlyKnown (calls : List (ChatRoomCall A)) : Prop :=
  ∀ pre device post, calls = pre ++ .notifyParticipantDeviceRegistration device :: post →
    Lists (latestSet pre) device

/-- The same, call by call, when `known` was set before. -/
def KnownFrom (known : Option (List (ParticipantDeviceIdentity A))) :
    List (ChatRoomCall A) → Prop
  | [] => True
  | .setParticipantDevices _ devices :: calls => KnownFrom (some devices) calls
  | .notifyParticipantDeviceRegistration device :: calls =>
      Lists known device ∧ KnownFrom known calls

/-- Call by call, or at each announcement: the law is the same. -/
theorem knownFrom_iff (known : Option (List (ParticipantDeviceIdentity A)))
    (calls : List (ChatRoomCall A)) :
    KnownFrom known calls ↔ ∀ pre device post,
      calls = pre ++ .notifyParticipantDeviceRegistration device :: post →
        Lists (latestFrom known pre) device := by
  induction calls generalizing known with
  | nil =>
      refine iff_of_true trivial (fun pre device post heq => ?_)
      exact absurd heq.symm (List.append_ne_nil_of_right_ne_nil _ (List.cons_ne_nil _ _))
  | cons call calls ih =>
      cases call with
      | setParticipantDevices participant devices =>
          rw [KnownFrom, ih]
          constructor
          · intro h pre device post heq
            cases pre with
            | nil => cases (List.cons.inj heq).1
            | cons first pre =>
                obtain ⟨rfl, hrest⟩ := List.cons.inj heq
                exact h pre device post hrest
          · intro h pre device post heq
            exact h (.setParticipantDevices participant devices :: pre) device post
              (by rw [heq]; rfl)
      | notifyParticipantDeviceRegistration announced =>
          rw [KnownFrom, ih]
          constructor
          · rintro ⟨hfirst, h⟩ pre device post heq
            cases pre with
            | nil =>
                obtain ⟨heq, -⟩ := List.cons.inj heq
                obtain rfl := ChatRoomCall.notifyParticipantDeviceRegistration.inj heq
                exact hfirst
            | cons first pre =>
                obtain ⟨rfl, hrest⟩ := List.cons.inj heq
                exact h pre device post hrest
          · intro h
            refine ⟨h [] announced calls rfl, fun pre device post heq => ?_⟩
            exact h (.notifyParticipantDeviceRegistration announced :: pre) device post
              (by rw [heq]; rfl)

theorem onlyKnown_iff (calls : List (ChatRoomCall A)) :
    OnlyKnown calls ↔ KnownFrom none calls :=
  (knownFrom_iff none calls).symm

theorem latestFrom_append (known : Option (List (ParticipantDeviceIdentity A)))
    (calls calls' : List (ChatRoomCall A)) :
    latestFrom known (calls ++ calls') = latestFrom (latestFrom known calls) calls' := by
  induction calls generalizing known with
  | nil => rfl
  | cons call calls ih => cases call <;> exact ih _

theorem knownFrom_append (known : Option (List (ParticipantDeviceIdentity A)))
    (calls calls' : List (ChatRoomCall A)) :
    KnownFrom known (calls ++ calls') ↔
      KnownFrom known calls ∧ KnownFrom (latestFrom known calls) calls' := by
  induction calls generalizing known with
  | nil => exact ⟨fun h => ⟨trivial, h⟩, fun h => h.2⟩
  | cons call calls ih =>
      cases call with
      | setParticipantDevices participant devices => exact ih _
      | notifyParticipantDeviceRegistration device =>
          rw [List.cons_append, KnownFrom, ih, KnownFrom, and_assoc]
          rfl

/-- More of the log keeps the law exactly when the new calls do. -/
theorem onlyKnown_append_iff (s : SubscriptionId) {log new : List (Handlers.Entry A R)}
    (h : OnlyKnown (callsMadeBy s log)) :
    OnlyKnown (callsMadeBy s (log ++ new)) ↔
      KnownFrom (latestSet (callsMadeBy s log)) (callsMadeBy s new) := by
  rw [onlyKnown_iff] at h
  rw [onlyKnown_iff, callsMadeBy_append, knownFrom_append]
  exact ⟨fun hboth => hboth.2, fun hnew => ⟨h, hnew⟩⟩

/-- The list that is set last, when nothing more is set. -/
theorem latestSet_others {s : SubscriptionId} (log : List (Handlers.Entry A R))
    {new : List (Handlers.Entry A R)}
    (h : ∀ s' room call, Handlers.Entry.called s' room call ∈ new → s' ≠ s) :
    latestSet (callsMadeBy s (log ++ new)) = latestSet (callsMadeBy s log) := by
  rw [callsMadeBy_others log h]

/-- Entries in which the subscription announces nothing keep the law. -/
theorem onlyKnown_of_unannounced {s : SubscriptionId} {log new : List (Handlers.Entry A R)}
    (h : OnlyKnown (callsMadeBy s log))
    (hnew : ∀ room device,
      Handlers.Entry.called s room (.notifyParticipantDeviceRegistration device) ∉ new) :
    OnlyKnown (callsMadeBy s (log ++ new)) := by
  rw [onlyKnown_append_iff s h, knownFrom_iff]
  intro pre device post heq
  obtain ⟨room, hin⟩ := mem_callsMadeBy.mp
    (heq ▸ List.mem_append_right pre (List.mem_cons_self ..) :
      .notifyParticipantDeviceRegistration device ∈ callsMadeBy s new)
  exact absurd hin (hnew room device)

/-! ## Documents, as a chat room is told of them -/

/-- The calls that a document amounts to: registration by registration, and no
    device at the end when one is terminated. -/
def reported (S : Sdk A R) (aor : String) (ri : Reginfo) : List (ClientCallback A) :=
  (visited aor ri).flatMap (callbacks S) ++
    if ∃ registration ∈ matching aor ri, registration.state = .terminated
      then [.onNotifyReceived []] else []

/-- The last list that a document announces: no device when a registration is
    terminated, else those of the last registration in which some contact is not
    just refreshed. -/
def announced? (S : Sdk A R) (aor : String) (ri : Reginfo) :
    Option (List (ParticipantDeviceIdentity A)) :=
  if ∃ registration ∈ matching aor ri, registration.state = .terminated then some []
  else
    ((visited aor ri).filter (fun registration =>
      HasUnrefreshed registration.contacts)).getLast?.map
        (fun registration => devicesOf S registration.contacts)

/-- The calls that a client makes for a document. -/
theorem client_reports (S : Sdk A R) (aor : String) (devices : List (ParticipantDeviceIdentity A))
    (ri : Reginfo) :
    (Reginfos.Client.onNotifyReceived S aor devices ri).2 = reported S aor ri := by
  rw [Reginfos.Client.onNotifyReceived, registrationLoop_callbacks, List.nil_append, reported]

/-- What a subscription makes of the calls of its client: a list that it is given
    sets its part of it, and a refreshed device sets nothing. -/
structure PassesOn (relay : ClientCallback A → List (ChatRoomCall A))
    (part : List (ParticipantDeviceIdentity A) → List (ParticipantDeviceIdentity A)) : Prop where
  sets : ∀ known devices,
    latestFrom known (relay (.onNotifyReceived devices)) = some (part devices)
  keeps : ∀ known device, latestFrom known (relay (.onRefreshed device)) = known

section Passing

variable {relay : ClientCallback A → List (ChatRoomCall A)}
  {part : List (ParticipantDeviceIdentity A) → List (ParticipantDeviceIdentity A)}

theorem latestFrom_refreshed (h : PassesOn relay part)
    (known : Option (List (ParticipantDeviceIdentity A)))
    (devices : List (ParticipantDeviceIdentity A)) :
    latestFrom known ((devices.map ClientCallback.onRefreshed).flatMap relay) = known := by
  induction devices with
  | nil => rfl
  | cons device devices ih =>
      rw [List.map_cons, List.flatMap_cons, latestFrom_append, h.keeps, ih]

/-- A registration sets the list of its contacts, unless all are refreshed. -/
theorem latestFrom_callbacks (S : Sdk A R) (h : PassesOn relay part)
    (known : Option (List (ParticipantDeviceIdentity A))) (registration : Registration) :
    latestFrom known ((callbacks S registration).flatMap relay) =
      if HasUnrefreshed registration.contacts
        then some (part (devicesOf S registration.contacts)) else known := by
  rw [callbacks, List.flatMap_append, latestFrom_append, latestFrom_refreshed h]
  by_cases hun : HasUnrefreshed registration.contacts
  · rw [if_pos hun, snapshot_contactLoop_of S hun, List.flatMap_singleton, h.sets]
  · rw [if_neg hun, snapshot_contactLoop_not S hun]
    rfl

/-- Registration by registration: the last one that sets a list counts. -/
theorem latestFrom_visited (S : Sdk A R) (h : PassesOn relay part)
    (known : Option (List (ParticipantDeviceIdentity A))) (registrations : List Registration) :
    latestFrom known ((registrations.flatMap (callbacks S)).flatMap relay) =
      (((registrations.filter (fun registration =>
        HasUnrefreshed registration.contacts)).getLast?.map
          (fun registration => part (devicesOf S registration.contacts))).or known) := by
  induction registrations generalizing known with
  | nil => rfl
  | cons registration rest ih =>
      rw [List.flatMap_cons, List.flatMap_append, latestFrom_append, ih, List.filter_cons,
        latestFrom_callbacks S h]
      by_cases hun : HasUnrefreshed registration.contacts
      · rw [if_pos hun, if_pos (decide_eq_true hun)]
        -- the registration counts only if no later one sets a list
        cases hlast : (rest.filter (fun registration =>
            HasUnrefreshed registration.contacts)).getLast? with
        | none => rw [List.getLast?_eq_none_iff.mp hlast]; rfl
        | some last => rw [List.getLast?_cons, hlast]; rfl
      · rw [if_neg hun, if_neg (fun h => hun (of_decide_eq_true h))]

/-- **What a document leaves a chat room with**: its part of the last list that
    is announced, else what it had before. -/
theorem latestFrom_reported {S : Sdk A R} (h : PassesOn relay part)
    (known : Option (List (ParticipantDeviceIdentity A))) (aor : String) (ri : Reginfo) :
    latestFrom known ((reported S aor ri).flatMap relay) =
      ((announced? S aor ri).map part).or known := by
  rw [reported, List.flatMap_append, latestFrom_append, announced?]
  split
  · rw [List.flatMap_singleton, h.sets]
    rfl
  · rw [latestFrom_visited S h, Option.map_map]
    rfl

end Passing

/-! ## The own kind -/

/-- The list of a record has the address of each of its contacts that the chat
    room accepts. -/
theorem recordLoop_lists (S : Sdk A R) (sub : OwnRegistrationSubscription A R)
    {contacts : List ExtendedContact} {ec : ExtendedContact} (hin : ec ∈ contacts) {pubGruu : A}
    (hgruu : getPubGruu S ec = some pubGruu)
    (haccepted : sub.isContactCompatible S ec.orgLinphoneSpecs = true) :
    ∃ d ∈ sub.recordLoop S contacts, d.address = some pubGruu := by
  induction contacts with
  | nil => cases hin
  | cons first rest ih =>
      rcases List.mem_cons.mp hin with rfl | hin
      · rw [OwnRegistrationSubscription.recordLoop]
        simp only [hgruu, if_pos haccepted]
        exact ⟨_, List.mem_cons_self .., rfl⟩
      · obtain ⟨d, hd, haddress⟩ := ih hin
        refine ⟨d, ?_, haddress⟩
        rw [OwnRegistrationSubscription.recordLoop]
        split
        · exact hd
        · split
          · exact List.mem_cons_of_mem _ hd
          · exact hd

theorem knownFrom_processRecord (S : Sdk A R) (sub : OwnRegistrationSubscription A R)
    (known : Option (List (ParticipantDeviceIdentity A))) (r : Option Record) :
    KnownFrom known (sub.processRecord S r) := by
  rw [OwnRegistrationSubscription.processRecord]
  split <;> trivial

/-- **An own subscription announces a device of the list that it has just
    set.** -/
theorem knownFrom_onContactRegistered (S : Sdk A R) (sub : OwnRegistrationSubscription A R)
    (known : Option (List (ParticipantDeviceIdentity A))) (r : Record) (uid : String) :
    KnownFrom known (sub.onContactRegistered S r uid) := by
  rw [OwnRegistrationSubscription.onContactRegistered]
  split
  · trivial
  · rename_i hactive
    refine (knownFrom_append _ _ _).mpr ⟨knownFrom_processRecord S sub known _, ?_⟩
    have hset : latestFrom known (sub.processRecord S (some r)) =
        some (sub.recordLoop S r.extendedContacts) := by
      rw [OwnRegistrationSubscription.processRecord, if_neg hactive]
      rfl
    rw [hset]
    split
    · trivial
    · split
      · trivial
      · rename_i ec hextract
        split
        · trivial
        · rename_i pubGruu hgruu
          split
          · rename_i haccepted
            exact ⟨⟨_, rfl, recordLoop_lists S sub (S.extract_mem r uid ec hextract) hgruu
              haccepted⟩, trivial⟩
          · trivial

/-- A message to an own subscription keeps the law when the calls it makes are
    of known devices. -/
theorem onlyKnown_tellOwn {sys : System A R} {s : SubscriptionId}
    (h : OnlyKnown (callsMadeBy s sys.log)) (s' : SubscriptionId)
    {calls : OwnRegistrationSubscription A R → List (ChatRoomCall A)}
    (hcalls : ∀ sub known, KnownFrom known (calls sub)) :
    OnlyKnown (callsMadeBy s (sys.tellOwn s' calls).log) := by
  rw [System.tellOwn]
  split
  · rename_i sub hsub
    show OnlyKnown (callsMadeBy s (sys.log ++
      (calls sub).map (Handlers.Entry.called s' sub.mChatRoom)))
    by_cases hs : s' = s
    · subst hs
      rw [onlyKnown_append_iff s' h, callsMadeBy_map]
      exact hcalls sub _
    · refine onlyKnown_of_unannounced h (fun room device hin => hs ?_)
      obtain ⟨_, -, heq⟩ := List.mem_map.mp hin
      exact (Handlers.Entry.called.inj heq).1
  · exact h

/-! ## The external kind -/

/-- The refreshed contacts that the chat room accepts are known, registration by
    registration; a registration with another contact sets the list that counts
    for the next ones. -/
def KnownRefreshed (S : Sdk A R) (sub : ExternalRegistrationSubscription A R) :
    Option (List (ParticipantDeviceIdentity A)) → List Registration → Prop
  | _, [] => True
  | known, registration :: rest =>
      (∀ contact ∈ registration.contacts, contact.event = .refreshed →
        ∀ d, contact.identity? S = some d →
          sub.isContactCompatible S (S.getCapabilityDescriptor d.capabilityDescriptor) = true →
            Lists known d.address) ∧
      (HasUnrefreshed registration.contacts →
        KnownRefreshed S sub
          (some (sub.compatibleDevices S (devicesOf S registration.contacts))) rest) ∧
      (¬ HasUnrefreshed registration.contacts → KnownRefreshed S sub known rest)

/-- An external subscription sets the compatible part of the lists. -/
theorem passesOn_callback (S : Sdk A R) (sub : ExternalRegistrationSubscription A R) :
    PassesOn (sub.callback S) (sub.compatibleDevices S) := by
  refine ⟨fun _ _ => rfl, ?_⟩
  intro known device
  show latestFrom known (sub.onRefreshed S device) = known
  rw [ExternalRegistrationSubscription.onRefreshed]
  split <;> rfl

/-- They are of known devices when those that the chat room accepts are. -/
theorem knownFrom_refreshed (S : Sdk A R) (sub : ExternalRegistrationSubscription A R)
    (known : Option (List (ParticipantDeviceIdentity A)))
    (devices : List (ParticipantDeviceIdentity A)) :
    KnownFrom known ((devices.map ClientCallback.onRefreshed).flatMap (sub.callback S)) ↔
      ∀ d ∈ devices,
        sub.isContactCompatible S (S.getCapabilityDescriptor d.capabilityDescriptor) = true →
          Lists known d.address := by
  induction devices with
  | nil => exact iff_of_true trivial (List.forall_mem_nil _)
  | cons d devices ih =>
      have hone : KnownFrom known (sub.callback S (.onRefreshed d)) ↔
          (sub.isContactCompatible S (S.getCapabilityDescriptor d.capabilityDescriptor) = true →
            Lists known d.address) := by
        show KnownFrom known (sub.onRefreshed S d) ↔ _
        rw [ExternalRegistrationSubscription.onRefreshed]
        split
        · rename_i haccepted
          exact ⟨fun h _ => h.1, fun h => ⟨h haccepted, trivial⟩⟩
        · rename_i hrejected
          exact iff_of_true trivial (fun haccepted => absurd haccepted hrejected)
      rw [List.map_cons, List.flatMap_cons, knownFrom_append,
        (passesOn_callback S sub).keeps, ih, hone, List.forall_mem_cons]

/-- The identities of the refreshed contacts. -/
theorem mem_refreshed_iff {S : Sdk A R} {contacts : List Contact}
    {d : ParticipantDeviceIdentity A} :
    d ∈ devicesOf S (refreshedContacts contacts) ↔ ∃ contact ∈ contacts,
      contact.event = .refreshed ∧ contact.identity? S = some d := by
  rw [devicesOf, List.mem_filterMap]
  constructor
  · rintro ⟨contact, hin, hidentity⟩
    obtain ⟨hin, hevent⟩ := List.mem_filter.mp hin
    exact ⟨contact, hin, of_decide_eq_true hevent, hidentity⟩
  · rintro ⟨contact, hin, hevent, hidentity⟩
    exact ⟨contact, List.mem_filter.mpr ⟨hin, decide_eq_true hevent⟩, hidentity⟩

/-- **Registration by registration**: what the subscription makes of the
    registrations that the client goes through. -/
theorem knownFrom_registrations (S : Sdk A R) (sub : ExternalRegistrationSubscription A R)
    (known : Option (List (ParticipantDeviceIdentity A))) (registrations : List Registration) :
    KnownFrom known ((registrations.flatMap (callbacks S)).flatMap (sub.callback S)) ↔
      KnownRefreshed S sub known registrations := by
  induction registrations generalizing known with
  | nil => exact iff_of_true trivial trivial
  | cons registration rest ih =>
      have hfirst : (∀ d ∈ devicesOf S (refreshedContacts registration.contacts),
          sub.isContactCompatible S (S.getCapabilityDescriptor d.capabilityDescriptor) = true →
            Lists known d.address) ↔
          ∀ contact ∈ registration.contacts, contact.event = .refreshed →
            ∀ d, contact.identity? S = some d →
              sub.isContactCompatible S
                  (S.getCapabilityDescriptor d.capabilityDescriptor) = true →
                Lists known d.address := by
        constructor
        · intro h contact hin hevent d hidentity
          exact h d (mem_refreshed_iff.mpr ⟨contact, hin, hevent, hidentity⟩)
        · intro h d hd
          obtain ⟨contact, hin, hevent, hidentity⟩ := mem_refreshed_iff.mp hd
          exact h contact hin hevent d hidentity
      rw [List.flatMap_cons, List.flatMap_append, callbacks, List.flatMap_append,
        List.append_assoc, knownFrom_append, latestFrom_refreshed (passesOn_callback S sub),
        knownFrom_refreshed, hfirst, KnownRefreshed]
      refine and_congr_right (fun _ => ?_)
      by_cases hun : HasUnrefreshed registration.contacts
      · rw [snapshot_contactLoop_of S hun, List.flatMap_singleton]
        show KnownFrom (some (sub.compatibleDevices S (devicesOf S registration.contacts)))
          ((rest.flatMap (callbacks S)).flatMap (sub.callback S)) ↔ _
        rw [ih]
        exact ⟨fun h => ⟨fun _ => h, fun hnot => absurd hun hnot⟩, fun h => h.1 hun⟩
      · rw [snapshot_contactLoop_not S hun]
        show KnownFrom known ((rest.flatMap (callbacks S)).flatMap (sub.callback S)) ↔ _
        rw [ih]
        exact ⟨fun h => ⟨fun hyes => absurd hyes hun, fun _ => h⟩, fun h => h.2 hun⟩

/-- What a NOTIFY on the current event of a client makes a subscription do that
    the client serves. -/
theorem knownFrom_notify (S : Sdk A R) (sub : ExternalRegistrationSubscription A R)
    (known : Option (List (ParticipantDeviceIdentity A))) (aor : String)
    (devices : List (ParticipantDeviceIdentity A)) (ri : Reginfo) :
    KnownFrom known ((Reginfos.Client.onNotifyReceived S aor devices ri).2.flatMap
        (sub.callback S)) ↔
      KnownRefreshed S sub known (visited aor ri) := by
  rw [Reginfos.Client.onNotifyReceived, registrationLoop_callbacks, List.nil_append,
    List.flatMap_append, knownFrom_append, knownFrom_registrations]
  -- the list of a terminated registration announces nothing
  refine and_iff_left ?_
  split <;> trivial

/-- The external subscription and its client, when the client gives it what a
    NOTIFY on this event says. -/
def reached? (sys : System A R) (s : SubscriptionId) (e : EventId) :
    Option (ExternalRegistrationSubscription A R × Client A) :=
  match sys.subs.get? s with
  | some (.external sub) =>
      ((sys.world.clients.get? sub.mClient).filter (fun cl =>
        s ∈ stored sys ∧ cl.mSubscribeEvent = some e)).map (fun cl => (sub, cl))
  | _ => none

/-- It is the current event of the client of a subscription in the store. -/
theorem reached?_eq_some_iff {sys : System A R} {s : SubscriptionId} {e : EventId}
    {sub : ExternalRegistrationSubscription A R} {cl : Client A} :
    reached? sys s e = some (sub, cl) ↔
      sys.subs.get? s = some (.external sub) ∧ s ∈ stored sys ∧
        sys.world.clients.get? sub.mClient = some cl ∧ cl.mSubscribeEvent = some e := by
  rw [reached?]
  cases hget : sys.subs.get? s with
  | none => simp
  | some made =>
      cases made with
      | own sub' => simp
      | external sub' =>
          simp only [Option.map_eq_some_iff, Option.filter_eq_some_iff, decide_eq_true_eq,
            Option.some.injEq, Subscription.external.injEq, Prod.mk.injEq]
          constructor
          · rintro ⟨cl', ⟨hcl, hs, hev⟩, rfl, rfl⟩
            exact ⟨rfl, hs, hcl, hev⟩
          · rintro ⟨rfl, hs, hcl, hev⟩
            exact ⟨cl, ⟨hcl, hs, hev⟩, rfl, rfl⟩

/-- A NOTIFY announces only devices of the list that the subscription was given,
    as its document goes through the registrations. -/
def KnownAnnounced (S : Sdk A R) (s : SubscriptionId)
    (known : Option (List (ParticipantDeviceIdentity A))) (sys : System A R) : Op A R → Prop
  | .onNotifyReceived e (.reginfo ri) => ∀ sub cl, reached? sys s e = some (sub, cl) →
      KnownRefreshed S sub known (visited (S.asStringUriOnly cl.mTo) ri)
  | _ => True

/-- No NOTIFY reaches a subscription that is not external. -/
theorem KnownAnnounced.of_not_external (S : Sdk A R) {s : SubscriptionId} {sys : System A R}
    (hown : ∀ sub, sys.subs.get? s ≠ some (.external sub))
    (known : Option (List (ParticipantDeviceIdentity A))) (op : Op A R) :
    KnownAnnounced S s known sys op := by
  cases op with
  | onNotifyReceived e body =>
      cases body with
      | reginfo ri =>
          intro sub cl hreached
          exact absurd (reached?_eq_some_iff.mp hreached).1 (hown sub)
      | null => trivial
      | malformed => trivial
  | subscribe chatRoom address => trivial
  | unsubscribe chatRoom address => trivial
  | unsubscribeAll => trivial
  | onSubscriptionStateChanged e state => trivial
  | onRecordFound s' r => trivial
  | onContactRegistered s' r uid => trivial

/-- A NOTIFY that no client processes. -/
theorem onNotifyReceived_log_same {S : Sdk A R} {sys : System A R} (h : Sound S sys)
    {e : EventId} {body : NotifyBody}
    (hnone : ∀ c cl ri, sys.world.clients.get? c = some cl → cl.mSubscribeEvent = some e →
      body ≠ .reginfo ri) : (sys.onNotifyReceived S e body).log = sys.log := by
  rw [log_onNotifyReceived]
  rcases notify_cases h.inv.rest e body with hsame | ⟨c, cl, ri, hcl, hev, hbody, -⟩
  · rw [hsame]
    exact List.append_nil _
  · exact absurd hbody (hnone c cl ri hcl hev)

/-- A NOTIFY keeps the law exactly when it announces known devices. -/
theorem onlyKnown_notify_iff {S : Sdk A R} {sys : System A R} (h : Sound S sys)
    {s : SubscriptionId} (hknown : OnlyKnown (callsMadeBy s sys.log)) {c : ClientId}
    {cl : Client A} {e : EventId} (hcl : sys.world.clients.get? c = some cl)
    (hev : cl.mSubscribeEvent = some e) (ri : Reginfo) :
    OnlyKnown (callsMadeBy s (sys.onNotifyReceived S e (.reginfo ri)).log) ↔
      KnownAnnounced S s (latestSet (callsMadeBy s sys.log)) sys
        (.onNotifyReceived e (.reginfo ri)) := by
  by_cases hserved : s ∈ stored sys ∧ clientOf sys s = some c
  · obtain ⟨hs, hpointer⟩ := hserved
    obtain ⟨sub, hsub, rfl⟩ := clientOf_eq_some_iff.mp hpointer
    have hreached : reached? sys s e = some (sub, cl) :=
      reached?_eq_some_iff.mpr ⟨hsub, hs, hcl, hev⟩
    rw [log_onNotifyReceived, onlyKnown_append_iff s hknown, callsMadeBy_emissions S _ hsub,
      notify_tells h hcl hev ri hs hpointer, knownFrom_notify]
    constructor
    · intro hannounced sub' cl' hreached'
      cases hreached.symm.trans hreached'
      exact hannounced
    · exact fun hannounced => hannounced sub cl hreached
  · refine iff_of_true ?_ (fun sub cl' hreached => ?_)
    · rw [log_onNotifyReceived]
      refine onlyKnown_of_unannounced hknown (fun room device hin => hserved ?_)
      -- only the observers of the client are called
      obtain ⟨hs, hpointer, -⟩ := calls_notify h hcl hev hin
      exact ⟨hs, hpointer⟩
    · obtain ⟨hsub, hs, hcl', hev'⟩ := reached?_eq_some_iff.mp hreached
      obtain rfl := Events.isCurrent_client_inj h.inv.rest ⟨cl, hcl, hev⟩ ⟨cl', hcl', hev'⟩
      exact absurd ⟨hs, clientOf_external hsub⟩ hserved

/-- The subscription is of the own kind. -/
def Own (s : SubscriptionId) (sys : System A R) : Prop :=
  ∃ sub, sys.subs.get? s = some (.own sub)

theorem Own.not_external {s : SubscriptionId} {sys : System A R} (hown : Own s sys)
    (sub : ExternalRegistrationSubscription A R) : sys.subs.get? s ≠ some (.external sub) := by
  obtain ⟨sub', hsub'⟩ := hown
  intro hsub
  cases hsub'.symm.trans hsub

/-- A message to an own subscription gives nothing to the external ones. -/
theorem latestSet_tellOwn {sys : System A R} {s : SubscriptionId} (hown : ¬ Own s sys)
    (s' : SubscriptionId) (calls : OwnRegistrationSubscription A R → List (ChatRoomCall A)) :
    latestSet (callsMadeBy s (sys.tellOwn s' calls).log) = latestSet (callsMadeBy s sys.log) := by
  rw [System.tellOwn]
  split
  · rename_i sub hsub
    refine latestSet_others _ (fun s'' room call hin heq => hown ?_)
    obtain ⟨_, -, hcall⟩ := List.mem_map.mp hin
    obtain ⟨rfl, -, -⟩ := Handlers.Entry.called.inj hcall
    exact ⟨sub, heq ▸ hsub⟩
  · rfl

section Runs

variable [DecidableEq R]

/-- **Step lemma**: a step keeps the law exactly when it announces known
    devices. -/
theorem onlyKnown_step_iff (S : Sdk A R) (server : ConferenceServer) (s : SubscriptionId)
    (sys : System A R) (op : Op A R) (h : Sound S sys)
    (hknown : OnlyKnown (callsMadeBy s sys.log)) :
    OnlyKnown (callsMadeBy s (step S server sys op).log) ↔
      KnownAnnounced S s (latestSet (callsMadeBy s sys.log)) sys op := by
  cases op with
  | subscribe chatRoom address =>
      show OnlyKnown (callsMadeBy s (sys.subscribe S server chatRoom address).log) ↔ True
      refine iff_true_intro ?_
      rcases subscribe_cases S server h chatRoom address with
        ⟨-, hsame⟩ | ⟨hfind, hlocal, -⟩ | ⟨hfind, hlocal, -⟩
      · rw [hsame]
        exact hknown
      · rw [log_subscribe_own S server hfind hlocal]
        refine onlyKnown_of_unannounced hknown (fun room device hin => ?_)
        cases List.mem_singleton.mp hin
      · obtain ⟨c, cl, hjoined⟩ := subscribe_joins server h hfind hlocal
        rw [hjoined.log]
        refine onlyKnown_of_unannounced hknown (fun room device hin => ?_)
        rcases List.mem_cons.mp hin with heq | hin
        · cases heq
        · split at hin
          · cases List.mem_singleton.mp hin
          · cases hin
  | unsubscribe chatRoom address =>
      show OnlyKnown (callsMadeBy s (sys.unsubscribe S chatRoom address).log) ↔ True
      obtain ⟨new, hlog, hnone⟩ := log_unsubscribe h chatRoom address
      rw [hlog]
      exact iff_true_intro (onlyKnown_of_unannounced hknown
        (fun room device hin => absurd hin (hnone s room _)))
  | unsubscribeAll =>
      show OnlyKnown (callsMadeBy s (sys.unsubscribeAll S).log) ↔ True
      obtain ⟨new, hlog, hnone⟩ := log_unsubscribeAll h
      rw [hlog]
      exact iff_true_intro (onlyKnown_of_unannounced hknown
        (fun room device hin => absurd hin (hnone s room _)))
  | onNotifyReceived e body =>
      show OnlyKnown (callsMadeBy s (sys.onNotifyReceived S e body).log) ↔ _
      by_cases hcurrent : ∃ c cl ri, sys.world.clients.get? c = some cl ∧
          cl.mSubscribeEvent = some e ∧ body = .reginfo ri
      · obtain ⟨c, cl, ri, hcl, hev, rfl⟩ := hcurrent
        exact onlyKnown_notify_iff h hknown hcl hev ri
      · rw [onNotifyReceived_log_same h (fun c cl ri hcl hev hbody =>
          hcurrent ⟨c, cl, ri, hcl, hev, hbody⟩)]
        refine iff_of_true hknown ?_
        cases body with
        | null => trivial
        | malformed => trivial
        | reginfo ri =>
            intro sub cl hreached
            obtain ⟨-, -, hcl, hev⟩ := reached?_eq_some_iff.mp hreached
            exact absurd ⟨_, cl, ri, hcl, hev, rfl⟩ hcurrent
  | onSubscriptionStateChanged e state => exact iff_true_intro hknown
  | onRecordFound s' r =>
      exact iff_true_intro (onlyKnown_tellOwn hknown s'
        (fun sub known => knownFrom_processRecord S sub known r))
  | onContactRegistered s' r uid =>
      exact iff_true_intro (onlyKnown_tellOwn hknown s'
        (fun sub known => knownFrom_onContactRegistered S sub known r uid))

theorem OnlyKnown.of_prefix {calls calls' : List (ChatRoomCall A)} (h : OnlyKnown calls')
    (hpre : calls <+: calls') : OnlyKnown calls := by
  obtain ⟨more, rfl⟩ := hpre
  intro pre device post heq
  exact h pre device (post ++ more) (by rw [heq, List.append_assoc, List.cons_append])

theorem onlyKnown_init (S : Sdk A R) (server : ConferenceServer) (s : SubscriptionId) :
    OnlyKnown (callsMadeBy s (machine S server).init.log) :=
  (onlyKnown_iff _).mpr trivial

/-- A subscription that is not external keeps the law. -/
theorem onlyKnown_own (S : Sdk A R) (server : ConferenceServer) (s : SubscriptionId)
    (ops : List (Op A R)) :
    (∀ sub, ((machine S server).reach ops).subs.get? s ≠ some (.external sub)) →
      OnlyKnown (callsMadeBy s ((machine S server).reach ops).log) := by
  induction ops using List.reverseRecOn with
  | nil => exact fun _ => onlyKnown_init S server s
  | append_singleton ops op ih =>
      intro hown
      have h : Sound S ((machine S server).reach ops) := sound_reach S server ops
      rw [Machine.reach_concat] at hown ⊢
      have honward := onward_step S server h op
      -- it was not external before either
      have hbefore : ∀ sub, ((machine S server).reach ops).subs.get? s ≠ some (.external sub) := by
        intro sub hsub
        refine hown sub (subject_external_iff.mp ?_)
        exact (honward.subject s (Heap.lt_next_of_get? hsub)).trans (subject_external_iff.mpr hsub)
      exact (onlyKnown_step_iff S server s _ op h (ih hbefore)).mpr
        (KnownAnnounced.of_not_external S hbefore _ op)

/-- The list that the client of a participant replays to a new observer: the one
    it keeps, once it has an event. -/
def replayed? (S : Sdk A R) (sys : System A R) (address : A) :
    Option (List (ParticipantDeviceIdentity A)) :=
  let (acquired, c) := sys.acquireClient S address
  (acquired.world.clients.get? c).bind fun cl =>
    if cl.mSubscribeEvent.isSome then some cl.mParticipantDevices else none

/-- The list that an operation gives to an external subscription: the one that
    its client replays when it starts, and the last one that a document of its
    client announces, each as far as the chat room accepts the devices. -/
def given? (S : Sdk A R) (server : ConferenceServer) (s : SubscriptionId) (sys : System A R) :
    Op A R → Option (List (ParticipantDeviceIdentity A))
  | .subscribe chatRoom address =>
      if s = sys.subs.next ∧ sys.findSubscription S chatRoom address = false ∧
          S.getDomain address ∉ server.localDomains then
        (replayed? S sys address).map
          ((ExternalRegistrationSubscription.make server.capabilityCheckEnabled chatRoom address
            (sys.acquireClient S address).2).compatibleDevices S)
      else none
  | .onNotifyReceived e (.reginfo ri) =>
      (reached? sys s e).bind fun (sub, cl) =>
        (announced? S (S.asStringUriOnly cl.mTo) ri).map (sub.compatibleDevices S)
  | _ => none

/-- Every document of a run announces only known devices, when the subscription
    was given `known` before: each step is taken with the list given last. -/
def AllKnown (S : Sdk A R) (server : ConferenceServer) (s : SubscriptionId) :
    Option (List (ParticipantDeviceIdentity A)) → System A R → List (Op A R) → Prop
  | _, _, [] => True
  | known, sys, op :: ops =>
      KnownAnnounced S s known sys op ∧
        AllKnown S server s ((given? S server s sys op).or known) (step S server sys op) ops

/-- A subscription that starts is given what its client replays. -/
theorem latestSet_subscribe {S : Sdk A R} (server : ConferenceServer) {sys : System A R}
    (h : Sound S sys) (s : SubscriptionId) (chatRoom : R) (address : A) :
    latestSet (callsMadeBy s (sys.subscribe S server chatRoom address).log) =
      (given? S server s sys (.subscribe chatRoom address)).or
        (latestSet (callsMadeBy s sys.log)) := by
  rcases subscribe_cases S server h chatRoom address with
    ⟨hfound, hsame⟩ | ⟨hfind, hlocal, -⟩ | ⟨hfind, hlocal, -⟩
  · rw [hsame, given?, if_neg (fun hmade => ?_)]
    · rfl
    · rw [hmade.2.1] at hfound
      cases hfound
  · rw [given?, if_neg (fun hmade => hmade.2.2 hlocal), log_subscribe_own S server hfind hlocal]
    refine latestSet_others _ (fun s' room call hin => ?_)
    cases List.mem_singleton.mp hin
  · obtain ⟨c, cl, hjoined⟩ := subscribe_joins server h hfind hlocal
    have hreplayed : replayed? S sys address =
        if cl.mSubscribeEvent.isSome then some cl.mParticipantDevices else none := by
      show ((sys.acquireClient S address).1.world.clients.get?
        (sys.acquireClient S address).2).bind _ = _
      rw [hjoined.pointer, hjoined.acquired]
      rfl
    by_cases hs : s = sys.subs.next
    · subst hs
      have hgiven : given? S server sys.subs.next sys (.subscribe chatRoom address) =
          (if cl.mSubscribeEvent.isSome then some cl.mParticipantDevices else none).map
            ((ExternalRegistrationSubscription.make server.capabilityCheckEnabled chatRoom address
              c).compatibleDevices S) := by
        rw [given?, if_pos ⟨rfl, hfind, hlocal⟩, hreplayed, hjoined.pointer]
      rw [hgiven, hjoined.log, callsMadeBy_started, latestSet, latestFrom_append]
      by_cases hopen : cl.mSubscribeEvent.isSome
      · rw [if_pos hopen, if_pos hopen]
        have hreplay := callsMadeBy_map sys.subs.next chatRoom
          [ChatRoomCall.setParticipantDevices address
            ((ExternalRegistrationSubscription.make server.capabilityCheckEnabled chatRoom address
              c).compatibleDevices S cl.mParticipantDevices)]
        rw [List.map_singleton] at hreplay
        rw [hreplay]
        rfl
      · rw [if_neg hopen, if_neg hopen]
        rfl
    · rw [given?, if_neg (fun hmade => hs hmade.1), hjoined.log]
      refine latestSet_others _ (fun s' room call hin heq => hs ?_)
      -- the replay is to the new subscription
      rcases List.mem_cons.mp hin with hstarted | hin
      · cases hstarted
      · split at hin
        · exact heq.symm.trans (Handlers.Entry.called.inj (List.mem_singleton.mp hin)).1
        · cases hin

/-- A subscription is given what the documents of its client announce. -/
theorem latestSet_notify {S : Sdk A R} {sys : System A R} (h : Sound S sys)
    (server : ConferenceServer) (s : SubscriptionId) (e : EventId) (body : NotifyBody) :
    latestSet (callsMadeBy s (sys.onNotifyReceived S e body).log) =
      (given? S server s sys (.onNotifyReceived e body)).or
        (latestSet (callsMadeBy s sys.log)) := by
  by_cases hcurrent : ∃ sub cl ri, reached? sys s e = some (sub, cl) ∧ body = .reginfo ri
  · obtain ⟨sub, cl, ri, hreached, rfl⟩ := hcurrent
    obtain ⟨hsub, hs, hcl, hev⟩ := reached?_eq_some_iff.mp hreached
    rw [log_onNotifyReceived, callsMadeBy_append, latestSet, latestFrom_append,
      callsMadeBy_emissions S _ hsub, notify_tells h hcl hev ri hs (clientOf_external hsub),
      client_reports, latestFrom_reported (passesOn_callback S sub), given?, hreached]
    rfl
  · have hnone : given? S server s sys (.onNotifyReceived e body) = none := by
      cases body with
      | null => rfl
      | malformed => rfl
      | reginfo ri =>
          rw [given?]
          cases hreached : reached? sys s e with
          | none => rfl
          | some found => exact absurd ⟨found.1, found.2, ri, hreached, rfl⟩ hcurrent
    rw [hnone, log_onNotifyReceived]
    refine latestSet_others _ (fun s' room call hin heq => ?_)
    subst heq
    rcases notify_cases h.inv.rest e body with hsame | ⟨c, cl, ri, hcl, hev, rfl, -⟩
    · rw [hsame] at hin
      cases hin
    · obtain ⟨hs, hpointer, -⟩ := calls_notify h hcl hev hin
      obtain ⟨sub, hsub, rfl⟩ := clientOf_eq_some_iff.mp hpointer
      exact hcurrent ⟨sub, cl, ri, reached?_eq_some_iff.mpr ⟨hsub, hs, hcl, hev⟩, rfl⟩

/-- **Step lemma**: the list that a subscription has set last is the one it was
    given last. -/
theorem latestSet_step (S : Sdk A R) (server : ConferenceServer) (s : SubscriptionId)
    {sys : System A R} (h : Sound S sys) (hown : ¬ Own s sys) (op : Op A R) :
    latestSet (callsMadeBy s (step S server sys op).log) =
      (given? S server s sys op).or (latestSet (callsMadeBy s sys.log)) := by
  cases op with
  | subscribe chatRoom address => exact latestSet_subscribe server h s chatRoom address
  | unsubscribe chatRoom address =>
      show latestSet (callsMadeBy s (sys.unsubscribe S chatRoom address).log) = _
      obtain ⟨new, hlog, hnone⟩ := log_unsubscribe h chatRoom address
      rw [hlog]
      exact latestSet_others _ (fun s' room call hin => absurd hin (hnone s' room call))
  | unsubscribeAll =>
      show latestSet (callsMadeBy s (sys.unsubscribeAll S).log) = _
      obtain ⟨new, hlog, hnone⟩ := log_unsubscribeAll h
      rw [hlog]
      exact latestSet_others _ (fun s' room call hin => absurd hin (hnone s' room call))
  | onNotifyReceived e body => exact latestSet_notify h server s e body
  | onSubscriptionStateChanged e state => rfl
  | onRecordFound s' r => exact latestSet_tellOwn hown s' _
  | onContactRegistered s' r uid => exact latestSet_tellOwn hown s' _

/-- A subscription keeps its kind. -/
theorem Own.persists {S : Sdk A R} {server : ConferenceServer} {s : SubscriptionId}
    {sys : System A R} (h : Sound S sys) (hown : Own s sys) (op : Op A R) :
    Own s (step S server sys op) := by
  obtain ⟨sub, hsub⟩ := hown
  have hsubject := (onward_step S server h op).subject s (Heap.lt_next_of_get? hsub)
  rw [subject, subject, hsub] at hsubject
  cases hget : (step S server sys op).subs.get? s with
  | none =>
      rw [hget] at hsubject
      cases hsubject
  | some made =>
      rw [hget] at hsubject
      cases made with
      | own sub' => exact ⟨sub', hget⟩
      | external sub' => cases hsubject

/-- **Run lemma**: what a subscription was given, it has set, so the condition
    need not look at the calls. -/
theorem along_iff_allKnown (S : Sdk A R) (server : ConferenceServer) (s : SubscriptionId)
    (ops : List (Op A R)) (sys : System A R)
    (known : Option (List (ParticipantDeviceIdentity A))) (h : Sound S sys)
    (hknown : ¬ Own s sys → latestSet (callsMadeBy s sys.log) = known) :
    (machine S server).Along
        (fun sys => KnownAnnounced S s (latestSet (callsMadeBy s sys.log)) sys) sys ops ↔
      AllKnown S server s known sys ops := by
  induction ops generalizing sys known with
  | nil => exact Iff.rfl
  | cons op ops ih =>
      have hfirst : KnownAnnounced S s (latestSet (callsMadeBy s sys.log)) sys op ↔
          KnownAnnounced S s known sys op := by
        by_cases hown : Own s sys
        · exact iff_of_true (KnownAnnounced.of_not_external S hown.not_external _ op)
            (KnownAnnounced.of_not_external S hown.not_external _ op)
        · rw [hknown hown]
      refine and_congr hfirst (ih _ _ (sound_step S server sys op h) (fun hlater => ?_))
      have hown : ¬ Own s sys := fun hown => hlater (hown.persists h op)
      show latestSet (callsMadeBy s (step S server sys op).log) = _
      rw [latestSet_step S server s h hown op, hknown hown]

/-- **ONLY KNOWN DEVICES.** In every run an own subscription announces only
    devices of the list that it set last; any subscription does so exactly when
    each NOTIFY that its client processes has refreshed contacts only of devices
    of the list that the documents and the replay have given it before. -/
theorem only_known_iff (S : Sdk A R) (server : ConferenceServer) (ops : List (Op A R))
    (s : SubscriptionId) :
    ((∀ sub, ((machine S server).reach ops).subs.get? s ≠ some (.external sub)) →
      OnlyKnown (callsMadeBy s ((machine S server).reach ops).log)) ∧
    (OnlyKnown (callsMadeBy s ((machine S server).reach ops).log) ↔
      AllKnown S server s none (machine S server).init ops) := by
  have hprefixes := Machine.forall_prefix_iff_along (M := machine S server) (J := Sound S)
    (I := fun sys => OnlyKnown (callsMadeBy s sys.log)) (sound_step S server)
    (onlyKnown_step_iff S server s) ops (machine S server).init (Sound.init S)
    (onlyKnown_init S server s)
  have hgiven := along_iff_allKnown S server s ops (machine S server).init none (Sound.init S)
    (fun _ => rfl)
  refine ⟨onlyKnown_own S server s ops, Iff.trans ?_ (hprefixes.trans hgiven)⟩
  constructor
  · rintro hknown pre ⟨later, rfl⟩
    refine hknown.of_prefix ?_
    obtain ⟨new, hlog, -⟩ := (onward_run S server (sound_reach S server pre) later).2.calls
    rw [Machine.reach_append, hlog, callsMadeBy_append]
    exact List.prefix_append _ _
  · exact fun hall => hall ops (List.prefix_refl ops)

end Runs

/-- The first document of a participant has only a refreshed phone: it is
    announced to a chat room that was never given a list. -/
theorem refreshed_before_listed :
    let ops : List (Op String (BitVec 32)) :=
      [.subscribe Capabilities.conference "sip:alice@external.example.org",
        .onNotifyReceived 0 (.reginfo [⟨"sip:alice@external.example.org", .active,
          [{ samplePhone with event := .refreshed }]⟩])]
    let log := ((machine stringSdk sampleServer).reach ops).log
    callsMadeBy 0 log = [.notifyParticipantDeviceRegistration
      (some "sip:alice@external.example.org;gr=phone")] ∧ ¬ OnlyKnown (callsMadeBy 0 log) := by
  intro ops log
  have hcalls : callsMadeBy 0 log = [.notifyParticipantDeviceRegistration
      (some "sip:alice@external.example.org;gr=phone")] := by decide
  refine ⟨hcalls, fun hknown => ?_⟩
  obtain ⟨devices, hnone, -⟩ := hknown [] _ [] hcalls
  cases hnone

end Announcements
