import FlexisipConference.SdkProofs

/-! # Reginfo documents and `Client::onNotifyReceived`

    A NOTIFY of the 'reg' event package carries a reginfo document: a list of
    registrations, each with the contacts of one AOR.  `Client.onNotifyReceived`
    is the loop of the source, with its locals made explicit (`ContactLoop`);
    its result is the sequence of calls made on the observers and the device
    list that the client keeps.

    Next to the loops stands what they compute, by plain list functions: a
    contact gives at most one identity (`Contact.identity?`), a registration a
    list of devices (`Registration.devices`), a document the device list of an
    AOR (`deviceList?`).  `registrationLoop_devices` puts the two together. -/

namespace Reginfos

open Sdks

variable {A R : Type}

/-- `reginfo::Event` of a contact. -/
inductive ContactEvent where
  | registered
  | created
  | refreshed
  | shortened
  | expired
  | deactivated
  | probation
  | unregistered
  | rejected
  deriving DecidableEq, Repr

/-- The state of a contact; the client never reads it. -/
inductive ContactState where
  | active
  | terminated
  deriving DecidableEq, Repr

structure UnknownParam where
  name : String
  value : String
  deriving DecidableEq, Repr

structure Contact where
  uri : String
  displayName : Option String
  unknownParams : List UnknownParam
  event : ContactEvent
  state : ContactState
  deriving DecidableEq, Repr

inductive RegistrationState where
  | init
  | active
  | terminated
  deriving DecidableEq, Repr

structure Registration where
  aor : String
  state : RegistrationState
  contacts : List Contact
  deriving DecidableEq, Repr

abbrev Reginfo := List Registration

/-- The body of a NOTIFY: missing, rejected by the parser, or a document. -/
inductive NotifyBody where
  | null
  | malformed
  | reginfo (ri : Reginfo)
  deriving DecidableEq, Repr

/-- A call on a `ClientListener`. -/
inductive ClientCallback (A : Type) where
  | onNotifyReceived (participantDevices : List (ParticipantDeviceIdentity A))
  | onRefreshed (participantDevice : ParticipantDeviceIdentity A)
  deriving DecidableEq, Repr

/-! ## The loops of the source -/

/-- The locals of the contact loop, and the calls made on the observers. -/
structure ContactLoop (A : Type) where
  refreshed : Nat
  participantDevices : List (ParticipantDeviceIdentity A)
  notified : List (ClientCallback A)

/-- The parameter that carries the capabilities of a contact. -/
def specsParam : String := "+org.linphone.specs"

/-- The loop over the unknown parameters of one contact: it stops at the first
    one that carries the specs. -/
def paramLoop (S : Sdk A R) (partDeviceAddr : Option A) (displayName : String)
    (event : ContactEvent) : List UnknownParam → ContactLoop A → ContactLoop A
  | [], st => st
  | param :: rest, st =>
      if param.name ≠ specsParam then paramLoop S partDeviceAddr displayName event rest st
      else
        let identity : ParticipantDeviceIdentity A :=
          { address := partDeviceAddr
            displayName := displayName
            capabilityDescriptor := [S.unquote param.value] }
        let st :=
          if event = .refreshed then
            { st with
              notified := st.notified ++ [.onRefreshed identity]
              refreshed := st.refreshed + 1 }
          else st
        { st with participantDevices := st.participantDevices ++ [identity] }

/-- One turn of the contact loop. -/
def contactTurn (S : Sdk A R) (st : ContactLoop A) (contact : Contact) : ContactLoop A :=
  paramLoop S (S.createAddress contact.uri) (contact.displayName.getD "") contact.event
    contact.unknownParams st

/-- The contact loop of one registration. -/
def contactLoop (S : Sdk A R) (contacts : List Contact) : ContactLoop A :=
  contacts.foldl (contactTurn S) ⟨0, [], []⟩

/-- The snapshot that follows the contact loop, unless everything is
    refreshed. -/
def snapshot (st : ContactLoop A) : List (ClientCallback A) :=
  if st.refreshed < st.participantDevices.length then [.onNotifyReceived st.participantDevices]
  else []

/-- The loop over the registrations; `aor` is `mTo->asStringUriOnly()`.  It
    carries `mParticipantDevices` and the calls made so far. -/
def registrationLoop (S : Sdk A R) (aor : String) :
    Reginfo → List (ParticipantDeviceIdentity A) → List (ClientCallback A) →
      List (ParticipantDeviceIdentity A) × List (ClientCallback A)
  | [], devices, out => (devices, out)
  | registration :: rest, devices, out =>
      if registration.aor ≠ aor then registrationLoop S aor rest devices out
      -- the source leaves the loop here, whatever follows in the document
      else if registration.state = .terminated then ([], out ++ [.onNotifyReceived []])
      else
        let st := contactLoop S registration.contacts
        registrationLoop S aor rest st.participantDevices (out ++ st.notified ++ snapshot st)

/-- `Client::onNotifyReceived` on a parsed document: the new
    `mParticipantDevices` and the calls made on every observer, in order. -/
def Client.onNotifyReceived (S : Sdk A R) (aor : String)
    (mParticipantDevices : List (ParticipantDeviceIdentity A)) (ri : Reginfo) :
    List (ParticipantDeviceIdentity A) × List (ClientCallback A) :=
  registrationLoop S aor ri mParticipantDevices []

/-! ## What the loops compute -/

/-- The specs of a contact: its first parameter of that name. -/
def Contact.specs? (contact : Contact) : Option String :=
  (contact.unknownParams.find? (fun param => param.name = specsParam)).map (·.value)

/-- The identity of a contact with the given specs. -/
def Contact.identityWith (S : Sdk A R) (contact : Contact) (specs : String) :
    ParticipantDeviceIdentity A where
  address := S.createAddress contact.uri
  displayName := contact.displayName.getD ""
  capabilityDescriptor := [S.unquote specs]

/-- The identity a contact gives, if it carries specs. -/
def Contact.identity? (S : Sdk A R) (contact : Contact) :
    Option (ParticipantDeviceIdentity A) :=
  contact.specs?.map (contact.identityWith S)

/-- The devices of a list of contacts, in document order. -/
def devicesOf (S : Sdk A R) (contacts : List Contact) : List (ParticipantDeviceIdentity A) :=
  contacts.filterMap (Contact.identity? S)

/-- The contacts announced as refreshed. -/
def refreshedContacts (contacts : List Contact) : List Contact :=
  contacts.filter (fun contact => contact.event = .refreshed)

/-- Some contact with specs is announced with another event than refreshed. -/
def HasUnrefreshed (contacts : List Contact) : Prop :=
  ∃ contact ∈ contacts, contact.specs?.isSome ∧ contact.event ≠ .refreshed

instance (contacts : List Contact) : Decidable (HasUnrefreshed contacts) :=
  inferInstanceAs (Decidable (∃ contact ∈ contacts, _))

/-- The devices a registration describes: none once it is terminated. -/
def Registration.devices (S : Sdk A R) (registration : Registration) :
    List (ParticipantDeviceIdentity A) :=
  if registration.state = .terminated then [] else devicesOf S registration.contacts

/-- The registrations of a document that are about an AOR. -/
def matching (aor : String) (ri : Reginfo) : List Registration :=
  ri.filter (fun registration => registration.aor = aor)

/-- The device list that a document gives to an AOR, if it is about it: no
    device when some registration is terminated, else those of the last one. -/
def deviceList? (S : Sdk A R) (aor : String) (ri : Reginfo) :
    Option (List (ParticipantDeviceIdentity A)) :=
  if ∃ registration ∈ matching aor ri, registration.state = .terminated then some []
  else (matching aor ri).getLast?.map (fun registration => devicesOf S registration.contacts)

/-- The lists passed to `onNotifyReceived`, in order. -/
def snapshots (out : List (ClientCallback A)) : List (List (ParticipantDeviceIdentity A)) :=
  out.filterMap fun
    | .onNotifyReceived devices => some devices
    | .onRefreshed _ => none

/-- One contact adds its identity to the devices and, when it is refreshed,
    one call. -/
theorem paramLoop_eq (S : Sdk A R) (contact : Contact) (st : ContactLoop A) :
    contactTurn S st contact =
      { refreshed := st.refreshed + (devicesOf S (refreshedContacts [contact])).length
        participantDevices := st.participantDevices ++ devicesOf S [contact]
        notified := st.notified ++
          (devicesOf S (refreshedContacts [contact])).map .onRefreshed } := by
  have hloop : ∀ params : List UnknownParam,
      paramLoop S (S.createAddress contact.uri) (contact.displayName.getD "") contact.event
          params st =
        match params.find? (fun param => param.name = specsParam) with
        | none => st
        | some param =>
            paramLoop S (S.createAddress contact.uri) (contact.displayName.getD "") contact.event
              [⟨specsParam, param.value⟩] st := by
    intro params
    induction params with
    | nil => rfl
    | cons param rest ih =>
        by_cases hname : param.name = specsParam
        · rw [List.find?_cons_of_pos (by simpa using hname)]
          simp [paramLoop, hname]
        · rw [List.find?_cons_of_neg (by simpa using hname), ← ih]
          simp [paramLoop, hname]
  rw [contactTurn, hloop]
  cases hfind : contact.unknownParams.find? (fun param => param.name = specsParam) with
  | none =>
      have hnone : contact.identity? S = none := by
        simp [Contact.identity?, Contact.specs?, hfind]
      by_cases hev : contact.event = .refreshed <;>
        simp [devicesOf, refreshedContacts, hev, hnone]
  | some param =>
      have hsome : contact.identity? S = some (contact.identityWith S param.value) := by
        simp [Contact.identity?, Contact.specs?, hfind]
      by_cases hev : contact.event = .refreshed <;>
        simp [paramLoop, devicesOf, refreshedContacts, hev, hsome, Contact.identityWith]

theorem devicesOf_cons (S : Sdk A R) (contact : Contact) (rest : List Contact) :
    devicesOf S (contact :: rest) = devicesOf S [contact] ++ devicesOf S rest := by
  rw [← List.singleton_append, devicesOf, List.filterMap_append]
  rfl

theorem refreshedContacts_cons (contact : Contact) (rest : List Contact) :
    refreshedContacts (contact :: rest) =
      refreshedContacts [contact] ++ refreshedContacts rest := by
  rw [← List.singleton_append, refreshedContacts, List.filter_append]
  rfl

/-- The contact loop collects the devices of all the contacts and makes one
    call for each refreshed one. -/
theorem contactLoop_eq (S : Sdk A R) (contacts : List Contact) :
    contactLoop S contacts =
      { refreshed := (devicesOf S (refreshedContacts contacts)).length
        participantDevices := devicesOf S contacts
        notified := (devicesOf S (refreshedContacts contacts)).map .onRefreshed } := by
  have hfold : ∀ (cs : List Contact) (st : ContactLoop A),
      cs.foldl (contactTurn S) st =
        { refreshed := st.refreshed + (devicesOf S (refreshedContacts cs)).length
          participantDevices := st.participantDevices ++ devicesOf S cs
          notified := st.notified ++ (devicesOf S (refreshedContacts cs)).map .onRefreshed } := by
    intro cs
    induction cs with
    | nil => intro st; simp [devicesOf, refreshedContacts]
    | cons contact rest ih =>
        intro st
        have hdev : devicesOf S (refreshedContacts (contact :: rest)) =
            devicesOf S (refreshedContacts [contact]) ++ devicesOf S (refreshedContacts rest) := by
          rw [refreshedContacts_cons, devicesOf, List.filterMap_append]
          rfl
        rw [List.foldl_cons, ih, paramLoop_eq, hdev, devicesOf_cons S contact rest]
        simp [Nat.add_assoc]
  rw [contactLoop, hfold]
  simp

/-- The refreshed devices are all the devices unless some contact with specs
    is not refreshed. -/
theorem refreshed_lt_iff (S : Sdk A R) (contacts : List Contact) :
    (devicesOf S (refreshedContacts contacts)).length < (devicesOf S contacts).length ↔
      HasUnrefreshed contacts := by
  have hle : ∀ cs : List Contact,
      (devicesOf S (refreshedContacts cs)).length ≤ (devicesOf S cs).length := by
    intro cs
    exact ((List.filter_sublist (l := cs)).filterMap _).length_le
  induction contacts with
  | nil => simp [devicesOf, refreshedContacts, HasUnrefreshed]
  | cons contact rest ih =>
      have hcons : HasUnrefreshed (contact :: rest) ↔
          (contact.specs?.isSome ∧ contact.event ≠ .refreshed) ∨ HasUnrefreshed rest := by
        simp [HasUnrefreshed]
      have hrest := hle rest
      have hone : (devicesOf S [contact]).length = if contact.specs?.isSome then 1 else 0 := by
        cases hspecs : contact.specs? <;> simp [devicesOf, Contact.identity?, hspecs]
      simp only [hcons, ← ih]
      rw [devicesOf_cons S contact rest, List.length_append, hone]
      by_cases hev : contact.event = .refreshed
      · -- a refreshed contact counts on both sides
        have hall : refreshedContacts (contact :: rest) = contact :: refreshedContacts rest := by
          simp [refreshedContacts, hev]
        rw [hall, devicesOf_cons, List.length_append, hone]
        simp [hev]
      · -- another one counts on the right, if it carries specs
        have hskip : refreshedContacts (contact :: rest) = refreshedContacts rest := by
          simp [refreshedContacts, hev]
        rw [hskip]
        cases hspecs : contact.specs?.isSome with
        | false => simp
        | true =>
            simp only [hev, ne_eq, not_false_eq_true, and_self, true_or, iff_true, if_true]
            omega

theorem matching_cons_of_eq {aor : String} {registration : Registration}
    (haor : registration.aor = aor) (rest : Reginfo) :
    matching aor (registration :: rest) = registration :: matching aor rest :=
  List.filter_cons_of_pos (decide_eq_true haor)

theorem matching_cons_of_ne {aor : String} {registration : Registration}
    (haor : registration.aor ≠ aor) (rest : Reginfo) :
    matching aor (registration :: rest) = matching aor rest :=
  List.filter_cons_of_neg (fun h => haor (of_decide_eq_true h))

/-- The loop over the registrations sees only those of the AOR. -/
theorem registrationLoop_matching (S : Sdk A R) (aor : String) :
    ∀ (ri : Reginfo) (devices : List (ParticipantDeviceIdentity A))
      (out : List (ClientCallback A)),
      registrationLoop S aor ri devices out =
        registrationLoop S aor (matching aor ri) devices out := by
  intro ri
  induction ri with
  | nil => intro devices out; rfl
  | cons registration rest ih =>
      intro devices out
      by_cases haor : registration.aor = aor
      · have hm := matching_cons_of_eq haor rest
        rw [hm, registrationLoop, registrationLoop]
        simp only [ih]
      · have hm := matching_cons_of_ne haor rest
        rw [hm, registrationLoop, if_pos haor, ih]

/-- The list that the client keeps is the one the document gives to its AOR;
    a document that is not about the AOR leaves it. -/
theorem registrationLoop_devices (S : Sdk A R) (aor : String) :
    ∀ (ri : Reginfo) (devices : List (ParticipantDeviceIdentity A))
      (out : List (ClientCallback A)),
      (registrationLoop S aor ri devices out).1 = (deviceList? S aor ri).getD devices := by
  intro ri
  induction ri with
  | nil => intro devices out; simp [registrationLoop, deviceList?, matching]
  | cons registration rest ih =>
      intro devices out
      by_cases haor : registration.aor = aor
      · have hm := matching_cons_of_eq haor rest
        by_cases hterm : registration.state = .terminated
        · simp [registrationLoop, haor, hterm, deviceList?, hm]
        · -- a later registration of the AOR overrides this one
          rw [registrationLoop, if_neg (not_not_intro haor), if_neg hterm]
          simp only [ih, contactLoop_eq]
          by_cases hlater : ∃ r ∈ matching aor rest, r.state = .terminated
          · simp [deviceList?, hm, hterm, hlater]
          · simp only [deviceList?, hm, List.mem_cons, exists_eq_or_imp, hterm, hlater, or_self,
              if_false]
            cases matching aor rest <;> simp [List.getLast?_cons]
      · have hm := matching_cons_of_ne haor rest
        rw [registrationLoop, if_pos haor, ih]
        simp only [deviceList?, hm]

/-- The device list kept after a NOTIFY. -/
theorem onNotifyReceived_devices (S : Sdk A R) (aor : String)
    (devices : List (ParticipantDeviceIdentity A)) (ri : Reginfo) :
    (Client.onNotifyReceived S aor devices ri).1 = (deviceList? S aor ri).getD devices :=
  registrationLoop_devices S aor ri devices []

/-- A NOTIFY with one registration for the AOR: what is kept and what is
    called. -/
theorem onNotifyReceived_single (S : Sdk A R) {aor : String} {ri : Reginfo}
    {registration : Registration} (hm : matching aor ri = [registration])
    (devices : List (ParticipantDeviceIdentity A)) :
    Client.onNotifyReceived S aor devices ri =
      (registration.devices S,
        if registration.state = .terminated then [.onNotifyReceived []]
        else (devicesOf S (refreshedContacts registration.contacts)).map .onRefreshed ++
          snapshot (contactLoop S registration.contacts)) := by
  have haor : registration.aor = aor := by
    have hmem : registration ∈ matching aor ri := by rw [hm]; exact List.mem_singleton_self _
    simpa using (List.mem_filter.mp hmem).2
  rw [Client.onNotifyReceived, registrationLoop_matching, hm, registrationLoop,
    if_neg (not_not_intro haor), Registration.devices]
  by_cases hterm : registration.state = .terminated
  · simp [hterm]
  · simp [hterm, registrationLoop, contactLoop_eq]

/-- The snapshot is made exactly when some contact with specs is not
    refreshed. -/
theorem snapshot_contactLoop_of (S : Sdk A R) {contacts : List Contact}
    (h : HasUnrefreshed contacts) :
    snapshot (contactLoop S contacts) = [.onNotifyReceived (devicesOf S contacts)] := by
  rw [snapshot, contactLoop_eq, if_pos ((refreshed_lt_iff S contacts).mpr h)]

/-- Contacts that are all refreshed make no snapshot. -/
theorem snapshot_contactLoop_not (S : Sdk A R) {contacts : List Contact}
    (h : ¬ HasUnrefreshed contacts) : snapshot (contactLoop S contacts) = [] := by
  rw [snapshot, contactLoop_eq, if_neg (fun hlt => h ((refreshed_lt_iff S contacts).mp hlt))]

end Reginfos
