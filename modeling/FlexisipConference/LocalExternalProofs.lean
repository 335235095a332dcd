import FlexisipConference.CapabilityProofs

/-! # Local and external participants

    The devices of a local participant come from the registrar record, those of
    an external one from a reginfo document.  The two pipelines filter at
    different places: the own one tests the specs as they are stored and then
    unquotes them, the external one unquotes first and tests the descriptor.
    For contacts that carry specs this makes no difference
    (`external_devices_eq_own`).  A contact without specs is no device for the
    external path, while the own path tests it with empty specs; these fail in
    a chat room that asks for more than one-to-one (`emptySpecs_iff`). -/

namespace LocalExternal

open Sdks Reginfos Subscriptions
open CapabilitySpecs (and_eq_right_iff)

variable {A R : Type}

/-- A registered contact with a public GRUU, as the registrar and the reg-event
    server of its domain both know it. -/
structure RegisteredContact where
  gruu : String
  specs : Option String
  deviceName : String
  displayName : Option String
  deriving DecidableEq, Repr

/-- The contact in the registrar record: specs that are absent read as the
    empty string. -/
def RegisteredContact.extendedContact (contact : RegisteredContact) : ExtendedContact where
  uniqueId := contact.gruu
  pubGruu := some contact.gruu
  orgLinphoneSpecs := contact.specs.getD ""
  deviceName := contact.deviceName

/-- The contact element of a NOTIFY that announces it as newly registered. -/
def RegisteredContact.contactElement (contact : RegisteredContact) : Contact where
  uri := contact.gruu
  displayName := contact.displayName
  unknownParams := (contact.specs.map (fun specs => ⟨specsParam, specs⟩)).toList
  event := .registered
  state := .active

/-- The registrar record with these contacts. -/
def recordOf (contacts : List RegisteredContact) : Record :=
  ⟨contacts.map RegisteredContact.extendedContact⟩

/-- The NOTIFY that describes these contacts. -/
def notifyOf (aor : String) (contacts : List RegisteredContact) : Reginfo :=
  [⟨aor, .active, contacts.map RegisteredContact.contactElement⟩]

/-- The calls that an external subscription makes when its client gets the
    NOTIFY. -/
def externalCalls (S : Sdk A R) (sub : ExternalRegistrationSubscription A R) (aor : String)
    (kept : List (ParticipantDeviceIdentity A)) (ri : Reginfo) : List (ChatRoomCall A) :=
  (Client.onNotifyReceived S aor kept ri).2.flatMap (sub.callback S)

/-- What the chat room is told of a device: its address and its capability
    descriptor. -/
def facet (device : ParticipantDeviceIdentity A) : Option A × List String :=
  (device.address, device.capabilityDescriptor)

/-- The lists given to the chat room, by address and descriptor. -/
def listsGiven (calls : List (ChatRoomCall A)) : List (List (Option A × List String)) :=
  calls.filterMap fun
    | .setParticipantDevices _ devices => some (devices.map facet)
    | .notifyParticipantDeviceRegistration _ => none

/-- The GRUU of the contact is an address, with or without angle brackets. -/
def GruuParses (S : Sdk A R) (contact : RegisteredContact) : Prop :=
  ∃ addr, S.createAddress contact.gruu = some addr ∧
    S.createAddress ("<" ++ contact.gruu ++ ">") = some addr

/-- The contacts that carry specs. -/
def withSpecs (contacts : List RegisteredContact) : List RegisteredContact :=
  contacts.filter (fun contact => contact.specs.isSome)

/-- The mask asks for something besides one-to-one. -/
def AsksForMore (mask : BitVec 32) : Prop :=
  ∃ i, mask.getLsbD i = true ∧ Capabilities.oneToOne.getLsbD i = false

theorem specs?_contactElement (contact : RegisteredContact) :
    contact.contactElement.specs? = contact.specs := by
  cases hs : contact.specs <;> simp [Contact.specs?, RegisteredContact.contactElement, hs]

/-- A document of newly registered contacts has an unrefreshed one as soon as
    one contact carries specs. -/
theorem hasUnrefreshed_contactElements {contacts : List RegisteredContact}
    (h : ∃ contact ∈ contacts, contact.specs.isSome) :
    HasUnrefreshed (contacts.map RegisteredContact.contactElement) := by
  obtain ⟨contact, hmem, hspecs⟩ := h
  refine ⟨contact.contactElement, List.mem_map_of_mem hmem, ?_, nofun⟩
  rw [specs?_contactElement]
  exact hspecs

/-- One turn of the loop over the record. -/
theorem recordDevices_cons (S : Sdk A R) (own : OwnRegistrationSubscription A R)
    (contact : RegisteredContact) {addr : A}
    (haddr : S.createAddress ("<" ++ contact.gruu ++ ">") = some addr)
    (rest : List RegisteredContact) :
    own.recordDevices S (some (recordOf (contact :: rest))) =
      (if own.isContactCompatible S (contact.specs.getD "") then
        [⟨some addr, contact.deviceName, [S.unquote (contact.specs.getD "")]⟩] else []) ++
      own.recordDevices S (some (recordOf rest)) := by
  have hgruu : getPubGruu S contact.extendedContact = some addr := by
    simp [getPubGruu, RegisteredContact.extendedContact, haddr]
  simp only [OwnRegistrationSubscription.recordDevices, recordOf, List.map_cons,
    OwnRegistrationSubscription.recordLoop, hgruu]
  by_cases hcompat : own.isContactCompatible S (contact.specs.getD "") = true
  · simp [RegisteredContact.extendedContact, hcompat]
  · simp [RegisteredContact.extendedContact, hcompat]

/-- **The two filters agree** on contacts that carry specs. -/
theorem external_devices_eq_own (S : Sdk A R) (own : OwnRegistrationSubscription A R)
    (ext : ExternalRegistrationSubscription A R)
    (hsub : ext.toRegistrationSubscription = own.toRegistrationSubscription) :
    ∀ contacts : List RegisteredContact, (∀ contact ∈ contacts, GruuParses S contact) →
      (ext.compatibleDevices S
        (devicesOf S (contacts.map RegisteredContact.contactElement))).map facet =
      (own.recordDevices S (some (recordOf (withSpecs contacts)))).map facet := by
  intro contacts
  induction contacts with
  | nil => intro _; rfl
  | cons contact rest ih =>
      intro hgruu
      have ih' := ih (fun c hc => hgruu c (List.mem_cons_of_mem contact hc))
      obtain ⟨addr, haddr, haddr'⟩ := hgruu contact (List.mem_cons_self ..)
      rw [List.map_cons, devicesOf_cons, ExternalRegistrationSubscription.compatibleDevices,
        List.filter_append, List.map_append]
      cases hs : contact.specs with
      | none =>
          -- no device for the client, and not among the contacts with specs
          have hdev : devicesOf S [contact.contactElement] = [] := by
            simp [devicesOf, Contact.identity?, specs?_contactElement, hs]
          have hskip : withSpecs (contact :: rest) = withSpecs rest := by
            simp [withSpecs, hs]
          rw [hdev, hskip, ← ih']
          rfl
      | some specs =>
          have hdev : devicesOf S [contact.contactElement] =
              [contact.contactElement.identityWith S specs] := by
            simp [devicesOf, Contact.identity?, specs?_contactElement, hs]
          have htake : withSpecs (contact :: rest) = contact :: withSpecs rest := by
            simp [withSpecs, hs]
          have hown : own.recordDevices S (some (recordOf (contact :: withSpecs rest))) =
              (if own.isContactCompatible S specs then
                [⟨some addr, contact.deviceName, [S.unquote specs]⟩] else []) ++
              own.recordDevices S (some (recordOf (withSpecs rest))) := by
            rw [recordDevices_cons S own contact haddr', hs]
            rfl
          -- the descriptor is the unquoted specs, which pass the same test
          have hcompat : ext.isContactCompatible S (S.getCapabilityDescriptor
              (contact.contactElement.identityWith S specs).capabilityDescriptor) =
              own.isContactCompatible S specs := by
            rw [hsub, Contact.identityWith, S.descriptor_single, isContactCompatible_unquote]
          have hfacet : facet (contact.contactElement.identityWith S specs) =
              (some addr, [S.unquote specs]) := by
            simp [facet, Contact.identityWith, RegisteredContact.contactElement, haddr]
          rw [hdev, htake, hown, List.map_append, ← ih']
          congr 1
          by_cases hc : own.isContactCompatible S specs = true
          · simpa [hcompat, hc, facet] using hfacet
          · simp [hcompat, hc]

/-! ## Contacts without specs -/

/-- **Empty specs** pass the test when there is none, or when the chat room asks
    for nothing but one-to-one. -/
theorem emptySpecs_iff (S : Sdk A R) (sub : RegistrationSubscription A R) :
    sub.isContactCompatible S "" = true ↔
      ¬ (sub.mCheckCapabilities = true ∧ AsksForMore (S.getCapabilities sub.mChatRoom)) := by
  have hmask : Capabilities.oneToOne ||| getMaskFromSpecs "" = Capabilities.oneToOne := by
    decide
  rw [RegistrationSubscription.isContactCompatible]
  cases sub.mCheckCapabilities with
  | false => exact iff_of_true rfl (fun h => Bool.false_ne_true h.1)
  | true =>
      simp only [Bool.not_true, Bool.false_eq_true, if_false, beq_iff_eq, true_and]
      rw [hmask, and_eq_right_iff, AsksForMore]
      push Not
      simp only [ne_eq, Bool.not_eq_false]

/-- The own path has a device for each contact whose specs pass the test. -/
theorem length_recordDevices (S : Sdk A R) (own : OwnRegistrationSubscription A R) :
    ∀ contacts : List RegisteredContact, (∀ contact ∈ contacts, GruuParses S contact) →
      (own.recordDevices S (some (recordOf contacts))).length =
        contacts.countP (fun contact => own.isContactCompatible S (contact.specs.getD "")) := by
  intro contacts
  induction contacts with
  | nil => intro _; rfl
  | cons contact rest ih =>
      intro hgruu
      obtain ⟨addr, -, haddr⟩ := hgruu contact (List.mem_cons_self ..)
      have ih' := ih (fun c hc => hgruu c (List.mem_cons_of_mem contact hc))
      rw [recordDevices_cons S own contact haddr, List.length_append, ih', List.countP_cons]
      split
      · exact Nat.add_comm _ _
      · exact Nat.zero_add _

/-- A contact without specs that the own path leaves out makes no difference. -/
theorem recordDevices_withSpecs (S : Sdk A R) (own : OwnRegistrationSubscription A R) :
    ∀ contacts : List RegisteredContact, (∀ contact ∈ contacts, GruuParses S contact) →
      (∀ contact ∈ contacts, contact.specs.isSome ∨ own.isContactCompatible S "" = false) →
      own.recordDevices S (some (recordOf (withSpecs contacts))) =
        own.recordDevices S (some (recordOf contacts)) := by
  intro contacts
  induction contacts with
  | nil => intro _ _; rfl
  | cons contact rest ih =>
      intro hgruu hskipped
      obtain ⟨addr, -, haddr⟩ := hgruu contact (List.mem_cons_self ..)
      have ih' := ih (fun c hc => hgruu c (List.mem_cons_of_mem contact hc))
        (fun c hc => hskipped c (List.mem_cons_of_mem contact hc))
      rw [recordDevices_cons S own contact haddr, ← ih', withSpecs, List.filter_cons]
      cases hs : contact.specs with
      | some specs =>
          rw [Option.isSome_some, if_pos rfl, recordDevices_cons S own contact haddr, hs]
          rfl
      | none =>
          have hempty : own.isContactCompatible S "" = false := by
            rcases hskipped contact (List.mem_cons_self ..) with hsome | hempty
            · rw [hs] at hsome
              cases hsome
            · exact hempty
          rw [Option.isSome_none, if_neg Bool.false_ne_true, Option.getD_none, hempty,
            if_neg Bool.false_ne_true, List.nil_append]
          rfl

/-- **When contacts without specs make no difference**: when there are none, or
    the test leaves them out. -/
theorem recordDevices_withSpecs_iff (S : Sdk A R) (own : OwnRegistrationSubscription A R)
    {contacts : List RegisteredContact} (hgruu : ∀ contact ∈ contacts, GruuParses S contact) :
    (own.recordDevices S (some (recordOf (withSpecs contacts)))).map facet =
        (own.recordDevices S (some (recordOf contacts))).map facet ↔
      (∀ contact ∈ contacts, contact.specs.isSome) ∨ own.isContactCompatible S "" = false := by
  constructor
  · intro hsame
    by_cases hempty : own.isContactCompatible S "" = false
    · exact Or.inr hempty
    · left
      have hgruu' : ∀ contact ∈ withSpecs contacts, GruuParses S contact :=
        fun contact hmem => hgruu contact (List.mem_of_mem_filter hmem)
      have hlength := congrArg List.length hsame
      rw [List.length_map, List.length_map, length_recordDevices S own _ hgruu',
        length_recordDevices S own _ hgruu, withSpecs, List.countP_filter,
        List.countP_eq_length_filter, List.countP_eq_length_filter] at hlength
      -- both count the compatible contacts, so all of these carry specs
      have hall := (List.monotone_filter_right contacts
        (fun contact h => (Bool.and_eq_true_iff.mp h).1)).eq_of_length hlength
      intro contact hmem
      cases hs : contact.specs with
      | some specs => rfl
      | none =>
          have hin : contact ∈ contacts.filter
              (fun contact => own.isContactCompatible S (contact.specs.getD "")) := by
            refine List.mem_filter.mpr ⟨hmem, ?_⟩
            rw [hs]
            exact Bool.not_eq_false _ ▸ hempty
          rw [← hall] at hin
          have hsome := (Bool.and_eq_true_iff.mp (List.mem_filter.mp hin).2).2
          rw [hs] at hsome
          cases hsome
  · intro hcase
    rw [recordDevices_withSpecs S own contacts hgruu]
    intro contact hmem
    exact hcase.imp (fun hall => hall contact hmem) id

/-- **LOCAL AND EXTERNAL PARTICIPANTS.**  For every list of registered contacts
    with a public GRUU, some of which carry specs, every chat room and both
    values of check-capabilities: the external path gives the chat room one
    list, that of the devices that the own path gives it for the contacts that
    carry specs.  So both paths give the same list for all the contacts exactly
    when all of them carry specs, or capabilities are checked and the chat room
    asks for more than one-to-one. -/
theorem external_path_matches_own (S : Sdk A R) (own : OwnRegistrationSubscription A R)
    (ext : ExternalRegistrationSubscription A R)
    (hsub : ext.toRegistrationSubscription = own.toRegistrationSubscription)
    (hactive : own.mActive = true) (aor : String) (kept : List (ParticipantDeviceIdentity A))
    (contacts : List RegisteredContact)
    (hgruu : ∀ contact ∈ contacts, GruuParses S contact)
    (hspecs : ∃ contact ∈ contacts, contact.specs.isSome) :
    listsGiven (externalCalls S ext aor kept (notifyOf aor contacts)) =
        listsGiven (own.processRecord S (some (recordOf (withSpecs contacts)))) ∧
      (listsGiven (externalCalls S ext aor kept (notifyOf aor contacts))).length = 1 ∧
      (listsGiven (externalCalls S ext aor kept (notifyOf aor contacts)) =
          listsGiven (own.processRecord S (some (recordOf contacts))) ↔
        (∀ contact ∈ contacts, contact.specs.isSome) ∨
          own.mCheckCapabilities = true ∧ AsksForMore (S.getCapabilities own.mChatRoom)) := by
  have hsingle : matching aor (notifyOf aor contacts) =
      [⟨aor, .active, contacts.map RegisteredContact.contactElement⟩] := by
    simp [notifyOf, matching]
  have hrefreshed : refreshedContacts (contacts.map RegisteredContact.contactElement) = [] := by
    simp [refreshedContacts, List.filter_eq_nil_iff, RegisteredContact.contactElement]
  -- nothing is refreshed, so the snapshot is made and is the only call
  have hext : externalCalls S ext aor kept (notifyOf aor contacts) =
      ext.onNotifyReceived S (devicesOf S (contacts.map RegisteredContact.contactElement)) := by
    rw [externalCalls, onNotifyReceived_single S hsingle,
      snapshot_contactLoop_of S (hasUnrefreshed_contactElements hspecs), hrefreshed]
    simp [devicesOf, ExternalRegistrationSubscription.callback]
  have hown : ∀ r : Option Record, listsGiven (own.processRecord S r) =
      [(own.recordDevices S r).map facet] := by
    intro r
    simp [OwnRegistrationSubscription.processRecord, hactive, listsGiven]
  have heq := external_devices_eq_own S own ext hsub contacts hgruu
  have hmain : listsGiven (externalCalls S ext aor kept (notifyOf aor contacts)) =
      listsGiven (own.processRecord S (some (recordOf (withSpecs contacts)))) := by
    rw [hext, hown]
    simp [listsGiven, ExternalRegistrationSubscription.onNotifyReceived, heq]
  refine ⟨hmain, ?_, ?_⟩
  · rw [hmain, hown]
    rfl
  · have hempty : own.isContactCompatible S "" = false ↔
        own.mCheckCapabilities = true ∧ AsksForMore (S.getCapabilities own.mChatRoom) := by
      rw [← Bool.not_eq_true, emptySpecs_iff, not_not]
    rw [hmain, hown, hown, List.singleton_inj, recordDevices_withSpecs_iff S own hgruu, hempty]

/-- Two devices with quoted and unquoted specs, in a chat room that requires
    group chat. -/
theorem external_path_matches_own_two :
    (listsGiven (externalCalls stringSdk
        (ExternalRegistrationSubscription.make true (Capabilities.conference)
          "sip:alice@example.org" 0) "sip:alice@example.org" []
        (notifyOf "sip:alice@example.org"
          [⟨"sip:alice@example.org;gr=phone", some "\"groupchat/1.2,lime\"", "phone", none⟩,
            ⟨"sip:alice@example.org;gr=tablet", some "groupchat", "tablet", none⟩]))).length = 1 :=
  (external_path_matches_own stringSdk
    { OwnRegistrationSubscription.make stringSdk true Capabilities.conference
        "sip:alice@example.org" with mActive := true }
    (ExternalRegistrationSubscription.make true Capabilities.conference
      "sip:alice@example.org" 0)
    rfl rfl "sip:alice@example.org" []
    [⟨"sip:alice@example.org;gr=phone", some "\"groupchat/1.2,lime\"", "phone", none⟩,
      ⟨"sip:alice@example.org;gr=tablet", some "groupchat", "tablet", none⟩]
    (by
      intro contact hcontact
      rcases List.mem_cons.mp hcontact with rfl | hcontact
      · exact ⟨"sip:alice@example.org;gr=phone", by decide, by decide⟩
      · obtain rfl := List.mem_singleton.mp hcontact
        exact ⟨"sip:alice@example.org;gr=tablet", by decide, by decide⟩)
    ⟨_, List.mem_cons_self .., rfl⟩).2.1

/-- A tablet without specs is a device for the own path when capabilities are
    not checked, and none for the external path. -/
theorem contact_without_specs_differs :
    let contacts : List RegisteredContact :=
      [⟨"sip:alice@example.org;gr=phone", some "groupchat/1.2", "phone", none⟩,
        ⟨"sip:alice@example.org;gr=tablet", none, "tablet", none⟩]
    let own := { OwnRegistrationSubscription.make stringSdk false Capabilities.conference
      "sip:alice@example.org" with mActive := true }
    let ext : ExternalRegistrationSubscription String (BitVec 32) :=
      ExternalRegistrationSubscription.make false Capabilities.conference
        "sip:alice@example.org" 0
    listsGiven (own.processRecord stringSdk (some (recordOf contacts))) =
      [[(some "sip:alice@example.org;gr=phone", ["groupchat/1.2"]),
        (some "sip:alice@example.org;gr=tablet", [""])]] ∧
    listsGiven (externalCalls stringSdk ext "sip:alice@example.org" []
        (notifyOf "sip:alice@example.org" contacts)) =
      [[(some "sip:alice@example.org;gr=phone", ["groupchat/1.2"])]] := by
  intro contacts own ext
  exact ⟨by decide, by decide⟩

end LocalExternal
