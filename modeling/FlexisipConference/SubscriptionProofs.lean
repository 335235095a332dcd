import FlexisipConference.Library.SubstringProofs
import FlexisipConference.ReginfoProofs

/-! # Registration subscriptions

    A registration subscription watches the devices of one participant for one
    chat room.  The OWN kind is fed by the registrar database (a fetch, then one
    callback per change), the EXTERNAL kind by a reg-event client.  Both filter
    the devices by the capabilities of the chat room and pass the list to it.

    The methods are functions of the subscription: they return the calls made
    on the chat room, and `start` and `stop` of the own kind the requests made
    to the registrar, in order. -/

namespace Subscriptions

open Sdks Reginfos Substrings

variable {A R : Type}

/-- A call on a chat room. -/
inductive ChatRoomCall (A : Type) where
  | setParticipantDevices (participant : A) (devices : List (ParticipantDeviceIdentity A))
  | notifyParticipantDeviceRegistration (device : Option A)
  deriving DecidableEq, Repr

/-- A request to `RegistrarDb`; the listener is the subscription itself. -/
inductive RegistrarRequest where
  | fetch (aor : String)
  | subscribe (key : String)
  | unsubscribe (key : String)
  deriving DecidableEq, Repr

structure RegistrationSubscription (A R : Type) where
  mCheckCapabilities : Bool
  mChatRoom : R
  mParticipant : A

/-- `mParticipantAor` is absent when the address of the participant is no SIP
    URI. -/
structure OwnRegistrationSubscription (A R : Type) extends RegistrationSubscription A R where
  mParticipantAor : Option String
  mActive : Bool

structure ExternalRegistrationSubscription (A R : Type) extends
    RegistrationSubscription A R where
  mClient : ClientId

/-! ## Capabilities -/

/-- `getMaskFromSpecs`: search the names of the capabilities in the specs. -/
def getMaskFromSpecs (specs : String) : BitVec 32 :=
  let mask := 0#32
  let mask :=
    if occurs "groupchat".toList specs.toList then mask ||| Capabilities.conference else mask
  let mask :=
    if occurs "lime".toList specs.toList then mask ||| Capabilities.encrypted else mask
  if occurs "ephemeral".toList specs.toList then mask ||| Capabilities.ephemeral else mask

/-- `isContactCompatible`. -/
def RegistrationSubscription.isContactCompatible (S : Sdk A R)
    (sub : RegistrationSubscription A R) (specs : String) : Bool :=
  if !sub.mCheckCapabilities then true
  else
    let mask := Capabilities.oneToOne ||| getMaskFromSpecs specs
    let chatRoomCapabilities := S.getCapabilities sub.mChatRoom
    (mask &&& chatRoomCapabilities) == chatRoomCapabilities

/-- Quotes around the specs hide no capability and add none. -/
theorem getMaskFromSpecs_quoted (specs : String) :
    getMaskFromSpecs ("\"" ++ specs ++ "\"") = getMaskFromSpecs specs := by
  have hlist : ("\"" ++ specs ++ "\"").toList = '"' :: (specs.toList ++ ['"']) := by
    simp [String.toList_append]
  -- no name of a capability contains a quote
  simp only [getMaskFromSpecs]
  rw [hlist, occurs_quoted specs.toList (by decide) (by decide),
    occurs_quoted specs.toList (by decide) (by decide),
    occurs_quoted specs.toList (by decide) (by decide)]

/-- The specs can be tested as they are stored or unquoted. -/
theorem isContactCompatible_unquote (S : Sdk A R) (sub : RegistrationSubscription A R)
    (specs : String) :
    sub.isContactCompatible S (S.unquote specs) = sub.isContactCompatible S specs := by
  by_cases hq : ∃ t, specs = "\"" ++ t ++ "\""
  · obtain ⟨t, rfl⟩ := hq
    rw [S.unquote_quoted]
    simp only [RegistrationSubscription.isContactCompatible]
    rw [getMaskFromSpecs_quoted]
  · push Not at hq
    rw [S.unquote_plain specs hq]

/-! ## The own kind -/

namespace OwnRegistrationSubscription

/-- The constructor. -/
def make (S : Sdk A R) (checkCapabilities : Bool) (chatRoom : R) (participant : A) :
    OwnRegistrationSubscription A R where
  mCheckCapabilities := checkCapabilities
  mChatRoom := chatRoom
  mParticipant := participant
  mParticipantAor := S.sipUri (S.asStringUriOnly participant)
  mActive := false

/-- `start()`: first fetch the record, then subscribe for its changes. -/
def start (S : Sdk A R) (sub : OwnRegistrationSubscription A R) :
    OwnRegistrationSubscription A R × List RegistrarRequest :=
  match sub.mParticipantAor with
  | none => (sub, [])
  | some aor => ({ sub with mActive := true }, [.fetch aor, .subscribe (S.recordKey aor)])

/-- `stop()`. -/
def stop (S : Sdk A R) (sub : OwnRegistrationSubscription A R) :
    OwnRegistrationSubscription A R × List RegistrarRequest :=
  if !sub.mActive then (sub, [])
  else
    ({ sub with mActive := false },
      (sub.mParticipantAor.map (fun aor => .unsubscribe (S.recordKey aor))).toList)

end OwnRegistrationSubscription

/-- `getPubGruu`: the address of the public GRUU of a contact. -/
def getPubGruu (S : Sdk A R) (ec : ExtendedContact) : Option A :=
  ec.pubGruu.bind (fun url => S.createAddress ("<" ++ url ++ ">"))

namespace OwnRegistrationSubscription

/-- The loop of `processRecord` over the contacts of the record. -/
def recordLoop (S : Sdk A R) (sub : OwnRegistrationSubscription A R) :
    List ExtendedContact → List (ParticipantDeviceIdentity A)
  | [] => []
  | ec :: rest =>
      match getPubGruu S ec with
      | none => recordLoop S sub rest
      | some addr =>
          if sub.isContactCompatible S ec.orgLinphoneSpecs then
            { address := some addr
              displayName := ec.deviceName
              capabilityDescriptor := [S.unquote ec.orgLinphoneSpecs] } :: recordLoop S sub rest
          else recordLoop S sub rest

/-- The device list that `processRecord` computes; no device without a
    record. -/
def recordDevices (S : Sdk A R) (sub : OwnRegistrationSubscription A R) :
    Option Record → List (ParticipantDeviceIdentity A)
  | none => []
  | some r => sub.recordLoop S r.extendedContacts

/-- The device list does not depend on the subscription being active. -/
theorem recordDevices_setActive (S : Sdk A R) (sub : OwnRegistrationSubscription A R)
    (active : Bool) (r : Option Record) :
    ({ sub with mActive := active } : OwnRegistrationSubscription A R).recordDevices S r =
      sub.recordDevices S r := by
  have hloop : ∀ ecs, recordLoop S { sub with mActive := active } ecs = sub.recordLoop S ecs := by
    intro ecs
    induction ecs with
    | nil => rfl
    | cons ec rest ih => simp only [recordLoop, ih]
  cases r with
  | none => rfl
  | some r => exact hloop r.extendedContacts

/-- `processRecord`. -/
def processRecord (S : Sdk A R) (sub : OwnRegistrationSubscription A R) (r : Option Record) :
    List (ChatRoomCall A) :=
  if !sub.mActive then []
  else [.setParticipantDevices sub.mParticipant (sub.recordDevices S r)]

/-- `onRecordFound`: the result of the fetch. -/
def onRecordFound (S : Sdk A R) (sub : OwnRegistrationSubscription A R) (r : Option Record) :
    List (ChatRoomCall A) :=
  sub.processRecord S r

/-- `onContactRegistered`: a change of the record. -/
def onContactRegistered (S : Sdk A R) (sub : OwnRegistrationSubscription A R) (r : Record)
    (uid : String) : List (ChatRoomCall A) :=
  if !sub.mActive then []
  else
    sub.processRecord S (some r) ++
      if uid.isEmpty then []
      else
        match S.extractContactByUniqueId r uid with
        | none => []
        | some ct =>
            match getPubGruu S ct with
            | none => []
            | some pubGruu =>
                if sub.isContactCompatible S ct.orgLinphoneSpecs then
                  [.notifyParticipantDeviceRegistration (some pubGruu)]
                else []

/-- A subscription that is not active makes no call, whatever it is told. -/
theorem onRecordFound_inactive (S : Sdk A R) {sub : OwnRegistrationSubscription A R}
    (h : sub.mActive = false) (r : Option Record) : sub.onRecordFound S r = [] := by
  simp [onRecordFound, processRecord, h]

theorem onContactRegistered_inactive (S : Sdk A R) {sub : OwnRegistrationSubscription A R}
    (h : sub.mActive = false) (r : Record) (uid : String) :
    sub.onContactRegistered S r uid = [] := by
  simp [onContactRegistered, h]

end OwnRegistrationSubscription

/-! ## The external kind -/

namespace ExternalRegistrationSubscription

/-- The constructor. -/
def make (checkCapabilities : Bool) (chatRoom : R) (participant : A) (client : ClientId) :
    ExternalRegistrationSubscription A R where
  mCheckCapabilities := checkCapabilities
  mChatRoom := chatRoom
  mParticipant := participant
  mClient := client

/-- The devices that the chat room accepts. -/
def compatibleDevices (S : Sdk A R) (sub : ExternalRegistrationSubscription A R)
    (participantDevices : List (ParticipantDeviceIdentity A)) :
    List (ParticipantDeviceIdentity A) :=
  participantDevices.filter (fun deviceIdentity =>
    sub.isContactCompatible S (S.getCapabilityDescriptor deviceIdentity.capabilityDescriptor))

/-- `onNotifyReceived`. -/
def onNotifyReceived (S : Sdk A R) (sub : ExternalRegistrationSubscription A R)
    (participantDevices : List (ParticipantDeviceIdentity A)) : List (ChatRoomCall A) :=
  [.setParticipantDevices sub.mParticipant (sub.compatibleDevices S participantDevices)]

/-- `onRefreshed`. -/
def onRefreshed (S : Sdk A R) (sub : ExternalRegistrationSubscription A R)
    (participantDevice : ParticipantDeviceIdentity A) : List (ChatRoomCall A) :=
  if sub.isContactCompatible S
      (S.getCapabilityDescriptor participantDevice.capabilityDescriptor) then
    [.notifyParticipantDeviceRegistration participantDevice.address]
  else []

/-- A call of the client on the subscription. -/
def callback (S : Sdk A R) (sub : ExternalRegistrationSubscription A R) :
    ClientCallback A → List (ChatRoomCall A)
  | .onNotifyReceived participantDevices => sub.onNotifyReceived S participantDevices
  | .onRefreshed participantDevice => sub.onRefreshed S participantDevice

end ExternalRegistrationSubscription

end Subscriptions
