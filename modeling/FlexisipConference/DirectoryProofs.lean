import FlexisipConference.AnnouncementProofs
import FlexisipConference.ReplayProofs

/-! # The directory of the participants

    What the subscriptions are FOR, without store, clients or listeners.  A
    DIRECTORY knows who takes part in which chat room.  A participant of a local
    domain is looked up in the registrar.  For a participant of another domain
    there is a FEED: a dialog with that domain and the documents that came on
    it.  A feed is opened for the first participant who needs it, shared by all
    who have the same ordered URI, and given up with the last one.  Each chat
    room is told the part of the devices that it accepts.

    `upToDate_step_iff` says what a document has to announce for all chat rooms
    to be left with the devices of their feed. -/

namespace Directories

open Sdks Reginfos Machines Subscriptions Handlers Notifies Announcements

variable {A R : Type}

/-- A participant in a chat room. -/
structure Attendance (A R : Type) where
  chatRoom : R
  address : A

/-- What is known of a participant of another domain.  There is no dialog when
    the last one has failed. -/
structure Feed (A : Type) where
  watched : A
  dialog : Option EventId
  documents : List Reginfo

/-- The directory.  Attendances and dialogs are numbered in the order in which
    they begin; `told` is what an attendance has passed to its chat room. -/
structure Directory (A R : Type) where
  members : SubscriptionId → Option (Attendance A R)
  feeds : String → Option (Feed A)
  told : SubscriptionId → List (ChatRoomCall A)
  joins : Nat
  dialogs : Nat

/-! ## Feeds -/

namespace Feed

def aor (S : Sdk A R) (feed : Feed A) : String := S.asStringUriOnly feed.watched

/-- The device lists that the documents give. -/
def lists (S : Sdk A R) (feed : Feed A) : List (List (ParticipantDeviceIdentity A)) :=
  feed.documents.filterMap (deviceList? S (feed.aor S))

/-- The devices of the participant: those of the last document about it. -/
def devices (S : Sdk A R) (feed : Feed A) : List (ParticipantDeviceIdentity A) :=
  (feed.lists S).getLast?.getD []

/-- Some document was about the participant. -/
def Heard (S : Sdk A R) (feed : Feed A) : Prop := feed.lists S ≠ []

/-- One more document. -/
def hear (feed : Feed A) (ri : Reginfo) : Feed A :=
  { feed with documents := feed.documents ++ [ri] }

/-- The dialog is over, and what came on it is forgotten. -/
def hangUp (feed : Feed A) : Feed A := { feed with dialog := none, documents := [] }

theorem lists_hear (S : Sdk A R) (feed : Feed A) (ri : Reginfo) :
    (feed.hear ri).lists S = feed.lists S ++ (deviceList? S (feed.aor S) ri).toList := by
  show (feed.documents ++ [ri]).filterMap _ = _
  rw [List.filterMap_append]
  refine congrArg (feed.lists S ++ ·) ?_
  cases h : deviceList? S (feed.aor S) ri with
  | none => exact List.filterMap_cons_none h
  | some devices => exact List.filterMap_cons_some h

/-- A document about the participant replaces the devices. -/
theorem devices_hear (S : Sdk A R) (feed : Feed A) (ri : Reginfo) :
    (feed.hear ri).devices S = (deviceList? S (feed.aor S) ri).getD (feed.devices S) := by
  rw [devices, lists_hear]
  cases deviceList? S (feed.aor S) ri with
  | none => rw [Option.toList_none, List.append_nil]; rfl
  | some devices => rw [Option.toList_some, List.getLast?_concat]; rfl

/-- A feed has heard of its devices once one of its documents has handed a list
    over. -/
theorem heard_hear_iff (S : Sdk A R) (feed : Feed A) (ri : Reginfo) :
    (feed.hear ri).Heard S ↔ feed.Heard S ∨ (deviceList? S (feed.aor S) ri).isSome := by
  rw [Heard, lists_hear, Heard, Ne, List.append_eq_nil_iff, not_and_or]
  cases deviceList? S (feed.aor S) ri <;> simp

@[simp] theorem devices_hangUp (S : Sdk A R) (feed : Feed A) : feed.hangUp.devices S = [] := rfl

theorem not_heard_of_documents {S : Sdk A R} {feed : Feed A} (h : feed.documents = []) :
    ¬ feed.Heard S := by
  rw [Heard, lists, h]
  exact fun hne => hne rfl

end Feed

/-! ## Members -/

namespace Attendance

variable (S : Sdk A R) (server : ConferenceServer)

/-- Which feed the attendance needs; none when the domain is local. -/
def feedKey? (m : Attendance A R) : Option String :=
  if S.getDomain m.address ∈ server.localDomains then none
  else some (S.asStringUriOnlyOrdered m.address)

/-- The chat room takes the device. -/
def accepts (m : Attendance A R) (device : ParticipantDeviceIdentity A) : Bool :=
  (⟨server.capabilityCheckEnabled, m.chatRoom, m.address⟩ :
    RegistrationSubscription A R).isContactCompatible S
      (S.getCapabilityDescriptor device.capabilityDescriptor)

/-- The part of the devices that the chat room takes. -/
def part (m : Attendance A R) (devices : List (ParticipantDeviceIdentity A)) :
    List (ParticipantDeviceIdentity A) :=
  devices.filter (m.accepts S server)

/-- What is passed to the chat room. -/
def relay (m : Attendance A R) : ClientCallback A → List (ChatRoomCall A)
  | .onNotifyReceived devices => [.setParticipantDevices m.address (m.part S server devices)]
  | .onRefreshed device =>
      if m.accepts S server device then [.notifyParticipantDeviceRegistration device.address]
      else []

/-- How the participant is looked up in the registrar, when the domain is local
    and the address is a SIP URI. -/
def own? (m : Attendance A R) : Option (OwnRegistrationSubscription A R) :=
  let sub := OwnRegistrationSubscription.make S server.capabilityCheckEnabled m.chatRoom m.address
  if S.getDomain m.address ∈ server.localDomains ∧ sub.mParticipantAor.isSome then
    some { sub with mActive := true }
  else none

theorem own?_of_feedKey {m : Attendance A R} {key : String}
    (h : m.feedKey? S server = some key) : m.own? S server = none := by
  rw [feedKey?] at h
  split at h
  · cases h
  · rename_i hremote
    exact if_neg (fun hown => hremote hown.1)

end Attendance

/-! ## The operations -/

namespace Directory

variable (S : Sdk A R) (server : ConferenceServer)

/-- Nobody takes part in anything. -/
def init : Directory A R := ⟨fun _ => none, fun _ => none, fun _ => [], 0, 0⟩

/-- The participant takes part in the chat room. -/
def TakesPart (d : Directory A R) (chatRoom : R) (address : A) : Prop :=
  ∃ n m, d.members n = some m ∧ m.chatRoom = chatRoom ∧
    S.participant m.address = S.participant address

/-- Some member needs the feed. -/
def Needed (d : Directory A R) (key : String) : Prop :=
  ∃ n m, d.members n = some m ∧ m.feedKey? S server = some key

/-- What a member that has a feed watches. -/
def watching (d : Directory A R) (n : SubscriptionId) : Option (Attendance A R × Feed A) :=
  (d.members n).bind fun m =>
    (m.feedKey? S server).bind fun key => (d.feeds key).map (fun feed => (m, feed))

/-- A new member. -/
def enter (d : Directory A R) (m : Attendance A R) : Directory A R :=
  { d with members := Function.update d.members d.joins (some m), joins := d.joins + 1 }

/-- The feed under a key; a new one watches this address. -/
def feedFor (d : Directory A R) (key : String) (address : A) : Feed A :=
  (d.feeds key).getD ⟨address, none, []⟩

/-- A dialog is opened for the feed. -/
def openDialog (d : Directory A R) (key : String) (address : A) : Directory A R :=
  { d with
    feeds := Function.update d.feeds key
      (some { d.feedFor key address with dialog := some d.dialogs })
    dialogs := d.dialogs + 1 }

/-- The next member is told what has been heard. -/
def replay (d : Directory A R) (m : Attendance A R) (feed : Feed A) : Directory A R :=
  { d with
    told := Function.update d.told d.joins
      (d.told d.joins ++ m.relay S server (.onNotifyReceived (feed.devices S))) }

/-- The next member needs the feed. -/
def attend (d : Directory A R) (m : Attendance A R) (key : String) : Directory A R :=
  match (d.feedFor key m.address).dialog with
  | none => d.openDialog key m.address
  | some _ => d.replay S server m (d.feedFor key m.address)

open Classical in
/-- A participant joins a chat room, unless it takes part already. -/
noncomputable def join (d : Directory A R) (chatRoom : R) (address : A) : Directory A R :=
  if d.TakesPart S chatRoom address then d
  else
    let m : Attendance A R := ⟨chatRoom, address⟩
    match m.feedKey? S server with
    | none => d.enter m
    | some key => (d.attend S server m key).enter m

open Classical in
/-- Only these members stay, and the feeds that they need. -/
noncomputable def keep (d : Directory A R) (stays : Attendance A R → Prop) : Directory A R :=
  let kept : Directory A R :=
    { d with members := fun n => (d.members n).filter (fun m => stays m) }
  { kept with feeds := fun key => if kept.Needed S server key then d.feeds key else none }

/-- A participant leaves a chat room. -/
noncomputable def leave (d : Directory A R) (chatRoom : R) (address : A) : Directory A R :=
  d.keep S server (fun m =>
    ¬ (m.chatRoom = chatRoom ∧ S.participant m.address = S.participant address))

/-- What a member passes on when a document comes on a dialog. -/
def relayed (d : Directory A R) (e : EventId) (ri : Reginfo) (n : SubscriptionId) :
    List (ChatRoomCall A) :=
  match d.watching S server n with
  | none => []
  | some (m, feed) =>
      if feed.dialog = some e then (reported S (feed.aor S) ri).flatMap (m.relay S server) else []

/-- A document comes on a dialog. -/
def hear (d : Directory A R) (e : EventId) (ri : Reginfo) : Directory A R :=
  { d with
    feeds := fun key =>
      (d.feeds key).map (fun feed => if feed.dialog = some e then feed.hear ri else feed)
    told := fun n => d.told n ++ d.relayed S server e ri n }

/-- A dialog fails or is ended by the other side. -/
def hangUp (d : Directory A R) (e : EventId) : Directory A R :=
  { d with feeds := fun key =>
      (d.feeds key).map (fun feed => if feed.dialog = some e then feed.hangUp else feed) }

/-- The registrar tells something about the participant of one member. -/
def inform (d : Directory A R) (n : SubscriptionId)
    (calls : OwnRegistrationSubscription A R → List (ChatRoomCall A)) : Directory A R :=
  match (d.members n).bind (Attendance.own? S server) with
  | none => d
  | some sub => { d with told := Function.update d.told n (d.told n ++ calls sub) }

end Directory

/-- What the operations of the handler, and the messages, are for the
    directory. -/
noncomputable def step (S : Sdk A R) (server : ConferenceServer) (d : Directory A R) :
    Op A R → Directory A R
  | .subscribe chatRoom address => d.join S server chatRoom address
  | .unsubscribe chatRoom address => d.leave S server chatRoom address
  | .unsubscribeAll => d.keep S server (fun _ => False)
  | .onNotifyReceived e (.reginfo ri) => d.hear S server e ri
  | .onNotifyReceived _ .null => d
  | .onNotifyReceived _ .malformed => d
  | .onSubscriptionStateChanged e state =>
      if state = .terminated ∨ state = .error then d.hangUp e else d
  | .onRecordFound s r => d.inform S server s (fun sub => sub.onRecordFound S r)
  | .onContactRegistered s r uid =>
      d.inform S server s (fun sub => sub.onContactRegistered S r uid)

/-- The machine of the directory. -/
noncomputable def machine (S : Sdk A R) (server : ConferenceServer) :
    Machine (Directory A R) (Op A R) where
  init := Directory.init
  step := step S server

/-! ## What a document leaves a chat room with -/

section Lists

variable (S : Sdk A R) (server : ConferenceServer) (m : Attendance A R)

/-- A member sets its part of the lists. -/
theorem passesOn_relay : PassesOn (m.relay S server) (m.part S server) := by
  refine ⟨fun _ _ => rfl, ?_⟩
  intro known device
  rw [Attendance.relay]
  split <;> rfl

/-- A document that is not about the participant announces nothing. -/
theorem announced?_of_unmatched {aor : String} {ri : Reginfo}
    (h : deviceList? S aor ri = none) : announced? S aor ri = none := by
  have hm : matching aor ri = [] := (Replay.deviceList?_eq_none_iff S aor ri).mp h
  rw [announced?, visited, hm]
  simp

end Lists

/-! ## What the operations do to what is watched -/

namespace Directory

variable {S : Sdk A R} {server : ConferenceServer}

/-- A member watches the feed under the key of its attendance. -/
theorem watching_eq_some_iff {d : Directory A R} {n : SubscriptionId} {m : Attendance A R}
    {feed : Feed A} :
    d.watching S server n = some (m, feed) ↔
      d.members n = some m ∧ ∃ key, m.feedKey? S server = some key ∧ d.feeds key = some feed := by
  simp only [watching, Option.bind_eq_some_iff, Option.map_eq_some_iff, Prod.mk.injEq]
  constructor
  · rintro ⟨m', hm, key, hkey, feed', hfeed, rfl, rfl⟩
    exact ⟨hm, key, hkey, hfeed⟩
  · rintro ⟨hm, key, hkey, hfeed⟩
    exact ⟨m, hm, key, hkey, feed, hfeed, rfl, rfl⟩

/-- Changing the feeds one by one changes what each member watches. -/
theorem watching_map (d d' : Directory A R) (f : Feed A → Feed A)
    (hmembers : d'.members = d.members) (hfeeds : ∀ key, d'.feeds key = (d.feeds key).map f)
    (n : SubscriptionId) :
    d'.watching S server n = (d.watching S server n).map (fun p => (p.1, f p.2)) := by
  rw [watching, watching, hmembers]
  cases d.members n with
  | none => rfl
  | some m =>
      simp only [Option.bind_some]
      cases m.feedKey? S server with
      | none => rfl
      | some key =>
          simp only [Option.bind_some, hfeeds]
          cases d.feeds key <;> rfl

/-- A member that watches something is no local one. -/
theorem not_own_of_watching {d : Directory A R} {n : SubscriptionId} {m : Attendance A R}
    {feed : Feed A} (h : d.watching S server n = some (m, feed)) :
    (d.members n).bind (Attendance.own? S server) = none := by
  obtain ⟨hm, key, hkey, -⟩ := watching_eq_some_iff.mp h
  rw [hm, Option.bind_some]
  exact m.own?_of_feedKey S server hkey

open Classical in
/-- A member that stays watches what it watched. -/
theorem watching_keep {d : Directory A R} {stays : Attendance A R → Prop} {n : SubscriptionId}
    {p : Attendance A R × Feed A} (h : (d.keep S server stays).watching S server n = some p) :
    d.watching S server n = some p := by
  obtain ⟨m, feed⟩ := p
  obtain ⟨hm, key, hkey, hfeed⟩ := watching_eq_some_iff.mp h
  have hkept : (d.members n).filter (fun m => stays m) = some m := hm
  obtain ⟨hold, -⟩ := Option.filter_eq_some_iff.mp hkept
  refine watching_eq_some_iff.mpr ⟨hold, key, hkey, ?_⟩
  simp only [keep] at hfeed
  split at hfeed
  · exact hfeed
  · cases hfeed

/-- After somebody has entered, the members watch what they watched, and the new one
    its feed. -/
theorem watching_enter {d : Directory A R} {m m' : Attendance A R} {feed : Feed A}
    {n : SubscriptionId} (h : (d.enter m).watching S server n = some (m', feed)) :
    (n = d.joins ∧ m' = m ∧ ∃ key, m.feedKey? S server = some key ∧ d.feeds key = some feed) ∨
      (n ≠ d.joins ∧ d.watching S server n = some (m', feed)) := by
  obtain ⟨hm, key, hkey, hfeed⟩ := watching_eq_some_iff.mp h
  change Function.update d.members d.joins (some m) n = some m' at hm
  by_cases hn : n = d.joins
  · subst hn
    rw [Function.update_self] at hm
    obtain rfl := Option.some.inj hm
    exact Or.inl ⟨rfl, rfl, key, hkey, hfeed⟩
  · rw [Function.update_of_ne hn] at hm
    exact Or.inr ⟨hn, watching_eq_some_iff.mpr ⟨hm, key, hkey, hfeed⟩⟩

/-! ## What a join can do -/

section Join

variable {d : Directory A R} {chatRoom : R} {address : A}

theorem join_taken (h : d.TakesPart S chatRoom address) :
    d.join S server chatRoom address = d := if_pos h

theorem join_local (h : ¬ d.TakesPart S chatRoom address)
    (hkey : (⟨chatRoom, address⟩ : Attendance A R).feedKey? S server = none) :
    d.join S server chatRoom address = d.enter ⟨chatRoom, address⟩ := by
  simp only [join, if_neg h, hkey]

/-- The first one who needs a feed opens a dialog, and so does the first one
    after the dialog has failed. -/
theorem join_opens (h : ¬ d.TakesPart S chatRoom address) {key : String}
    (hkey : (⟨chatRoom, address⟩ : Attendance A R).feedKey? S server = some key)
    (hdialog : (d.feedFor key address).dialog = none) :
    d.join S server chatRoom address = (d.openDialog key address).enter ⟨chatRoom, address⟩ := by
  simp only [join, if_neg h, hkey, attend, hdialog]

/-- Every other one gets what has been heard. -/
theorem join_replays (h : ¬ d.TakesPart S chatRoom address) {key : String}
    (hkey : (⟨chatRoom, address⟩ : Attendance A R).feedKey? S server = some key)
    {feed : Feed A} (hfeed : d.feeds key = some feed) {e : EventId}
    (hdialog : feed.dialog = some e) :
    d.join S server chatRoom address =
      (d.replay S server ⟨chatRoom, address⟩ feed).enter ⟨chatRoom, address⟩ := by
  have hfor : d.feedFor key address = feed := by rw [feedFor, hfeed, Option.getD_some]
  simp only [join, if_neg h, hkey, attend, hfor, hdialog]

/-- One of the four happens. -/
theorem join_cases (S : Sdk A R) (server : ConferenceServer) (d : Directory A R) (chatRoom : R)
    (address : A) :
    d.TakesPart S chatRoom address ∨
    (¬ d.TakesPart S chatRoom address ∧
      ((⟨chatRoom, address⟩ : Attendance A R).feedKey? S server = none ∨
      ∃ key, (⟨chatRoom, address⟩ : Attendance A R).feedKey? S server = some key ∧
        ((d.feedFor key address).dialog = none ∨
          ∃ feed e, d.feeds key = some feed ∧ feed.dialog = some e))) := by
  refine or_iff_not_imp_left.mpr (fun h => ⟨h, ?_⟩)
  cases (⟨chatRoom, address⟩ : Attendance A R).feedKey? S server with
  | none => exact Or.inl rfl
  | some key =>
      refine Or.inr ⟨key, rfl, ?_⟩
      rw [feedFor]
      cases hfeed : d.feeds key with
      | none => exact Or.inl rfl
      | some feed =>
          cases hdialog : feed.dialog with
          | none => exact Or.inl hdialog
          | some e => exact Or.inr ⟨feed, e, rfl, hdialog⟩

end Join

end Directory

/-! ## Up to date -/

/-- Every chat room has been left with its part of the devices of the feed, as
    soon as something was heard of the participant. -/
def UpToDate (S : Sdk A R) (server : ConferenceServer) (d : Directory A R) : Prop :=
  ∀ n m feed, d.watching S server n = some (m, feed) → feed.Heard S →
    latestSet (d.told n) = some (m.part S server (feed.devices S))

/-- Nothing is remembered of a dialog that is over. -/
def Proper (d : Directory A R) : Prop :=
  ∀ key feed, d.feeds key = some feed → feed.dialog = none → feed.documents = []

/-- A document announces to each chat room the devices that it gives to the
    participant, or they are what the chat room has already. -/
def Delivers (S : Sdk A R) (server : ConferenceServer) (d : Directory A R) : Op A R → Prop
  | .onNotifyReceived e (.reginfo ri) => ∀ n m feed devices,
      d.watching S server n = some (m, feed) → feed.dialog = some e →
        deviceList? S (feed.aor S) ri = some devices →
          ((announced? S (feed.aor S) ri).map (m.part S server)).or (latestSet (d.told n)) =
            some (m.part S server devices)
  | _ => True

section UpToDate

variable {S : Sdk A R} {server : ConferenceServer} {d : Directory A R}

/-- Where nothing that is watched is new, and nothing new is passed on. -/
theorem UpToDate.mono {d' : Directory A R} (h : UpToDate S server d)
    (hwatching : ∀ n m feed, d'.watching S server n = some (m, feed) →
      d.watching S server n = some (m, feed) ∧ d'.told n = d.told n) : UpToDate S server d' := by
  intro n m feed hw hheard
  obtain ⟨hold, htold⟩ := hwatching n m feed hw
  rw [htold]
  exact h n m feed hold hheard

/-- Members that leave take their claims along. -/
theorem UpToDate.keep (h : UpToDate S server d) (stays : Attendance A R → Prop) :
    UpToDate S server (d.keep S server stays) :=
  h.mono (fun _ _ _ hw => ⟨Directory.watching_keep hw, rfl⟩)

/-- Records are told to members without a feed. -/
theorem UpToDate.inform (h : UpToDate S server d) (n : SubscriptionId)
    (calls : OwnRegistrationSubscription A R → List (ChatRoomCall A)) :
    UpToDate S server (d.inform S server n calls) := by
  rw [Directory.inform]
  cases hown : (d.members n).bind (Attendance.own? S server) with
  | none => exact h
  | some sub =>
      refine h.mono (fun n' m feed hw => ⟨hw, ?_⟩)
      have hne : n' ≠ n := by
        rintro rfl
        have hw' : d.watching S server n' = some (m, feed) := hw
        rw [Directory.not_own_of_watching hw'] at hown
        cases hown
      exact Function.update_of_ne hne _ _

/-- A dialog that is over leaves nothing to be up to date with. -/
theorem UpToDate.hangUp (h : UpToDate S server d) (e : EventId) :
    UpToDate S server (d.hangUp e) := by
  intro n m feed hw hheard
  have hwatching : (d.hangUp e).watching S server n = (d.watching S server n).map
      (fun p => (p.1, if p.2.dialog = some e then p.2.hangUp else p.2)) :=
    Directory.watching_map d (d.hangUp e)
      (fun feed => if feed.dialog = some e then feed.hangUp else feed) rfl (fun _ => rfl) n
  rw [hwatching] at hw
  obtain ⟨⟨m', feed'⟩, hold, heq⟩ := Option.map_eq_some_iff.mp hw
  obtain ⟨rfl, rfl⟩ := Prod.mk.inj heq
  by_cases he : feed'.dialog = some e
  · rw [if_pos he] at hheard
    exact absurd hheard (Feed.not_heard_of_documents rfl)
  · rw [if_neg he] at hheard ⊢
    exact h n m' feed' hold hheard

/-- **A document keeps the chat rooms up to date exactly when it announces what
    it gives.** -/
theorem upToDate_hear_iff (h : UpToDate S server d) (e : EventId) (ri : Reginfo) :
    UpToDate S server (d.hear S server e ri) ↔
      Delivers S server d (.onNotifyReceived e (.reginfo ri)) := by
  have hwatching : ∀ n, (d.hear S server e ri).watching S server n =
      (d.watching S server n).map
        (fun p => (p.1, if p.2.dialog = some e then p.2.hear ri else p.2)) :=
    Directory.watching_map d (d.hear S server e ri)
      (fun feed => if feed.dialog = some e then feed.hear ri else feed) rfl (fun _ => rfl)
  -- the list that a member of the dialog is left with
  have htold : ∀ {n m feed}, d.watching S server n = some (m, feed) → feed.dialog = some e →
      latestSet ((d.hear S server e ri).told n) =
        ((announced? S (feed.aor S) ri).map (m.part S server)).or (latestSet (d.told n)) := by
    intro n m feed hw he
    show latestFrom none (d.told n ++ d.relayed S server e ri n) = _
    rw [latestFrom_append, Directory.relayed, hw]
    simp only [if_pos he]
    exact latestFrom_reported (passesOn_relay S server m) _ _ ri
  constructor
  · intro hnow n m feed devices hw he hgives
    have hw' : (d.hear S server e ri).watching S server n = some (m, feed.hear ri) := by
      rw [hwatching, hw, Option.map_some, if_pos he]
    have hleft := hnow n m (feed.hear ri) hw'
      ((Feed.heard_hear_iff S feed ri).mpr (Or.inr (by rw [hgives]; rfl)))
    rw [htold hw he, Feed.devices_hear, hgives] at hleft
    exact hleft
  · intro hdelivers n m feed hw hheard
    rw [hwatching] at hw
    obtain ⟨⟨m', feed'⟩, hold, heq⟩ := Option.map_eq_some_iff.mp hw
    obtain ⟨rfl, rfl⟩ := Prod.mk.inj heq
    by_cases he : feed'.dialog = some e
    · simp only [if_pos he] at hheard ⊢
      rw [htold hold he, Feed.devices_hear]
      cases hgives : deviceList? S (feed'.aor S) ri with
      | some devices => exact hdelivers n m' feed' devices hold he hgives
      | none =>
          rw [announced?_of_unmatched S hgives]
          refine h n m' feed' hold ?_
          rcases (Feed.heard_hear_iff S feed' ri).mp hheard with hbefore | hnow
          · exact hbefore
          · rw [hgives] at hnow
            cases hnow
    · simp only [if_neg he] at hheard ⊢
      have hquiet : d.relayed S server e ri n = [] := by
        rw [Directory.relayed, hold]
        exact if_neg he
      show latestSet (d.told n ++ d.relayed S server e ri n) = _
      rw [hquiet, List.append_nil]
      exact h n m' feed' hold hheard

/-- A member that enters watches its feed; the others watch what they did. -/
theorem UpToDate.enter (h : UpToDate S server d) {m : Attendance A R}
    (hnew : ∀ key feed, m.feedKey? S server = some key → d.feeds key = some feed →
      feed.Heard S → latestSet (d.told d.joins) = some (m.part S server (feed.devices S))) :
    UpToDate S server (d.enter m) := by
  intro n m' feed hw hheard
  rcases Directory.watching_enter hw with ⟨rfl, rfl, key, hkey, hfeed⟩ | ⟨-, hold⟩
  · exact hnew key feed hkey hfeed hheard
  · exact h n m' feed hold hheard

/-- A feed that has just been given a dialog has heard nothing. -/
theorem Proper.not_heard (hproper : Proper d) {key : String} {address : A}
    (hdialog : (d.feedFor key address).dialog = none) {feed : Feed A}
    (hfeed : (d.openDialog key address).feeds key = some feed) : ¬ feed.Heard S := by
  have hopened : (d.openDialog key address).feeds key =
      some { d.feedFor key address with dialog := some d.dialogs } := Function.update_self ..
  rw [← Option.some.inj (hopened.symm.trans hfeed)]
  refine Feed.not_heard_of_documents ?_
  show (d.feedFor key address).documents = []
  rw [Directory.feedFor] at hdialog ⊢
  cases hold : d.feeds key with
  | none => rfl
  | some old =>
      rw [hold] at hdialog
      exact hproper key old hold hdialog

theorem UpToDate.openDialog (h : UpToDate S server d) (hproper : Proper d) {key : String}
    {address : A} (hdialog : (d.feedFor key address).dialog = none) :
    UpToDate S server (d.openDialog key address) := by
  intro n m feed hw hheard
  obtain ⟨hm, key', hkey', hfeed⟩ := Directory.watching_eq_some_iff.mp hw
  by_cases hk : key' = key
  · subst hk
    exact absurd hheard (hproper.not_heard hdialog hfeed)
  · have hold : d.feeds key' = some feed := (Function.update_of_ne hk _ _).symm.trans hfeed
    exact h n m feed (Directory.watching_eq_some_iff.mpr ⟨hm, key', hkey', hold⟩) hheard

/-- A new member of a feed is told what has been heard, and one that opens a
    dialog has heard nothing. -/
theorem UpToDate.join (h : UpToDate S server d) (hproper : Proper d) (chatRoom : R)
    (address : A) : UpToDate S server (d.join S server chatRoom address) := by
  rcases Directory.join_cases S server d chatRoom address with
    htaken | ⟨hfree, hkey | ⟨key, hkey, hdialog | ⟨feed, e, hfeed, hdialog⟩⟩⟩
  · rw [Directory.join_taken htaken]
    exact h
  · rw [Directory.join_local hfree hkey]
    refine h.enter ?_
    intro key feed hkey'
    rw [hkey] at hkey'
    cases hkey'
  · rw [Directory.join_opens hfree hkey hdialog]
    exact (h.openDialog hproper hdialog).enter (fun key' feed hkey' hfeed hheard => by
      obtain rfl := Option.some.inj (hkey.symm.trans hkey')
      exact absurd hheard (hproper.not_heard hdialog hfeed))
  · rw [Directory.join_replays hfree hkey hfeed hdialog]
    intro n m feed' hw hheard
    rcases Directory.watching_enter hw with ⟨rfl, rfl, key', hkey', hfeed'⟩ | ⟨hn, hold⟩
    · obtain rfl := Option.some.inj (hkey.symm.trans hkey')
      obtain rfl := Option.some.inj (hfeed.symm.trans hfeed')
      show latestSet (Function.update d.told d.joins _ d.joins) = _
      rw [Function.update_self]
      exact latestFrom_append none (d.told d.joins) _
    · have hother : n ≠ d.joins := hn
      show latestSet (Function.update d.told d.joins _ n) = _
      rw [Function.update_of_ne hother]
      exact h n m feed' hold hheard

/-- Every operation but a document keeps the chat rooms up to date; a document
    does exactly when it delivers. -/
theorem upToDate_step_iff (hproper : Proper d) (h : UpToDate S server d) (op : Op A R) :
    UpToDate S server (step S server d op) ↔ Delivers S server d op := by
  cases op with
  | subscribe chatRoom address => exact iff_of_true (h.join hproper chatRoom address) trivial
  | unsubscribe chatRoom address => exact iff_of_true (h.keep _) trivial
  | unsubscribeAll => exact iff_of_true (h.keep _) trivial
  | onNotifyReceived e body =>
      cases body with
      | null => exact iff_of_true h trivial
      | malformed => exact iff_of_true h trivial
      | reginfo ri => exact upToDate_hear_iff h e ri
  | onSubscriptionStateChanged e state =>
      refine iff_of_true ?_ trivial
      rw [step]
      split
      · exact h.hangUp e
      · exact h
  | onRecordFound s r => exact iff_of_true (h.inform s _) trivial
  | onContactRegistered s r uid => exact iff_of_true (h.inform s _) trivial

end UpToDate

/-! ## Properness -/

section Proper

variable {S : Sdk A R} {server : ConferenceServer} {d : Directory A R}

theorem Proper.openDialog (h : Proper d) (key : String) (address : A) :
    Proper (d.openDialog key address) := by
  intro key' feed hfeed hdialog
  by_cases hk : key' = key
  · subst hk
    have hopened : (d.openDialog key' address).feeds key' =
        some { d.feedFor key' address with dialog := some d.dialogs } := Function.update_self ..
    rw [← Option.some.inj (hopened.symm.trans hfeed)] at hdialog
    cases hdialog
  · exact h key' feed ((Function.update_of_ne hk _ _).symm.trans hfeed) hdialog

/-- Changing the feeds one by one, to proper ones. -/
theorem Proper.map {d' : Directory A R} (h : Proper d) {f : Feed A → Feed A}
    (hfeeds : ∀ key, d'.feeds key = (d.feeds key).map f)
    (hf : ∀ feed, (feed.dialog = none → feed.documents = []) →
      (f feed).dialog = none → (f feed).documents = []) : Proper d' := by
  intro key feed hfeed hdialog
  rw [hfeeds] at hfeed
  obtain ⟨old, hold, rfl⟩ := Option.map_eq_some_iff.mp hfeed
  exact hf old (h key old hold) hdialog

/-- The end of a dialog leaves its feed without documents. -/
theorem Proper.hangUp (h : Proper d) (e : EventId) : Proper (d.hangUp e) := by
  refine Proper.map h (fun _ => rfl) ?_
  intro feed hold hdialog
  split
  · rfl
  · rename_i he
    rw [if_neg he] at hdialog
    exact hold hdialog

theorem Proper.hear (h : Proper d) (e : EventId) (ri : Reginfo) :
    Proper (d.hear S server e ri) := by
  refine Proper.map h (fun _ => rfl) ?_
  intro feed hold hdialog
  split
  · rename_i he
    rw [if_pos he] at hdialog
    exact absurd (he.symm.trans hdialog) (fun hnone => nomatch hnone)
  · rename_i he
    rw [if_neg he] at hdialog
    exact hold hdialog

/-- A feed that nobody needs any more goes away as a whole. -/
theorem Proper.keep (h : Proper d) (stays : Attendance A R → Prop) :
    Proper (d.keep S server stays) := by
  intro key feed hfeed hdialog
  simp only [Directory.keep] at hfeed
  split at hfeed
  · exact h key feed hfeed hdialog
  · cases hfeed

/-- A join opens a dialog at most. -/
theorem Proper.join (h : Proper d) (chatRoom : R) (address : A) :
    Proper (d.join S server chatRoom address) := by
  rcases Directory.join_cases S server d chatRoom address with
    htaken | ⟨hfree, hkey | ⟨key, hkey, hdialog | ⟨feed, e, hfeed, hdialog⟩⟩⟩
  · rw [Directory.join_taken htaken]
    exact h
  · rw [Directory.join_local hfree hkey]
    exact h
  · rw [Directory.join_opens hfree hkey hdialog]
    exact h.openDialog key address
  · rw [Directory.join_replays hfree hkey hfeed hdialog]
    exact h

/-- Every operation leaves the directory proper. -/
theorem proper_step (S : Sdk A R) (server : ConferenceServer) (d : Directory A R) (op : Op A R)
    (h : Proper d) : Proper (step S server d op) := by
  cases op with
  | subscribe chatRoom address => exact h.join chatRoom address
  | unsubscribe chatRoom address => exact h.keep _
  | unsubscribeAll => exact h.keep _
  | onNotifyReceived e body =>
      cases body with
      | null => exact h
      | malformed => exact h
      | reginfo ri => exact h.hear e ri
  | onSubscriptionStateChanged e state =>
      rw [step]
      split
      · exact h.hangUp e
      · exact h
  | onRecordFound s r =>
      show Proper (d.inform S server s _)
      rw [Directory.inform]
      split <;> exact h
  | onContactRegistered s r uid =>
      show Proper (d.inform S server s _)
      rw [Directory.inform]
      split <;> exact h

end Proper

/-- **A directory keeps all chat rooms up to date in exactly the runs whose
    documents deliver.** -/
theorem upToDate_iff (S : Sdk A R) (server : ConferenceServer) (ops : List (Op A R)) :
    (∀ pre, pre <+: ops → UpToDate S server ((machine S server).reach pre)) ↔
      (machine S server).Along (Delivers S server) Directory.init ops :=
  Machine.forall_prefix_iff_along (M := machine S server) (J := Proper)
    (fun d op => proper_step S server d op)
    (fun _ op hproper h => upToDate_step_iff hproper h op) ops Directory.init
    (fun _ _ hfeed => nomatch hfeed)
    (fun _ _ _ hw => nomatch hw)

end Directories
