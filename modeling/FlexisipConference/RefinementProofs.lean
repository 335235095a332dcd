import FlexisipConference.DirectoryProofs
import FlexisipConference.ObservationProofs
import FlexisipConference.SharingProofs

/-! # The handler refines the directory

    The handler keeps a multimap of subscriptions, a map of weak pointers to
    clients with their use counts, events, observers and listeners.  What all of
    this amounts to is a directory: the subscriptions in the store are its
    members, and the clients alive are its feeds.

    `Shows` relates the two.  Each operation of the handler does to the
    directory what the operation is for (`shows_step`), so the directory can be
    read off after every run, and what it keeps the handler keeps. -/

namespace Refinements

open Sdks Reginfos Heaps Multimaps Machines Clients QuietRun Subscriptions Handlers Invariants
open HandlerSteps Stores Lifetime ClientSteps Notifies Calls Silence Announcements Observations
open Fanout Sharing Directories

variable {A R : Type}

/-! ## The kind of a subscription -/

/-- The subscription is the one that its factory makes for the chat room and
    the participant, and the domain of the participant chose the factory. -/
def MadeFor (S : Sdk A R) (server : ConferenceServer) : Subscription A R → Prop
  | .own sub =>
      sub = OwnRegistrationSubscription.make S server.capabilityCheckEnabled sub.mChatRoom
        sub.mParticipant ∧ S.getDomain sub.mParticipant ∈ server.localDomains
  | .external sub =>
      sub = ExternalRegistrationSubscription.make server.capabilityCheckEnabled sub.mChatRoom
        sub.mParticipant sub.mClient ∧ S.getDomain sub.mParticipant ∉ server.localDomains

/-- Every subscription ever made is of the right kind. -/
def Genuine (S : Sdk A R) (server : ConferenceServer) (sys : System A R) : Prop :=
  ∀ s sub, subject sys s = some sub → MadeFor S server sub

theorem Genuine.added {S : Sdk A R} {server : ConferenceServer} {sys sys' : System A R}
    (h : Genuine S server sys) {made : Subscription A R} (hadd : Added S sys sys' made)
    (hmade : MadeFor S server (fixed made)) : Genuine S server sys' := by
  intro s sub hsub
  rw [hadd.subject] at hsub
  split at hsub
  · rw [← Option.some.inj hsub]
    exact hmade
  · exact h s sub hsub

theorem Genuine.congr {S : Sdk A R} {server : ConferenceServer} {sys sys' : System A R}
    (h : Genuine S server sys) (hsubject : subject sys' = subject sys) : Genuine S server sys' := by
  intro s sub hsub
  rw [hsubject] at hsub
  exact h s sub hsub

/-- **Every operation makes subscriptions of the right kind.** -/
theorem genuine_step [DecidableEq R] {S : Sdk A R} (server : ConferenceServer) {sys : System A R}
    (hsound : Sound S sys) (h : Genuine S server sys) (op : Op A R) :
    Genuine S server (Handlers.step S server sys op) := by
  cases op with
  | subscribe chatRoom address =>
      show Genuine S server (sys.subscribe S server chatRoom address)
      rcases subscribe_cases S server hsound chatRoom address with
        ⟨-, hsame⟩ | ⟨-, hlocal, hadd, -⟩ | ⟨-, hremote, hadd, -⟩
      · rw [hsame]
        exact h
      · exact h.added hadd ⟨rfl, hlocal⟩
      · exact h.added hadd ⟨rfl, hremote⟩
  | unsubscribe chatRoom address =>
      show Genuine S server (sys.unsubscribe S chatRoom address)
      rcases unsubscribe_cases hsound chatRoom address with ⟨-, hsame⟩ | ⟨entry, -, -, -, hdrop⟩
      · rw [hsame]
        exact h
      · rw [hdrop]
        exact h.congr (subject_dropEntry S sys entry)
  | unsubscribeAll => exact h.congr hsound.unsubscribeAll.2.2.2.1
  | onNotifyReceived e body => exact h.congr (keeps_onNotifyReceived S sys e body).1
  | onSubscriptionStateChanged e state => exact h
  | onRecordFound s r => exact h.congr (keeps_tellOwn sys s _).1
  | onContactRegistered s r uid => exact h.congr (keeps_tellOwn sys s _).1

theorem genuine_init (S : Sdk A R) (server : ConferenceServer) :
    Genuine S server System.init := by
  intro s sub hsub
  cases hsub

/-! ## The directory behind a state of the handler -/

/-- What a subscription is for, as an attendance. -/
def attendanceOf (sub : Subscription A R) : Attendance A R :=
  ⟨sub.base.mChatRoom, sub.base.mParticipant⟩

/-- The members are the subscriptions in the store. -/
def membersOf (sys : System A R) (s : SubscriptionId) : Option (Attendance A R) :=
  if s ∈ stored sys then (subject sys s).map attendanceOf else none

/-- A client is a feed. -/
structure Mirrors (S : Sdk A R) (cl : Client A) (feed : Feed A) : Prop where
  watched : feed.watched = cl.mTo
  dialog : feed.dialog = cl.mSubscribeEvent
  devices : feed.devices S = cl.mParticipantDevices

/-- The directory that a state of the handler shows. -/
structure Shows (S : Sdk A R) (sys : System A R) (d : Directory A R) : Prop where
  members : d.members = membersOf sys
  feeds : ∀ c cl, sys.world.clients.get? c = some cl →
    ∃ feed, d.feeds (S.asStringUriOnlyOrdered cl.mTo) = some feed ∧ Mirrors S cl feed
  clients : ∀ key feed, d.feeds key = some feed →
    ∃ c cl, sys.world.clients.get? c = some cl ∧ S.asStringUriOnlyOrdered cl.mTo = key
  told : ∀ s, d.told s = callsMadeBy s sys.log
  joins : d.joins = sys.subs.next
  dialogs : d.dialogs = sys.world.events.next

theorem shows_init (S : Sdk A R) : Shows S System.init (Directory.init : Directory A R) where
  members := rfl
  feeds := fun _ _ hcl => nomatch hcl
  clients := fun _ _ hfeed => nomatch hfeed
  told := fun _ => rfl
  joins := rfl
  dialogs := rfl

/-- A member is a subscription in the store. -/
theorem membersOf_eq_some_iff {sys : System A R} {s : SubscriptionId} {m : Attendance A R} :
    membersOf sys s = some m ↔
      s ∈ stored sys ∧ ∃ sub, subject sys s = some sub ∧ attendanceOf sub = m := by
  rw [membersOf]
  split
  · rename_i hs
    simp [hs, Option.map_eq_some_iff]
  · rename_i hs
    simp [hs]

/-- An external subscription stands for an attendance with a feed. -/
theorem feedKey_external {S : Sdk A R} {server : ConferenceServer}
    {sub : ExternalRegistrationSubscription A R} (h : MadeFor S server (.external sub)) :
    (attendanceOf (.external sub)).feedKey? S server =
      some (S.asStringUriOnlyOrdered sub.mParticipant) :=
  if_neg h.2

/-- An own one stands for an attendance with a record. -/
theorem feedKey_own {S : Sdk A R} {server : ConferenceServer}
    {sub : OwnRegistrationSubscription A R} (h : MadeFor S server (.own sub)) :
    (attendanceOf (.own sub)).feedKey? S server = none :=
  if_pos h.2

/-- What a subscription makes of a callback is what its attendance relays. -/
theorem callback_eq_relay {S : Sdk A R} {server : ConferenceServer}
    {sub : ExternalRegistrationSubscription A R} (h : MadeFor S server (.external sub))
    (cb : ClientCallback A) :
    sub.callback S cb = (attendanceOf (.external sub)).relay S server cb := by
  rw [h.1]
  cases cb <;> rfl

/-- The feeds that members need are the clients alive. -/
theorem needed_iff {S : Sdk A R} {server : ConferenceServer} {sys : System A R}
    (hsound : Sound S sys) (hgenuine : Genuine S server sys) {d : Directory A R}
    (hmembers : d.members = membersOf sys) (key : String) :
    d.Needed S server key ↔
      ∃ c cl, sys.world.clients.get? c = some cl ∧ S.asStringUriOnlyOrdered cl.mTo = key := by
  constructor
  · rintro ⟨s, m, hm, hkey⟩
    rw [hmembers] at hm
    obtain ⟨hs, sub, hsub, rfl⟩ := membersOf_eq_some_iff.mp hm
    cases sub with
    | own sub =>
        rw [feedKey_own (hgenuine s _ hsub)] at hkey
        cases hkey
    | external sub =>
        rw [feedKey_external (hgenuine s _ hsub)] at hkey
        obtain ⟨cl, hcl, hord⟩ := client_of_stored hsound hs (subject_external_iff.mp hsub)
        exact ⟨sub.mClient, cl, hcl, hord.trans (Option.some.inj hkey)⟩
  · rintro ⟨c, cl, hcl, rfl⟩
    obtain ⟨s, hs, sub, hsub, rfl⟩ := (alive_iff_referenced hsound).mp ⟨cl, hcl⟩
    obtain ⟨cl', hcl', hord⟩ := client_of_stored hsound hs hsub
    obtain rfl := Option.some.inj (hcl.symm.trans hcl')
    have hsubject := subject_external_iff.mpr hsub
    refine ⟨s, attendanceOf (.external sub), ?_, ?_⟩
    · rw [hmembers]
      exact membersOf_eq_some_iff.mpr ⟨hs, _, hsubject, rfl⟩
    · rw [feedKey_external (hgenuine s _ hsubject), hord]

/-- The pair that a subscription in the store is for, read off its
    attendance. -/
theorem pairOf_eq_members (S : Sdk A R) {sys : System A R} {s : SubscriptionId}
    (hs : s ∈ stored sys) :
    pairOf S sys s = (membersOf sys s).map (fun m => (S.participant m.address, m.chatRoom)) := by
  rw [pairOf, membersOf, if_pos hs, Option.map_map]
  rfl

/-- The participant takes part exactly when the store has a subscription for
    the pair. -/
theorem takesPart_iff {S : Sdk A R} {sys : System A R} {d : Directory A R}
    (h : Shows S sys d) (chatRoom : R) (address : A) :
    d.TakesPart S chatRoom address ↔
      ∃ s ∈ stored sys, pairOf S sys s = some (S.participant address, chatRoom) := by
  rw [Directory.TakesPart, h.members]
  constructor
  · rintro ⟨s, m, hm, rfl, hparticipant⟩
    have hs := (membersOf_eq_some_iff.mp hm).1
    refine ⟨s, hs, ?_⟩
    rw [pairOf_eq_members S hs, hm, Option.map_some, hparticipant]
  · rintro ⟨s, hs, hpair⟩
    rw [pairOf_eq_members S hs] at hpair
    obtain ⟨m, hm, heq⟩ := Option.map_eq_some_iff.mp hpair
    obtain ⟨hparticipant, hroom⟩ := Prod.mk.inj heq
    exact ⟨s, m, hm, hroom, hparticipant⟩

/-! ## Taking subscriptions out of the store -/

/-- Taking subscriptions out leaves the members that stay, and the feeds that
    they need. -/
theorem Shows.keep {S : Sdk A R} {server : ConferenceServer} {sys sys' : System A R}
    {d : Directory A R} (h : Shows S sys d) (hsound : Sound S sys')
    (hgenuine : Genuine S server sys') {stays : Attendance A R → Prop} [DecidablePred stays]
    (hmembers : ∀ s, membersOf sys' s = (membersOf sys s).filter (fun m => stays m))
    (hclients : ∀ c cl', sys'.world.clients.get? c = some cl' →
      ∃ cl, sys.world.clients.get? c = some cl ∧ seen cl' = seen cl)
    (hlog : ∀ s, callsMadeBy s sys'.log = callsMadeBy s sys.log)
    (hnext : sys'.subs.next = sys.subs.next)
    (hevents : sys'.world.events.next = sys.world.events.next) :
    Shows S sys' (d.keep S server stays) := by
  have hmembers' : (d.keep S server stays).members = membersOf sys' := by
    funext s
    rw [hmembers, ← h.members]
    exact congrArg (fun p => (d.members s).filter p)
      (funext fun m => decide_eq_decide.mpr Iff.rfl)
  have hneeded := fun key => needed_iff hsound hgenuine hmembers' key
  refine ⟨hmembers', ?_, ?_, ?_, h.joins.trans hnext.symm, h.dialogs.trans hevents.symm⟩
  · intro c cl' hcl'
    obtain ⟨cl, hcl, hseen⟩ := hclients c cl' hcl'
    obtain ⟨feed, hfeed, hmirrors⟩ := h.feeds c cl hcl
    obtain ⟨hto, hev, hdevices, -⟩ := Client.mk.inj hseen
    refine ⟨feed, ?_, hmirrors.watched.trans hto.symm, hmirrors.dialog.trans hev.symm,
      hmirrors.devices.trans hdevices.symm⟩
    rw [hto]
    refine (if_pos ((hneeded _).mpr ⟨c, cl', hcl', ?_⟩)).trans hfeed
    rw [hto]
  · intro key feed hfeed
    by_cases hneed : (d.keep S server stays).Needed S server key
    · exact (hneeded key).mp hneed
    · have hgone : (d.keep S server stays).feeds key = none := if_neg hneed
      rw [hgone] at hfeed
      cases hfeed
  · intro s
    rw [hlog]
    exact h.told s

/-- An unsubscribe makes the participant leave. -/
theorem Shows.dropEntry {S : Sdk A R} {server : ConferenceServer} {sys : System A R}
    {d : Directory A R} (h : Shows S sys d) (hsound : Sound S sys)
    (hgenuine : Genuine S server sys) {entry : String × SubscriptionId}
    (hin : entry ∈ sys.mSubscriptions) {chatRoom : R} {address : A}
    (hpair : pairOf S sys entry.2 = some (S.participant address, chatRoom)) :
    Shows S (dropEntry S sys entry) (d.leave S server chatRoom address) := by
  classical
  have hs : entry.2 ∈ stored sys := mem_stored.mpr ⟨entry, hin, rfl⟩
  have hperm := stored_perm_erase hin
  obtain ⟨hgone, -⟩ := List.nodup_cons.mp (hperm.nodup_iff.mp hsound.stored_nodup)
  have hmem : ∀ s, s ∈ stored (HandlerSteps.dropEntry S sys entry) ↔
      s ∈ stored sys ∧ s ≠ entry.2 := by
    intro s
    rw [stored, mSubscriptions_dropEntry, hperm.mem_iff, List.mem_cons]
    constructor
    · intro hleft
      exact ⟨Or.inr hleft, fun heq => hgone (heq ▸ hleft)⟩
    · rintro ⟨heq | hleft, hne⟩
      · exact absurd heq hne
      · exact hleft
  refine h.keep (hsound.dropEntry hin) (hgenuine.congr (subject_dropEntry S sys entry))
    ?_ ?_ ?_ (next_dropEntry S sys entry) (teardown_sameEvents.dropEntry hsound hin).1
  · intro s
    by_cases hstored : s ∈ stored sys
    · obtain ⟨m, hm⟩ := Option.isSome_iff_exists.mp
        (show (membersOf sys s).isSome by
          rw [membersOf, if_pos hstored, Option.isSome_map]
          exact hsound.inv.owned.made s hstored)
      have hmpair := pairOf_eq_members S hstored
      rw [hm, Option.map_some] at hmpair
      rw [hm, Option.filter_some]
      by_cases heq : s = entry.2
      · -- the entry that is dropped is the one for the pair
        obtain ⟨hparticipant, hroom⟩ :=
          Prod.mk.inj (Option.some.inj ((hmpair.symm.trans (heq ▸ hpair))))
        rw [if_neg (by simp [hparticipant, hroom])]
        exact if_neg (fun hleft => ((hmem s).mp hleft).2 heq)
      · have hother : ¬ (m.chatRoom = chatRoom ∧
            S.participant m.address = S.participant address) := by
          rintro ⟨rfl, hparticipant⟩
          rw [hparticipant] at hmpair
          exact heq (stored_unique hsound hstored hs hmpair hpair)
        rw [if_pos (decide_eq_true hother), membersOf, if_pos ((hmem s).mpr ⟨hstored, heq⟩),
          subject_dropEntry, ← hm, membersOf, if_pos hstored]
    · have hnone : membersOf sys s = none := if_neg hstored
      rw [hnone, Option.filter_none]
      exact if_neg (fun hleft => hstored ((hmem s).mp hleft).1)
  · intro c cl' hcl'
    obtain ⟨cl, hcl, heq⟩ := client_dropEntry hsound hin hcl'
    refine ⟨cl, hcl, ?_⟩
    rw [heq]
    split <;> rfl
  · intro s
    rw [log_dropEntry, callsMadeBy_append]
    exact List.append_nil _

/-- Clearing the store makes everybody leave. -/
theorem Shows.unsubscribeAll {S : Sdk A R} {server : ConferenceServer} {sys : System A R}
    {d : Directory A R} (h : Shows S sys d) (hsound : Sound S sys)
    (hgenuine : Genuine S server sys) :
    Shows S (sys.unsubscribeAll S) (d.keep S server (fun _ => False)) := by
  obtain ⟨hafter, hempty, hnext, hsubject, hlog⟩ := hsound.unsubscribeAll
  refine h.keep hafter (hgenuine.congr hsubject) ?_ ?_ ?_ hnext
    (teardown_sameEvents.unsubscribeAll hsound).1
  · intro s
    have hnone : membersOf (sys.unsubscribeAll S) s = none := by
      refine if_neg ?_
      rw [stored, hempty]
      exact List.not_mem_nil
    rw [hnone]
    cases membersOf sys s <;> simp
  · intro c cl' hcl'
    rw [(unsubscribeAll_releases hsound).1 c] at hcl'
    cases hcl'
  · intro s
    rw [hlog]
    refine callsMadeBy_others sys.log ?_
    intro s' room call hin
    obtain ⟨_, -, heq⟩ := List.mem_map.mp hin
    cases heq

/-! ## Putting a subscription into the store -/

theorem attendanceOf_fixed (sub : Subscription A R) :
    attendanceOf (fixed sub) = attendanceOf sub := by
  rw [attendanceOf, base_fixed, attendanceOf]

theorem members_added {S : Sdk A R} {sys sys' : System A R} {made : Subscription A R}
    (hadd : Added S sys sys' made) :
    membersOf sys' =
      Function.update (membersOf sys) sys.subs.next (some (attendanceOf made)) := by
  funext s
  by_cases hs : s = sys.subs.next
  · subst hs
    rw [Function.update_self, membersOf, if_pos (hadd.mem_stored_iff.mpr (Or.inl rfl)),
      hadd.subject, if_pos rfl, Option.map_some, attendanceOf_fixed]
  · have hmem : s ∈ stored sys' ↔ s ∈ stored sys :=
      hadd.mem_stored_iff.trans (or_iff_right hs)
    rw [Function.update_of_ne hs, membersOf, membersOf, hadd.subject, if_neg hs]
    exact if_congr hmem rfl rfl

section Rooms

variable [DecidableEq R]

/-- A subscribe for a local participant adds a member without a feed. -/
theorem Shows.subscribe_own {S : Sdk A R} {server : ConferenceServer} {sys : System A R}
    {d : Directory A R} (h : Shows S sys d) (hsound : Sound S sys) {chatRoom : R} {address : A}
    (hfree : ¬ d.TakesPart S chatRoom address)
    (hfind : sys.findSubscription S chatRoom address = false)
    (hlocal : S.getDomain address ∈ server.localDomains) :
    Shows S (sys.subscribe S server chatRoom address) (d.join S server chatRoom address) := by
  have hadd := added_own server hsound hfind hlocal
  have hworld := world_subscribe_own S server hfind hlocal
  rw [Directory.join_local hfree (if_pos hlocal)]
  refine ⟨?_, ?_, ?_, ?_, ?_, ?_⟩
  · rw [members_added hadd]
    show Function.update d.members d.joins _ = _
    rw [h.members, h.joins]
    rfl
  · intro c cl hcl
    rw [hworld] at hcl
    exact h.feeds c cl hcl
  · intro key feed hfeed
    rw [hworld]
    exact h.clients key feed hfeed
  · intro s
    rw [log_subscribe_own S server hfind hlocal, callsMadeBy_started]
    exact (h.told s).trans (List.append_nil _).symm
  · rw [hadd.next]
    exact congrArg (· + 1) h.joins
  · rw [hworld]
    exact h.dialogs

/-- The clients after a subscribe are the feeds after a join. -/
theorem Shows.joined {S : Sdk A R} {server : ConferenceServer} {sys : System A R}
    {d : Directory A R} (h : Shows S sys d) {chatRoom : R} {address : A} {c : ClientId}
    {cl : Client A} (hjoined : Joined S server sys chatRoom address c cl) :
    S.asStringUriOnlyOrdered cl.mTo = S.asStringUriOnlyOrdered address ∧
      Mirrors S cl (d.feedFor (S.asStringUriOnlyOrdered address) address) ∧
      ((∃ e, cl.mSubscribeEvent = some e) →
        d.feeds (S.asStringUriOnlyOrdered address) =
          some (d.feedFor (S.asStringUriOnlyOrdered address) address)) := by
  rcases hjoined.origin with ⟨hcl, hord⟩ | ⟨rfl, rfl, hnone⟩
  · obtain ⟨feed, hfeed, hmirrors⟩ := h.feeds c cl hcl
    rw [hord] at hfeed
    have hfor : d.feedFor (S.asStringUriOnlyOrdered address) address = feed := by
      rw [Directory.feedFor, hfeed, Option.getD_some]
    rw [hfor]
    exact ⟨hord, hmirrors, fun _ => hfeed⟩
  · -- no client alive, so no feed
    have hblank : d.feeds (S.asStringUriOnlyOrdered address) = none := by
      cases hfeed : d.feeds (S.asStringUriOnlyOrdered address) with
      | none => rfl
      | some feed =>
          obtain ⟨c', cl', hcl', hord⟩ := h.clients _ _ hfeed
          exact absurd hord (hnone c' cl' hcl')
    rw [Directory.feedFor, hblank, Option.getD_none]
    refine ⟨rfl, ⟨rfl, rfl, rfl⟩, ?_⟩
    rintro ⟨e, hev⟩
    cases hev

/-- Of the clients alive, the one that a subscribe joins is the one with the
    ordered URI of the address. -/
theorem joined_key {S : Sdk A R} {server : ConferenceServer} {sys : System A R}
    (hsound : Sound S sys) {chatRoom : R} {address : A} {c : ClientId} {cl : Client A}
    (hjoined : Joined S server sys chatRoom address c cl) {c' : ClientId} {cl' : Client A}
    (hcl' : sys.world.clients.get? c' = some cl') :
    c' = c ↔ S.asStringUriOnlyOrdered cl'.mTo = S.asStringUriOnlyOrdered address := by
  rcases hjoined.origin with ⟨hcl, hord⟩ | ⟨rfl, -, hnone⟩
  · constructor
    · rintro rfl
      rw [← Option.some.inj (hcl.symm.trans hcl')]
      exact hord
    · intro hord'
      exact hsound.inv.owned.ordered_inj (face_eq_some_iff.mpr ⟨cl', hcl', rfl, rfl⟩)
        (face_eq_some_iff.mpr ⟨cl, hcl, rfl, rfl⟩) (hord'.trans hord.symm)
  · refine iff_of_false ?_ (hnone c' cl' hcl')
    rintro rfl
    rw [Heap.get?_next] at hcl'
    cases hcl'

omit [DecidableEq R] in
theorem feedKey_remote {S : Sdk A R} {server : ConferenceServer} {chatRoom : R} {address : A}
    (hremote : S.getDomain address ∉ server.localDomains) :
    (⟨chatRoom, address⟩ : Attendance A R).feedKey? S server =
      some (S.asStringUriOnlyOrdered address) := if_neg hremote

/-- The member that a subscribe for a participant of another domain adds. -/
theorem members_joined {S : Sdk A R} {server : ConferenceServer} {sys : System A R}
    {d : Directory A R} (h : Shows S sys d) (hsound : Sound S sys) {chatRoom : R} {address : A}
    (hfind : sys.findSubscription S chatRoom address = false)
    (hremote : S.getDomain address ∉ server.localDomains) :
    membersOf (sys.subscribe S server chatRoom address) =
      Function.update d.members d.joins (some ⟨chatRoom, address⟩) := by
  rw [members_added (added_external server hsound hfind hremote), h.members, h.joins]
  rfl

/-- A participant of another domain without a dialog: it is opened. -/
theorem Shows.subscribe_opens {S : Sdk A R} {server : ConferenceServer} {sys : System A R}
    {d : Directory A R} (h : Shows S sys d) (hsound : Sound S sys) {chatRoom : R} {address : A}
    (hfree : ¬ d.TakesPart S chatRoom address)
    (hfind : sys.findSubscription S chatRoom address = false)
    (hremote : S.getDomain address ∉ server.localDomains) {c : ClientId} {cl : Client A}
    (hjoined : Joined S server sys chatRoom address c cl)
    (hev : cl.mSubscribeEvent = none) :
    Shows S (sys.subscribe S server chatRoom address) (d.join S server chatRoom address) := by
  have hadd := added_external server hsound hfind hremote
  have hmembers := members_joined h hsound hfind hremote
  obtain ⟨hord, hmirrors, -⟩ := h.joined hjoined
  have hdialog : (d.feedFor (S.asStringUriOnlyOrdered address) address).dialog = none :=
    hmirrors.dialog.trans hev
  rw [Directory.join_opens hfree (feedKey_remote hremote) hdialog]
  have hopened : (d.openDialog (S.asStringUriOnlyOrdered address) address).feeds
      (S.asStringUriOnlyOrdered address) =
      some { d.feedFor (S.asStringUriOnlyOrdered address) address with
        dialog := some d.dialogs } := Function.update_self ..
  refine ⟨hmembers.symm, ?_, ?_, ?_, ?_, ?_⟩
  · intro c' cl' hcl'
    by_cases hc : c' = c
    · subst hc
      obtain rfl := Option.some.inj (hjoined.client.symm.trans hcl')
      refine ⟨_, (congrArg _ hord).trans hopened, hmirrors.watched, ?_, hmirrors.devices⟩
      show some d.dialogs = some (cl.mSubscribeEvent.getD sys.world.events.next)
      rw [hev, h.dialogs]
      rfl
    · rw [hjoined.others c' hc] at hcl'
      obtain ⟨feed, hfeed', hmirrors'⟩ := h.feeds c' cl' hcl'
      have hne := fun heq => hc ((joined_key hsound hjoined hcl').mpr heq)
      exact ⟨feed, (Function.update_of_ne hne _ _).trans hfeed', hmirrors'⟩
  · intro key feed hkeyed
    by_cases hk : key = S.asStringUriOnlyOrdered address
    · exact ⟨c, _, hjoined.client, hord.trans hk.symm⟩
    · have hold : d.feeds key = some feed := (Function.update_of_ne hk _ _).symm.trans hkeyed
      obtain ⟨c', cl', hcl', hkey'⟩ := h.clients key feed hold
      have hne : c' ≠ c := fun hc =>
        hk (hkey'.symm.trans ((joined_key hsound hjoined hcl').mp hc))
      exact ⟨c', cl', (hjoined.others c' hne).trans hcl', hkey'⟩
  · intro s
    rw [hjoined.log, hev, callsMadeBy_started]
    exact (h.told s).trans (List.append_nil _).symm
  · rw [hadd.next]
    exact congrArg (· + 1) h.joins
  · rw [hjoined.events, hev]
    show d.dialogs + 1 = (sys.world.events.alloc _).next
    rw [Heap.next_alloc, h.dialogs]

/-- A participant of another domain with a dialog: what was heard is replayed. -/
theorem Shows.subscribe_replays {S : Sdk A R} {server : ConferenceServer} {sys : System A R}
    {d : Directory A R} (h : Shows S sys d) (hsound : Sound S sys) {chatRoom : R} {address : A}
    (hfree : ¬ d.TakesPart S chatRoom address)
    (hfind : sys.findSubscription S chatRoom address = false)
    (hremote : S.getDomain address ∉ server.localDomains) {c : ClientId} {cl : Client A}
    (hjoined : Joined S server sys chatRoom address c cl) {e : EventId}
    (hev : cl.mSubscribeEvent = some e) :
    Shows S (sys.subscribe S server chatRoom address) (d.join S server chatRoom address) := by
  have hadd := added_external server hsound hfind hremote
  have hmembers := members_joined h hsound hfind hremote
  obtain ⟨hord, hmirrors, hfeed⟩ := h.joined hjoined
  have hdialog : (d.feedFor (S.asStringUriOnlyOrdered address) address).dialog = some e :=
    hmirrors.dialog.trans hev
  have hshared := hfeed ⟨e, hev⟩
  rw [Directory.join_replays hfree (feedKey_remote hremote) hshared hdialog]
  refine ⟨hmembers.symm, ?_, ?_, ?_, ?_, ?_⟩
  · intro c' cl' hcl'
    by_cases hc : c' = c
    · subst hc
      obtain rfl := Option.some.inj (hjoined.client.symm.trans hcl')
      refine ⟨_, (congrArg _ hord).trans hshared, hmirrors.watched, ?_, hmirrors.devices⟩
      rw [hdialog, ClientSteps.joined, hev]
      rfl
    · rw [hjoined.others c' hc] at hcl'
      exact h.feeds c' cl' hcl'
  · intro key feed hkeyed
    obtain ⟨c', cl', hcl', hkey'⟩ := h.clients key feed hkeyed
    by_cases hc : c' = c
    · exact ⟨c, _, hjoined.client,
        hord.trans ((joined_key hsound hjoined hcl').mp hc ▸ hkey')⟩
    · exact ⟨c', cl', (hjoined.others c' hc).trans hcl', hkey'⟩
  · intro s
    rw [hjoined.log, hev, callsMadeBy_started]
    show Function.update d.told d.joins _ s = _
    rw [h.joins, Function.update_apply]
    split
    · rename_i hs
      subst hs
      rw [h.told, hmirrors.devices]
      refine congrArg (callsMadeBy sys.subs.next sys.log ++ ·) ?_
      exact (callsMadeBy_map sys.subs.next chatRoom _).symm
    · rename_i hs
      refine (h.told s).trans (List.append_nil _).symm |>.trans ?_
      refine congrArg (callsMadeBy s sys.log ++ ·) (callsMadeBy_eq_nil ?_).symm
      intro s' room call hin
      obtain ⟨rfl, -, -⟩ := Handlers.Entry.called.inj (List.mem_singleton.mp hin)
      exact fun heq => hs heq.symm
  · rw [hadd.next]
    exact congrArg (· + 1) h.joins
  · rw [hjoined.events, hev]
    exact h.dialogs

/-- A subscribe for a participant of another domain adds a member with a feed:
    the dialog is opened or what was heard is replayed. -/
theorem Shows.subscribe_external {S : Sdk A R} {server : ConferenceServer} {sys : System A R}
    {d : Directory A R} (h : Shows S sys d) (hsound : Sound S sys) {chatRoom : R} {address : A}
    (hfree : ¬ d.TakesPart S chatRoom address)
    (hfind : sys.findSubscription S chatRoom address = false)
    (hremote : S.getDomain address ∉ server.localDomains) :
    Shows S (sys.subscribe S server chatRoom address) (d.join S server chatRoom address) := by
  obtain ⟨c, cl, hjoined⟩ := subscribe_joins server hsound hfind hremote
  cases hev : cl.mSubscribeEvent with
  | none => exact h.subscribe_opens hsound hfree hfind hremote hjoined hev
  | some e => exact h.subscribe_replays hsound hfree hfind hremote hjoined hev

end Rooms

/-! ## Messages -/

/-- A message to a dialog changes the clients one by one, as it changes the
    feeds. -/
theorem Shows.message {S : Sdk A R} {sys sys' : System A R} {d d' : Directory A R}
    (h : Shows S sys d) (hkeeps : Keeps sys sys') {f : Feed A → Feed A} {g : Client A → Client A}
    (hmembers : d'.members = d.members) (hfeeds : ∀ key, d'.feeds key = (d.feeds key).map f)
    (hclients : ∀ c, sys'.world.clients.get? c = (sys.world.clients.get? c).map g)
    (hto : ∀ cl, (g cl).mTo = cl.mTo)
    (hmirrors : ∀ c cl feed, sys.world.clients.get? c = some cl → Mirrors S cl feed →
      Mirrors S (g cl) (f feed))
    (htold : ∀ s, d'.told s = callsMadeBy s sys'.log) (hjoins : d'.joins = d.joins)
    (hdialogs : d'.dialogs = d.dialogs)
    (hevents : sys'.world.events.next = sys.world.events.next) : Shows S sys' d' := by
  refine ⟨?_, ?_, ?_, htold,
    (hjoins.trans h.joins).trans hkeeps.2.1.symm, (hdialogs.trans h.dialogs).trans hevents.symm⟩
  · funext s
    rw [hmembers, h.members, membersOf, membersOf, hkeeps.stored, hkeeps.1]
  · intro c cl' hcl'
    rw [hclients] at hcl'
    obtain ⟨cl, hcl, rfl⟩ := Option.map_eq_some_iff.mp hcl'
    obtain ⟨feed, hfeed, hmirrored⟩ := h.feeds c cl hcl
    refine ⟨f feed, ?_, hmirrors c cl feed hcl hmirrored⟩
    rw [hto, hfeeds, hfeed, Option.map_some]
  · intro key feed' hfeed'
    rw [hfeeds] at hfeed'
    obtain ⟨feed, hfeed, rfl⟩ := Option.map_eq_some_iff.mp hfeed'
    obtain ⟨c, cl, hcl, hkey⟩ := h.clients key feed hfeed
    refine ⟨c, g cl, ?_, (congrArg _ (hto cl)).trans hkey⟩
    rw [hclients, hcl, Option.map_some]

/-- A dialog that no client has is not one of a feed either. -/
theorem Shows.dialog_current {S : Sdk A R} {sys : System A R} {d : Directory A R}
    (h : Shows S sys d) {key : String} {feed : Feed A} {e : EventId}
    (hfeed : d.feeds key = some feed) (hdialog : feed.dialog = some e) :
    ∃ c cl, sys.world.clients.get? c = some cl ∧ cl.mSubscribeEvent = some e ∧
      S.asStringUriOnlyOrdered cl.mTo = key ∧ Mirrors S cl feed := by
  obtain ⟨c, cl, hcl, hkey⟩ := h.clients key feed hfeed
  obtain ⟨feed', hfeed', hmirrors⟩ := h.feeds c cl hcl
  rw [hkey] at hfeed'
  obtain rfl := Option.some.inj (hfeed.symm.trans hfeed')
  exact ⟨c, cl, hcl, hmirrors.dialog.symm.trans hdialog, hkey, hmirrors⟩

/-- What a member watches is the client of its subscription. -/
theorem Shows.watching {S : Sdk A R} {server : ConferenceServer} {sys : System A R}
    {d : Directory A R} (h : Shows S sys d) (hsound : Sound S sys)
    (hgenuine : Genuine S server sys) {s : SubscriptionId} {m : Attendance A R} {feed : Feed A} :
    d.watching S server s = some (m, feed) ↔
      s ∈ stored sys ∧ ∃ sub cl, sys.subs.get? s = some (.external sub) ∧
        m = attendanceOf (.external sub) ∧ sys.world.clients.get? sub.mClient = some cl ∧
        d.feeds (S.asStringUriOnlyOrdered cl.mTo) = some feed ∧ Mirrors S cl feed := by
  rw [Directory.watching_eq_some_iff, h.members]
  constructor
  · rintro ⟨hm, key, hkey, hfeed⟩
    obtain ⟨hs, sub, hsub, rfl⟩ := membersOf_eq_some_iff.mp hm
    cases sub with
    | own sub =>
        rw [feedKey_own (hgenuine s _ hsub)] at hkey
        cases hkey
    | external sub =>
        rw [feedKey_external (hgenuine s _ hsub)] at hkey
        obtain ⟨cl, hcl, hord⟩ := client_of_stored hsound hs (subject_external_iff.mp hsub)
        obtain ⟨feed', hfeed', hmirrors⟩ := h.feeds _ cl hcl
        rw [hord, Option.some.inj hkey, hfeed] at hfeed'
        obtain rfl := Option.some.inj hfeed'
        refine ⟨hs, sub, cl, subject_external_iff.mp hsub, rfl, hcl, ?_, hmirrors⟩
        rw [hord, Option.some.inj hkey, hfeed]
  · rintro ⟨hs, sub, cl, hsub, rfl, hcl, hfeed, -⟩
    have hsubject := subject_external_iff.mpr hsub
    obtain ⟨cl', hcl', hord⟩ := client_of_stored hsound hs hsub
    obtain rfl := Option.some.inj (hcl.symm.trans hcl')
    refine ⟨membersOf_eq_some_iff.mpr ⟨hs, _, hsubject, rfl⟩, _,
      feedKey_external (hgenuine s _ hsubject), ?_⟩
    rw [← hord]
    exact hfeed

/-- What a member relays of a document is what its subscription calls. -/
theorem Shows.relayed {S : Sdk A R} {server : ConferenceServer} {sys : System A R}
    {d : Directory A R} (h : Shows S sys d) (hsound : Sound S sys)
    (hgenuine : Genuine S server sys) (e : EventId) (ri : Reginfo) (s : SubscriptionId) :
    callsMadeBy s ((sys.world.onNotifyReceived S e (.reginfo ri)).2.flatMap
      (System.callsOf S sys.subs)) = d.relayed S server e ri s := by
  by_cases hserved : ∃ c cl, sys.world.clients.get? c = some cl ∧ cl.mSubscribeEvent = some e ∧
      s ∈ stored sys ∧ clientOf sys s = some c
  · obtain ⟨c, cl, hcl, hev, hs, hpointer⟩ := hserved
    obtain ⟨sub, hsub, rfl⟩ := clientOf_eq_some_iff.mp hpointer
    obtain ⟨feed, hfeed, hmirrors⟩ := h.feeds _ cl hcl
    have hwatching :=
      (h.watching hsound hgenuine).mpr ⟨hs, sub, cl, hsub, rfl, hcl, hfeed, hmirrors⟩
    have haor : feed.aor S = S.asStringUriOnly cl.mTo := congrArg _ hmirrors.watched
    have hmade := hgenuine s _ (subject_external_iff.mpr hsub)
    rw [callsMadeBy_emissions S _ hsub, notify_tells hsound hcl hev ri hs hpointer,
      client_reports, Directory.relayed, hwatching]
    simp only [if_pos (hmirrors.dialog.trans hev), haor]
    exact congrArg (List.flatMap · _) (funext (callback_eq_relay hmade))
  · -- nobody who is told anything
    have hsilent : d.relayed S server e ri s = [] := by
      rw [Directory.relayed]
      split
      · rfl
      · rename_i m feed hwatching
        refine if_neg (fun hdialog => hserved ?_)
        obtain ⟨hs, sub, cl, hsub, -, hcl, -, hmirrors⟩ := (h.watching hsound hgenuine).mp hwatching
        exact ⟨_, cl, hcl, hmirrors.dialog.symm.trans hdialog, hs, clientOf_external hsub⟩
    rw [hsilent]
    refine callsMadeBy_eq_nil ?_
    intro s' room call hin
    rintro rfl
    obtain ⟨em, hem, hcall⟩ := List.mem_flatMap.mp hin
    rcases notify_cases hsound.inv.rest e (.reginfo ri) with hsame | ⟨c, cl, ri', hcl, hev, -, -⟩
    · rw [hsame] at hem
      cases hem
    · obtain ⟨hs, hpointer, -⟩ := calls_notify hsound hcl hev hin
      exact hserved ⟨c, cl, hcl, hev, hs, hpointer⟩

/-- A document is one more document of the feed of its dialog. -/
theorem Shows.notify {S : Sdk A R} {server : ConferenceServer} {sys : System A R}
    {d : Directory A R} (h : Shows S sys d) (hsound : Sound S sys)
    (hgenuine : Genuine S server sys) (e : EventId) (ri : Reginfo) :
    Shows S (sys.onNotifyReceived S e (.reginfo ri)) (d.hear S server e ri) := by
  refine h.message (f := fun feed => if feed.dialog = some e then feed.hear ri else feed)
    (g := fun cl => if cl.mSubscribeEvent = some e then
      { cl with mParticipantDevices := (Reginfos.Client.onNotifyReceived S
        (S.asStringUriOnly cl.mTo) cl.mParticipantDevices ri).1 } else cl)
    (keeps_onNotifyReceived S sys e _) rfl (fun _ => rfl) ?_ ?_ ?_ ?_ rfl rfl ?_
  · intro c
    show (sys.world.onNotifyReceived S e (.reginfo ri)).1.clients.get? c = _
    by_cases hcur : ∃ c₀ cl₀, sys.world.clients.get? c₀ = some cl₀ ∧ cl₀.mSubscribeEvent = some e
    · obtain ⟨c₀, cl₀, hcl₀, hev₀⟩ := hcur
      rw [notify_current hsound.inv.rest hcl₀ hev₀]
      show (sys.world.clients.modify c₀ _).get? c = _
      by_cases hc : c₀ = c
      · subst hc
        rw [Heap.get?_modify_self, hcl₀, Option.map_some, Option.map_some, if_pos hev₀]
      · rw [Heap.get?_modify_ne _ _ hc]
        cases hcl : sys.world.clients.get? c with
        | none => rfl
        | some cl =>
            have hne : cl.mSubscribeEvent ≠ some e := fun hev =>
              hc (Events.isCurrent_client_inj hsound.inv.rest ⟨cl₀, hcl₀, hev₀⟩ ⟨cl, hcl, hev⟩)
            rw [Option.map_some, if_neg hne]
    · have hsame : (sys.world.onNotifyReceived S e (.reginfo ri)).1 = sys.world := by
        rcases notify_cases hsound.inv.rest e (.reginfo ri) with
          hsame | ⟨c₀, cl₀, ri', hcl₀, hev₀, -, -⟩
        · rw [hsame]
        · exact absurd ⟨c₀, cl₀, hcl₀, hev₀⟩ hcur
      rw [hsame]
      cases hcl : sys.world.clients.get? c with
      | none => rfl
      | some cl => rw [Option.map_some, if_neg (fun hev => hcur ⟨c, cl, hcl, hev⟩)]
  · intro cl
    split <;> rfl
  · intro c cl feed hcl hmirrors
    by_cases hev : cl.mSubscribeEvent = some e
    · rw [if_pos hev, if_pos (hmirrors.dialog.trans hev)]
      refine ⟨hmirrors.watched, hmirrors.dialog, ?_⟩
      rw [Feed.devices_hear, Feed.aor, hmirrors.watched, hmirrors.devices,
        onNotifyReceived_devices]
    · rw [if_neg hev, if_neg (fun hdialog => hev (hmirrors.dialog.symm.trans hdialog))]
      exact hmirrors
  · intro s
    rw [log_onNotifyReceived, callsMadeBy_append, h.relayed hsound hgenuine, ← h.told]
    rfl
  · rcases notify_cases hsound.inv.rest e (.reginfo ri) with hsame | ⟨c, cl, ri', -, -, -, hw⟩
    · show (sys.world.onNotifyReceived S e (.reginfo ri)).1.events.next = _
      rw [hsame]
    · show (sys.world.onNotifyReceived S e (.reginfo ri)).1.events.next = _
      rw [hw]
      rfl

/-- A NOTIFY without a document changes nothing. -/
theorem Shows.unread {S : Sdk A R} {sys : System A R} {d : Directory A R} (h : Shows S sys d)
    (hsound : Sound S sys) (e : EventId) {body : NotifyBody} (hbody : ∀ ri, body ≠ .reginfo ri) :
    Shows S (sys.onNotifyReceived S e body) d := by
  rcases notify_cases hsound.inv.rest e body with hsame | ⟨-, -, ri, -, -, hread, -⟩
  · have hstays : sys.onNotifyReceived S e body = sys := by
      rw [System.onNotifyReceived, hsame]
      simp only [System.deliver, List.flatMap_nil, List.append_nil]
    rw [hstays]
    exact h
  · exact absurd hread (hbody ri)

/-- The end of its dialog leaves a feed without what came on it. -/
theorem Shows.stateChanged [DecidableEq R] {S : Sdk A R} {server : ConferenceServer}
    {sys : System A R} {d : Directory A R} (h : Shows S sys d) (hsound : Sound S sys) (e : EventId)
    (state : SubscriptionState) :
    Shows S { sys with world := sys.world.onSubscriptionStateChanged e state }
      (Directories.step S server d (.onSubscriptionStateChanged e state)) := by
  have hunheard : sys.world.onSubscriptionStateChanged e state = sys.world →
      Shows S { sys with world := sys.world.onSubscriptionStateChanged e state } d := by
    intro hsame
    rw [hsame]
    exact ⟨h.members, h.feeds, h.clients, h.told, h.joins, h.dialogs⟩
  rw [Directories.step]
  split
  · rename_i hends
    rcases stateChanged_cases hsound.inv.rest e state with hsame | ⟨c₀, hcur, -, hw⟩
    · -- nobody has the dialog
      have hnone : ∀ key feed, d.feeds key = some feed → feed.dialog ≠ some e := by
        intro key feed hfeed hdialog
        obtain ⟨c, cl, hcl, hev, -, -⟩ := h.dialog_current hfeed hdialog
        have hended := (client_ended server hsound hcl hev hends).symm.trans
          ((congrArg (fun w => w.clients.get? c) hsame).trans hcl)
        rw [← Option.some.inj hended] at hev
        cases hev
      have hsilent : d.hangUp e = d := by
        rw [Directory.hangUp]
        refine congrArg (fun feeds => { d with feeds := feeds }) (funext fun key => ?_)
        cases hfeed : d.feeds key with
        | none => rfl
        | some feed => rw [Option.map_some, if_neg (hnone key feed hfeed)]
      rw [hsilent]
      exact hunheard hsame
    · refine h.message (f := fun feed => if feed.dialog = some e then feed.hangUp else feed)
        (g := fun cl => if cl.mSubscribeEvent = some e then
          { cl with mSubscribeEvent := none, mParticipantDevices := [] } else cl)
        ⟨rfl, rfl, rfl⟩ rfl (fun _ => rfl) ?_ ?_ ?_ h.told rfl rfl ?_
      · intro c
        show (sys.world.onSubscriptionStateChanged e state).clients.get? c = _
        rw [hw]
        show (sys.world.clients.modify c₀ _).get? c = _
        obtain ⟨cl₀, hcl₀, hev₀⟩ := hcur
        by_cases hc : c₀ = c
        · subst hc
          rw [Heap.get?_modify_self, hcl₀, Option.map_some, Option.map_some, if_pos hev₀]
        · rw [Heap.get?_modify_ne _ _ hc]
          cases hcl : sys.world.clients.get? c with
          | none => rfl
          | some cl =>
              have hne : cl.mSubscribeEvent ≠ some e := fun hev =>
                hc (Events.isCurrent_client_inj hsound.inv.rest ⟨cl₀, hcl₀, hev₀⟩ ⟨cl, hcl, hev⟩)
              rw [Option.map_some, if_neg hne]
      · intro cl
        split <;> rfl
      · intro c cl feed hcl hmirrors
        by_cases hev : cl.mSubscribeEvent = some e
        · rw [if_pos hev, if_pos (hmirrors.dialog.trans hev)]
          exact ⟨hmirrors.watched, rfl, rfl⟩
        · rw [if_neg hev, if_neg (fun hdialog => hev (hmirrors.dialog.symm.trans hdialog))]
          exact hmirrors
      · show (sys.world.onSubscriptionStateChanged e state).events.next = _
        rw [hw]
        exact Heap.next_modify _ _ _
  · rename_i hgoes
    rcases stateChanged_cases hsound.inv.rest e state with hsame | ⟨-, -, hends, -⟩
    · exact hunheard hsame
    · exact absurd hends hgoes

/-- The member of an own subscription is looked up in the registrar as long as
    the subscription is active. -/
theorem own_member {S : Sdk A R} {server : ConferenceServer} {sys : System A R}
    (hsound : Sound S sys) (hgenuine : Genuine S server sys) {s : SubscriptionId}
    {sub : OwnRegistrationSubscription A R} (hsub : sys.subs.get? s = some (.own sub)) :
    (membersOf sys s).bind (Attendance.own? S server) =
      if sub.mActive then some sub else none := by
  have hsubject : subject sys s = some (.own { sub with mActive := false }) := by
    rw [subject, hsub]
    rfl
  obtain ⟨hmade, hlocal⟩ := hgenuine s _ hsubject
  have hactive : sub.mActive = true ↔ s ∈ stored sys ∧ sub.mParticipantAor.isSome := by
    have := hsound.inv.attached.active s
    rw [keyOf_own S hsub, Option.isSome_map] at this
    rw [← this, isActive, hsub]
  have hfields := congrArg
    (fun made => ({ made with mActive := true } : OwnRegistrationSubscription A R)) hmade
  have haor : sub.mParticipantAor = (OwnRegistrationSubscription.make S
      server.capabilityCheckEnabled sub.mChatRoom sub.mParticipant).mParticipantAor :=
    congrArg (·.mParticipantAor) hmade
  by_cases hs : s ∈ stored sys
  · rw [membersOf, if_pos hs, hsubject, Option.map_some, Option.bind_some, Attendance.own?]
    by_cases hparsed : sub.mParticipantAor.isSome = true
    · rw [if_pos (hactive.mpr ⟨hs, hparsed⟩)]
      refine (if_pos ⟨hlocal, haor ▸ hparsed⟩).trans (congrArg some ?_)
      refine hfields.symm.trans ?_
      rw [← hactive.mpr ⟨hs, hparsed⟩]
    · rw [if_neg (fun hact => hparsed (hactive.mp hact).2)]
      exact if_neg (fun hown => hparsed (haor ▸ hown.2))
  · rw [membersOf, if_neg hs, Option.bind_none, if_neg (fun hact => hs (hactive.mp hact).1)]

/-- Where the registrar tells a subscription something, only the calls are new. -/
theorem Shows.inform_of_told {S : Sdk A R} {server : ConferenceServer} {sys : System A R}
    {d : Directory A R} (h : Shows S sys d) (s : SubscriptionId)
    {calls : OwnRegistrationSubscription A R → List (ChatRoomCall A)}
    (htold : ∀ s', (d.inform S server s calls).told s' =
      callsMadeBy s' (sys.tellOwn s calls).log) :
    Shows S (sys.tellOwn s calls) (d.inform S server s calls) := by
  have hkeeps := keeps_tellOwn sys s calls
  have hworld := world_tellOwn sys s calls
  have hrest : (d.inform S server s calls).members = d.members ∧
      (d.inform S server s calls).feeds = d.feeds ∧
      (d.inform S server s calls).joins = d.joins ∧
      (d.inform S server s calls).dialogs = d.dialogs := by
    rw [Directory.inform]
    split <;> exact ⟨rfl, rfl, rfl, rfl⟩
  obtain ⟨hmembers, hfeeds, hjoins, hdialogs⟩ := hrest
  refine ⟨?_, ?_, ?_, htold, (hjoins.trans h.joins).trans hkeeps.2.1.symm, ?_⟩
  · funext s'
    rw [hmembers, h.members, membersOf, membersOf, hkeeps.stored, hkeeps.1]
  · rw [hworld, hfeeds]
    exact h.feeds
  · rw [hworld, hfeeds]
    exact h.clients
  · rw [hdialogs, hworld]
    exact h.dialogs

/-- An active own subscription passes on what it is told. -/
theorem Shows.told_active {S : Sdk A R} {server : ConferenceServer} {sys : System A R}
    {d : Directory A R} (h : Shows S sys d) {s : SubscriptionId}
    {sub : OwnRegistrationSubscription A R} (hsub : sys.subs.get? s = some (.own sub))
    (hown : (membersOf sys s).bind (Attendance.own? S server) = some sub)
    (calls : OwnRegistrationSubscription A R → List (ChatRoomCall A)) (s' : SubscriptionId) :
    (d.inform S server s calls).told s' = callsMadeBy s' (sys.tellOwn s calls).log := by
  have hlog : (sys.tellOwn s calls).log =
      sys.log ++ (calls sub).map (.called s sub.mChatRoom) := by
    rw [System.tellOwn, hsub]
  rw [Directory.inform, h.members, hown, hlog]
  show Function.update d.told s (d.told s ++ calls sub) s' = _
  rw [Function.update_apply]
  split
  · rename_i hs
    rw [hs, h.told, callsMadeBy_append, callsMadeBy_map]
  · rename_i hs
    refine (h.told s').trans (callsMadeBy_others sys.log ?_).symm
    intro s'' room call hin
    obtain ⟨_, -, heq⟩ := List.mem_map.mp hin
    obtain ⟨rfl, -, -⟩ := Handlers.Entry.called.inj heq
    exact fun heq => hs heq.symm

/-- What the registrar tells a subscription reaches its member, while it is
    one. -/
theorem Shows.tellOwn {S : Sdk A R} {server : ConferenceServer} {sys : System A R}
    {d : Directory A R} (h : Shows S sys d) (hsound : Sound S sys)
    (hgenuine : Genuine S server sys) (s : SubscriptionId)
    {calls : OwnRegistrationSubscription A R → List (ChatRoomCall A)}
    (hcalls : ∀ sub, sub.mActive = false → calls sub = []) :
    Shows S (sys.tellOwn s calls) (d.inform S server s calls) := by
  refine h.inform_of_told s ?_
  intro s'
  -- a subscription that is no own one, or not active, passes nothing on
  have hsilent : (membersOf sys s).bind (Attendance.own? S server) = none →
      sys.tellOwn s calls = sys →
      (d.inform S server s calls).told s' = callsMadeBy s' (sys.tellOwn s calls).log := by
    intro hnone hsame
    rw [Directory.inform, h.members, hnone, hsame]
    exact h.told s'
  cases hsub : sys.subs.get? s with
  | none =>
      refine hsilent ?_ (by rw [System.tellOwn, hsub])
      rw [membersOf, subject, hsub]
      split <;> rfl
  | some sub =>
      cases sub with
      | external sub =>
          refine hsilent ?_ (by rw [System.tellOwn, hsub])
          have hsubject := subject_external_iff.mpr hsub
          rw [membersOf, hsubject]
          split
          · exact Attendance.own?_of_feedKey S server (feedKey_external (hgenuine s _ hsubject))
          · rfl
      | own sub =>
          have hown := own_member hsound hgenuine hsub
          by_cases hactive : sub.mActive = true
          · rw [if_pos hactive] at hown
            exact h.told_active hsub hown calls s'
          · rw [if_neg hactive] at hown
            refine hsilent hown (tellOwn_of_inactive ?_ hcalls)
            rw [isActive, hsub]
            exact Bool.eq_false_iff.mpr hactive

/-! ## Every run -/

section Runs

variable [DecidableEq R]

/-- Whether somebody takes part already is what `findSubscription` finds. -/
theorem takesPart_iff_find {S : Sdk A R} {sys : System A R} {d : Directory A R}
    (h : Shows S sys d) (hsound : Sound S sys) (chatRoom : R) (address : A) :
    d.TakesPart S chatRoom address ↔ sys.findSubscription S chatRoom address = true := by
  rw [takesPart_iff h, findSubscription_iff]
  constructor
  · rintro ⟨s, hs, hpair⟩
    obtain ⟨entry, hin, rfl⟩ := mem_stored.mp hs
    exact ⟨entry, hin, (pairOf_eq_iff hsound hin).mp hpair⟩
  · rintro ⟨entry, hin, hkey, hroom⟩
    exact ⟨entry.2, mem_stored.mpr ⟨entry, hin, rfl⟩,
      (pairOf_eq_iff hsound hin).mpr ⟨hkey, hroom⟩⟩

/-- When a participant that is not there leaves, everybody stays. -/
theorem Shows.leave_absent {S : Sdk A R} {server : ConferenceServer} {sys : System A R}
    {d : Directory A R} (h : Shows S sys d) (hsound : Sound S sys)
    (hgenuine : Genuine S server sys) {chatRoom : R} {address : A}
    (hnone : ∀ entry ∈ sys.mSubscriptions, entry.1 = System.getSubscriptionKey S address →
      sys.getChatRoom entry.2 ≠ some chatRoom) :
    Shows S sys (d.leave S server chatRoom address) := by
  classical
  refine h.keep hsound hgenuine ?_ (fun c cl hcl => ⟨cl, hcl, rfl⟩) (fun _ => rfl) rfl rfl
  intro s
  cases hm : membersOf sys s with
  | none => rfl
  | some m =>
      have hs := (membersOf_eq_some_iff.mp hm).1
      obtain ⟨entry, hin, rfl⟩ := mem_stored.mp hs
      have hstays : ¬ (m.chatRoom = chatRoom ∧
          S.participant m.address = S.participant address) := by
        rintro ⟨rfl, hparticipant⟩
        have hpair := pairOf_eq_members S hs
        rw [hm, Option.map_some, hparticipant] at hpair
        obtain ⟨hkey, hroom⟩ := (pairOf_eq_iff hsound hin).mp hpair
        exact hnone entry hin hkey hroom
      rw [Option.filter_some, if_pos (decide_eq_true hstays)]

/-- **One operation of the handler does to the directory what it is for.** -/
theorem shows_step {S : Sdk A R} {server : ConferenceServer} {sys : System A R}
    {d : Directory A R} (h : Shows S sys d) (hsound : Sound S sys)
    (hgenuine : Genuine S server sys) (op : Op A R) :
    Shows S (Handlers.step S server sys op) (Directories.step S server d op) := by
  cases op with
  | subscribe chatRoom address =>
      show Shows S (sys.subscribe S server chatRoom address) (d.join S server chatRoom address)
      have htakes := takesPart_iff_find h hsound chatRoom address
      cases hfind : sys.findSubscription S chatRoom address with
      | true =>
          rw [subscribe_found S server hfind, Directory.join_taken (htakes.mpr hfind)]
          exact h
      | false =>
          have hfree : ¬ d.TakesPart S chatRoom address := by
            rw [htakes, hfind]
            exact Bool.false_ne_true
          by_cases hlocal : S.getDomain address ∈ server.localDomains
          · exact h.subscribe_own hsound hfree hfind hlocal
          · exact h.subscribe_external hsound hfree hfind hlocal
  | unsubscribe chatRoom address =>
      show Shows S (sys.unsubscribe S chatRoom address) (d.leave S server chatRoom address)
      rcases unsubscribe_cases hsound chatRoom address with
        ⟨hnone, hsame⟩ | ⟨entry, hin, hkey, hroom, hdrop⟩
      · rw [hsame]
        exact h.leave_absent hsound hgenuine hnone
      · rw [hdrop]
        exact h.dropEntry hsound hgenuine hin ((pairOf_eq_iff hsound hin).mpr ⟨hkey, hroom⟩)
  | unsubscribeAll => exact h.unsubscribeAll hsound hgenuine
  | onNotifyReceived e body =>
      cases body with
      | reginfo ri => exact h.notify hsound hgenuine e ri
      | null =>
          have hnone : ∀ ri, NotifyBody.null ≠ .reginfo ri := fun _ heq => nomatch heq
          exact h.unread hsound e hnone
      | malformed =>
          have hnone : ∀ ri, NotifyBody.malformed ≠ .reginfo ri := fun _ heq => nomatch heq
          exact h.unread hsound e hnone
  | onSubscriptionStateChanged e state => exact h.stateChanged hsound e state
  | onRecordFound s r =>
      exact h.tellOwn hsound hgenuine s
        (fun _ hsub => OwnRegistrationSubscription.onRecordFound_inactive S hsub r)
  | onContactRegistered s r uid =>
      exact h.tellOwn hsound hgenuine s
        (fun _ hsub => OwnRegistrationSubscription.onContactRegistered_inactive S hsub r uid)

/-- What holds after every run: the handler is in order, its subscriptions are
    of the right kind, and it shows the directory. -/
theorem shows_reach (S : Sdk A R) (server : ConferenceServer) (ops : List (Op A R)) :
    Sound S ((Handlers.machine S server).reach ops) ∧
      Genuine S server ((Handlers.machine S server).reach ops) ∧
      Shows S ((Handlers.machine S server).reach ops)
        ((Directories.machine S server).reach ops) := by
  have hsim := Machine.simulation_run (M := Handlers.machine S server)
    (N := Directories.machine S server) (f := id)
    (R := fun sys d => Sound S sys ∧ Genuine S server sys ∧ Shows S sys d)
    (fun sys d op h => ⟨sound_step S server sys op h.1, genuine_step server h.1 h.2.1 op,
      shows_step h.2.2 h.1 h.2.1 op⟩)
    ops System.init Directory.init ⟨Sound.init S, genuine_init S server, shows_init S⟩
  rw [List.map_id] at hsim
  exact hsim

/-- **THE HANDLER REFINES THE DIRECTORY.**  After every run its subscriptions in
    the store are the members, its clients alive are the feeds, with the same
    dialogs and the same devices, and each subscription has made the calls that
    its member has passed on. -/
theorem handler_refines_directory (S : Sdk A R) (server : ConferenceServer)
    (ops : List (Op A R)) :
    Shows S ((Handlers.machine S server).reach ops) ((Directories.machine S server).reach ops) :=
  (shows_reach S server ops).2.2

/-! ## The chat rooms are up to date -/

/-- Each external subscription in the store has left its chat room with the
    compatible devices of its client, once a document on the current event was
    about the participant. -/
def RoomsUpToDate (S : Sdk A R) (sys : System A R) (d : Directory A R) : Prop :=
  ∀ s ∈ stored sys, ∀ sub cl, sys.subs.get? s = some (.external sub) →
    sys.world.clients.get? sub.mClient = some cl →
    (∃ feed, d.feeds (S.asStringUriOnlyOrdered cl.mTo) = some feed ∧ feed.Heard S) →
      latestSet (callsMadeBy s sys.log) = some (sub.compatibleDevices S cl.mParticipantDevices)

/-- The list that a document announces to each subscription is the one that it
    gives, as far as the chat room takes it; or it announces none, and the
    chat room has that list already. -/
def AnnouncesAll (S : Sdk A R) (sys : System A R) : Op A R → Prop
  | .onNotifyReceived e (.reginfo ri) => ∀ s ∈ stored sys, ∀ sub cl devices,
      sys.subs.get? s = some (.external sub) → sys.world.clients.get? sub.mClient = some cl →
      cl.mSubscribeEvent = some e → deviceList? S (S.asStringUriOnly cl.mTo) ri = some devices →
        ((announced? S (S.asStringUriOnly cl.mTo) ri).map (sub.compatibleDevices S)).or
          (latestSet (callsMadeBy s sys.log)) = some (sub.compatibleDevices S devices)
  | _ => True

omit [DecidableEq R] in
/-- The devices that a subscription accepts are the part of its attendance. -/
theorem compatibleDevices_eq_part {S : Sdk A R} {server : ConferenceServer}
    {sub : ExternalRegistrationSubscription A R} (h : MadeFor S server (.external sub)) :
    sub.compatibleDevices S = (attendanceOf (.external sub)).part S server := by
  rw [h.1]
  rfl

omit [DecidableEq R] in
theorem roomsUpToDate_iff {S : Sdk A R} {server : ConferenceServer} {sys : System A R}
    {d : Directory A R} (h : Shows S sys d) (hsound : Sound S sys)
    (hgenuine : Genuine S server sys) : RoomsUpToDate S sys d ↔ UpToDate S server d := by
  constructor
  · intro hrooms s m feed hw hheard
    obtain ⟨hs, sub, cl, hsub, rfl, hcl, hfeed, hmirrors⟩ := (h.watching hsound hgenuine).mp hw
    rw [h.told, hmirrors.devices,
      ← compatibleDevices_eq_part (hgenuine s _ (subject_external_iff.mpr hsub))]
    exact hrooms s hs sub cl hsub hcl ⟨feed, hfeed, hheard⟩
  · rintro hup s hs sub cl hsub hcl ⟨feed, hfeed, hheard⟩
    obtain ⟨feed', hfeed', hmirrors⟩ := h.feeds _ cl hcl
    obtain rfl := Option.some.inj (hfeed.symm.trans hfeed')
    have hlist := hup s _ feed
      ((h.watching hsound hgenuine).mpr ⟨hs, sub, cl, hsub, rfl, hcl, hfeed, hmirrors⟩) hheard
    rw [h.told, hmirrors.devices,
      ← compatibleDevices_eq_part (hgenuine s _ (subject_external_iff.mpr hsub))] at hlist
    exact hlist

omit [DecidableEq R] in
/-- A step announces all when it delivers in the directory that is shown. -/
theorem announcesAll_iff {S : Sdk A R} {server : ConferenceServer} {sys : System A R}
    {d : Directory A R} (h : Shows S sys d) (hsound : Sound S sys)
    (hgenuine : Genuine S server sys) (op : Op A R) :
    AnnouncesAll S sys op ↔ Delivers S server d op := by
  cases op with
  | onNotifyReceived e body =>
      cases body with
      | null => exact Iff.rfl
      | malformed => exact Iff.rfl
      | reginfo ri =>
          constructor
          · intro hall s m feed devices hw hdialog hgives
            obtain ⟨hs, sub, cl, hsub, rfl, hcl, -, hmirrors⟩ :=
              (h.watching hsound hgenuine).mp hw
            have haor : feed.aor S = S.asStringUriOnly cl.mTo := congrArg _ hmirrors.watched
            rw [haor] at hgives ⊢
            rw [h.told, ← compatibleDevices_eq_part (hgenuine s _ (subject_external_iff.mpr hsub))]
            exact hall s hs sub cl devices hsub hcl (hmirrors.dialog.symm.trans hdialog) hgives
          · intro hall s hs sub cl devices hsub hcl hev hgives
            obtain ⟨feed, hfeed, hmirrors⟩ := h.feeds _ cl hcl
            have haor : feed.aor S = S.asStringUriOnly cl.mTo := congrArg _ hmirrors.watched
            have hdelivered := hall s _ feed devices
              ((h.watching hsound hgenuine).mpr ⟨hs, sub, cl, hsub, rfl, hcl, hfeed, hmirrors⟩)
              (hmirrors.dialog.trans hev) (by rw [haor]; exact hgives)
            rw [haor, h.told,
              ← compatibleDevices_eq_part (hgenuine s _ (subject_external_iff.mpr hsub))]
              at hdelivered
            exact hdelivered
  | subscribe chatRoom address => exact Iff.rfl
  | unsubscribe chatRoom address => exact Iff.rfl
  | unsubscribeAll => exact Iff.rfl
  | onSubscriptionStateChanged e state => exact Iff.rfl
  | onRecordFound s r => exact Iff.rfl
  | onContactRegistered s r uid => exact Iff.rfl

/-- **WHEN THE CHAT ROOMS ARE UP TO DATE.**  In every state of a run each chat
    room has been left with the compatible devices of each of its participants
    of other domains, as soon as the dialog in course has told something about
    the participant, exactly when every document announces the list that it
    gives, or the chat room has it already. -/
theorem rooms_up_to_date_iff (S : Sdk A R) (server : ConferenceServer) (ops : List (Op A R)) :
    (∀ pre, pre <+: ops → RoomsUpToDate S ((Handlers.machine S server).reach pre)
      ((Directories.machine S server).reach pre)) ↔
      (Handlers.machine S server).Along (AnnouncesAll S) System.init ops := by
  have hrooms : ∀ pre, RoomsUpToDate S ((Handlers.machine S server).reach pre)
      ((Directories.machine S server).reach pre) ↔
      UpToDate S server ((Directories.machine S server).reach pre) := by
    intro pre
    obtain ⟨hsound, hgenuine, hshows⟩ := shows_reach S server pre
    exact roomsUpToDate_iff hshows hsound hgenuine
  have hannounces : ∀ pre op, AnnouncesAll S ((Handlers.machine S server).reach pre) op ↔
      Delivers S server ((Directories.machine S server).reach pre) op := by
    intro pre op
    obtain ⟨hsound, hgenuine, hshows⟩ := shows_reach S server pre
    exact announcesAll_iff hshows hsound hgenuine op
  simp only [hrooms]
  rw [upToDate_iff, Machine.along_iff_forall_prefix, Machine.along_iff_forall_prefix]
  refine forall_congr' (fun pre => forall_congr' (fun op => imp_congr_right (fun _ => ?_)))
  exact (hannounces pre op).symm

end Runs

end Refinements
