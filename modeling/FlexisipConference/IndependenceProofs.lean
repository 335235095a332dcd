import FlexisipConference.SimilarityProofs

/-! # Participants are served independently

    A step of the participant, with its objects renamed, does on the other side
    what it does among all the others: the same subscriptions are found, the
    same clients joined, the same calls made.  With the steps of others, which
    keep the sides similar, this is the premise of the unwinding rule. -/

namespace Independence

open Sdks Reginfos Heaps Multimaps Machines Clients Dispatch QuietRun Events Subscriptions Handlers
open Invariants HandlerSteps Stores Fanout Silence Lifetime Notifies ClientSteps Calls
open Observations Similarities

variable {A R : Type}

/-! ## Names -/

theorem renamed_ne_subscribe {S : Sdk A R} {p : Participant} {sys : System A R} {op : Op A R}
    (hnot : ∀ chatRoom address, op ≠ .subscribe chatRoom address) (chatRoom : R) (address : A) :
    renamed S p sys op ≠ .subscribe chatRoom address := by
  intro heq
  cases op with
  | subscribe chatRoom' address' => exact hnot chatRoom' address' rfl
  | unsubscribe chatRoom' address' => cases heq
  | unsubscribeAll => cases heq
  | onNotifyReceived e body => cases heq
  | onSubscriptionStateChanged e state => cases heq
  | onRecordFound s r => cases heq
  | onContactRegistered s r uid => cases heq

/-- The entries of a participant in the store. -/
def entriesOf (S : Sdk A R) (p : Participant) (sys : System A R) :
    Multimap String SubscriptionId :=
  sys.mSubscriptions.filter (fun entry => participantOf S sys entry.2 = some p)

theorem nodup_entries {S : Sdk A R} {p : Participant} {sys : System A R} (h : Sound S sys) :
    (entriesOf S p sys).Nodup :=
  List.Nodup.filter _ (List.Nodup.of_map Prod.snd h.stored_nodup)

theorem mem_entriesOf {S : Sdk A R} {p : Participant} {sys : System A R}
    {entry : String × SubscriptionId} : entry ∈ entriesOf S p sys ↔
      entry ∈ sys.mSubscriptions ∧ participantOf S sys entry.2 = some p := by
  rw [entriesOf, List.mem_filter, decide_eq_true_iff]

/-- What a subscription makes of a callback does not depend on its client. -/
theorem callback_congr {S : Sdk A R} {sub sub' : ExternalRegistrationSubscription A R}
    (hbase : sub'.toRegistrationSubscription = sub.toRegistrationSubscription) :
    sub'.callback S = sub.callback S := by
  obtain ⟨base, c⟩ := sub
  obtain ⟨base', c'⟩ := sub'
  obtain rfl : base' = base := hbase
  funext cb
  cases cb <;> rfl

/-- What a client and a renamed one have in common. -/
theorem fields_of_seen {ρ : EventId → EventId} {cl cl' : Client A}
    (h : seen cl' = renameEvent ρ (seen cl)) : cl'.mTo = cl.mTo ∧
      cl'.mParticipantDevices = cl.mParticipantDevices ∧
      cl'.mSubscribeEvent = cl.mSubscribeEvent.map ρ := by
  obtain ⟨hto, hev, hdevices, -⟩ := Client.mk.inj h
  exact ⟨hto, hdevices, hev⟩

/-- Similar clients are similar after they are joined. -/
theorem seen_joined {ρ : EventId → EventId} {w w' : World A} {cl cl' : Client A}
    (h : seen cl' = renameEvent ρ (seen cl)) (hw : w'.events.next = ρ w.events.next)
    (s s' : SubscriptionId) :
    seen (joined w' s' cl') = renameEvent ρ (seen (joined w s cl)) := by
  obtain ⟨hto, hdevices, hev⟩ := fields_of_seen h
  simp only [seen, joined, renameEvent, hto, hdevices, hev, hw, Option.getD_map, Option.map_some]

variable [DecidableEq R]

/-! ## The operations, in terms of participants -/

/-- The store has an entry for a pair when a subscription in it is for the pair. -/
theorem find_iff_stored {S : Sdk A R} {sys : System A R} (h : Sound S sys) {chatRoom : R}
    {address : A} : sys.findSubscription S chatRoom address = true ↔
      ∃ s ∈ stored sys, participantOf S sys s = some (S.participant address) ∧
        sys.getChatRoom s = some chatRoom := by
  rw [findSubscription_iff]
  constructor
  · rintro ⟨entry, hin, hk, hroom⟩
    exact ⟨entry.2, mem_stored.mpr ⟨entry, hin, rfl⟩, (key_iff h hin).mp hk, hroom⟩
  · rintro ⟨s, hs, hp, hroom⟩
    obtain ⟨entry, hin, rfl⟩ := mem_stored.mp hs
    exact ⟨entry, hin, (key_iff h hin).mpr hp, hroom⟩

/-- An unsubscribe takes the subscription of its pair off the store. -/
theorem stored_unsubscribe {S : Sdk A R} {sys : System A R} (h : Sound S sys) {chatRoom : R}
    {address : A} {s : SubscriptionId} :
    s ∈ stored (sys.unsubscribe S chatRoom address) ↔ s ∈ stored sys ∧
      ¬ (participantOf S sys s = some (S.participant address) ∧
        sys.getChatRoom s = some chatRoom) := by
  rcases unsubscribe_cases h chatRoom address with ⟨hnone, hsame⟩ | ⟨entry, hin, hkey, hroom, hdrop⟩
  · rw [hsame]
    refine ⟨fun hs => ⟨hs, ?_⟩, And.left⟩
    rintro ⟨hp, hroom⟩
    obtain ⟨entry, hin, rfl⟩ := mem_stored.mp hs
    exact hnone entry hin ((key_iff h hin).mpr hp) hroom
  · have hnodup := (stored_perm_erase hin).nodup_iff.mp h.stored_nodup
    rw [hdrop, stored, mSubscriptions_dropEntry]
    constructor
    · intro hs
      have hold : s ∈ stored sys :=
        (stored_perm_erase hin).mem_iff.mpr (List.mem_cons_of_mem _ hs)
      refine ⟨hold, ?_⟩
      rintro ⟨hp, hroom'⟩
      obtain ⟨entry', hin', rfl⟩ := mem_stored.mp hold
      have heq := h.single entry hin entry' hin'
        (hkey.trans ((key_iff h hin').mpr hp).symm) (hroom.trans hroom'.symm)
      have hsame : entry.2 = entry'.2 := congrArg Prod.snd heq
      exact (List.nodup_cons.mp hnodup).1 (hsame ▸ hs)
    · rintro ⟨hold, hnot⟩
      rcases List.mem_cons.mp ((stored_perm_erase hin).mem_iff.mp hold) with rfl | hs
      · exact absurd ⟨(key_iff h hin).mp hkey, hroom⟩ hnot
      · exact hs

/-- The start of a subscription that replays a list. -/
theorem callsOn_start (q : SubscriptionId → Prop) [DecidablePred q] (room : R)
    {s : SubscriptionId} (hq : q s) {chatRoom : R} {call : ChatRoomCall A} :
    callsOn q room [.started s, .called s chatRoom call] =
      if chatRoom = room then [call] else [] := by
  show callsOn q room ([call].map (Handlers.Entry.called s chatRoom)) = _
  rw [callsOn_map]
  simp only [hq, and_true]

/-! ## The two sides -/

/-- Two sound states that are similar. -/
structure Paired (S : Sdk A R) (p : Participant) (sys alone : System A R) : Prop where
  sound : Sound S sys
  sound' : Sound S alone
  made : CallersMade sys
  made' : CallersMade alone
  similar : Similar S p sys alone

section Sides

variable {S : Sdk A R} {p : Participant} {sys alone : System A R}

/-- Both sides find the same subscriptions of the participant. -/
theorem find_similar (hpair : Paired S p sys alone) {chatRoom : R} {address : A}
    (hp : S.participant address = p) :
    alone.findSubscription S chatRoom address = sys.findSubscription S chatRoom address := by
  rw [Bool.eq_iff_iff, find_iff_stored hpair.sound, find_iff_stored hpair.sound', hp]
  constructor
  · rintro ⟨s', hs', -, hroom⟩
    obtain ⟨s, hs, howner, rfl⟩ := (hpair.similar.entries s').mp hs'
    exact ⟨s, hs, howner, by rw [← (hpair.similar.base howner).2, hroom]⟩
  · rintro ⟨s, hs, howner, hroom⟩
    obtain ⟨howner', hroom'⟩ := hpair.similar.base howner
    exact ⟨_, (hpair.similar.mem_iff howner).mpr hs, howner', by rw [hroom', hroom]⟩

/-- An event of the participant is the one of a client on one side when it is on
    the other. -/
theorem event_iff (hpair : Paired S p sys alone) {s : SubscriptionId} (hs : s ∈ stored sys)
    (hp : participantOf S sys s = some p) {v : Client A} (hv : clientSeenBy sys s = some v)
    {e : EventId} (he : eventOf S sys.world e = some p) :
    (renameEvent (eventRank S p sys.world) v).mSubscribeEvent =
        some (eventRank S p sys.world e) ↔ v.mSubscribeEvent = some e := by
  show v.mSubscribeEvent.map (eventRank S p sys.world) = _ ↔ _
  constructor
  · intro hmap
    obtain ⟨e', hev, heq⟩ := Option.map_eq_some_iff.mp hmap
    have he' := ((seen_by hpair.sound hs hp hv).2 e' hev).2
    rw [hev, eventRank_inj he' he heq]
  · intro hev
    rw [hev, Option.map_some]

/-- **An operation of the participant** does to a client on one side what the
    renamed one does to it on the other. -/
theorem effect_mine (server : ConferenceServer) (hpair : Paired S p sys alone) {op : Op A R}
    (hop : belongs S p sys op = true) {s : SubscriptionId} (hs : s ∈ stored sys)
    (hp : participantOf S sys s = some p) {v : Client A} (hv : clientSeenBy sys s = some v) :
    effect S server alone (renamed S p sys op) (renameEvent (eventRank S p sys.world) v) =
      renameEvent (eventRank S p sys.world) (effect S server sys op v) := by
  cases op with
  | subscribe chatRoom address =>
      show effect S server alone (.subscribe chatRoom address) _ = _
      rw [effect, effect, find_similar hpair (of_decide_eq_true hop), renameEvent_mTo]
      by_cases hjoins : sys.findSubscription S chatRoom address = false ∧
          S.getDomain address ∉ server.localDomains ∧
          S.asStringUriOnlyOrdered v.mTo = S.asStringUriOnlyOrdered address
      · rw [if_pos hjoins, if_pos hjoins, hpair.similar.events]
        cases hev : v.mSubscribeEvent <;> simp [renameEvent, hev]
      · rw [if_neg hjoins, if_neg hjoins]
  | unsubscribe chatRoom address => rfl
  | unsubscribeAll => rfl
  | onNotifyReceived e body =>
      cases body with
      | null => rfl
      | malformed => rfl
      | reginfo ri =>
          have hiff := event_iff hpair hs hp hv (of_decide_eq_true hop)
          rw [renamed, effect, effect]
          by_cases hev : v.mSubscribeEvent = some e
          · rw [if_pos hev, if_pos (hiff.mpr hev)]
            rfl
          · rw [if_neg hev, if_neg (fun heq => hev (hiff.mp heq))]
  | onSubscriptionStateChanged e state =>
      have hiff := event_iff hpair hs hp hv (of_decide_eq_true hop)
      rw [renamed, effect, effect]
      by_cases hends : v.mSubscribeEvent = some e ∧ (state = .terminated ∨ state = .error)
      · rw [if_pos hends, if_pos ⟨hiff.mpr hends.1, hends.2⟩]
        rfl
      · rw [if_neg hends, if_neg (fun hall => hends ⟨hiff.mp hall.1, hall.2⟩)]
  | onRecordFound s' r => rfl
  | onContactRegistered s' r uid => rfl

/-- The clients of the participant stay the same after one of its operations. -/
theorem client_mine (server : ConferenceServer) (hpair : Paired S p sys alone) {op : Op A R}
    (hop : belongs S p sys op = true) {s : SubscriptionId} (hs : s ∈ stored sys)
    (hp : participantOf S sys s = some p) (hs' : s ∈ stored (step S server sys op))
    (halone : subRank S p sys s ∈ stored (step S server alone (renamed S p sys op))) :
    clientSeenBy (step S server alone (renamed S p sys op)) (subRank S p sys s) =
      (clientSeenBy (step S server sys op) s).map
        (renameEvent (eventRank S p (step S server sys op).world)) := by
  rw [clientSeenBy_step server hpair.sound' _ ((hpair.similar.mem_iff hp).mpr hs) halone,
    hpair.similar.client s hs hp, clientSeenBy_step server hpair.sound op hs hs']
  cases hv : clientSeenBy sys s with
  | none => rfl
  | some v =>
      rw [Option.map_some, Option.map_some, Option.map_some, Option.map_some,
        effect_mine server hpair hop hs hp hv]
      refine congrArg some (renameEvent_congr (fun e he => ?_))
      -- the event is one that there was, or the new one
      have hle : e ≤ sys.world.events.next := by
        rcases effect_event S server sys op v he with hold | rfl
        · exact Nat.le_of_lt ((seen_by hpair.sound hs hp hv).2 e hold).1
        · exact Nat.le_refl _
      exact (eventRank_step server hpair.sound op p hle).symm

/-- An operation other than a subscribe makes no object. -/
theorem makes_nothing (S : Sdk A R) (server : ConferenceServer) {sys : System A R}
    (h : Sound S sys) {op : Op A R}
    (hnot : ∀ chatRoom address, op ≠ .subscribe chatRoom address) :
    (step S server sys op).subs.next = sys.subs.next ∧
      subject (step S server sys op) = subject sys ∧
      (step S server sys op).world.events.next = sys.world.events.next := by
  have hsubs : (step S server sys op).subs.next = sys.subs.next ∧
      subject (step S server sys op) = subject sys := by
    rcases subs_step S server h op with hsame | ⟨chatRoom, address, _, heq, -⟩
    · exact hsame
    · exact absurd heq (hnot chatRoom address)
  refine ⟨hsubs.1, hsubs.2, ?_⟩
  rcases events_step S server h op with hsame | ⟨chatRoom, address, _, _, heq, -⟩
  · exact hsame.1
  · exact absurd heq (hnot chatRoom address)

/-- An operation of the participant that makes no object keeps the sides similar
    if it takes the same entries off the stores and brings about the same
    calls. -/
theorem similar_kept (server : ConferenceServer) (hpair : Paired S p sys alone) (op : Op A R)
    (hop : belongs S p sys op = true)
    (hnot : ∀ chatRoom address, op ≠ .subscribe chatRoom address)
    (hentries : ∀ s ∈ stored sys, participantOf S sys s = some p →
      (subRank S p sys s ∈ stored (step S server alone (renamed S p sys op)) ↔
        s ∈ stored (step S server sys op)))
    {new new' : List (Handlers.Entry A R)} (hlog : (step S server sys op).log = sys.log ++ new)
    (hlog' : (step S server alone (renamed S p sys op)).log = alone.log ++ new')
    (hcalls : ∀ chatRoom, callsOn (fun s => participantOf S sys s = some p) chatRoom new =
      callsOn (fun s => participantOf S alone s = some p) chatRoom new') :
    Similar S p (step S server sys op) (step S server alone (renamed S p sys op)) := by
  obtain ⟨hnext, hsubject, hevents⟩ := makes_nothing S server hpair.sound hnot
  have hnot' : ∀ chatRoom address, renamed S p sys op ≠ .subscribe chatRoom address :=
    renamed_ne_subscribe hnot
  obtain ⟨hnext', hsubject', hevents'⟩ := makes_nothing S server hpair.sound' hnot'
  have howner : ∀ s, participantOf S (step S server sys op) s = participantOf S sys s :=
    fun s => by rw [participantOf, participantOf, hsubject]
  have howner' : ∀ s, participantOf S (step S server alone (renamed S p sys op)) s =
      participantOf S alone s := fun s => by rw [participantOf, participantOf, hsubject']
  have hrank : ∀ s, subRank S p (step S server sys op) s = subRank S p sys s :=
    fun s => count_congr (fun i _ => by rw [howner])
  have hback : ∀ {s}, s ∈ stored (step S server sys op) → s ∈ stored sys := fun {s} hs =>
    (onward_step S server hpair.sound op).entered s hs
      (hnext ▸ (sound_step S server sys op hpair.sound).lt_next hs)
  refine ⟨?_, ?_, ?_, ?_, ?_, ?_⟩
  · rw [hevents', hpair.similar.events, hevents,
      eventRank_step server hpair.sound op p (Nat.le_refl _)]
  · rw [hnext', hpair.similar.subs, hnext, hrank]
  · intro s hs
    rw [howner] at hs
    rw [hrank, hsubject', hsubject, hpair.similar.content s hs]
  · intro s'
    constructor
    · intro hs'
      have hold : s' ∈ stored alone :=
        (onward_step S server hpair.sound' (renamed S p sys op)).entered s' hs'
          (hnext' ▸ (sound_step S server alone _ hpair.sound').lt_next hs')
      obtain ⟨s, hs, hp, rfl⟩ := (hpair.similar.entries s').mp hold
      exact ⟨s, (hentries s hs hp).mp hs', by rw [howner, hp], hrank s⟩
    · rintro ⟨s, hs, hp, rfl⟩
      rw [howner] at hp
      rw [hrank]
      exact (hentries s (hback hs) hp).mpr hs
  · intro s hs hp
    rw [howner] at hp
    rw [hrank]
    exact client_mine server hpair hop (hback hs) hp hs ((hentries s (hback hs) hp).mpr hs)
  · intro chatRoom
    rw [callsFor_step server hpair.sound hpair.made op p chatRoom hlog,
      callsFor_step server hpair.sound' hpair.made' _ p chatRoom hlog', hpair.similar.calls]
    simp only [howner, howner', hcalls]

/-! ## The operations of the participant -/

/-- An unsubscribe of the participant finds the same pair in both. -/
theorem similar_unsubscribe (server : ConferenceServer) (hpair : Paired S p sys alone)
    {chatRoom : R} {address : A} (hp : S.participant address = p) :
    Similar S p (step S server sys (.unsubscribe chatRoom address))
      (step S server alone (.unsubscribe chatRoom address)) := by
  obtain ⟨new, hlog, hnone⟩ := log_unsubscribe hpair.sound chatRoom address
  obtain ⟨new', hlog', hnone'⟩ := log_unsubscribe hpair.sound' chatRoom address
  refine similar_kept server hpair (.unsubscribe chatRoom address) (decide_eq_true hp)
    (fun _ _ heq => by cases heq) (fun s hs howner => ?_) hlog hlog' (fun room => ?_)
  · obtain ⟨howner', hroom⟩ := hpair.similar.base howner
    show _ ∈ stored (alone.unsubscribe S chatRoom address) ↔
      s ∈ stored (sys.unsubscribe S chatRoom address)
    rw [stored_unsubscribe hpair.sound, stored_unsubscribe hpair.sound',
      hpair.similar.mem_iff howner, howner, howner', hroom]
  · rw [callsOn_eq_nil (fun s call hin => absurd hin (hnone s room call)),
      callsOn_eq_nil (fun s call hin => absurd hin (hnone' s room call))]

/-- `unsubscribeAll` takes everybody off in both. -/
theorem similar_unsubscribeAll (server : ConferenceServer) (hpair : Paired S p sys alone) :
    Similar S p (step S server sys .unsubscribeAll) (step S server alone .unsubscribeAll) := by
  obtain ⟨-, hempty, -⟩ := hpair.sound.unsubscribeAll
  obtain ⟨-, hempty', -⟩ := hpair.sound'.unsubscribeAll
  obtain ⟨new, hlog, hnone⟩ := log_unsubscribeAll hpair.sound
  obtain ⟨new', hlog', hnone'⟩ := log_unsubscribeAll hpair.sound'
  refine similar_kept server hpair .unsubscribeAll rfl (fun _ _ heq => by cases heq)
    (fun s _ _ => ?_) hlog hlog' (fun room => ?_)
  · show _ ∈ stored (alone.unsubscribeAll S) ↔ s ∈ stored (sys.unsubscribeAll S)
    rw [stored, stored, hempty, hempty']
    exact ⟨fun hin => absurd hin List.not_mem_nil, fun hin => absurd hin List.not_mem_nil⟩
  · rw [callsOn_eq_nil (fun s call hin => absurd hin (hnone s room call)),
      callsOn_eq_nil (fun s call hin => absurd hin (hnone' s room call))]

/-- A state change of an event of the participant ends the same event in both. -/
theorem similar_stateChanged (server : ConferenceServer) (hpair : Paired S p sys alone)
    {e : EventId} (he : eventOf S sys.world e = some p) (state : SubscriptionState) :
    Similar S p (step S server sys (.onSubscriptionStateChanged e state))
      (step S server alone (.onSubscriptionStateChanged (eventRank S p sys.world e) state)) :=
  similar_kept server hpair (.onSubscriptionStateChanged e state) (decide_eq_true he)
    (fun _ _ heq => by cases heq) (fun _ _ howner => hpair.similar.mem_iff howner)
    (List.append_nil _).symm (List.append_nil _).symm (fun _ => rfl)

/-- A message to an own subscription brings about the calls that the
    subscription makes of it. -/
theorem similar_tellOwn (server : ConferenceServer) (hpair : Paired S p sys alone)
    {s : SubscriptionId} (hp : participantOf S sys s = some p) {op : Op A R}
    {calls : OwnRegistrationSubscription A R → List (ChatRoomCall A)}
    (hop : belongs S p sys op = true)
    (hnot : ∀ chatRoom address, op ≠ .subscribe chatRoom address)
    (hstep : step S server sys op = sys.tellOwn s calls)
    (hstep' : step S server alone (renamed S p sys op) =
      alone.tellOwn (subRank S p sys s) calls) :
    Similar S p (step S server sys op) (step S server alone (renamed S p sys op)) := by
  have hentries : ∀ s' ∈ stored sys, participantOf S sys s' = some p →
      (subRank S p sys s' ∈ stored (step S server alone (renamed S p sys op)) ↔
        s' ∈ stored (step S server sys op)) := by
    intro s' hs' howner
    rw [hstep, hstep', (keeps_tellOwn alone _ calls).stored, (keeps_tellOwn sys s calls).stored]
    exact hpair.similar.mem_iff howner
  obtain ⟨sub, hsub⟩ := made_of_participantOf hp
  cases sub with
  | external sub =>
      obtain ⟨sub', hsub', -⟩ := hpair.similar.external hp hsub
      have hlog : (step S server sys op).log = sys.log ++ [] := by
        rw [hstep, System.tellOwn, hsub, List.append_nil]
      have hlog' : (step S server alone (renamed S p sys op)).log = alone.log ++ [] := by
        rw [hstep', System.tellOwn, hsub', List.append_nil]
      exact similar_kept server hpair op hop hnot hentries hlog hlog' (fun _ => rfl)
  | own sub =>
      have hsub' := hpair.similar.own hpair.sound hpair.sound' hp hsub
      have hlog : (step S server sys op).log =
          sys.log ++ (calls sub).map (.called s sub.mChatRoom) := by
        rw [hstep, System.tellOwn, hsub]
      have hlog' : (step S server alone (renamed S p sys op)).log =
          alone.log ++ (calls sub).map (.called (subRank S p sys s) sub.mChatRoom) := by
        rw [hstep', System.tellOwn, hsub']
      refine similar_kept server hpair op hop hnot hentries hlog hlog' (fun chatRoom => ?_)
      rw [callsOn_map, callsOn_map]
      simp only [hp, (hpair.similar.base hp).1]

/-- The calls of a NOTIFY on a chat room are made by the subscription for it that
    sees the event on its client. -/
theorem calls_seen {sys : System A R} (h : Sound S sys) {e : EventId} (ri : Reginfo)
    (q : SubscriptionId → Prop) [DecidablePred q] {s : SubscriptionId} (hs : s ∈ stored sys)
    (hq : q s) {sub : ExternalRegistrationSubscription A R}
    (hsub : sys.subs.get? s = some (.external sub)) {v : Client A}
    (hv : clientSeenBy sys s = some v) (hev : v.mSubscribeEvent = some e) :
    callsOn q sub.mChatRoom ((sys.world.onNotifyReceived S e (.reginfo ri)).2.flatMap
        (System.callsOf S sys.subs)) =
      (Reginfos.Client.onNotifyReceived S (S.asStringUriOnly v.mTo)
        v.mParticipantDevices ri).2.flatMap (sub.callback S) := by
  obtain ⟨c, cl, hpointer, hcl, rfl⟩ := clientSeenBy_eq_some_iff.mp hv
  have hclient : sub.mClient = c := Option.some.inj ((clientOf_external hsub).symm.trans hpointer)
  exact callsOn_notify h hcl hev ri q hs hsub hclient hq

/-- Without one there is no call on the chat room. -/
theorem calls_unseen {sys : System A R} (h : Sound S sys) {e : EventId} {body : NotifyBody}
    (q : SubscriptionId → Prop) [DecidablePred q] {chatRoom : R}
    (hnone : ∀ s ∈ stored sys, q s → sys.getChatRoom s = some chatRoom → ∀ v,
      clientSeenBy sys s = some v → v.mSubscribeEvent = some e → ∀ ri, body ≠ .reginfo ri) :
    callsOn q chatRoom ((sys.world.onNotifyReceived S e body).2.flatMap
      (System.callsOf S sys.subs)) = [] := by
  rcases notify_cases h.inv.rest e body with hsame | ⟨c, cl, ri, hcl, hev, rfl, -⟩
  · rw [hsame]
    rfl
  · refine callsOn_eq_nil (fun s call hin hq => ?_)
    obtain ⟨hs, hpointer, hroom⟩ := calls_notify h hcl hev hin
    exact hnone s hs hq hroom _ (clientSeenBy_of_get? hpointer hcl) hev ri rfl

/-- A NOTIFY on an event of the participant makes the same client do the same in
    both. -/
theorem similar_notify (server : ConferenceServer) (hpair : Paired S p sys alone) {e : EventId}
    (he : eventOf S sys.world e = some p) (body : NotifyBody) :
    Similar S p (step S server sys (.onNotifyReceived e body))
      (step S server alone (.onNotifyReceived (eventRank S p sys.world e) body)) := by
  refine similar_kept server hpair (.onNotifyReceived e body) (decide_eq_true he)
    (fun _ _ heq => by cases heq) (fun s hs howner => ?_) (log_onNotifyReceived S sys e body)
    (log_onNotifyReceived S alone (eventRank S p sys.world e) body) (fun chatRoom => ?_)
  · show _ ∈ stored (alone.onNotifyReceived S _ body) ↔ s ∈ stored (sys.onNotifyReceived S e body)
    rw [(keeps_onNotifyReceived S sys e body).stored,
      (keeps_onNotifyReceived S alone _ body).stored]
    exact hpair.similar.mem_iff howner
  · by_cases hsees : ∃ s ∈ stored sys, participantOf S sys s = some p ∧
        sys.getChatRoom s = some chatRoom ∧ ∃ v, clientSeenBy sys s = some v ∧
          v.mSubscribeEvent = some e ∧ ∃ ri, body = .reginfo ri
    · obtain ⟨s, hs, hp, hroom, v, hv, hev, ri, rfl⟩ := hsees
      obtain ⟨c, cl, hpointer, -⟩ := clientSeenBy_eq_some_iff.mp hv
      obtain ⟨sub, hsub, -⟩ := clientOf_eq_some_iff.mp hpointer
      obtain ⟨sub', hsub', hbase⟩ := hpair.similar.external hp hsub
      have hv' := hpair.similar.client s hs hp
      rw [hv, Option.map_some] at hv'
      rw [System.getChatRoom, hsub] at hroom
      obtain rfl : sub.mChatRoom = chatRoom := Option.some.inj hroom
      rw [calls_seen hpair.sound ri _ hs hp hsub hv hev,
        show sub.mChatRoom = sub'.mChatRoom from congrArg (·.mChatRoom) hbase.symm,
        calls_seen hpair.sound' ri _ ((hpair.similar.mem_iff hp).mpr hs)
          (hpair.similar.base hp).1 hsub' hv' ((event_iff hpair hs hp hv he).mpr hev),
        callback_congr hbase]
      rfl
    · rw [calls_unseen hpair.sound, calls_unseen hpair.sound']
      · intro s' hs' _ hroom v' hv' hev ri hbody
        obtain ⟨s, hs, hp, rfl⟩ := (hpair.similar.entries s').mp hs'
        rw [hpair.similar.client s hs hp] at hv'
        obtain ⟨v, hv, rfl⟩ := Option.map_eq_some_iff.mp hv'
        exact hsees ⟨s, hs, hp, by rw [← (hpair.similar.base hp).2, hroom], v, hv,
          (event_iff hpair hs hp hv he).mp hev, ri, hbody⟩
      · exact fun s hs hp hroom v hv hev ri hbody =>
          hsees ⟨s, hs, hp, hroom, v, hv, hev, ri, hbody⟩

/-- A subscribe of the participant that makes a subscription on both sides keeps
    them similar if the new ones are served alike. -/
theorem similar_added (server : ConferenceServer) (hpair : Paired S p sys alone) {chatRoom : R}
    {address : A} (hp : S.participant address = p) {made made' : Subscription A R}
    {sys' alone' : System A R} (hsys : step S server sys (.subscribe chatRoom address) = sys')
    (halone : step S server alone (.subscribe chatRoom address) = alone')
    (hadd : Added S sys sys' made) (hadd' : Added S alone alone' made')
    (hto : made.base.mParticipant = address)
    (hmade : anonymous (fixed made') = anonymous (fixed made))
    (hevents : alone'.world.events.next = eventRank S p sys'.world sys'.world.events.next)
    (hclient : clientSeenBy alone' alone.subs.next =
      (clientSeenBy sys' sys.subs.next).map (renameEvent (eventRank S p sys'.world)))
    {new new' : List (Handlers.Entry A R)} (hlog : sys'.log = sys.log ++ new)
    (hlog' : alone'.log = alone.log ++ new')
    (hcalls : ∀ room, callsOn (fun s => participantOf S sys' s = some p) room new =
      callsOn (fun s => participantOf S alone' s = some p) room new') :
    Similar S p sys' alone' := by
  subst hsys halone
  have hop : belongs S p sys (.subscribe chatRoom address) = true := decide_eq_true hp
  have hrank : ∀ {s}, s ≤ sys.subs.next →
      subRank S p (step S server sys (.subscribe chatRoom address)) s = subRank S p sys s :=
    fun hle => subRank_step server hpair.sound _ p hle
  have hnew := hrank (Nat.le_refl sys.subs.next)
  rw [← hpair.similar.subs] at hnew
  have howner := (subRank_added server hpair.sound p hadd).1
  rw [hto, hp] at howner
  refine ⟨hevents, ?_, ?_, ?_, ?_, ?_⟩
  · rw [hadd'.next, (subRank_added server hpair.sound p hadd).2, hto, if_pos hp,
      hpair.similar.subs]
  · intro s hs
    rcases participantOf_added server hpair.sound hadd hs with rfl | ⟨hlt, hs⟩
    · rw [hnew, hadd'.subject, if_pos rfl, hadd.subject, if_pos rfl, Option.map_some,
        Option.map_some, hmade]
    · rw [hrank (Nat.le_of_lt hlt), hadd'.subject, hadd.subject, if_neg (Nat.ne_of_lt hlt),
        if_neg (Nat.ne_of_lt (hpair.similar.rank_lt hs)), hpair.similar.content s hs]
  · intro s'
    rw [hadd'.mem_stored_iff, hpair.similar.entries]
    constructor
    · rintro (rfl | ⟨s, hs, hs', rfl⟩)
      · exact ⟨sys.subs.next, hadd.mem_stored_iff.mpr (Or.inl rfl), howner, hnew⟩
      · have hlt := hpair.sound.lt_next hs
        exact ⟨s, hadd.mem_stored_iff.mpr (Or.inr hs),
          by rw [participantOf_step server hpair.sound _ hlt, hs'], hrank (Nat.le_of_lt hlt)⟩
    · rintro ⟨s, hs, hs', rfl⟩
      rcases participantOf_added server hpair.sound hadd hs' with rfl | ⟨hlt, hs'⟩
      · exact Or.inl hnew
      · have hs₀ := (hadd.mem_stored_iff.mp hs).resolve_left (Nat.ne_of_lt hlt)
        exact Or.inr ⟨s, hs₀, hs', (hrank (Nat.le_of_lt hlt)).symm⟩
  · intro s hs hs'
    rcases participantOf_added server hpair.sound hadd hs' with rfl | ⟨hlt, hp'⟩
    · rw [hnew, hclient]
    · have hs₀ := (hadd.mem_stored_iff.mp hs).resolve_left (Nat.ne_of_lt hlt)
      rw [hrank (Nat.le_of_lt hlt)]
      exact client_mine server hpair hop hs₀ hp' hs
        (hadd'.mem_stored_iff.mpr (Or.inr ((hpair.similar.mem_iff hp').mpr hs₀)))
  · intro room
    rw [callsFor_step server hpair.sound hpair.made _ p room hlog,
      callsFor_step server hpair.sound' hpair.made' _ p room hlog', hpair.similar.calls, hcalls]

/-- The participant joins the same client on both sides. -/
theorem joined_similar {server : ConferenceServer} (hpair : Paired S p sys alone) {chatRoom : R}
    {address : A} (hp : S.participant address = p) {c c' : ClientId} {cl cl' : Client A}
    (hjoined : Joined S server sys chatRoom address c cl)
    (hjoined' : Joined S server alone chatRoom address c' cl') :
    seen cl' = renameEvent (eventRank S p sys.world) (seen cl) := by
  rcases joined_seen hpair.sound hjoined with ⟨s, hs, hv, hord⟩ | ⟨rfl, hnone⟩
  · -- the participant has a subscription that sees the client
    obtain ⟨c₀, cl₀, hpointer, hcl₀, heq⟩ := clientSeenBy_eq_some_iff.mp hv
    have hto : (seen cl₀).mTo = (seen cl).mTo := congrArg Client.mTo heq
    have howner : participantOf S sys s = some p := by
      rw [participantOf_served hpair.sound hs hpointer hcl₀, show cl₀.mTo = cl.mTo from hto,
        S.participant_of_ordered hord, hp]
    have hv' := hpair.similar.client s hs howner
    rw [hv, Option.map_some] at hv'
    rcases joined_seen hpair.sound' hjoined' with ⟨s', -, hother, hord'⟩ | ⟨-, hnone'⟩
    · exact clientSeenBy_inj hpair.sound' hother hv' (hord'.trans hord.symm)
    · exact absurd hord (hnone' _ (renameEvent _ (seen cl)) hv')
  · rcases joined_seen hpair.sound' hjoined' with ⟨s', hs', hother, hord'⟩ | ⟨rfl, -⟩
    · obtain ⟨s, hs, howner, rfl⟩ := (hpair.similar.entries s').mp hs'
      rw [hpair.similar.client s hs howner] at hother
      obtain ⟨v, hv, heq⟩ := Option.map_eq_some_iff.mp hother
      have hto : (renameEvent _ v).mTo = (seen cl').mTo := congrArg Client.mTo heq
      rw [← show v.mTo = cl'.mTo from hto] at hord'
      exact absurd hord' (hnone s v hv)
    · rfl

/-- The event that a joined client has is one that there was, or a new one. -/
theorem event_joined {server : ConferenceServer} {sys : System A R} (h : Sound S sys)
    {chatRoom : R} {address : A} {c : ClientId} {cl : Client A}
    (hjoined : Joined S server sys chatRoom address c cl) {s : SubscriptionId} {e : EventId}
    (he : (seen (joined sys.world s cl)).mSubscribeEvent = some e) :
    e ≤ sys.world.events.next := by
  have hgetD : cl.mSubscribeEvent.getD sys.world.events.next = e := Option.some.inj he
  cases hev : cl.mSubscribeEvent with
  | none =>
      rw [hev] at hgetD
      exact hgetD.ge
  | some e' =>
      rw [hev] at hgetD
      obtain rfl : e' = e := hgetD
      rcases hjoined.origin with ⟨hcl, -⟩ | ⟨-, rfl, -⟩
      · exact Nat.le_of_lt (h.inv.rest.linked.known c e' ⟨cl, hcl, hev⟩)
      · cases hev

/-- A subscribe of the own kind adds the same subscription in both. -/
theorem similar_subscribe_own (server : ConferenceServer) (hpair : Paired S p sys alone)
    {chatRoom : R} {address : A} (hp : S.participant address = p)
    (hfind : sys.findSubscription S chatRoom address = false)
    (hfind' : alone.findSubscription S chatRoom address = false)
    (hlocal : S.getDomain address ∈ server.localDomains) :
    Similar S p (step S server sys (.subscribe chatRoom address))
      (step S server alone (.subscribe chatRoom address)) := by
  have hadd : Added S sys (step S server sys (.subscribe chatRoom address)) _ :=
    added_own server hpair.sound hfind hlocal
  have hadd' : Added S alone (step S server alone (.subscribe chatRoom address)) _ :=
    added_own server hpair.sound' hfind' hlocal
  have hworld : (step S server sys (.subscribe chatRoom address)).world = sys.world :=
    world_subscribe_own S server hfind hlocal
  have hworld' : (step S server alone (.subscribe chatRoom address)).world = alone.world :=
    world_subscribe_own S server hfind' hlocal
  refine similar_added server hpair hp rfl rfl hadd hadd' rfl rfl ?_ ?_
    (log_subscribe_own S server hfind hlocal) (log_subscribe_own S server hfind' hlocal)
    (fun _ => rfl)
  · rw [hworld, hworld', hpair.similar.events]
  · rw [clientSeenBy, clientSeenBy, clientOf_added hadd, clientOf_added hadd']
    rfl

/-- One of the external kind joins the same client in both. -/
theorem similar_subscribe_external (server : ConferenceServer) (hpair : Paired S p sys alone)
    {chatRoom : R} {address : A} (hp : S.participant address = p)
    (hfind : sys.findSubscription S chatRoom address = false)
    (hfind' : alone.findSubscription S chatRoom address = false)
    (hlocal : S.getDomain address ∉ server.localDomains) :
    Similar S p (step S server sys (.subscribe chatRoom address))
      (step S server alone (.subscribe chatRoom address)) := by
  have hadd : Added S sys (step S server sys (.subscribe chatRoom address)) _ :=
    added_external server hpair.sound hfind hlocal
  have hadd' : Added S alone (step S server alone (.subscribe chatRoom address)) _ :=
    added_external server hpair.sound' hfind' hlocal
  obtain ⟨c, cl, hjoined⟩ := subscribe_joins server hpair.sound hfind hlocal
  obtain ⟨c', cl', hjoined'⟩ := subscribe_joins server hpair.sound' hfind' hlocal
  have hseen := joined_similar hpair hp hjoined hjoined'
  obtain ⟨hto, hdevices, hevent⟩ := fields_of_seen hseen
  have hisSome : cl'.mSubscribeEvent.isSome = cl.mSubscribeEvent.isSome := by
    rw [hevent, Option.isSome_map]
  have hevents : (step S server sys (.subscribe chatRoom address)).world.events = _ :=
    hjoined.events
  have hevents' : (step S server alone (.subscribe chatRoom address)).world.events = _ :=
    hjoined'.events
  have howner : participantOf S (step S server sys (.subscribe chatRoom address)) sys.subs.next =
      some p := (subRank_added server hpair.sound p hadd).1.trans (congrArg some hp)
  have howner' : participantOf S (step S server alone (.subscribe chatRoom address))
      alone.subs.next = some p :=
    (subRank_added server hpair.sound' p hadd').1.trans (congrArg some hp)
  refine similar_added server hpair hp rfl rfl hadd hadd' rfl rfl ?_ ?_ hjoined.log hjoined'.log
    (fun room => ?_)
  · rw [hisSome] at hevents'
    cases hev : cl.mSubscribeEvent with
    | some e =>
        simp only [hev, Option.isSome_some, if_true] at hevents hevents'
        rw [hevents, hevents', hpair.similar.events]
        exact (eventRank_step server hpair.sound _ p (Nat.le_refl _)).symm
    | none =>
        simp only [hev, Option.isSome_none, Bool.false_eq_true, if_false] at hevents hevents'
        rw [eventRank_opened server hpair.sound p hevents, hevents', Heap.next_alloc,
          hpair.similar.events, if_pos ((participant_joined hjoined).2.trans hp)]
  · have hclient : (step S server sys (.subscribe chatRoom address)).world.clients.get?
        (sys.acquireClient S address).2 = _ := hjoined.pointer ▸ hjoined.client
    have hclient' : (step S server alone (.subscribe chatRoom address)).world.clients.get?
        (alone.acquireClient S address).2 = _ := hjoined'.pointer ▸ hjoined'.client
    rw [clientSeenBy_of_get? (clientOf_added hadd) hclient,
      clientSeenBy_of_get? (clientOf_added hadd') hclient', Option.map_some,
      seen_joined hseen hpair.similar.events]
    refine congrArg some (renameEvent_congr (fun e he => ?_))
    exact (eventRank_step server hpair.sound _ p (event_joined hpair.sound hjoined he)).symm
  · rw [hisSome, hdevices]
    -- a replay, if the client has an event
    by_cases hopen : cl.mSubscribeEvent.isSome
    · rw [if_pos hopen, if_pos hopen,
        callsOn_start (fun s => participantOf S _ s = some p) room howner,
        callsOn_start (fun s => participantOf S _ s = some p) room howner']
      rfl
    · rw [if_neg hopen, if_neg hopen]
      rfl

theorem similar_subscribe (server : ConferenceServer) (hpair : Paired S p sys alone)
    {chatRoom : R} {address : A} (hp : S.participant address = p) :
    Similar S p (step S server sys (.subscribe chatRoom address))
      (step S server alone (.subscribe chatRoom address)) := by
  have hsame : alone.findSubscription S chatRoom address =
      sys.findSubscription S chatRoom address := find_similar hpair hp
  cases hfind : sys.findSubscription S chatRoom address with
  | true =>
      rw [hfind] at hsame
      show Similar S p (sys.subscribe S server chatRoom address)
        (alone.subscribe S server chatRoom address)
      rw [subscribe_found S server hfind, subscribe_found S server hsame]
      exact hpair.similar
  | false =>
      rw [hfind] at hsame
      by_cases hlocal : S.getDomain address ∈ server.localDomains
      · exact similar_subscribe_own server hpair hp hfind hsame hlocal
      · exact similar_subscribe_external server hpair hp hfind hsame hlocal

/-- **A step of the participant**, renamed, keeps the sides similar. -/
theorem similar_mine (server : ConferenceServer) (hpair : Paired S p sys alone) (op : Op A R)
    (hop : belongs S p sys op = true) :
    Similar S p (step S server sys op) (step S server alone (renamed S p sys op)) := by
  cases op with
  | subscribe chatRoom address =>
      exact similar_subscribe server hpair (of_decide_eq_true hop)
  | unsubscribe chatRoom address =>
      exact similar_unsubscribe server hpair (of_decide_eq_true hop)
  | unsubscribeAll => exact similar_unsubscribeAll server hpair
  | onNotifyReceived e body => exact similar_notify server hpair (of_decide_eq_true hop) body
  | onSubscriptionStateChanged e state =>
      exact similar_stateChanged server hpair (of_decide_eq_true hop) state
  | onRecordFound s r =>
      exact similar_tellOwn server hpair (of_decide_eq_true hop) hop
        (fun _ _ heq => by cases heq) rfl rfl
  | onContactRegistered s r uid =>
      exact similar_tellOwn server hpair (of_decide_eq_true hop) hop
        (fun _ _ heq => by cases heq) rfl rfl

/-! ## Runs -/

theorem paired_init (S : Sdk A R) (p : Participant) :
    Paired S p (System.init (A := A) (R := R)) System.init where
  sound := Sound.init S
  sound' := Sound.init S
  made := fun _ _ _ hin => absurd hin List.not_mem_nil
  made' := fun _ _ _ hin => absurd hin List.not_mem_nil
  similar := by
    refine ⟨rfl, rfl, fun s hs => absurd (lt_of_participantOf hs) (Nat.not_lt_zero s),
      fun s' => ?_, fun s hs => absurd hs List.not_mem_nil, fun _ => rfl⟩
    exact ⟨fun hs => absurd hs List.not_mem_nil,
      fun ⟨_, hs, _⟩ => absurd hs List.not_mem_nil⟩

/-- **The unwinding of a run**: without the steps of others, and with the names
    that objects have without theirs, it leads to a similar state. -/
theorem paired_reach (S : Sdk A R) (server : ConferenceServer) (p : Participant)
    (ops : List (Op A R)) :
    Paired S p ((machine S server).reach ops)
      ((machine S server).reach
        ((machine S server).purge (belongs S p) (renamed S p) System.init ops)) := by
  refine Machine.unwinding_run (M := machine S server) (N := machine S server)
    (R := Paired S p) (fun sys alone op hpair hop => ?_) (fun sys alone op hpair hop => ?_) ops
    System.init System.init (paired_init S p)
  · exact ⟨sound_step S server sys op hpair.sound, sound_step S server alone _ hpair.sound',
      hpair.made.step server hpair.sound op, hpair.made'.step server hpair.sound' _,
      similar_mine server hpair op hop⟩
  · exact ⟨sound_step S server sys op hpair.sound, hpair.sound',
      hpair.made.step server hpair.sound op, hpair.made',
      hpair.similar.others server hpair.sound hpair.made hop⟩

/-! ## What the participant gets -/

/-- `alone` serves the participant as `sys` does, with the subscriptions and the
    events of the participant renamed by `ρ` and `ε`. -/
structure ServedAlike (S : Sdk A R) (p : Participant) (ρ : SubscriptionId → SubscriptionId)
    (ε : EventId → EventId) (sys alone : System A R) : Prop where
  apart : ∀ s s', participantOf S sys s = some p → participantOf S sys s' = some p →
    ρ s = ρ s' → s = s'
  eventsApart : ∀ e e', eventOf S sys.world e = some p → eventOf S sys.world e' = some p →
    ε e = ε e' → e = e'
  calls : ∀ chatRoom, callsFor S p chatRoom alone = callsFor S p chatRoom sys
  entries : (entriesOf S p alone).Perm ((entriesOf S p sys).map (Prod.map id ρ))
  subscription : ∀ s, participantOf S sys s = some p →
    (subject alone (ρ s)).map anonymous = (subject sys s).map anonymous
  client : ∀ s ∈ stored sys, participantOf S sys s = some p →
    clientSeenBy alone (ρ s) = (clientSeenBy sys s).map (renameEvent ε)
  shared : ∀ s ∈ stored sys, ∀ s' ∈ stored sys, participantOf S sys s = some p →
    participantOf S sys s' = some p →
      (clientOf alone (ρ s) = clientOf alone (ρ s') ↔ clientOf sys s = clientOf sys s')

/-- The entries of a participant have one key, on both sides. -/
theorem key_similar (hpair : Paired S p sys alone) {entry entry' : String × SubscriptionId}
    (hin : entry ∈ sys.mSubscriptions) (hin' : entry' ∈ alone.mSubscriptions)
    (hp : participantOf S sys entry.2 = some p) (hp' : participantOf S alone entry'.2 = some p) :
    entry.1 = entry'.1 := by
  obtain ⟨sub, hsub, hkey⟩ := hpair.sound.keyed entry hin
  rw [participantOf, hsub, Option.map_some] at hp
  rw [hkey, (key_iff hpair.sound' hin').mpr (hp'.trans hp.symm)]

/-- The entries of the participant are the same, by their ranks. -/
theorem entries_similar (hpair : Paired S p sys alone) :
    (entriesOf S p alone).Perm ((entriesOf S p sys).map (Prod.map id (subRank S p sys))) := by
  have hnodup : ((entriesOf S p sys).map (Prod.map id (subRank S p sys))).Nodup := by
    refine List.Nodup.map_on (fun entry hin entry' hin' heq => ?_) (nodup_entries hpair.sound)
    obtain ⟨hkey, hrank⟩ := Prod.mk.inj heq
    exact Prod.ext hkey
      (subRank_inj (mem_entriesOf.mp hin).2 (mem_entriesOf.mp hin').2 hrank)
  refine (List.perm_ext_iff_of_nodup (nodup_entries hpair.sound') hnodup).mpr (fun entry' => ?_)
  rw [mem_entriesOf, List.mem_map]
  constructor
  · rintro ⟨hin', hp'⟩
    obtain ⟨s, hs, hp, hrank⟩ :=
      (hpair.similar.entries entry'.2).mp (mem_stored.mpr ⟨entry', hin', rfl⟩)
    obtain ⟨entry, hin, rfl⟩ := mem_stored.mp hs
    have hkey : entry.1 = entry'.1 := key_similar hpair hin hin' hp hp'
    exact ⟨entry, mem_entriesOf.mpr ⟨hin, hp⟩, Prod.ext hkey hrank⟩
  · rintro ⟨entry, hin, rfl⟩
    obtain ⟨hin, hp⟩ := mem_entriesOf.mp hin
    have hp' := (hpair.similar.base hp).1
    obtain ⟨entry', hin', hrank⟩ := mem_stored.mp
      ((hpair.similar.mem_iff hp).mpr (mem_stored.mpr ⟨entry, hin, rfl⟩))
    rw [← hrank] at hp'
    have hkey : entry.1 = entry'.1 := key_similar hpair hin hin' hp hp'
    rw [show Prod.map id (subRank S p sys) entry = entry' from Prod.ext hkey hrank.symm]
    exact ⟨hin', hp'⟩

/-- Two subscriptions of the participant share a client on one side when they do
    on the other. -/
theorem shared_similar (hpair : Paired S p sys alone) {s s' : SubscriptionId}
    (hs : s ∈ stored sys) (hs' : s' ∈ stored sys) (hp : participantOf S sys s = some p)
    (hp' : participantOf S sys s' = some p) :
    clientOf alone (subRank S p sys s) = clientOf alone (subRank S p sys s') ↔
      clientOf sys s = clientOf sys s' := by
  obtain ⟨sub, hsub⟩ := made_of_participantOf hp
  obtain ⟨sub', hsub'⟩ := made_of_participantOf hp'
  cases sub with
  | own sub =>
      have halone := hpair.similar.own hpair.sound hpair.sound' hp hsub
      rw [clientOf_own halone, clientOf_own hsub]
      cases sub' with
      | own sub' =>
          have halone' := hpair.similar.own hpair.sound hpair.sound' hp' hsub'
          rw [clientOf_own halone', clientOf_own hsub']
      | external sub' =>
          obtain ⟨ext', halone', -⟩ := hpair.similar.external hp' hsub'
          simp [clientOf_external halone', clientOf_external hsub']
  | external sub =>
      obtain ⟨ext, halone, hbase⟩ := hpair.similar.external hp hsub
      rw [clientOf_external halone, clientOf_external hsub]
      cases sub' with
      | own sub' =>
          have halone' := hpair.similar.own hpair.sound hpair.sound' hp' hsub'
          simp [clientOf_own halone', clientOf_own hsub']
      | external sub' =>
          obtain ⟨ext', halone', hbase'⟩ := hpair.similar.external hp' hsub'
          rw [clientOf_external halone', clientOf_external hsub', Option.some.injEq,
            Option.some.injEq, same_client_iff hpair.sound hs hs' hsub hsub',
            same_client_iff hpair.sound' ((hpair.similar.mem_iff hp).mpr hs)
              ((hpair.similar.mem_iff hp').mpr hs') halone halone',
            show ext.mParticipant = sub.mParticipant from congrArg (·.mParticipant) hbase,
            show ext'.mParticipant = sub'.mParticipant from congrArg (·.mParticipant) hbase']

end Sides

/-- **Participants are served independently.** In every run, the calls on behalf
    of a participant, its entries in the store and what they see of their clients
    are those of the run without the steps of others. -/
theorem participants_independent (S : Sdk A R) (server : ConferenceServer) (ops : List (Op A R))
    (p : Participant) :
    ServedAlike S p (subRank S p ((machine S server).reach ops))
      (eventRank S p ((machine S server).reach ops).world) ((machine S server).reach ops)
      ((machine S server).reach
        ((machine S server).purge (belongs S p) (renamed S p) System.init ops)) := by
  have hpair := paired_reach S server p ops
  exact ⟨fun _ _ => subRank_inj, fun _ _ => eventRank_inj,
    fun chatRoom => (hpair.similar.calls chatRoom).symm, entries_similar hpair,
    hpair.similar.content, hpair.similar.client,
    fun _ hs _ hs' hp hp' => shared_similar hpair hs hs' hp hp'⟩

end Independence
