import Mathlib.Data.List.Forall2
import FlexisipConference.DispatchProofs

/-! # What a NOTIFY means to a client

    The loop over the registrations passes over those of other AORs, so a
    document says to a client what the sublist of its own registrations says.
    With a single one that is not terminated, the contacts that carry specs give
    one identity each; an observer is called for the refreshed ones, in the
    order of the document, and then at most once with the whole list.

    The identity that a contact gives is specified without the loops
    (`IdentityOf`): its specs are the first parameter of that name, wherever it
    stands among the others. -/

namespace Notifies

open Sdks Reginfos Heaps Clients

variable {A R : Type}

/-! ## The registrations of other AORs -/

/-- A client reads the registrations of its AOR only. -/
theorem onNotifyReceived_congr (S : Sdk A R) {aor : String} {ri ri' : Reginfo}
    (h : matching aor ri = matching aor ri') (devices : List (ParticipantDeviceIdentity A)) :
    Reginfos.Client.onNotifyReceived S aor devices ri =
      Reginfos.Client.onNotifyReceived S aor devices ri' := by
  show registrationLoop S aor ri devices [] = registrationLoop S aor ri' devices []
  rw [registrationLoop_matching, h, ← registrationLoop_matching]

theorem matching_insert {aor : String} (pre : Reginfo) {others : Reginfo} (post : Reginfo)
    (h : ∀ registration ∈ others, registration.aor ≠ aor) :
    matching aor (pre ++ others ++ post) = matching aor (pre ++ post) := by
  have hnone : matching aor others = [] :=
    List.filter_eq_nil_iff.mpr (fun registration hin => by simpa using h registration hin)
  simp only [matching, List.filter_append] at *
  rw [hnone, List.append_nil]

/-- A document that is not about the AOR. -/
theorem onNotifyReceived_unmatched (S : Sdk A R) {aor : String} {ri : Reginfo}
    (h : matching aor ri = []) (devices : List (ParticipantDeviceIdentity A)) :
    Reginfos.Client.onNotifyReceived S aor devices ri = (devices, []) := by
  show registrationLoop S aor ri devices [] = _
  rw [registrationLoop_matching, h]
  rfl

/-! ## The identity of a contact -/

/-- The contact has at least one parameter that carries specs. -/
def hasSpecs (contact : Contact) : Bool :=
  contact.unknownParams.any (fun param => param.name = specsParam)

/-- The identity that a contact with specs stands for. -/
structure IdentityOf (S : Sdk A R) (contact : Contact)
    (identity : ParticipantDeviceIdentity A) : Prop where
  address : identity.address = S.createAddress contact.uri
  displayName : identity.displayName = contact.displayName.getD ""
  specs : ∃ pre value post, contact.unknownParams = pre ++ ⟨specsParam, value⟩ :: post ∧
    (∀ param ∈ pre, param.name ≠ specsParam) ∧
    identity.capabilityDescriptor = [S.unquote value]

theorem hasSpecs_eq (contact : Contact) : hasSpecs contact = contact.specs?.isSome := by
  rw [Bool.eq_iff_iff, hasSpecs, Contact.specs?, Option.isSome_map, List.find?_isSome,
    List.any_eq_true]

/-- The specs of a contact are the first parameter of that name. -/
theorem specs?_eq_some {contact : Contact} {value : String} (h : contact.specs? = some value) :
    ∃ pre post, contact.unknownParams = pre ++ ⟨specsParam, value⟩ :: post ∧
      ∀ param ∈ pre, param.name ≠ specsParam := by
  obtain ⟨⟨name, _⟩, hfind, rfl⟩ := Option.map_eq_some_iff.mp h
  obtain ⟨hname, pre, post, hsplit, hpre⟩ := List.find?_eq_some_iff_append.mp hfind
  obtain rfl : name = specsParam := of_decide_eq_true hname
  exact ⟨pre, post, hsplit, fun param hin => by simpa using hpre param hin⟩

/-- **Each contact with specs gives its identity**, in the order of the
    document. -/
theorem devicesOf_identities (S : Sdk A R) (contacts : List Contact) :
    List.Forall₂ (IdentityOf S) (contacts.filter hasSpecs) (devicesOf S contacts) := by
  induction contacts with
  | nil => exact List.Forall₂.nil
  | cons contact rest ih =>
      rw [devicesOf_cons]
      cases hspecs : contact.specs? with
      | none =>
          have hno : hasSpecs contact = false := by rw [hasSpecs_eq, hspecs]; rfl
          rw [List.filter_cons_of_neg (by simp [hno])]
          have hnil : devicesOf S [contact] = [] := by
            simp [devicesOf, Contact.identity?, hspecs]
          rw [hnil]
          exact ih
      | some value =>
          have hyes : hasSpecs contact = true := by rw [hasSpecs_eq, hspecs]; rfl
          rw [List.filter_cons_of_pos hyes]
          have hone : devicesOf S [contact] = [contact.identityWith S value] := by
            simp [devicesOf, Contact.identity?, hspecs]
          rw [hone]
          obtain ⟨pre, post, hsplit, hpre⟩ := specs?_eq_some hspecs
          exact List.Forall₂.cons ⟨rfl, rfl, pre, value, post, hsplit, hpre, rfl⟩ ih

/-- A contact stands for one identity only. -/
theorem IdentityOf.inj {S : Sdk A R} {contact : Contact}
    {identity identity' : ParticipantDeviceIdentity A} (h : IdentityOf S contact identity)
    (h' : IdentityOf S contact identity') : identity = identity' := by
  obtain ⟨pre, value, post, hsplit, hpre, hdescriptor⟩ := h.specs
  obtain ⟨pre', value', post', hsplit', hpre', hdescriptor'⟩ := h'.specs
  -- both values are found by the same search
  have hfind : ∀ {pre : List UnknownParam} {value : String} {post : List UnknownParam},
      contact.unknownParams = pre ++ ⟨specsParam, value⟩ :: post →
      (∀ param ∈ pre, param.name ≠ specsParam) →
      contact.unknownParams.find? (fun param => param.name = specsParam) =
        some ⟨specsParam, value⟩ := by
    intro pre value post hsplit hpre
    refine List.find?_eq_some_iff_append.mpr ⟨decide_eq_true rfl, pre, post, hsplit, ?_⟩
    exact fun param hin => by simpa using hpre param hin
  have hvalue : value = value' :=
    congrArg UnknownParam.value
      (Option.some.inj ((hfind hsplit hpre).symm.trans (hfind hsplit' hpre')))
  obtain ⟨address, displayName, descriptor⟩ := identity
  obtain ⟨address', displayName', descriptor'⟩ := identity'
  have haddress : address = address' := h.address.trans h'.address.symm
  have hname : displayName = displayName' := h.displayName.trans h'.displayName.symm
  have hcap : descriptor = descriptor' := by
    rw [show descriptor = _ from hdescriptor, show descriptor' = _ from hdescriptor', hvalue]
  rw [haddress, hname, hcap]

/-- The identities of a list of contacts are determined, one by one. -/
theorem identities_unique {S : Sdk A R} {contacts : List Contact}
    {devices devices' : List (ParticipantDeviceIdentity A)}
    (h : List.Forall₂ (IdentityOf S) contacts devices)
    (h' : List.Forall₂ (IdentityOf S) contacts devices') : devices = devices' := by
  induction h generalizing devices' with
  | nil => rw [List.forall₂_nil_left_iff.mp h']
  | cons hidentity _ ih =>
      obtain ⟨identity', rest', hidentity', hrest', rfl⟩ := List.forall₂_cons_left_iff.mp h'
      rw [hidentity.inj hidentity', ih hrest']

/-! ## The calls of a whole document -/

/-- The registrations of the AOR that the loop goes through: those before the
    first one that is terminated. -/
def visited (aor : String) (ri : Reginfo) : List Registration :=
  (matching aor ri).takeWhile (fun registration => registration.state ≠ .terminated)

/-- The calls that the loop makes for one registration. -/
def callbacks (S : Sdk A R) (registration : Registration) : List (ClientCallback A) :=
  (devicesOf S (refreshedContacts registration.contacts)).map .onRefreshed ++
    snapshot (contactLoop S registration.contacts)

/-- The identities that a call hands over. -/
def handed : ClientCallback A → List (ParticipantDeviceIdentity A)
  | .onNotifyReceived participantDevices => participantDevices
  | .onRefreshed participantDevice => [participantDevice]

/-- **The calls of a document**, registration by registration; a terminated one
    announces that there is no device. -/
theorem registrationLoop_callbacks (S : Sdk A R) (aor : String) :
    ∀ (ri : Reginfo) (devices : List (ParticipantDeviceIdentity A))
      (out : List (ClientCallback A)),
      (registrationLoop S aor ri devices out).2 = out ++ (visited aor ri).flatMap (callbacks S) ++
        if ∃ registration ∈ matching aor ri, registration.state = .terminated
          then [.onNotifyReceived []] else [] := by
  intro ri
  induction ri with
  | nil => intro devices out; simp [registrationLoop, visited, matching]
  | cons registration rest ih =>
      intro devices out
      by_cases haor : registration.aor = aor
      · have hm := matching_cons_of_eq haor rest
        by_cases hterm : registration.state = .terminated
        · simp [registrationLoop, haor, hterm, visited, hm]
        · have hv : visited aor (registration :: rest) = registration :: visited aor rest := by
            simp [visited, hm, hterm]
          rw [registrationLoop, if_neg (not_not_intro haor), if_neg hterm]
          simp only [ih, hv, hm, contactLoop_eq, callbacks, List.flatMap_cons, List.mem_cons,
            exists_eq_or_imp, hterm, false_or, List.append_assoc]
      · have hm := matching_cons_of_ne haor rest
        rw [registrationLoop, if_pos haor, ih]
        simp only [visited, hm]

/-- One registration hands over the identities of all its contacts with
    specs. -/
theorem mem_handed_callbacks {S : Sdk A R} {registration : Registration}
    {d : ParticipantDeviceIdentity A} :
    (∃ cb ∈ callbacks S registration, d ∈ handed cb) ↔ d ∈ devicesOf S registration.contacts := by
  have hsub : ∀ d ∈ devicesOf S (refreshedContacts registration.contacts),
      d ∈ devicesOf S registration.contacts :=
    fun d hd => ((List.filter_sublist (l := registration.contacts)).filterMap _).subset hd
  constructor
  · rintro ⟨cb, hcb, hd⟩
    rcases List.mem_append.mp hcb with hcb | hcb
    · obtain ⟨d', hd', rfl⟩ := List.mem_map.mp hcb
      obtain rfl := List.mem_singleton.mp hd
      exact hsub d hd'
    · rw [snapshot] at hcb
      split at hcb
      · obtain rfl := List.mem_singleton.mp hcb
        rw [contactLoop_eq] at hd
        exact hd
      · cases hcb
  · intro hd
    by_cases hun : HasUnrefreshed registration.contacts
    · refine ⟨.onNotifyReceived (devicesOf S registration.contacts),
        List.mem_append_right _ ?_, hd⟩
      rw [snapshot_contactLoop_of S hun]
      exact List.mem_singleton_self _
    · -- every contact with specs is refreshed, so this one is announced by itself
      obtain ⟨contact, hin, hidentity⟩ := List.mem_filterMap.mp hd
      obtain ⟨value, hspecs, rfl⟩ := Option.map_eq_some_iff.mp hidentity
      have hrefreshed : contact.event = .refreshed := by
        by_contra hne
        exact hun ⟨contact, hin, by rw [hspecs]; rfl, hne⟩
      refine ⟨.onRefreshed (contact.identityWith S value), List.mem_append_left _ ?_,
        List.mem_singleton_self _⟩
      refine List.mem_map_of_mem (List.mem_filterMap.mpr ⟨contact, ?_, hidentity⟩)
      exact List.mem_filter.mpr ⟨hin, decide_eq_true hrefreshed⟩

/-- **What a document hands over** to the observers: the identities of the
    contacts with specs of the registrations that the loop goes through. -/
theorem mem_handed_iff (S : Sdk A R) (aor : String) (devices : List (ParticipantDeviceIdentity A))
    (ri : Reginfo) (d : ParticipantDeviceIdentity A) :
    (∃ cb ∈ (Reginfos.Client.onNotifyReceived S aor devices ri).2, d ∈ handed cb) ↔
      ∃ registration ∈ visited aor ri, ∃ contact ∈ registration.contacts,
        contact.identity? S = some d := by
  rw [Reginfos.Client.onNotifyReceived, registrationLoop_callbacks, List.nil_append]
  constructor
  · rintro ⟨cb, hcb, hd⟩
    rcases List.mem_append.mp hcb with hcb | hcb
    · obtain ⟨registration, hr, hcb⟩ := List.mem_flatMap.mp hcb
      exact ⟨registration, hr, List.mem_filterMap.mp (mem_handed_callbacks.mp ⟨cb, hcb, hd⟩)⟩
    · -- the list of a terminated registration is empty
      split at hcb
      · obtain rfl := List.mem_singleton.mp hcb
        cases hd
      · cases hcb
  · rintro ⟨registration, hr, hcontact⟩
    obtain ⟨cb, hcb, hd⟩ := mem_handed_callbacks.mpr (List.mem_filterMap.mpr hcontact)
    exact ⟨cb, List.mem_append_left _ (List.mem_flatMap.mpr ⟨registration, hr, hcb⟩), hd⟩

/-- The list that is kept was handed over, unless the document is not about the
    AOR. -/
theorem handed_of_kept (S : Sdk A R) {aor : String} {ri : Reginfo} (hm : matching aor ri ≠ [])
    (devices : List (ParticipantDeviceIdentity A)) {d : ParticipantDeviceIdentity A}
    (hd : d ∈ (Reginfos.Client.onNotifyReceived S aor devices ri).1) :
    ∃ cb ∈ (Reginfos.Client.onNotifyReceived S aor devices ri).2, d ∈ handed cb := by
  rw [mem_handed_iff]
  rw [onNotifyReceived_devices, deviceList?] at hd
  split at hd
  · cases hd
  · rename_i hactive
    rw [List.getLast?_eq_some_getLast hm] at hd
    have hall : visited aor ri = matching aor ri :=
      List.takeWhile_eq_self_iff.mpr (fun registration hr =>
        decide_eq_true (fun hterm => hactive ⟨registration, hr, hterm⟩))
    refine ⟨(matching aor ri).getLast hm, ?_, List.mem_filterMap.mp hd⟩
    rw [hall]
    exact List.getLast_mem hm

/-! ## What one observer is told -/

/-- The calls that an observer gets, in order. -/
def callbacksTo (o : ListenerId) (out : List (Emission A)) : List (ClientCallback A) :=
  out.filterMap (fun em => if em.1 = o then some em.2 else none)

theorem callbacksTo_turn (o : ListenerId) (cb : ClientCallback A) (order : List ListenerId) :
    callbacksTo o (order.map (·, cb)) = List.replicate (order.count o) cb := by
  induction order with
  | nil => rfl
  | cons o' order ih =>
      rw [List.map_cons, callbacksTo, List.filterMap_cons]
      by_cases ho : o' = o
      · simp only [ho, if_true, List.count_cons_self, List.replicate_succ]
        exact congrArg (cb :: ·) ih
      · simp only [if_neg ho]
        rw [List.count_cons_of_ne ho]
        exact ih

/-- An observer gets every call as often as it is attached, in the order in
    which the client makes them. -/
theorem callbacksTo_flatMap (S : Sdk A R) (o : ListenerId) (observers : List ListenerId)
    (out : List (ClientCallback A)) :
    callbacksTo o (out.flatMap (fun cb => (S.notifyOrder observers).map (·, cb))) =
      out.flatMap (fun cb => List.replicate (observers.count o) cb) := by
  rw [callbacksTo, List.filterMap_flatMap]
  refine congrArg (List.flatMap · out) (funext fun cb => ?_)
  rw [← (S.notifyOrder_perm observers).count_eq o]
  exact callbacksTo_turn o cb _

/-- Writing what is there changes nothing. -/
theorem updateClient_same {w : World A} {c : ClientId} {cl : Client A}
    (hcl : w.clients.get? c = some cl) {f : Client A → Client A} (hf : f cl = cl) :
    w.updateClient c f = w := by
  rw [World.updateClient, Heap.modify_same hcl hf]

/-- **THE MEANING OF A NOTIFY.**  A client reads the registrations of its AOR
    only, so those of other AORs can be put in, taken out or moved anywhere; a
    document without one changes nothing.  A single one that is not terminated
    gives an identity for each contact with specs; each observer, as often as it
    is attached, is told the refreshed ones, in order, and then, exactly if some
    contact with specs is not refreshed, the whole list, which the client
    keeps. -/
theorem notify_meaning (S : Sdk A R) (w : World A) (e : EventId) (c : ClientId) (cl : Client A)
    (hd : w.dispatch e = some c) (hcl : w.clients.get? c = some cl) :
    let aor := S.asStringUriOnly cl.mTo
    let notify := fun ri => w.onNotifyReceived S e (.reginfo ri)
    (∀ ri ri', matching aor ri = matching aor ri' → notify ri = notify ri') ∧
    (∀ pre others post, (∀ registration ∈ others, registration.aor ≠ aor) →
      notify (pre ++ others ++ post) = notify (pre ++ post)) ∧
    (∀ ri, matching aor ri = [] → notify ri = (w, [])) ∧
    (∀ ri registration, matching aor ri = [registration] → registration.state ≠ .terminated →
      ∃ devices refreshed,
        List.Forall₂ (IdentityOf S) (registration.contacts.filter hasSpecs) devices ∧
        List.Forall₂ (IdentityOf S) ((registration.contacts.filter hasSpecs).filter
          (fun contact => contact.event = .refreshed)) refreshed ∧
        (notify ri).1 =
          w.updateClient c (fun cl => { cl with mParticipantDevices := devices }) ∧
        ∀ o, callbacksTo o (notify ri).2 =
          (refreshed.map ClientCallback.onRefreshed ++
            if ∃ contact ∈ registration.contacts, hasSpecs contact = true ∧
                contact.event ≠ ContactEvent.refreshed
              then [ClientCallback.onNotifyReceived devices] else []).flatMap
                (fun cb => List.replicate (cl.observers.count o) cb)) := by
  intro aor notify
  have hcongr : ∀ ri ri', matching aor ri = matching aor ri' → notify ri = notify ri' := by
    intro ri ri' hm
    simp only [notify]
    rw [notify_dispatched S hd hcl, notify_dispatched S hd hcl, onNotifyReceived_congr S hm]
  refine ⟨hcongr, fun pre others post hothers => hcongr _ _ (matching_insert pre post hothers),
    fun ri hm => ?_, fun ri registration hm hactive => ?_⟩
  · simp only [notify]
    rw [notify_dispatched S hd hcl, onNotifyReceived_unmatched S hm, updateClient_same hcl rfl]
    rfl
  · have hcalls := onNotifyReceived_single S hm cl.mParticipantDevices
    rw [if_neg hactive, Registration.devices, if_neg hactive] at hcalls
    refine ⟨devicesOf S registration.contacts,
      devicesOf S (refreshedContacts registration.contacts), devicesOf_identities S _, ?_, ?_,
      fun o => ?_⟩
    · rw [List.filter_comm]
      exact devicesOf_identities S (refreshedContacts registration.contacts)
    · simp only [notify]
      rw [notify_dispatched S hd hcl, hcalls]
    · have hiff : HasUnrefreshed registration.contacts ↔ ∃ contact ∈ registration.contacts,
          hasSpecs contact = true ∧ contact.event ≠ .refreshed := by
        simp only [HasUnrefreshed, hasSpecs_eq]
      simp only [notify]
      rw [notify_dispatched S hd hcl, hcalls, callbacksTo_flatMap]
      by_cases hun : HasUnrefreshed registration.contacts
      · rw [snapshot_contactLoop_of S hun, if_pos (hiff.mp hun)]
      · rw [snapshot_contactLoop_not S hun, if_neg (fun h => hun (hiff.mpr h))]

/-- A client with two observers, subscribed. -/
def sampleWorld : World String :=
  ((Dispatch.machine stringSdk).reach [.create "sip:alice@external.example.org",
    .addObserver 0 7, .addObserver 0 8, .subscribe 0 7, .ret]).world

/-- A refreshed phone with two specs parameters behind another one, a tablet,
    and a contact without specs. -/
def sampleContacts : List Contact :=
  [⟨"sip:alice@external.example.org;gr=phone", none,
      [⟨"q", "1"⟩, ⟨specsParam, "\"groupchat/1.2\""⟩, ⟨specsParam, "lime"⟩], .refreshed, .active⟩,
    ⟨"sip:alice@external.example.org;gr=desk", none, [⟨"q", "1"⟩], .created, .active⟩,
    ⟨"sip:alice@external.example.org;gr=tablet", none, [⟨specsParam, "lime"⟩], .created, .active⟩]

/-- `notify_meaning` at work: what is around the registration, a terminated one
    included, does not matter. -/
theorem notify_meaning_among_others :
    callbacksTo 8 (sampleWorld.onNotifyReceived stringSdk 0
        (.reginfo [⟨"sip:bob@external.example.org", .terminated, []⟩,
          ⟨"sip:alice@external.example.org", .active, sampleContacts⟩,
          ⟨"sip:bob@external.example.org", .active, sampleContacts⟩])).2 =
      [.onRefreshed ⟨some "sip:alice@external.example.org;gr=phone", "", ["groupchat/1.2"]⟩,
        .onNotifyReceived
          [⟨some "sip:alice@external.example.org;gr=phone", "", ["groupchat/1.2"]⟩,
            ⟨some "sip:alice@external.example.org;gr=tablet", "", ["lime"]⟩]] := by
  obtain ⟨-, -, -, hsingle⟩ := notify_meaning stringSdk sampleWorld 0 0
    ⟨"sip:alice@external.example.org", some 0, [], [7, 8]⟩ (by decide) (by decide)
  obtain ⟨devices, refreshed, hdevices, hrefreshed, -, hcalls⟩ := hsingle
    [⟨"sip:bob@external.example.org", .terminated, []⟩,
      ⟨"sip:alice@external.example.org", .active, sampleContacts⟩,
      ⟨"sip:bob@external.example.org", .active, sampleContacts⟩]
    ⟨"sip:alice@external.example.org", .active, sampleContacts⟩ (by decide) (by decide)
  obtain rfl := identities_unique hdevices (devicesOf_identities stringSdk sampleContacts)
  rw [List.filter_comm] at hrefreshed
  obtain rfl := identities_unique hrefreshed
    (devicesOf_identities stringSdk (refreshedContacts sampleContacts))
  exact (hcalls 8).trans (by decide)

end Notifies
