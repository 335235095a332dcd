import Mathlib.Data.List.Induction
import FlexisipConference.NotifyProofs
import FlexisipConference.ReplayProofs

/-! # Terminated contacts

    A contact of a reginfo document has a state of its own, active or
    terminated, and a registration stays active while one of its contacts is.
    `Client::onNotifyReceived` reads the state of the registration only, so a
    terminated contact that carries specs is a device like the others: it is
    passed to the observers, and kept for those that subscribe later.

    `none_terminated_iff` says exactly which runs of the dispatch machine, with
    any number of clients and re-entrant callbacks, hand over no device whose
    contact the latest document has in state terminated. -/

namespace ContactStates

open Sdks Reginfos Notifies Heaps Machines Clients Dispatch Replay

variable {A R : Type}

/-- A contact of the AOR that stands for the device is in state terminated. -/
def IsTerminated (S : Sdk A R) (aor : String) (ri : Reginfo) (d : ParticipantDeviceIdentity A) :
    Prop :=
  ∃ registration ∈ matching aor ri, ∃ contact ∈ registration.contacts,
    contact.state = .terminated ∧ contact.identity? S = some d

/-- The latest document for the AOR that was processed on this event. -/
def latestDocument (aor : String) (e : EventId) (log : List (Entry A)) : Option Reginfo :=
  ((log.filterMap (processedOn e)).filter (fun ri => matching aor ri ≠ [])).getLast?

/-- What the act hands over has no terminated contact: in the document that a
    NOTIFY brings, or, for a list that is replayed, in the latest one. -/
def NoneTerminated (S : Sdk A R) (m : State A) : Act A → Prop
  | .onNotifyReceived e (.reginfo ri) => ∀ c cl, m.world.dispatch e = some c →
      m.world.clients.get? c = some cl →
      ∀ cb ∈ (Reginfos.Client.onNotifyReceived S (S.asStringUriOnly cl.mTo)
        cl.mParticipantDevices ri).2,
        ∀ d ∈ handed cb, ¬ IsTerminated S (S.asStringUriOnly cl.mTo) ri d
  | .subscribe c listener => ∀ cl e ri, m.world.clients.get? c = some cl →
      cl.mSubscribeEvent = some e →
      latestDocument (S.asStringUriOnly cl.mTo) e m.log = some ri →
      ∀ em ∈ (m.world.beginSubscribe c listener).2.1,
        ∀ d ∈ handed em.2, ¬ IsTerminated S (S.asStringUriOnly cl.mTo) ri d
  | _ => True

/-- The contacts with specs that the loop goes through are active, and none of
    them has the URI, the display name and the specs of a terminated contact of
    the AOR. -/
def AllActive (S : Sdk A R) (aor : String) (ri : Reginfo) : Prop :=
  ∀ registration ∈ visited aor ri, ∀ contact ∈ registration.contacts, hasSpecs contact = true →
    contact.state = .active ∧
    ∀ registration' ∈ matching aor ri, ∀ contact' ∈ registration'.contacts,
      contact'.state = .terminated → contact'.identity? S ≠ contact.identity? S

/-- When the act is a NOTIFY that a client processes, its document meets
    `AllActive`. -/
def ActiveContacts (S : Sdk A R) (m : State A) : Act A → Prop
  | .onNotifyReceived e (.reginfo ri) => ∀ c cl, m.world.dispatch e = some c →
      m.world.clients.get? c = some cl → AllActive S (S.asStringUriOnly cl.mTo) ri
  | _ => True

/-! ## One document -/

/-- **What a document hands over** has no terminated contact exactly when the
    contacts are as `AllActive` says. -/
theorem allActive_iff (S : Sdk A R) (aor : String) (devices : List (ParticipantDeviceIdentity A))
    (ri : Reginfo) :
    AllActive S aor ri ↔ ∀ cb ∈ (Reginfos.Client.onNotifyReceived S aor devices ri).2,
      ∀ d ∈ handed cb, ¬ IsTerminated S aor ri d := by
  constructor
  · rintro hactive cb hcb d hd ⟨registration', hr', contact', hin', hterm, hidentity'⟩
    obtain ⟨registration, hr, contact, hin, hidentity⟩ :=
      (mem_handed_iff S aor devices ri d).mp ⟨cb, hcb, hd⟩
    have hspecs : hasSpecs contact = true := by
      obtain ⟨value, hvalue, -⟩ := Option.map_eq_some_iff.mp hidentity
      rw [hasSpecs_eq, hvalue]
      rfl
    exact (hactive registration hr contact hin hspecs).2 registration' hr' contact' hin' hterm
      (hidentity'.trans hidentity.symm)
  · intro hnone registration hr contact hin hspecs
    rw [hasSpecs_eq] at hspecs
    obtain ⟨value, hvalue⟩ := Option.isSome_iff_exists.mp hspecs
    have hidentity : contact.identity? S = some (contact.identityWith S value) := by
      rw [Contact.identity?, hvalue]
      rfl
    obtain ⟨cb, hcb, hd⟩ :=
      (mem_handed_iff S aor devices ri _).mpr ⟨registration, hr, contact, hin, hidentity⟩
    have htwin : ∀ registration' ∈ matching aor ri, ∀ contact' ∈ registration'.contacts,
        contact'.state = .terminated → contact'.identity? S ≠ contact.identity? S :=
      fun registration' hr' contact' hin' hterm heq => hnone cb hcb _ hd
        ⟨registration', hr', contact', hin', hterm, heq.trans hidentity⟩
    refine ⟨?_, htwin⟩
    -- the contact itself is one of the AOR
    have hmatching : registration ∈ matching aor ri := (List.takeWhile_sublist _).subset hr
    cases hstate : contact.state with
    | active => rfl
    | terminated => exact absurd rfl (htwin registration hmatching contact hin hstate)

/-- The device list that a document gives to the AOR was handed over. -/
theorem not_isTerminated_of_deviceList? {S : Sdk A R} {aor : String} {ri : Reginfo}
    (hactive : AllActive S aor ri) {devices : List (ParticipantDeviceIdentity A)}
    (hlist : deviceList? S aor ri = some devices) :
    ∀ d ∈ devices, ¬ IsTerminated S aor ri d := by
  intro d hd
  have hm : matching aor ri ≠ [] := by
    intro hnil
    rw [(deviceList?_eq_none_iff S aor ri).mpr hnil] at hlist
    cases hlist
  have hkept : d ∈ (Reginfos.Client.onNotifyReceived S aor [] ri).1 := by
    rw [onNotifyReceived_devices, hlist]
    exact hd
  obtain ⟨cb, hcb, hd⟩ := handed_of_kept S hm [] hkept
  exact (allActive_iff S aor [] ri).mp hactive cb hcb d hd

/-- The latest list of an event is the one of the latest document. -/
theorem latestList_eq (S : Sdk A R) (aor : String) (e : EventId) (log : List (Entry A)) :
    latestList S aor e log = (latestDocument aor e log).bind (deviceList? S aor) := by
  rw [latestList, notifiedLists, latestDocument]
  induction log.filterMap (processedOn e) using List.reverseRecOn with
  | nil => rfl
  | append_singleton ris ri ih =>
      rw [List.filterMap_append, List.filter_append]
      by_cases hm : matching aor ri = []
      · have hnone := (deviceList?_eq_none_iff S aor ri).mpr hm
        simp [hm, hnone, ih]
      · obtain ⟨devices, hdevices⟩ := Option.ne_none_iff_exists'.mp
          (mt (deviceList?_eq_none_iff S aor ri).mp hm)
        simp [hm, hdevices]

/-! ## The clients over a run -/

/-- Writing a client so that its event is kept or cleared. -/
theorem current_updateClient {w : World A} {c₀ c : ClientId} {f : Client A → Client A}
    {cl' : Client A} {e : EventId} (hget : (w.updateClient c₀ f).clients.get? c = some cl')
    (hcur : cl'.mSubscribeEvent = some e)
    (hf : ∀ cl, (f cl).mSubscribeEvent = some e →
      cl.mSubscribeEvent = some e ∧ cl.mTo = (f cl).mTo) :
    ∃ cl, w.clients.get? c = some cl ∧ cl.mSubscribeEvent = some e ∧ cl.mTo = cl'.mTo := by
  rw [World.updateClient, Heap.get?_modify] at hget
  split at hget
  · obtain ⟨cl, hcl, rfl⟩ := Option.map_eq_some_iff.mp hget
    exact ⟨cl, hcl, hf cl hcur⟩
  · exact ⟨cl', hget, hcur, rfl⟩

/-- A client that opens an event gets a new one. -/
theorem current_beginSubscribe {w : World A} {c₀ c : ClientId} {listener : ListenerId}
    {cl₀ cl' : Client A} {e : EventId} (hcl₀ : w.clients.get? c₀ = some cl₀)
    (hget : (w.beginSubscribe c₀ listener).1.clients.get? c = some cl')
    (hcur : cl'.mSubscribeEvent = some e) :
    e = w.events.next ∨ ∃ cl, w.clients.get? c = some cl ∧
      cl.mSubscribeEvent = some e ∧ cl.mTo = cl'.mTo := by
  cases hev : cl₀.mSubscribeEvent with
  | some e₀ =>
      have hreplay : (w.beginSubscribe c₀ listener).1 = w := by
        simp [World.beginSubscribe, hcl₀, hev]
      rw [hreplay] at hget
      exact Or.inr ⟨cl', hget, hcur, rfl⟩
  | none =>
      have hopen : (w.beginSubscribe c₀ listener).1.clients =
          w.clients.modify c₀ (fun cl => { cl with mSubscribeEvent := some w.events.next }) := by
        simp [World.beginSubscribe, hcl₀, hev]
      rw [hopen, Heap.get?_modify] at hget
      split at hget
      · obtain ⟨cl, -, rfl⟩ := Option.map_eq_some_iff.mp hget
        exact Or.inl (Option.some.inj hcur).symm
      · exact Or.inr ⟨cl', hget, hcur, rfl⟩

/-- A NOTIFY changes neither the events nor the addresses of the clients. -/
theorem current_onNotifyReceived (S : Sdk A R) {m : State A} (h : Consistent m) {e₀ e : EventId}
    {body : NotifyBody} {c : ClientId} {cl' : Client A}
    (hget : (m.world.onNotifyReceived S e₀ body).1.clients.get? c = some cl')
    (hcur : cl'.mSubscribeEvent = some e) :
    ∃ cl, m.world.clients.get? c = some cl ∧ cl.mSubscribeEvent = some e ∧
      cl.mTo = cl'.mTo := by
  cases hd : m.world.dispatch e₀ with
  | none =>
      have hignored : (m.world.onNotifyReceived S e₀ body).1 = m.world := by
        simp [World.onNotifyReceived, hd]
      rw [hignored] at hget
      exact ⟨cl', hget, hcur, rfl⟩
  | some c₀ =>
      obtain ⟨-, cl₀, hcl₀, -⟩ := h.linked.dispatch hd
      have hcaught : (∀ ri, body ≠ .reginfo ri) →
          (m.world.onNotifyReceived S e₀ body).1 = m.world := by
        intro hnot
        cases body with
        | null => simp [World.onNotifyReceived, hd, hcl₀]
        | malformed => simp [World.onNotifyReceived, hd, hcl₀]
        | reginfo ri => exact absurd rfl (hnot ri)
      by_cases hri : ∃ ri, body = .reginfo ri
      · obtain ⟨ri, rfl⟩ := hri
        rw [notify_dispatched S hd hcl₀] at hget
        exact current_updateClient hget hcur (fun cl hev => ⟨hev, rfl⟩)
      · rw [hcaught (fun ri heq => hri ⟨ri, heq⟩)] at hget
        exact ⟨cl', hget, hcur, rfl⟩

/-- **Step lemma**: a client that has an event had it before, at the same
    address, or the event is a new one. -/
theorem current_step (S : Sdk A R) {m : State A} (h : Consistent m) (act : Act A) {c : ClientId}
    {cl' : Client A} {e : EventId} (hget : (step S m act).world.clients.get? c = some cl')
    (hcur : cl'.mSubscribeEvent = some e) :
    e = m.world.events.next ∨ ∃ cl, m.world.clients.get? c = some cl ∧
      cl.mSubscribeEvent = some e ∧ cl.mTo = cl'.mTo := by
  have hsame : ∀ {w : World A}, w.clients = m.world.clients → w.clients.get? c = some cl' →
      e = m.world.events.next ∨ ∃ cl, m.world.clients.get? c = some cl ∧
        cl.mSubscribeEvent = some e ∧ cl.mTo = cl'.mTo := by
    intro w hw hget
    rw [hw] at hget
    exact Or.inr ⟨cl', hget, hcur, rfl⟩
  cases act with
  | create address =>
      change (m.world.clients.alloc _).get? c = some cl' at hget
      rw [Heap.get?_alloc] at hget
      split at hget
      · obtain rfl := Option.some.inj hget
        cases hcur
      · exact hsame rfl hget
  | addObserver c₀ o =>
      simp only [step] at hget
      split at hget
      · exact Or.inr (current_updateClient hget hcur (fun cl hev => ⟨hev, rfl⟩))
      · exact hsame rfl hget
  | removeObserver c₀ o =>
      simp only [step] at hget
      split at hget
      · exact Or.inr (current_updateClient hget hcur (fun cl hev => ⟨hev, rfl⟩))
      · exact hsame rfl hget
  | subscribe c₀ listener =>
      simp only [step] at hget
      split at hget
      · rename_i ha
        obtain ⟨cl₀, hcl₀⟩ := State.alive_iff.mp ha
        change (m.world.beginSubscribe c₀ listener).1.clients.get? c = some cl' at hget
        exact current_beginSubscribe hcl₀ hget hcur
      · exact hsame rfl hget
  | unsubscribe c₀ =>
      simp only [step] at hget
      split at hget
      · rename_i hr
        obtain ⟨⟨cl₀, hcl₀⟩, -⟩ := State.ready_iff.mp hr
        have hclients : (m.world.beginUnsubscribe c₀).1.clients = m.world.clients := by
          cases hev : cl₀.mSubscribeEvent <;>
            simp [World.beginUnsubscribe, hcl₀, hev, World.terminate]
        exact hsame hclients hget
      · exact hsame rfl hget
  | destroy c₀ =>
      simp only [step] at hget
      split at hget
      · rename_i hr
        obtain ⟨⟨cl₀, hcl₀⟩, -⟩ := State.ready_iff.mp hr
        have hfree : (m.world.beginDestroy c₀).1.clients = m.world.clients.free c₀ := by
          cases hev : cl₀.mSubscribeEvent <;>
            simp [World.beginDestroy, hcl₀, hev, World.unregisterClient, World.terminate]
        change (m.world.beginDestroy c₀).1.clients.get? c = some cl' at hget
        rw [hfree, Heap.get?_free] at hget
        split at hget
        · cases hget
        · exact hsame rfl hget
      · exact hsame rfl hget
  | onSubscriptionStateChanged e₀ state =>
      refine hsame ?_ hget
      show (m.world.beginStateChanged e₀ state).1.clients = _
      rw [World.beginStateChanged]
      cases hd : m.world.dispatch e₀ with
      | none => rfl
      | some c₀ =>
          obtain ⟨-, cl₀, hcl₀, hev⟩ := h.linked.dispatch hd
          cases state <;> simp [hcl₀, World.beginClientStateChanged, hev, World.terminate]
  | onNotifyReceived e₀ body =>
      change (m.world.onNotifyReceived S e₀ body).1.clients.get? c = some cl' at hget
      exact Or.inr (current_onNotifyReceived S h hget hcur)
  | ret =>
      simp only [step] at hget
      cases hstack : m.stack with
      | nil =>
          simp only [hstack] at hget
          exact hsame rfl hget
      | cons p rest =>
          simp only [hstack] at hget
          cases p with
          | subscribe c₀ e₀ => exact hsame rfl hget
          | destructor c₀ e₀ => exact hsame rfl hget
          | unsubscribe c₀ e₀ =>
              exact Or.inr (current_updateClient hget hcur (fun cl hev => by cases hev))
          | onSubscriptionStateChanged c₀ e₀ =>
              exact Or.inr (current_updateClient hget hcur (fun cl hev => by cases hev))

/-- A document in the history was there before, or has just come with a NOTIFY
    that a client processes. -/
theorem processed_step (S : Sdk A R) (m : State A) (act : Act A) {e : EventId} {ri : Reginfo}
    (hin : Entry.processed e ri ∈ (step S m act).log) :
    .processed e ri ∈ m.log ∨
      (act = .onNotifyReceived e (.reginfo ri) ∧ ∃ c, m.world.dispatch e = some c) := by
  have hcalled : ∀ out : List (Emission A), Entry.processed e ri ∉ calledEntries out := by
    simp [calledEntries]
  cases act with
  | subscribe c listener =>
      simp only [step] at hin
      split at hin
      · rcases List.mem_append.mp hin with hold | hnew
        · exact Or.inl hold
        · exact absurd hnew (hcalled _)
      · exact Or.inl hin
  | onNotifyReceived e₀ body =>
      rcases List.mem_append.mp hin with hin | hnew
      · rcases List.mem_append.mp hin with hold | hnew
        · exact Or.inl hold
        · cases body with
          | null => cases hnew
          | malformed => cases hnew
          | reginfo ri₀ =>
              simp only [processedEntry] at hnew
              split at hnew
              · rename_i hd
                obtain ⟨rfl, rfl⟩ := Entry.processed.inj (List.mem_singleton.mp hnew)
                exact Or.inr ⟨rfl, Option.isSome_iff_exists.mp hd⟩
              · cases hnew
      · exact absurd hnew (hcalled _)
  | create address => exact Or.inl hin
  | addObserver c o =>
      simp only [step] at hin
      split at hin <;> exact Or.inl hin
  | removeObserver c o =>
      simp only [step] at hin
      split at hin <;> exact Or.inl hin
  | unsubscribe c =>
      simp only [step] at hin
      split at hin <;> exact Or.inl hin
  | destroy c =>
      simp only [step] at hin
      split at hin <;> exact Or.inl hin
  | onSubscriptionStateChanged e₀ state => exact Or.inl hin
  | ret =>
      simp only [step] at hin
      split at hin <;> exact Or.inl hin

/-- The documents processed on the event of a client meet `AllActive`. -/
def Checked (S : Sdk A R) (m : State A) : Prop :=
  ∀ c cl e ri, m.world.clients.get? c = some cl → cl.mSubscribeEvent = some e →
    .processed e ri ∈ m.log → AllActive S (S.asStringUriOnly cl.mTo) ri

/-- An act with active contacts keeps the documents so. -/
theorem checked_step (S : Sdk A R) {m : State A} {act : Act A} (h : Sound S m)
    (hchecked : Checked S m) (hactive : ActiveContacts S m act) : Checked S (step S m act) := by
  intro c cl' e ri hget hcur hin
  rcases processed_step S m act hin with hold | ⟨rfl, c₀, hd⟩
  · rcases current_step S h.1 act hget hcur with rfl | ⟨cl, hcl, hev, hto⟩
    · -- no document was processed on an event that is new
      exact absurd (h.2.fresh _ ri hold) (Nat.lt_irrefl _)
    · rw [← hto]
      exact hchecked c cl e ri hcl hev hold
  · obtain ⟨hcar, cl₀, hcl₀, hcur₀⟩ := h.1.linked.dispatch hd
    rcases current_step S h.1 _ hget hcur with rfl | ⟨cl, hcl, hev, hto⟩
    · exact absurd hcar.lt_next (Nat.lt_irrefl _)
    · obtain rfl := h.1.linked.exclusive hcar ⟨cl, hcl, hev⟩
      rw [← hto]
      exact hactive c cl hd hcl

/-- **One act** hands over no terminated contact exactly when the contacts of
    its document are active. -/
theorem activeContacts_iff (S : Sdk A R) (m : State A) (act : Act A) (h : Sound S m)
    (hchecked : Checked S m) : ActiveContacts S m act ↔ NoneTerminated S m act := by
  cases act with
  | onNotifyReceived e body =>
      cases body with
      | null => exact Iff.rfl
      | malformed => exact Iff.rfl
      | reginfo ri =>
          refine forall_congr' fun c => forall_congr' fun cl => imp_congr_right fun _ =>
            imp_congr_right fun _ => ?_
          exact allActive_iff S _ cl.mParticipantDevices ri
  | subscribe c listener =>
      refine iff_of_true trivial (fun cl e ri hcl hev hlatest em hem => ?_)
      -- the list that is replayed is that of the latest document
      obtain rfl : em = (listener, .onNotifyReceived cl.mParticipantDevices) := by
        simpa [World.beginSubscribe, hcl, hev] using hem
      obtain ⟨hin, hmatch⟩ := List.mem_filter.mp (List.mem_of_getLast? hlatest)
      obtain ⟨devices, hdevices⟩ := Option.ne_none_iff_exists'.mp
        (mt (deviceList?_eq_none_iff S (S.asStringUriOnly cl.mTo) ri).mp (of_decide_eq_true hmatch))
      have hkept : cl.mParticipantDevices = devices := by
        refine h.2.latest c cl e devices hcl hev ?_
        rw [latestList_eq, hlatest]
        exact hdevices
      have hprocessed : Entry.processed e ri ∈ m.log := by
        obtain ⟨entry, hentry, hdoc⟩ := List.mem_filterMap.mp hin
        cases entry with
        | called o cb => cases hdoc
        | processed e' ri' =>
            simp only [processedOn] at hdoc
            split at hdoc
            · rename_i he
              obtain rfl := Option.some.inj hdoc
              rw [← he]
              exact hentry
            · cases hdoc
      show ∀ d ∈ cl.mParticipantDevices, _
      rw [hkept]
      exact not_isTerminated_of_deviceList? (hchecked c cl e ri hcl hev hprocessed) hdevices
  | _ => exact Iff.rfl

/-- **WHICH RUNS HAND OVER NO TERMINATED CONTACT**, to the observers of a NOTIFY or
    to a later subscriber: exactly those in which the documents that clients
    process have active contacts only, as far as the contacts carry specs and
    are gone through. -/
theorem none_terminated_iff (S : Sdk A R) (acts : List (Act A)) :
    (machine S).Along (NoneTerminated S) (machine S).init acts ↔
      (machine S).Along (ActiveContacts S) (machine S).init acts := by
  have hinit : Checked S ((machine S).init : State A) := by
    intro c cl e ri hcl
    cases hcl
  exact (Machine.along_iff_of_keeps (M := machine S) (I := fun m => Sound S m ∧ Checked S m)
    (fun m act hI => activeContacts_iff S m act hI.1 hI.2)
    (fun m act hI hP => ⟨sound_step S m act hI.1, checked_step S hI.1 hI.2 hP⟩)
    acts (machine S).init ⟨sound_init S, hinit⟩).symm

/-- An active phone and a tablet that has unregistered. -/
def mixedContacts : List Contact :=
  [⟨"sip:alice@external.example.org;gr=phone", none, [⟨specsParam, "lime"⟩], .registered, .active⟩,
    ⟨"sip:alice@external.example.org;gr=tablet", none, [⟨specsParam, "lime"⟩], .unregistered,
      .terminated⟩]

/-- A device that has unregistered is passed to the observer of a NOTIFY, and to
    the listener that subscribes after it. -/
theorem unregistered_device_handed_over :
    let acts : List (Act String) := [.create "sip:alice@external.example.org", .addObserver 0 7,
      .subscribe 0 7, .ret, .onNotifyReceived 0 (.reginfo
        [⟨"sip:alice@external.example.org", .active, mixedContacts⟩]), .subscribe 0 8]
    let devices : List (ParticipantDeviceIdentity String) :=
      [⟨some "sip:alice@external.example.org;gr=phone", "", ["lime"]⟩,
        ⟨some "sip:alice@external.example.org;gr=tablet", "", ["lime"]⟩]
    ((machine stringSdk).reach acts).log.filterMap (DeviceView.received 7) = [devices] ∧
    ((machine stringSdk).reach acts).log.filterMap (DeviceView.received 8) = [devices] ∧
    ¬ (machine stringSdk).Along (NoneTerminated stringSdk) (machine stringSdk).init acts := by
  intro acts devices
  refine ⟨by decide, by decide, ?_⟩
  rintro ⟨-, -, -, -, hnotify, -⟩
  refine hnotify 0 ⟨"sip:alice@external.example.org", some 0, [], [7]⟩ rfl rfl
    (.onNotifyReceived devices) (by decide)
    ⟨some "sip:alice@external.example.org;gr=tablet", "", ["lime"]⟩ (by decide) ?_
  exact ⟨⟨"sip:alice@external.example.org", .active, mixedContacts⟩, by decide,
    ⟨"sip:alice@external.example.org;gr=tablet", none, [⟨specsParam, "lime"⟩], .unregistered,
      .terminated⟩, by decide, rfl, by decide⟩

end ContactStates
