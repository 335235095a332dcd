import FlexisipConference.DispatchProofs
import FlexisipConference.DeviceViewProofs

/-! # The list that `subscribe()` replays

    A listener that subscribes to a client with an open subscription is given
    `mParticipantDevices` on the spot.  The list is the one of the latest NOTIFY
    on the current subscription event, provided there was one: before the first
    NOTIFY on an event it is whatever was left there, nothing for a new client,
    the devices of the previous subscription after an `unsubscribe()`.

    `replay_truthful_iff` says this for every run of the machine, with any
    number of clients and re-entrant callbacks. -/

namespace Replay

open Sdks Reginfos Heaps Machines Clients Dispatch

variable {A R : Type}

/-- The document, if the entry is about this event. -/
def processedOn (e : EventId) : Entry A → Option Reginfo
  | .processed e' ri => if e' = e then some ri else none
  | .called _ _ => none

/-- The device lists that the NOTIFYs processed on this event gave to the AOR,
    in order. -/
def notifiedLists (S : Sdk A R) (aor : String) (e : EventId) (log : List (Entry A)) :
    List (List (ParticipantDeviceIdentity A)) :=
  (log.filterMap (processedOn e)).filterMap (deviceList? S aor)

/-- The device list of the latest NOTIFY for the AOR processed on this
    event. -/
def latestList (S : Sdk A R) (aor : String) (e : EventId) (log : List (Entry A)) :
    Option (List (ParticipantDeviceIdentity A)) :=
  (notifiedLists S aor e log).getLast?

/-- When the act is a `subscribe` that replays a list, the list is the one of
    the latest NOTIFY for the client's AOR on its current event. -/
def Truthful (S : Sdk A R) (m : State A) : Act A → Prop
  | .subscribe c listener => ∀ devices,
      (step S m (.subscribe c listener)).log =
        m.log ++ [.called listener (.onNotifyReceived devices)] →
      ∃ cl e, m.world.clients.get? c = some cl ∧ cl.mSubscribeEvent = some e ∧
        latestList S (S.asStringUriOnly cl.mTo) e m.log = some devices
  | _ => True

/-- When the act is a `subscribe` on a client with an open subscription, some
    NOTIFY with a registration of its AOR was already processed on the event. -/
def AfterFirstNotify (S : Sdk A R) (m : State A) : Act A → Prop
  | .subscribe c _ => ∀ cl e, m.world.clients.get? c = some cl →
      cl.mSubscribeEvent = some e →
      ∃ ri, .processed e ri ∈ m.log ∧ matching (S.asStringUriOnly cl.mTo) ri ≠ []
  | _ => True

/-! ## The latest list of an event -/

theorem deviceList?_eq_none_iff (S : Sdk A R) (aor : String) (ri : Reginfo) :
    deviceList? S aor ri = none ↔ matching aor ri = [] := by
  rw [deviceList?]
  split
  · rename_i h
    obtain ⟨r, hr, -⟩ := h
    simp [List.ne_nil_of_mem hr]
  · simp

/-- There is no latest list while no document processed on the event had a
    registration of the AOR. -/
theorem latestList_eq_none_iff (S : Sdk A R) (aor : String) (e : EventId)
    (log : List (Entry A)) :
    latestList S aor e log = none ↔
      ∀ ri, .processed e ri ∈ log → matching aor ri = [] := by
  rw [latestList, notifiedLists, List.getLast?_eq_none_iff, List.filterMap_eq_nil_iff]
  constructor
  · intro h ri hri
    refine (deviceList?_eq_none_iff S aor ri).mp (h ri ?_)
    exact List.mem_filterMap.mpr ⟨_, hri, by simp [processedOn]⟩
  · intro h ri hri
    obtain ⟨entry, hentry, hdoc⟩ := List.mem_filterMap.mp hri
    cases entry with
    | called listener callback => cases hdoc
    | processed e' ri' =>
        simp only [processedOn] at hdoc
        split at hdoc
        · rename_i he
          obtain rfl := Option.some.inj hdoc
          rw [he] at hentry
          exact (deviceList?_eq_none_iff S aor ri').mpr (h ri' hentry)
        · cases hdoc

/-- Calls on listeners are no NOTIFYs. -/
theorem latestList_called (S : Sdk A R) (aor : String) (e : EventId) (log : List (Entry A))
    (out : List (Emission A)) :
    latestList S aor e (log ++ calledEntries out) = latestList S aor e log := by
  have hnil : (calledEntries out).filterMap (processedOn e) = [] := by
    simp [calledEntries, List.filterMap_eq_nil_iff, processedOn]
  rw [latestList, notifiedLists, List.filterMap_append, hnil, List.append_nil]
  rfl

/-- A document on the event gives the list anew, if it is about the AOR. -/
theorem latestList_processed (S : Sdk A R) (aor : String) (e e' : EventId)
    (log : List (Entry A)) (ri : Reginfo) :
    latestList S aor e (log ++ [.processed e' ri]) =
      if e' = e then (deviceList? S aor ri).or (latestList S aor e log)
      else latestList S aor e log := by
  simp only [latestList, notifiedLists]
  rw [List.filterMap_append, List.filterMap_append]
  by_cases he : e' = e
  · subst he
    cases hd : deviceList? S aor ri <;> simp [processedOn, hd]
  · simp [processedOn, he]

/-! ## The invariant -/

/-- A client with an open subscription keeps the list of the latest NOTIFY on
    it, and NOTIFYs were processed on events that exist. -/
structure Remembers (S : Sdk A R) (w : World A) (log : List (Entry A)) : Prop where
  latest : ∀ c cl e devices, w.clients.get? c = some cl → cl.mSubscribeEvent = some e →
    latestList S (S.asStringUriOnly cl.mTo) e log = some devices →
    cl.mParticipantDevices = devices
  fresh : ∀ e ri, .processed e ri ∈ log → e < w.events.next

/-- Nothing changes for the clients that still have an open subscription. -/
theorem Remembers.mono {S : Sdk A R} {w w' : World A} {log : List (Entry A)}
    (h : Remembers S w log)
    (hcl : ∀ c cl' e, w'.clients.get? c = some cl' → cl'.mSubscribeEvent = some e →
      ∃ cl, w.clients.get? c = some cl ∧ cl.mSubscribeEvent = some e ∧ cl.mTo = cl'.mTo ∧
        cl.mParticipantDevices = cl'.mParticipantDevices)
    (hnext : w.events.next ≤ w'.events.next) : Remembers S w' log := by
  refine ⟨?_, fun e ri hri => Nat.lt_of_lt_of_le (h.fresh e ri hri) hnext⟩
  intro c cl' e devices hget hcur hlist
  obtain ⟨cl, hget₀, hcur₀, hto, hdev⟩ := hcl c cl' e hget hcur
  rw [← hdev]
  exact h.latest c cl e devices hget₀ hcur₀ (by rw [hto]; exact hlist)

theorem Remembers.called {S : Sdk A R} {w : World A} {log : List (Entry A)}
    (h : Remembers S w log) (out : List (Emission A)) :
    Remembers S w (log ++ calledEntries out) := by
  refine ⟨?_, ?_⟩
  · intro c cl e devices hget hcur hlist
    rw [latestList_called] at hlist
    exact h.latest c cl e devices hget hcur hlist
  · intro e ri hri
    rcases List.mem_append.mp hri with hold | hnew
    · exact h.fresh e ri hold
    · simp [calledEntries] at hnew

/-- Writing a client, where `mSubscribeEvent` is kept or cleared. -/
theorem Remembers.updateClient {S : Sdk A R} {w : World A} {log : List (Entry A)}
    (h : Remembers S w log) (c : ClientId) {f : Client A → Client A}
    (hf : ∀ cl e, (f cl).mSubscribeEvent = some e → cl.mSubscribeEvent = some e ∧
      cl.mTo = (f cl).mTo ∧ cl.mParticipantDevices = (f cl).mParticipantDevices) :
    Remembers S (w.updateClient c f) log := by
  refine h.mono ?_ (Nat.le_refl _)
  intro c' cl' e hget hcur
  rw [World.updateClient, Heap.get?_modify] at hget
  split at hget
  · obtain ⟨cl, hcl, rfl⟩ := Option.map_eq_some_iff.mp hget
    exact ⟨cl, hcl, hf cl e hcur⟩
  · exact ⟨cl', hget, hcur, rfl, rfl⟩

theorem Remembers.terminate {S : Sdk A R} {w : World A} {log : List (Entry A)}
    (h : Remembers S w log) (e : EventId) : Remembers S (w.terminate e) log :=
  h.mono (fun _ cl' _ hget hcur => ⟨cl', hget, hcur, rfl, rfl⟩)
    (by simp [World.terminate])

theorem Remembers.create {S : Sdk A R} {w : World A} {log : List (Entry A)}
    (h : Remembers S w log) (address : A) : Remembers S (w.create address) log := by
  refine h.mono ?_ (Nat.le_refl _)
  intro c cl' e hget hcur
  simp only [World.create, World.registerClient, Heap.get?_alloc] at hget
  split at hget
  · obtain rfl := Option.some.inj hget
    cases hcur
  · exact ⟨cl', hget, hcur, rfl, rfl⟩

/-- A destroyed client remembers nothing. -/
theorem Remembers.destroy {S : Sdk A R} {w : World A} {log : List (Entry A)}
    (h : Remembers S w log) (c : ClientId) : Remembers S (w.beginDestroy c).1 log := by
  cases hcl : w.clients.get? c with
  | none =>
      simp only [World.beginDestroy, hcl]
      exact ⟨h.latest, h.fresh⟩
  | some cl =>
      have hfree : Remembers S
          (World.unregisterClient { w with clients := w.clients.free c }) log := by
        refine h.mono ?_ (Nat.le_refl _)
        intro c' cl' e hget hcur
        simp only [World.unregisterClient, Heap.get?_free] at hget
        split at hget
        · cases hget
        · exact ⟨cl', hget, hcur, rfl, rfl⟩
      cases hev : cl.mSubscribeEvent with
      | none => simpa [World.beginDestroy, hcl, hev] using hfree
      | some e => simpa [World.beginDestroy, hcl, hev] using hfree.terminate e

/-- A subscription that is opened has no NOTIFY yet. -/
theorem Remembers.opened {S : Sdk A R} {w : World A} {log : List (Entry A)}
    (h : Remembers S w log) (c : ClientId) (cl : Client A) :
    Remembers S (opened w c cl) log := by
  have hnone : ∀ aor, latestList S aor w.events.next log = none := by
    intro aor
    refine (latestList_eq_none_iff S aor _ log).mpr ?_
    intro ri hri
    exact absurd (h.fresh _ ri hri) (Nat.lt_irrefl _)
  refine ⟨?_, ?_⟩
  · intro c' cl' e devices hget hcur hlist
    simp only [Dispatch.opened, Heap.get?_modify] at hget
    split at hget
    · obtain ⟨cl₀, -, rfl⟩ := Option.map_eq_some_iff.mp hget
      obtain rfl := Option.some.inj hcur
      rw [hnone] at hlist
      cases hlist
    · exact h.latest c' cl' e devices hget hcur hlist
  · intro e ri hri
    simp only [Dispatch.opened, Heap.next_alloc]
    exact Nat.lt_succ_of_lt (h.fresh e ri hri)

/-- **A NOTIFY**: the client it is dispatched to remembers its list; no other
    client has this event. -/
theorem remembers_notify (S : Sdk A R) {m : State A} (hc : Consistent m)
    (h : Remembers S m.world m.log) (e : EventId) (body : NotifyBody) :
    Remembers S (step S m (.onNotifyReceived e body)).world
      (step S m (.onNotifyReceived e body)).log := by
  have hnone : ∀ w', w' = m.world → processedEntry m.world e body = [] →
      Remembers S w' (m.log ++ processedEntry m.world e body ++ calledEntries []) := by
    intro w' hw hp
    rw [hw, hp]
    simpa [calledEntries] using h
  simp only [step, World.onNotifyReceived]
  cases hd : m.world.dispatch e with
  | none => exact hnone _ rfl (by cases body <;> simp [processedEntry, hd])
  | some c =>
      obtain ⟨hcar, cl, hcl, hcur⟩ := hc.linked.dispatch hd
      simp only [hcl]
      cases body with
      | null => exact hnone _ rfl rfl
      | malformed => exact hnone _ rfl rfl
      | reginfo ri =>
          refine Remembers.called ?_ _
          simp only [processedEntry, hd, Option.isSome_some, if_true]
          refine ⟨?_, ?_⟩
          · intro c' cl' e' devices hget hcur' hlist
            rw [latestList_processed] at hlist
            rw [World.updateClient, Heap.get?_modify] at hget
            by_cases hcc : c = c'
            · subst hcc
              rw [if_pos rfl, hcl] at hget
              obtain rfl := Option.some.inj hget
              obtain rfl : e = e' := Option.some.inj (hcur.symm.trans hcur')
              rw [if_pos rfl] at hlist
              simp only [onNotifyReceived_devices]
              cases hdoc : deviceList? S (S.asStringUriOnly cl.mTo) ri with
              | some l =>
                  rw [hdoc] at hlist
                  exact Option.some.inj hlist
              | none =>
                  rw [hdoc] at hlist
                  exact h.latest c cl e devices hcl hcur hlist
            · -- another client has another event, so its list is an old one
              rw [if_neg hcc] at hget
              have hne : e ≠ e' := by
                rintro rfl
                exact hcc (hc.linked.exclusive hcar ⟨cl', hget, hcur'⟩).symm
              rw [if_neg hne] at hlist
              exact h.latest c' cl' e' devices hget hcur' hlist
          · intro e' ri' hri
            rcases List.mem_append.mp hri with hold | hnew
            · exact h.fresh e' ri' hold
            · obtain ⟨rfl, -⟩ : e' = e ∧ ri' = ri := by simpa using hnew
              exact hcar.lt_next

/-- The return of a pending method clears at most the list of a client that is
    no longer subscribed. -/
theorem Remembers.finish {S : Sdk A R} {w : World A} {log : List (Entry A)}
    (h : Remembers S w log) (p : Pending) : Remembers S (w.finish p) log := by
  cases p with
  | subscribe c e => exact h
  | unsubscribe c e => exact h.updateClient c (fun _ _ hcur => nomatch hcur)
  | destructor c e => exact h
  | onSubscriptionStateChanged c e => exact h.updateClient c (fun _ _ hcur => nomatch hcur)

/-- **Step lemma**: every act keeps what the clients remember. -/
theorem remembers_step (S : Sdk A R) (m : State A) (act : Act A) (hc : Consistent m)
    (h : Remembers S m.world m.log) :
    Remembers S (step S m act).world (step S m act).log := by
  cases act with
  | create address => exact h.create address
  | addObserver c o =>
      simp only [step]
      split
      · exact h.updateClient c (fun _ _ hcur => ⟨hcur, rfl, rfl⟩)
      · exact h
  | removeObserver c o =>
      simp only [step]
      split
      · exact h.updateClient c (fun _ _ hcur => ⟨hcur, rfl, rfl⟩)
      · exact h
  | subscribe c listener =>
      simp only [step]
      split
      · rename_i ha
        obtain ⟨cl, hcl⟩ := State.alive_iff.mp ha
        refine Remembers.called ?_ _
        cases hev : cl.mSubscribeEvent with
        | some e => simpa [World.beginSubscribe, hcl, hev, State.enter] using h
        | none =>
            simp only [World.beginSubscribe, hcl, hev, State.enter]
            exact h.opened c cl
      · exact h
  | unsubscribe c =>
      simp only [step]
      split
      · rename_i hr
        obtain ⟨⟨cl, hcl⟩, -⟩ := State.ready_iff.mp hr
        cases hev : cl.mSubscribeEvent with
        | none => simpa [World.beginUnsubscribe, hcl, hev, State.enter] using h
        | some e => simpa [World.beginUnsubscribe, hcl, hev, State.enter] using h.terminate e
      · exact h
  | destroy c =>
      simp only [step]
      split
      · exact h.destroy c
      · exact h
  | onSubscriptionStateChanged e state =>
      simp only [step, World.beginStateChanged]
      cases hd : m.world.dispatch e with
      | none => exact h
      | some c =>
          obtain ⟨-, cl, hcl, hcur⟩ := hc.linked.dispatch hd
          cases state <;> simp only [hcl, World.beginClientStateChanged, hcur]
          case terminated => exact h.terminate e
          case error => exact h.terminate e
          all_goals exact h
  | onNotifyReceived e body => exact remembers_notify S hc h e body
  | ret =>
      simp only [step]
      cases m.stack with
      | nil => exact h
      | cons p rest => exact h.finish p

/-- The invariant of the runs of this file. -/
def Sound (S : Sdk A R) (m : State A) : Prop := Consistent m ∧ Remembers S m.world m.log

/-- **Step lemma**: every act keeps the laws. -/
theorem sound_step (S : Sdk A R) (m : State A) (act : Act A) (h : Sound S m) :
    Sound S (step S m act) :=
  ⟨consistent_step S m act h.1, remembers_step S m act h.1 h.2⟩

theorem sound_init (S : Sdk A R) : Sound S (machine S).init := by
  refine ⟨consistent_init, ⟨?_, ?_⟩⟩
  · intro c cl e devices hget
    cases hget
  · intro e ri hri
    cases hri

/-! ## When the replay is truthful -/

/-- **One `subscribe`**: the replayed list is the latest one exactly when there
    is a latest one. -/
theorem truthful_iff (S : Sdk A R) (m : State A) (act : Act A) (h : Sound S m) :
    Truthful S m act ↔ AfterFirstNotify S m act := by
  cases act with
  | subscribe c listener =>
      simp only [Truthful, AfterFirstNotify]
      by_cases ha : m.alive c = true
      · obtain ⟨cl, hcl⟩ := State.alive_iff.mp ha
        cases hev : cl.mSubscribeEvent with
        | none =>
            -- a subscription is opened: nothing is replayed
            have hlog : (step S m (.subscribe c listener)).log = m.log := by
              simp [step, ha, World.beginSubscribe, hcl, hev, calledEntries]
            constructor
            · intro _ cl' e hcl' hev'
              rw [hcl] at hcl'
              obtain rfl := Option.some.inj hcl'
              rw [hev] at hev'
              cases hev'
            · intro _ devices hreplay
              rw [hlog] at hreplay
              exact absurd hreplay (by simp)
        | some e =>
            -- the list of the client is replayed
            have hlog : (step S m (.subscribe c listener)).log =
                m.log ++ [.called listener (.onNotifyReceived cl.mParticipantDevices)] := by
              simp [step, ha, World.beginSubscribe, hcl, hev, calledEntries]
            simp only [hlog, List.append_cancel_left_eq, List.cons.injEq, Entry.called.injEq,
              ClientCallback.onNotifyReceived.injEq, true_and, and_true, forall_eq', hcl,
              Option.some.injEq]
            constructor
            · rintro ⟨cl', e', rfl, hev', hlist⟩ cl'' e'' rfl hev''
              obtain rfl : e' = e'' := Option.some.inj (hev'.symm.trans hev'')
              by_contra hnone
              push Not at hnone
              rw [(latestList_eq_none_iff S _ e' m.log).mpr hnone] at hlist
              cases hlist
            · intro hafter
              obtain ⟨ri, hri, hmatch⟩ := hafter cl e rfl hev
              refine ⟨cl, e, rfl, hev, ?_⟩
              cases hlist : latestList S (S.asStringUriOnly cl.mTo) e m.log with
              | none => exact absurd ((latestList_eq_none_iff S _ e m.log).mp hlist ri hri) hmatch
              | some devices => rw [h.2.latest c cl e devices hcl hev hlist]
      · -- there is no such client to call
        have hlog : (step S m (.subscribe c listener)).log = m.log := by simp [step, ha]
        constructor
        · intro _ cl e hcl _
          exact absurd (State.alive_iff.mpr ⟨cl, hcl⟩) ha
        · intro _ devices hreplay
          rw [hlog] at hreplay
          exact absurd hreplay (by simp)
  | _ => exact Iff.rfl

/-- **WHICH RUNS REPLAY THE TRUTH.**  In every run, each list that `subscribe`
    replays is the device list of the latest NOTIFY for the AOR processed on
    the current subscription event, exactly when no `subscribe` is called on a
    client whose open event still awaits its first NOTIFY for the AOR. -/
theorem replay_truthful_iff (S : Sdk A R) (acts : List (Act A)) :
    (machine S).Along (Truthful S) (machine S).init acts ↔
      (machine S).Along (AfterFirstNotify S) (machine S).init acts :=
  Machine.along_congr (M := machine S) (sound_step S) (truthful_iff S) acts (machine S).init
    (sound_init S)

/-- A replay of another list than the latest one. -/
theorem not_truthful {S : Sdk A R} {m : State A} {c : ClientId} {listener : ListenerId}
    {devices : List (ParticipantDeviceIdentity A)} {cl : Client A} {e : EventId}
    (hlog : (step S m (.subscribe c listener)).log =
      m.log ++ [.called listener (.onNotifyReceived devices)])
    (hcl : m.world.clients.get? c = some cl) (hev : cl.mSubscribeEvent = some e)
    (hlist : latestList S (S.asStringUriOnly cl.mTo) e m.log ≠ some devices) :
    ¬ Truthful S m (.subscribe c listener) := by
  intro h
  obtain ⟨cl', e', hcl', hev', hlist'⟩ := h devices hlog
  rw [hcl] at hcl'
  obtain rfl := Option.some.inj hcl'
  rw [hev] at hev'
  obtain rfl := Option.some.inj hev'
  exact hlist hlist'

/-- A second listener is told that there is no device while the first NOTIFY
    has not arrived; and after `unsubscribe()` and a new subscription, a
    listener is given the devices of the subscription that ended. -/
theorem replay_without_notify :
    let create : Act String := .create "sip:alice@external.example.org"
    let notify : Act String := .onNotifyReceived 0 (.reginfo
      [⟨"sip:alice@external.example.org", .active,
        [DeviceView.sampleContact "sip:alice@external.example.org;gr=phone" .registered]⟩])
    let early := (machine stringSdk).reach [create, .subscribe 0 7, .ret]
    let stale := (machine stringSdk).reach
      [create, .subscribe 0 7, .ret, notify, .unsubscribe 0, .ret, .subscribe 0 7, .ret]
    (step stringSdk early (.subscribe 0 8)).log = early.log ++ [.called 8 (.onNotifyReceived [])] ∧
    ¬ Truthful stringSdk early (.subscribe 0 8) ∧
    (step stringSdk stale (.subscribe 0 8)).log = stale.log ++ [.called 8 (.onNotifyReceived
      [⟨some "sip:alice@external.example.org;gr=phone", "", ["groupchat/1.2"]⟩])] ∧
    ¬ Truthful stringSdk stale (.subscribe 0 8) := by
  intro create notify early stale
  have hearly : (step stringSdk early (.subscribe 0 8)).log =
      early.log ++ [.called 8 (.onNotifyReceived [])] := rfl
  have hstale : (step stringSdk stale (.subscribe 0 8)).log = stale.log ++
      [.called 8 (.onNotifyReceived
        [⟨some "sip:alice@external.example.org;gr=phone", "", ["groupchat/1.2"]⟩])] := by
    decide
  have hearlyClient : early.world.clients.get? 0 =
      some ⟨"sip:alice@external.example.org", some 0, [], []⟩ := rfl
  have hstaleClient : stale.world.clients.get? 0 = some ⟨"sip:alice@external.example.org", some 1,
      [⟨some "sip:alice@external.example.org;gr=phone", "", ["groupchat/1.2"]⟩], []⟩ := by
    decide
  exact ⟨hearly, not_truthful hearly hearlyClient rfl (by decide),
    hstale, not_truthful hstale hstaleClient rfl (by decide)⟩

end Replay
