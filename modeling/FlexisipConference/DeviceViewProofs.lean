import FlexisipConference.DispatchProofs

/-! # What the observers know of the device list

    An observer's view is the last list passed to its `onNotifyReceived`.  A
    NOTIFY that only announces refreshed contacts makes no such call, so the
    view can fall behind the list that the client keeps: when a device vanished,
    when a device is announced as refreshed for the first time, or when no
    contact is left.

    `view_matches_iff` says exactly which runs keep every view up to date. -/

namespace DeviceView

open Sdks Reginfos Heaps Machines Clients Dispatch

variable {A R : Type}

/-- The list of a call to `onNotifyReceived` of this observer. -/
def received (o : ListenerId) : Entry A → Option (List (ParticipantDeviceIdentity A))
  | .called o' (.onNotifyReceived devices) => if o' = o then some devices else none
  | _ => none

/-- The last list passed to `onNotifyReceived` of the observer. -/
def view (log : List (Entry A)) (o : ListenerId) : Option (List (ParticipantDeviceIdentity A)) :=
  (log.filterMap (received o)).getLast?

/-- The list that the client keeps, and that a later `subscribe()` replays. -/
def keptDevices (m : State A) (c : ClientId) : List (ParticipantDeviceIdentity A) :=
  ((m.world.clients.get? c).map (·.mParticipantDevices)).getD []

/-- The two lists have the same devices. -/
def SameDevices (l l' : List (ParticipantDeviceIdentity A)) : Prop := ∀ d, d ∈ l ↔ d ∈ l'

/-- A document with one registration element for the AOR. -/
structure AorNotify (aor : String) where
  ri : Reginfo
  registration : Registration
  single : matching aor ri = [registration]

/-- The view of the observer has the devices that the client keeps; before the
    first list it has none. -/
def UpToDate (o : ListenerId) (m : State A) : Prop :=
  SameDevices ((view m.log o).getD []) (keptDevices m 0)

/-- The registration is announced to the observers, or says nothing new: it is
    terminated, or some contact with specs is not refreshed, or the devices
    are those of the list before. -/
def Announced (S : Sdk A R) (before : List (ParticipantDeviceIdentity A))
    (registration : Registration) : Prop :=
  registration.state = .terminated ∨ HasUnrefreshed registration.contacts ∨
    SameDevices before (devicesOf S registration.contacts)

/-- Each document of the sequence is announced, given the list that the one
    before it left. -/
def AllAnnounced (S : Sdk A R) {aor : String} :
    List (ParticipantDeviceIdentity A) → List (AorNotify aor) → Prop
  | _, [] => True
  | before, notify :: rest =>
      Announced S before notify.registration ∧
        AllAnnounced S (notify.registration.devices S) rest

/-! ## The run of one client -/

/-- What happens to a client before its first NOTIFY: observers are attached
    and listeners subscribe, in any order. -/
inductive Attach where
  | addObserver (observer : ListenerId)
  | subscribe (listener : ListenerId)
  deriving DecidableEq, Repr

def Attach.acts : Attach → List (Act A)
  | .addObserver observer => [.addObserver 0 observer]
  | .subscribe listener => [.subscribe 0 listener, .ret]

def Attach.observer? : Attach → Option ListenerId
  | .addObserver observer => some observer
  | .subscribe _ => none

def Attach.subscribes : Attach → Bool
  | .addObserver _ => false
  | .subscribe _ => true

/-- Create a client and attach to it. -/
def setup (address : A) (attaches : List Attach) : List (Act A) :=
  .create address :: attaches.flatMap Attach.acts

/-- The machine that takes the NOTIFYs on the subscription so opened. -/
def notifyMachine (S : Sdk A R) (address : A) (attaches : List Attach) :
    Machine (State A) (AorNotify (S.asStringUriOnly address)) where
  init := (machine S).reach (setup address attaches)
  step m notify := step S m (.onNotifyReceived 0 (.reginfo notify.ri))

/-- The client of the run is subscribed, with these observers. -/
def Subscribed (address : A) (observers : List ListenerId) (m : State A) : Prop :=
  m.world.dispatch 0 = some 0 ∧
    ∃ devices, m.world.clients.get? 0 = some ⟨address, some 0, devices, observers⟩

/-- The client of the run before its first NOTIFY: it has no device, and whoever
    was told a list was told the empty one. -/
structure Awaiting (address : A) (observers : List ListenerId) (subscribed : Bool)
    (m : State A) : Prop where
  idle : m.stack = []
  core : m.world.coreListeners = 1
  client : m.world.clients.get? 0 =
    some ⟨address, if subscribed then some 0 else none, [], observers⟩
  carried : subscribed = true → Carries m.world 0 0
  unused : subscribed = false → m.world.events.next = 0
  told : ∀ o, (view m.log o).getD [] = []

theorem awaiting_create (S : Sdk A R) (address : A) :
    Awaiting address [] false (step S (machine S).init (.create address)) := by
  refine ⟨rfl, rfl, rfl, fun h => ?_, fun _ => rfl, fun _ => rfl⟩
  cases h

theorem Awaiting.alive {address : A} {observers : List ListenerId} {subscribed : Bool}
    {m : State A} (h : Awaiting address observers subscribed m) : m.alive 0 = true :=
  State.alive_iff.mpr ⟨_, h.client⟩

theorem Awaiting.addObserver (S : Sdk A R) {address : A} {observers : List ListenerId}
    {subscribed : Bool} {m : State A} (h : Awaiting address observers subscribed m)
    (o : ListenerId) :
    Awaiting address (observers ++ [o]) subscribed (step S m (.addObserver 0 o)) := by
  simp only [step, if_pos h.alive]
  refine ⟨h.idle, h.core, ?_, h.carried, h.unused, h.told⟩
  simp [World.addObserver, World.updateClient, h.client]

/-- The first listener opens the subscription; a later one is told that there is
    no device. -/
theorem Awaiting.subscribe (S : Sdk A R) {address : A} {observers : List ListenerId}
    {subscribed : Bool} {m : State A} (h : Awaiting address observers subscribed m)
    (listener : ListenerId) :
    Awaiting address observers true (step S (step S m (.subscribe 0 listener)) .ret) := by
  have hclient := h.client
  cases subscribed with
  | false =>
      have hstep : step S (step S m (.subscribe 0 listener)) .ret =
          { m with world := opened m.world 0 ⟨address, none, [], observers⟩ } := by
        simp [step, h.alive, h.idle, World.beginSubscribe, hclient, State.enter, World.finish,
          opened, calledEntries]
      rw [hstep]
      refine ⟨h.idle, h.core, ?_, fun _ => ?_, fun hno => ?_, h.told⟩
      · simp [opened, hclient, h.unused rfl]
      · exact carries_opened.mpr (Or.inl ⟨(h.unused rfl).symm, rfl⟩)
      · cases hno
  | true =>
      have hstep : step S (step S m (.subscribe 0 listener)) .ret =
          { m with log := m.log ++ [.called listener (.onNotifyReceived [])] } := by
        simp [step, h.alive, h.idle, World.beginSubscribe, hclient, State.enter, calledEntries]
      rw [hstep]
      refine ⟨h.idle, h.core, hclient, h.carried, h.unused, fun o => ?_⟩
      rw [view, List.filterMap_append]
      by_cases ho : listener = o
      · simp [received, ho]
      · simpa [received, ho, view] using h.told o

theorem Awaiting.run (S : Sdk A R) {address : A} :
    ∀ (attaches : List Attach) {observers : List ListenerId} {subscribed : Bool} {m : State A},
      Awaiting address observers subscribed m →
      Awaiting address (observers ++ attaches.filterMap Attach.observer?)
        (subscribed || attaches.any Attach.subscribes)
        ((machine S).run m (attaches.flatMap Attach.acts)) := by
  intro attaches
  induction attaches with
  | nil =>
      intro observers subscribed m h
      simpa using h
  | cons attach rest ih =>
      intro observers subscribed m h
      rw [List.flatMap_cons, Machine.run_append]
      cases attach with
      | addObserver o =>
          have hrest := ih (h.addObserver S o)
          rw [List.append_assoc] at hrest
          exact hrest
      | subscribe listener =>
          have hrest := ih (h.subscribe S listener)
          rw [Bool.true_or] at hrest
          rw [List.any_cons, Attach.subscribes, Bool.true_or, Bool.or_true]
          exact hrest

/-- After the set-up the client is subscribed; it has no device, and nobody was
    told of one. -/
theorem setup_spec (S : Sdk A R) (address : A) {attaches : List Attach}
    (hsub : ∃ listener, .subscribe listener ∈ attaches) :
    let m := (machine S).reach (setup address attaches)
    Subscribed address (attaches.filterMap Attach.observer?) m ∧ keptDevices m 0 = [] ∧
      ∀ o, (view m.log o).getD [] = [] := by
  intro m
  have hany : attaches.any Attach.subscribes = true := by
    obtain ⟨listener, hmem⟩ := hsub
    exact List.any_eq_true.mpr ⟨_, hmem, rfl⟩
  have h : Awaiting address (attaches.filterMap Attach.observer?) true m := by
    have hrun := (awaiting_create S address).run S attaches
    rw [List.nil_append, Bool.false_or, hany] at hrun
    exact hrun
  obtain ⟨ev, hev, hdata⟩ := h.carried rfl
  refine ⟨⟨?_, [], h.client⟩, ?_, h.told⟩
  · rw [World.dispatch, if_neg (by rw [h.core]; exact Nat.one_ne_zero), hev]
    exact hdata
  · rw [keptDevices, h.client]
    rfl

/-! ## One NOTIFY -/

/-- The view after one more callback on the observer. -/
def viewAfter (v : Option (List (ParticipantDeviceIdentity A))) :
    ClientCallback A → Option (List (ParticipantDeviceIdentity A))
  | .onNotifyReceived devices => some devices
  | .onRefreshed _ => v

/-- A callback made on every attached observer reaches the view of each. -/
theorem view_callback (S : Sdk A R) {observers : List ListenerId} {o : ListenerId}
    (ho : o ∈ observers) (log : List (Entry A)) (cb : ClientCallback A) :
    view (log ++ calledEntries ((S.notifyOrder observers).map (·, cb))) o =
      viewAfter (view log o) cb := by
  have ho' : o ∈ S.notifyOrder observers := S.mem_notifyOrder.mpr ho
  rw [view, calledEntries, List.filterMap_append]
  cases cb with
  | onRefreshed d =>
      -- no list is passed, so the last one stays
      have hnil : (((S.notifyOrder observers).map (·, ClientCallback.onRefreshed d)).map
          (fun em => Entry.called em.1 em.2)).filterMap (received o) = [] := by
        simp [List.filterMap_eq_nil_iff, received]
      rw [hnil, List.append_nil]
      rfl
  | onNotifyReceived devices =>
      -- the observer is called at least once, each time with the same list
      set got := (((S.notifyOrder observers).map (·, ClientCallback.onNotifyReceived devices)).map
        (fun em => Entry.called em.1 em.2)).filterMap (received o) with hgot
      have hall : ∀ x ∈ got, x = devices := by
        intro x hx
        rw [hgot, List.map_map] at hx
        obtain ⟨entry, hentry, hrec⟩ := List.mem_filterMap.mp hx
        obtain ⟨o', -, rfl⟩ := List.mem_map.mp hentry
        simp only [Function.comp, received] at hrec
        split at hrec
        · exact (Option.some.inj hrec).symm
        · cases hrec
      have hmem : devices ∈ got := by
        rw [hgot, List.map_map]
        refine List.mem_filterMap.mpr ⟨.called o (.onNotifyReceived devices), ?_, ?_⟩
        · exact List.mem_map.mpr ⟨o, ho', rfl⟩
        · simp [received]
      have hne : got ≠ [] := List.ne_nil_of_mem hmem
      rw [List.getLast?_append_of_ne_nil _ hne, List.getLast?_eq_some_getLast hne]
      exact congrArg some (hall _ (List.getLast_mem hne))

/-- The calls of one NOTIFY, seen by an attached observer. -/
theorem view_callbacks (S : Sdk A R) {observers : List ListenerId} {o : ListenerId}
    (ho : o ∈ observers) :
    ∀ (out : List (ClientCallback A)) (log : List (Entry A)),
      view (log ++ calledEntries
          (out.flatMap (fun cb => (S.notifyOrder observers).map (·, cb)))) o =
        out.foldl viewAfter (view log o) := by
  intro out
  induction out with
  | nil => intro log; simp [calledEntries]
  | cons cb rest ih =>
      intro log
      rw [List.flatMap_cons, calledEntries, List.map_append, ← List.append_assoc]
      exact (ih _).trans (congrArg (rest.foldl viewAfter) (view_callback S ho log cb))

/-- What a NOTIFY does to the client of the run and to its observers. -/
theorem notify_spec (S : Sdk A R) {address : A} {observers : List ListenerId} {m : State A}
    (h : Subscribed address observers m) (notify : AorNotify (S.asStringUriOnly address)) :
    let m' := step S m (.onNotifyReceived 0 (.reginfo notify.ri))
    Subscribed address observers m' ∧
      keptDevices m' 0 = notify.registration.devices S ∧
      ∀ o ∈ observers, view m'.log o =
        (Client.onNotifyReceived S (S.asStringUriOnly address) (keptDevices m 0) notify.ri).2.foldl
          viewAfter (view m.log o) := by
  obtain ⟨hd, devices, hcl⟩ := h
  have hkept : keptDevices m 0 = devices := by simp [keptDevices, hcl]
  have hdev := onNotifyReceived_single S notify.single devices
  intro m'
  have hworld : m'.world = m.world.updateClient 0 (fun cl =>
      { cl with mParticipantDevices := notify.registration.devices S }) := by
    simp [m', step, World.onNotifyReceived, hd, hcl, hdev]
  have hlog : m'.log = m.log ++ [.processed 0 notify.ri] ++ calledEntries
      ((Client.onNotifyReceived S (S.asStringUriOnly address) devices notify.ri).2.flatMap
        (fun cb => (S.notifyOrder observers).map (·, cb))) := by
    simp [m', step, World.onNotifyReceived, hd, hcl, processedEntry]
  refine ⟨⟨?_, notify.registration.devices S, ?_⟩, ?_, ?_⟩
  · rw [hworld]
    exact hd
  · simp [hworld, World.updateClient, hcl]
  · simp [keptDevices, hworld, World.updateClient, hcl]
  · intro o ho
    -- the document itself is no call
    have hprocessed : view (m.log ++ [.processed 0 notify.ri]) o = view m.log o := by
      simp [view, List.filterMap_append, received]
    rw [hlog, view_callbacks S ho, hprocessed, hkept]

/-- **Step lemma**: a view that is up to date stays so exactly when the NOTIFY
    is announced. -/
theorem upToDate_step_iff (S : Sdk A R) {address : A} {observers : List ListenerId}
    {o : ListenerId} (ho : o ∈ observers) {m : State A} (h : Subscribed address observers m)
    (hview : UpToDate o m) (notify : AorNotify (S.asStringUriOnly address)) :
    UpToDate o (step S m (.onNotifyReceived 0 (.reginfo notify.ri))) ↔
      Announced S (keptDevices m 0) notify.registration := by
  obtain ⟨-, hkept, hviews⟩ := notify_spec S h notify
  rw [UpToDate, hkept, hviews o ho, onNotifyReceived_single S notify.single]
  rw [Announced, Registration.devices]
  by_cases hterm : notify.registration.state = .terminated
  · simp [hterm, viewAfter, SameDevices]
  · simp only [if_neg hterm, List.foldl_append]
    -- the refreshed contacts leave the view as it is
    have hfold : ∀ (ds : List (ParticipantDeviceIdentity A))
        (v : Option (List (ParticipantDeviceIdentity A))),
        (ds.map ClientCallback.onRefreshed).foldl viewAfter v = v := by
      intro ds
      induction ds with
      | nil => intro v; rfl
      | cons d ds ih => intro v; exact ih v
    rw [hfold]
    -- without a snapshot the view is up to date only if the list is the old one
    by_cases hun : HasUnrefreshed notify.registration.contacts
    · rw [snapshot_contactLoop_of S hun]
      simp [hun, viewAfter, SameDevices]
    · rw [snapshot_contactLoop_not S hun]
      simp only [List.foldl_nil, hterm, hun, false_or]
      constructor
      · intro hnew d
        exact (hview d).symm.trans (hnew d)
      · intro hsame d
        exact (hview d).trans (hsame d)

/-- Along a run of NOTIFYs, the list before each document is the one that the
    document before it left. -/
theorem along_announced_iff (S : Sdk A R) {address : A} {observers : List ListenerId}
    (attaches : List Attach) :
    ∀ (notifies : List (AorNotify (S.asStringUriOnly address))) (m : State A),
      Subscribed address observers m →
      ((notifyMachine S address attaches).Along
          (fun m notify => Announced S (keptDevices m 0) notify.registration) m notifies ↔
        AllAnnounced S (keptDevices m 0) notifies) := by
  intro notifies
  induction notifies with
  | nil => intro m _; exact Iff.rfl
  | cons notify rest ih =>
      intro m h
      obtain ⟨hsub, hkept, -⟩ := notify_spec S h notify
      refine and_congr Iff.rfl ((ih _ hsub).trans ?_)
      rw [hkept]

/-- **WHICH RUNS KEEP THE VIEWS UP TO DATE.**  For every sequence of NOTIFYs on
    the subscription of a client, each with one registration for its AOR, and
    every observer attached before the first one: after each NOTIFY the
    observer's view has the same devices as the list the client keeps, exactly
    when each document is terminated, or lists some device that is not merely
    refreshed, or lists the devices of the document before it. -/
theorem view_matches_iff (S : Sdk A R) (address : A) (attaches : List Attach)
    (hsub : ∃ listener, .subscribe listener ∈ attaches) (o : ListenerId)
    (ho : .addObserver o ∈ attaches) (notifies : List (AorNotify (S.asStringUriOnly address))) :
    (∀ pre, pre <+: notifies → UpToDate o ((notifyMachine S address attaches).reach pre)) ↔
      AllAnnounced S [] notifies := by
  obtain ⟨hsubscribed, hkept, htold⟩ := setup_spec S address hsub
  have ho' : o ∈ attaches.filterMap Attach.observer? := List.mem_filterMap.mpr ⟨_, ho, rfl⟩
  have hinit : UpToDate o (notifyMachine S address attaches).init := by
    intro d
    rw [show keptDevices (notifyMachine S address attaches).init 0 = [] from hkept]
    rw [show (view (notifyMachine S address attaches).init.log o).getD [] = [] from htold o]
  have hexact := Machine.forall_prefix_iff_along
    (M := notifyMachine S address attaches)
    (I := UpToDate o) (J := Subscribed address (attaches.filterMap Attach.observer?))
    (P := fun m notify => Announced S (keptDevices m 0) notify.registration)
    (fun m notify h => (notify_spec S h notify).1)
    (fun m notify h hview => upToDate_step_iff S ho' h hview notify)
    notifies (notifyMachine S address attaches).init hsubscribed hinit
  have hlist := along_announced_iff S attaches notifies _ hsubscribed
  rw [hkept] at hlist
  exact hexact.trans hlist

/-! ## A device that vanishes -/

/-- A contact with specs. -/
def sampleContact (uri : String) (event : ContactEvent) : Contact :=
  ⟨uri, none, [⟨specsParam, "\"groupchat/1.2\""⟩], event, .active⟩

/-- A document with one active registration of the sample AOR. -/
def sampleNotify (contacts : List Contact) : AorNotify "sip:alice@external.example.org" where
  ri := [⟨"sip:alice@external.example.org", .active, contacts⟩]
  registration := ⟨"sip:alice@external.example.org", .active, contacts⟩
  single := by simp [matching]

/-- `view_matches_iff` at work: a known device that is refreshed leaves the
    views up to date. -/
theorem view_matches_refreshed :
    UpToDate 7 ((notifyMachine stringSdk "sip:alice@external.example.org"
        [.addObserver 7, .subscribe 7]).reach
      [sampleNotify [sampleContact "sip:alice@external.example.org;gr=phone" .registered],
        sampleNotify [sampleContact "sip:alice@external.example.org;gr=phone" .refreshed]]) := by
  have hall := (view_matches_iff stringSdk "sip:alice@external.example.org"
    [.addObserver 7, .subscribe 7] ⟨7, by decide⟩ 7 (by decide)
    [sampleNotify [sampleContact "sip:alice@external.example.org;gr=phone" .registered],
      sampleNotify [sampleContact "sip:alice@external.example.org;gr=phone" .refreshed]]).mpr
  refine hall ⟨?_, ?_, trivial⟩ _ List.prefix_rfl
  · exact Or.inr (Or.inl ⟨_, List.mem_singleton_self _, rfl, nofun⟩)
  · exact Or.inr (Or.inr (fun d => Iff.rfl))

/-- The tablet vanishes in a NOTIFY that only refreshes the phone: nobody is
    told, and the observer still has the tablet. -/
theorem vanished_device_not_announced :
    let m := (notifyMachine stringSdk "sip:alice@external.example.org"
        [.addObserver 7, .subscribe 7]).reach
      [sampleNotify [sampleContact "sip:alice@external.example.org;gr=phone" .registered,
          sampleContact "sip:alice@external.example.org;gr=tablet" .registered],
        sampleNotify [sampleContact "sip:alice@external.example.org;gr=phone" .refreshed]]
    (view m.log 7).map (·.map (·.address)) =
      some [some "sip:alice@external.example.org;gr=phone",
        some "sip:alice@external.example.org;gr=tablet"] ∧
    (keptDevices m 0).map (·.address) = [some "sip:alice@external.example.org;gr=phone"] ∧
    ¬ UpToDate 7 m := by
  refine ⟨by decide, by decide, ?_⟩
  intro h
  have htablet := (h ⟨some "sip:alice@external.example.org;gr=tablet", "", ["groupchat/1.2"]⟩).mp
    (by decide)
  revert htablet
  decide

end DeviceView
