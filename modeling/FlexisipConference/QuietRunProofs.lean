import FlexisipConference.DispatchProofs

/-! # Methods that nothing interrupts

    The handler runs the methods of the clients one after the other.  Each is a
    run of the dispatch machine in which the Core does not call back: enter the
    method, and let it return.  So a world built by such methods is one that
    the machine reaches at rest (`AtRest`), and the dispatch invariant holds of
    it without being proved again.

    What the subscriptions see of a client is its address and its observers
    (`face`); the second half of the file says what each method does to it. -/

namespace QuietRun

open Sdks Reginfos Heaps Machines Clients Dispatch

variable {A R : Type}

/-- The dispatch machine reaches this world with no method in progress. -/
def AtRest (S : Sdk A R) (w : World A) : Prop :=
  ∃ acts, ((machine S).reach acts).world = w ∧ ((machine S).reach acts).stack = []

theorem AtRest.init (S : Sdk A R) : AtRest S World.init := ⟨[], rfl, rfl⟩

/-- More acts lead from rest to rest. -/
theorem AtRest.run {S : Sdk A R} {w w' : World A} (h : AtRest S w) (acts : List (Act A))
    (hrun : ∀ log, ∃ log', (machine S).run ⟨w, [], log⟩ acts = ⟨w', [], log'⟩) :
    AtRest S w' := by
  obtain ⟨before, hw, hstack⟩ := h
  obtain ⟨log', hlog'⟩ := hrun ((machine S).reach before).log
  have hstate : (machine S).reach before = ⟨w, [], ((machine S).reach before).log⟩ := by
    rw [← hw, ← hstack]
  refine ⟨before ++ acts, ?_, ?_⟩ <;> rw [Machine.reach_append, hstate, hlog']

/-- The dispatch invariant, of a world at rest. -/
theorem AtRest.linked {S : Sdk A R} {w : World A} (h : AtRest S w) : Linked w [] := by
  obtain ⟨acts, rfl, hstack⟩ := h
  have := (consistent_reach S acts).linked
  rw [hstack] at this
  exact this

/-- At rest the use of the Core's listener is accounted for. -/
theorem AtRest.accounted {S : Sdk A R} {w : World A} (h : AtRest S w) : Accounted w := by
  obtain ⟨acts, rfl, -⟩ := h
  exact (consistent_reach S acts).accounted

theorem not_closing_nil {c : ClientId} {e : EventId} : ¬ Closing [] c e := by
  rintro (hmem | hmem) <;> cases hmem

/-- At rest, an event carries a client exactly when it is the current one. -/
theorem AtRest.carries_iff {S : Sdk A R} {w : World A} (h : AtRest S w) {e : EventId}
    {c : ClientId} : Carries w e c ↔ IsCurrent w c e :=
  ⟨h.linked.carried e c, fun hcur => h.linked.carries hcur (fun _ => not_closing_nil)⟩

/-- At rest, the factory is called for the current event of a client. -/
theorem AtRest.dispatch_iff {S : Sdk A R} {w : World A} (h : AtRest S w) {e : EventId}
    {c : ClientId} : w.dispatch e = some c ↔ IsCurrent w c e := by
  refine ⟨fun hd => (h.linked.dispatch hd).2, fun hcur => ?_⟩
  obtain ⟨ev, hev, hdata⟩ := h.carries_iff.mpr hcur
  obtain ⟨cl, hcl, -⟩ := hcur
  -- a client is alive, so the factory is on the Core
  have hlive := Heap.liveCount_pos hcl
  have hcore : w.coreListeners ≠ 0 := by
    rw [h.accounted.listening, h.accounted.counted, if_pos (by omega)]
    exact Nat.one_ne_zero
  rw [World.dispatch, if_neg hcore, hev]
  exact hdata

/-! ## Each method is a run of the machine -/

/-- At rest every client in the heap is alive. -/
theorem alive_of_get? {w : World A} {log : List (Dispatch.Entry A)} {c : ClientId} {cl : Client A}
    (hcl : w.clients.get? c = some cl) : State.alive ⟨w, [], log⟩ c = true :=
  State.alive_iff.mpr ⟨cl, hcl⟩

/-- At rest no client is inside a call of its own. -/
theorem ready_of_get? {w : World A} {log : List (Dispatch.Entry A)} {c : ClientId} {cl : Client A}
    (hcl : w.clients.get? c = some cl) : State.ready ⟨w, [], log⟩ c = true :=
  State.ready_iff.mpr ⟨⟨cl, hcl⟩, fun _ => not_closing_nil⟩

/-- Entering a method and returning from it is the whole method. -/
theorem enter_ret (S : Sdk A R) (r : World A × Option Pending) (w : World A)
    (log : List (Dispatch.Entry A)) :
    step S (State.enter ⟨w, [], log⟩ r) .ret = ⟨World.finish? r, [], log⟩ := by
  obtain ⟨w', p⟩ := r
  cases p <;> rfl

/-- A new client leads from rest to rest. -/
theorem AtRest.create {S : Sdk A R} {w : World A} (h : AtRest S w) (address : A) :
    AtRest S (w.create address) :=
  h.run [.create address] (fun log => ⟨log, rfl⟩)

/-- Attaching an observer leads from rest to rest. -/
theorem AtRest.addObserver {S : Sdk A R} {w : World A} (h : AtRest S w) {c : ClientId}
    {cl : Client A} (hcl : w.clients.get? c = some cl) (o : ListenerId) :
    AtRest S (w.addObserver c o) := by
  refine h.run [.addObserver c o] (fun log => ⟨log, ?_⟩)
  show step S ⟨w, [], log⟩ (.addObserver c o) = _
  simp [step, alive_of_get? hcl]

theorem AtRest.removeObserver {S : Sdk A R} {w : World A} (h : AtRest S w) {c : ClientId}
    {cl : Client A} (hcl : w.clients.get? c = some cl) (o : ListenerId) :
    AtRest S (w.removeObserver c o) := by
  refine h.run [.removeObserver c o] (fun log => ⟨log, ?_⟩)
  show step S ⟨w, [], log⟩ (.removeObserver c o) = _
  simp [step, alive_of_get? hcl]

/-- A whole `subscribe()`, with the return of `sendSubscribe()`, leads from rest to
    rest. -/
theorem AtRest.subscribe {S : Sdk A R} {w : World A} (h : AtRest S w) {c : ClientId}
    {cl : Client A} (hcl : w.clients.get? c = some cl) (listener : ListenerId) :
    AtRest S (w.subscribe c listener).1 := by
  refine h.run [.subscribe c listener, .ret]
    (fun log => ⟨log ++ calledEntries (w.subscribe c listener).2, ?_⟩)
  have hstep : step S ⟨w, [], log⟩ (.subscribe c listener) =
      State.enter ⟨w, [], log ++ calledEntries (w.beginSubscribe c listener).2.1⟩
        ((w.beginSubscribe c listener).1, (w.beginSubscribe c listener).2.2) := by
    simp [step, alive_of_get? hcl, State.enter]
  show step S (step S ⟨w, [], log⟩ (.subscribe c listener)) .ret = _
  rw [hstep]
  exact enter_ret S _ w _

/-- So does a whole destruction, with the callback inside `terminate()`. -/
theorem AtRest.destroy {S : Sdk A R} {w : World A} (h : AtRest S w) {c : ClientId}
    {cl : Client A} (hcl : w.clients.get? c = some cl) : AtRest S (w.destroy c) := by
  refine h.run [.destroy c, .ret] (fun log => ⟨log, ?_⟩)
  have hstep : step S ⟨w, [], log⟩ (.destroy c) =
      State.enter ⟨w, [], log⟩ (w.beginDestroy c) := by
    simp [step, ready_of_get? hcl]
  show step S (step S ⟨w, [], log⟩ (.destroy c)) .ret = _
  rw [hstep]
  exact enter_ret S _ w log

/-- So does a state change, delivered to its end. -/
theorem AtRest.onSubscriptionStateChanged {S : Sdk A R} {w : World A} (h : AtRest S w)
    (e : EventId) (state : SubscriptionState) :
    AtRest S (w.onSubscriptionStateChanged e state) :=
  h.run [.onSubscriptionStateChanged e state, .ret] (fun log => ⟨log, enter_ret S _ w log⟩)

/-- So does a NOTIFY. -/
theorem AtRest.onNotifyReceived {S : Sdk A R} {w : World A} (h : AtRest S w) (e : EventId)
    (body : NotifyBody) : AtRest S (w.onNotifyReceived S e body).1 :=
  h.run [.onNotifyReceived e body] (fun _ => ⟨_, rfl⟩)

/-! ## What each method does -/

/-- `subscribe()` on a client without an event opens one. -/
theorem subscribe_open {w : World A} {c : ClientId} {cl : Client A}
    (hcl : w.clients.get? c = some cl) (hev : cl.mSubscribeEvent = none) (listener : ListenerId) :
    w.subscribe c listener = (opened w c cl, []) := by
  simp [World.subscribe, World.beginSubscribe, hcl, hev, World.finish?, World.finish, opened]

/-- `subscribe()` on a client with an event replays the list. -/
theorem subscribe_replay {w : World A} {c : ClientId} {cl : Client A} {e : EventId}
    (hcl : w.clients.get? c = some cl) (hev : cl.mSubscribeEvent = some e)
    (listener : ListenerId) :
    w.subscribe c listener = (w, [(listener, .onNotifyReceived cl.mParticipantDevices)]) := by
  simp [World.subscribe, World.beginSubscribe, hcl, hev, World.finish?]

/-- A client without an event dies without a callback. -/
theorem destroy_of_none {w : World A} {c : ClientId} {cl : Client A}
    (hcl : w.clients.get? c = some cl) (hev : cl.mSubscribeEvent = none) :
    w.destroy c = World.unregisterClient { w with clients := w.clients.free c } := by
  simp [World.destroy, World.beginDestroy, hcl, hev, World.finish?]

/-- The destructor terminates the event of the client. -/
theorem destroy_of_some {w : World A} {c : ClientId} {cl : Client A} {e : EventId}
    (hcl : w.clients.get? c = some cl) (hev : cl.mSubscribeEvent = some e) :
    w.destroy c =
      (World.unregisterClient { w with clients := w.clients.free c }).terminate e := by
  simp [World.destroy, World.beginDestroy, hcl, hev, World.finish?, World.finish]

/-- A state change that ends a subscription terminates the event and resets its
    client; any other does nothing. -/
theorem stateChanged_cases {S : Sdk A R} {w : World A} (h : AtRest S w) (e : EventId)
    (state : SubscriptionState) :
    w.onSubscriptionStateChanged e state = w ∨
      ∃ c, IsCurrent w c e ∧ (state = .terminated ∨ state = .error) ∧
        w.onSubscriptionStateChanged e state = (w.terminate e).updateClient c
          (fun cl => { cl with mSubscribeEvent := none, mParticipantDevices := [] }) := by
  rw [World.onSubscriptionStateChanged, World.beginStateChanged]
  cases hd : w.dispatch e with
  | none => exact Or.inl rfl
  | some c =>
      have hcurrent := h.dispatch_iff.mp hd
      obtain ⟨cl, hcl, hev⟩ := h.dispatch_iff.mp hd
      simp only [hcl, World.beginClientStateChanged, hev]
      cases state
      case terminated => exact Or.inr ⟨c, hcurrent, Or.inl rfl, rfl⟩
      case error => exact Or.inr ⟨c, hcurrent, Or.inr rfl, rfl⟩
      all_goals exact Or.inl rfl

/-- A NOTIFY with a document makes the client of the event process it; any
    other does nothing. -/
theorem notify_cases {S : Sdk A R} {w : World A} (h : AtRest S w) (e : EventId)
    (body : NotifyBody) :
    w.onNotifyReceived S e body = (w, []) ∨
      ∃ c cl ri, w.clients.get? c = some cl ∧ cl.mSubscribeEvent = some e ∧
        body = .reginfo ri ∧
        w.onNotifyReceived S e body =
          (w.updateClient c (fun cl' => { cl' with mParticipantDevices :=
              (Reginfos.Client.onNotifyReceived S (S.asStringUriOnly cl.mTo)
                cl.mParticipantDevices ri).1 }),
            (Reginfos.Client.onNotifyReceived S (S.asStringUriOnly cl.mTo)
              cl.mParticipantDevices ri).2.flatMap
                (fun cb => (S.notifyOrder cl.observers).map (·, cb))) := by
  cases hd : w.dispatch e with
  | none =>
      left
      rw [World.onNotifyReceived, hd]
  | some c =>
      obtain ⟨cl, hcl, hev⟩ := h.dispatch_iff.mp hd
      cases body with
      | null => simp [World.onNotifyReceived, hd, hcl]
      | malformed => simp [World.onNotifyReceived, hd, hcl]
      | reginfo ri => exact Or.inr ⟨c, cl, ri, hcl, hev, rfl, notify_dispatched S hd hcl ri⟩

/-- A NOTIFY with a document on the current event of a client. -/
theorem notify_current {S : Sdk A R} {w : World A} (h : AtRest S w) {c : ClientId}
    {cl : Client A} {e : EventId} (hcl : w.clients.get? c = some cl)
    (hev : cl.mSubscribeEvent = some e) (ri : Reginfo) :
    w.onNotifyReceived S e (.reginfo ri) =
      (w.updateClient c (fun cl' => { cl' with mParticipantDevices :=
          (Reginfos.Client.onNotifyReceived S (S.asStringUriOnly cl.mTo)
            cl.mParticipantDevices ri).1 }),
        (Reginfos.Client.onNotifyReceived S (S.asStringUriOnly cl.mTo)
          cl.mParticipantDevices ri).2.flatMap
            (fun cb => (S.notifyOrder cl.observers).map (·, cb))) :=
  notify_dispatched S (h.dispatch_iff.mpr ⟨cl, hcl, hev⟩) hcl ri

/-! ## The address and the observers of a client -/

/-- The address of a client and its observers, if it is alive. -/
def face (w : World A) (c : ClientId) : Option (A × List ListenerId) :=
  (w.clients.get? c).map (fun cl => (cl.mTo, cl.observers))

/-- The face of a client is its address and its observers. -/
theorem face_eq_some_iff {w : World A} {c : ClientId} {address : A} {obs : List ListenerId} :
    face w c = some (address, obs) ↔
      ∃ cl, w.clients.get? c = some cl ∧ cl.mTo = address ∧ cl.observers = obs := by
  simp [face]

theorem isSome_face {w : World A} {c : ClientId} :
    (face w c).isSome ↔ ∃ cl, w.clients.get? c = some cl := by
  simp [face, Option.isSome_iff_exists]

/-- Who has a face has been made. -/
theorem face_lt_next {w : World A} {c : ClientId} (h : (face w c).isSome) :
    c < w.clients.next := by
  obtain ⟨cl, hcl⟩ := isSome_face.mp h
  exact Heap.lt_next_of_get? hcl

/-- Writing a client without touching its address or its observers. -/
theorem face_modify {w w' : World A} {c : ClientId} {f : Client A → Client A}
    (hw : w'.clients = w.clients.modify c f) (hto : ∀ cl, (f cl).mTo = cl.mTo)
    (hobs : ∀ cl, (f cl).observers = cl.observers) (c' : ClientId) : face w' c' = face w c' := by
  simp only [face]
  rw [hw, Heap.get?_modify]
  split
  · cases w.clients.get? c' with
    | none => rfl
    | some cl => simp [hto, hobs]
  · rfl

/-- A new client shows its address and no observer. -/
theorem face_create (w : World A) (address : A) (c : ClientId) :
    face (w.create address) c = if c = w.clients.next then some (address, []) else face w c := by
  simp only [face, World.create, World.registerClient, Heap.get?_alloc]
  split <;> rfl

/-- An observer joins at the end of the list of that one client. -/
theorem face_addObserver (w : World A) (c : ClientId) (o : ListenerId) (c' : ClientId) :
    face (w.addObserver c o) c' =
      if c = c' then (face w c').map (fun f => (f.1, f.2 ++ [o])) else face w c' := by
  simp only [face, World.addObserver, World.updateClient, Heap.get?_modify]
  split
  · cases w.clients.get? c' <;> rfl
  · rfl

/-- One that leaves is erased from the list of that one client. -/
theorem face_removeObserver (w : World A) (c : ClientId) (o : ListenerId) (c' : ClientId) :
    face (w.removeObserver c o) c' =
      if c = c' then (face w c').map (fun f => (f.1, f.2.erase o)) else face w c' := by
  simp only [face, World.removeObserver, World.updateClient, Heap.get?_modify]
  split
  · cases w.clients.get? c' <;> rfl
  · rfl

/-- `subscribe()` changes no face: the event and the list do not show. -/
theorem face_subscribe {w : World A} {c : ClientId} {cl : Client A}
    (hcl : w.clients.get? c = some cl) (listener : ListenerId) (c' : ClientId) :
    face (w.subscribe c listener).1 c' = face w c' := by
  cases hev : cl.mSubscribeEvent with
  | none =>
      rw [subscribe_open hcl hev]
      exact face_modify (f := fun cl => { cl with mSubscribeEvent := some w.events.next }) rfl
        (fun _ => rfl) (fun _ => rfl) c'
  | some e => rw [subscribe_replay hcl hev]

/-- Destroying a client takes it, and no other, off the heap, with or without an
    event. -/
theorem clients_destroy {w : World A} {c : ClientId} {cl : Client A}
    (hcl : w.clients.get? c = some cl) : (w.destroy c).clients = w.clients.free c := by
  cases hev : cl.mSubscribeEvent with
  | none =>
      rw [destroy_of_none hcl hev]
      rfl
  | some e =>
      rw [destroy_of_some hcl hev]
      rfl

/-- A destroyed client has no face any more, and the others keep theirs. -/
theorem face_destroy {w : World A} {c : ClientId} {cl : Client A}
    (hcl : w.clients.get? c = some cl) (c' : ClientId) :
    face (w.destroy c) c' = if c = c' then none else face w c' := by
  rw [face, clients_destroy hcl, Heap.get?_free]
  split <;> rfl

/-- The end of an event changes no face. -/
theorem face_onSubscriptionStateChanged {S : Sdk A R} {w : World A} (h : AtRest S w)
    (e : EventId) (state : SubscriptionState) (c : ClientId) :
    face (w.onSubscriptionStateChanged e state) c = face w c := by
  rcases stateChanged_cases h e state with hsame | ⟨c₀, -, -, hw⟩
  · rw [hsame]
  · rw [hw]
    exact face_modify (f := fun cl =>
      { cl with mSubscribeEvent := none, mParticipantDevices := [] }) rfl
      (fun _ => rfl) (fun _ => rfl) c

theorem face_onNotifyReceived {S : Sdk A R} {w : World A} (h : AtRest S w) (e : EventId)
    (body : NotifyBody) (c : ClientId) :
    face (w.onNotifyReceived S e body).1 c = face w c := by
  rcases notify_cases h e body with hsame | ⟨c₀, cl, ri, -, -, -, hw⟩
  · rw [hsame]
  · rw [hw]
    exact face_modify (f := fun cl' => { cl' with mParticipantDevices :=
      (Reginfos.Client.onNotifyReceived S (S.asStringUriOnly cl.mTo)
        cl.mParticipantDevices ri).1 }) rfl (fun _ => rfl) (fun _ => rfl) c

end QuietRun
