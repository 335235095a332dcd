import FlexisipConference.QuietRunProofs

/-! # Events over the life of their clients

    `Traced` says what an event has to do with a client, in every state of the
    dispatch machine: no event is forgotten, an event is live (not terminated)
    as long as it carries a client, and it was addressed to that client's
    address.  At rest the live events are therefore the current events of the
    clients alive.

    `Follows` is about two worlds, one later than the other, when nobody but the
    clients themselves ends a subscription: a client that is still alive has
    the event it had before. -/

namespace Events

open Sdks Reginfos Heaps Machines Clients Dispatch QuietRun

variable {A R : Type}

/-- Events are never forgotten, and refer to a client while they are live. -/
structure Traced (w : World A) : Prop where
  made : ∀ e < w.events.next, ∃ ev, w.events.get? e = some ev
  live : ∀ e ev, w.events.get? e = some ev → (ev.terminated = false ↔ ev.data.isSome)
  addressed : ∀ e ev c, w.events.get? e = some ev → ev.data = some c →
    c < w.clients.next ∧ ∀ cl, w.clients.get? c = some cl → cl.mTo = ev.toAddress

theorem traced_init : Traced (World.init : World A) := by
  refine ⟨fun e he => (nomatch he), fun e ev hev => (nomatch hev), fun e ev c hev => (nomatch hev)⟩

/-- Changes of the clients that keep addresses. -/
theorem Traced.congr {w w' : World A} (h : Traced w) (hevents : w'.events = w.events)
    (hnext : w.clients.next ≤ w'.clients.next)
    (hto : ∀ c < w.clients.next, ∀ cl', w'.clients.get? c = some cl' →
      ∃ cl, w.clients.get? c = some cl ∧ cl'.mTo = cl.mTo) : Traced w' := by
  refine ⟨by rw [hevents]; exact h.made, by rw [hevents]; exact h.live,
    fun e ev c hev hdata => ?_⟩
  rw [hevents] at hev
  obtain ⟨hlt, haddress⟩ := h.addressed e ev c hev hdata
  refine ⟨Nat.lt_of_lt_of_le hlt hnext, fun cl' hcl' => ?_⟩
  obtain ⟨cl, hcl, heq⟩ := hto c hlt cl' hcl'
  exact heq.trans (haddress cl hcl)

/-- The address of a client is never changed. -/
theorem Traced.updateClient {w : World A} (h : Traced w) (c : ClientId) {f : Client A → Client A}
    (hf : ∀ cl, (f cl).mTo = cl.mTo) : Traced (w.updateClient c f) := by
  refine h.congr rfl (Heap.next_modify _ _ _).ge (fun c' _ cl' hcl' => ?_)
  change (w.clients.modify c f).get? c' = some cl' at hcl'
  rw [Heap.get?_modify] at hcl'
  split at hcl'
  · obtain ⟨cl, hcl, rfl⟩ := Option.map_eq_some_iff.mp hcl'
    exact ⟨cl, hcl, hf cl⟩
  · exact ⟨cl', hcl', rfl⟩

/-- A new client has no event yet, so nothing is claimed of it. -/
theorem Traced.create {w : World A} (h : Traced w) (address : A) : Traced (w.create address) := by
  have hnext : (w.create address).clients.next = w.clients.next + 1 := Heap.next_alloc _ _
  refine h.congr rfl (by rw [hnext]; exact Nat.le_succ _) (fun c hc cl' hcl' => ?_)
  change (w.clients.alloc _).get? c = some cl' at hcl'
  rw [Heap.get?_alloc, if_neg (Nat.ne_of_lt hc)] at hcl'
  exact ⟨cl', hcl', rfl⟩

/-- A dead client takes its events out of the claim. -/
theorem Traced.free {w : World A} (h : Traced w) (c : ClientId) :
    Traced (World.unregisterClient { w with clients := w.clients.free c }) := by
  refine h.congr rfl (Heap.next_free _ _).ge (fun c' _ cl' hcl' => ?_)
  change (w.clients.free c).get? c' = some cl' at hcl'
  rw [Heap.get?_free] at hcl'
  split at hcl'
  · cases hcl'
  · exact ⟨cl', hcl', rfl⟩

/-- Ending an event keeps its address. -/
theorem Traced.terminate {w : World A} (h : Traced w) (e : EventId) : Traced (w.terminate e) := by
  -- an event is the terminated one, or it is as it was
  have hget : ∀ e' ev', (w.terminate e).events.get? e' = some ev' →
      (ev'.terminated = true ∧ ev'.data = none) ∨ w.events.get? e' = some ev' := by
    intro e' ev' hev'
    change (w.events.modify e _).get? e' = some ev' at hev'
    rw [Heap.get?_modify] at hev'
    split at hev'
    · obtain ⟨ev, -, rfl⟩ := Option.map_eq_some_iff.mp hev'
      exact Or.inl ⟨rfl, rfl⟩
    · exact Or.inr hev'
  refine ⟨fun e' he' => ?_, fun e' ev' hev' => ?_, fun e' ev' c hev' hdata => ?_⟩
  · have hlt : e' < w.events.next := by
      rw [← Heap.next_modify w.events e (fun ev => { ev with data := none, terminated := true })]
      exact he'
    obtain ⟨ev, hev⟩ := h.made e' hlt
    refine Option.isSome_iff_exists.mp ?_
    rw [World.terminate, Heap.isSome_get?_modify, hev]
    rfl
  · rcases hget e' ev' hev' with ⟨hterminated, hdata⟩ | hold
    · rw [hterminated, hdata]
      exact iff_of_false Bool.noConfusion Bool.noConfusion
    · exact h.live e' ev' hold
  · rcases hget e' ev' hev' with ⟨-, hnone⟩ | hold
    · rw [hnone] at hdata
      cases hdata
    · exact h.addressed e' ev' c hold hdata

/-- A new event is sent to the address of its client. -/
theorem Traced.opened {w : World A} (h : Traced w) {c : ClientId} {cl : Client A}
    (hcl : w.clients.get? c = some cl) : Traced (opened w c cl) := by
  have hget : ∀ e, (Dispatch.opened w c cl).events.get? e =
      if e = w.events.next then some ⟨cl.mTo, some c, false⟩ else w.events.get? e :=
    Heap.get?_alloc _ _
  have hclients : (Dispatch.opened w c cl).clients =
      (w.updateClient c (fun cl =>
        { cl with mSubscribeEvent := some w.events.next })).clients := rfl
  have hupdated := h.updateClient c
    (f := fun cl => { cl with mSubscribeEvent := some w.events.next }) (fun _ => rfl)
  refine ⟨fun e he => ?_, fun e ev hev => ?_, fun e ev c' hev hdata => ?_⟩
  · rw [hget]
    by_cases heq : e = w.events.next
    · exact ⟨_, if_pos heq⟩
    · rw [if_neg heq]
      have hnext : (Dispatch.opened w c cl).events.next = w.events.next + 1 := Heap.next_alloc _ _
      rw [hnext] at he
      exact h.made e (Nat.lt_of_le_of_ne (Nat.le_of_lt_succ he) heq)
  · rw [hget] at hev
    split at hev
    · obtain rfl := Option.some.inj hev
      exact iff_of_true rfl rfl
    · exact h.live e ev hev
  · rw [hget] at hev
    split at hev
    · obtain rfl := Option.some.inj hev
      obtain rfl := Option.some.inj hdata
      rw [hclients]
      refine ⟨?_, fun cl' hcl' => ?_⟩
      · rw [World.updateClient, Heap.next_modify]
        exact Heap.lt_next_of_get? hcl
      · rw [World.updateClient, Heap.get?_modify_self, hcl] at hcl'
        obtain rfl := Option.some.inj hcl'
        rfl
    · rw [hclients]
      exact hupdated.addressed e ev c' hev hdata

/-- What a method does after the call that it was inside of. -/
theorem Traced.finish {w : World A} (h : Traced w) (p : Pending) : Traced (w.finish p) := by
  cases p with
  | subscribe c e => exact h
  | unsubscribe c e => exact h.updateClient c (fun _ => rfl)
  | destructor c e => exact h
  | onSubscriptionStateChanged c e => exact h.updateClient c (fun _ => rfl)

theorem Traced.flag {w : World A} (h : Traced w) : Traced { w with ub := true } :=
  ⟨h.made, h.live, h.addressed⟩

/-- A client that hears of a state change at most gives its event up. -/
theorem Traced.beginClientStateChanged {w : World A} (h : Traced w) (c : ClientId) (cl : Client A)
    (state : SubscriptionState) : Traced (w.beginClientStateChanged c cl state).1 := by
  cases state
  case terminated | error =>
    -- these two states close the event, all the others only log
    cases hev : cl.mSubscribeEvent with
    | none => simpa only [World.beginClientStateChanged, hev] using h.flag
    | some e => simpa only [World.beginClientStateChanged, hev] using h.terminate e
  all_goals exact h

/-- `subscribe()` opens an event for the client, or leaves it as it is. -/
theorem Traced.beginSubscribe {w : World A} (h : Traced w) (c : ClientId) (listener : ListenerId) :
    Traced (w.beginSubscribe c listener).1 := by
  cases hcl : w.clients.get? c with
  | none =>
      simp only [World.beginSubscribe, hcl]
      exact h.flag
  | some cl =>
      cases hev : cl.mSubscribeEvent with
      | some e =>
          simp only [World.beginSubscribe, hcl, hev]
          exact h
      | none =>
          simp only [World.beginSubscribe, hcl, hev]
          exact h.opened hcl

/-- `unsubscribe()` ends the event that the client has. -/
theorem Traced.beginUnsubscribe {w : World A} (h : Traced w) (c : ClientId) :
    Traced (w.beginUnsubscribe c).1 := by
  cases hcl : w.clients.get? c with
  | none =>
      simp only [World.beginUnsubscribe, hcl]
      exact h.flag
  | some cl =>
      cases hev : cl.mSubscribeEvent with
      | some e =>
          simp only [World.beginUnsubscribe, hcl, hev]
          exact h.terminate e
      | none =>
          simp only [World.beginUnsubscribe, hcl, hev]
          exact h

/-- So does the destructor. -/
theorem Traced.beginDestroy {w : World A} (h : Traced w) (c : ClientId) :
    Traced (w.beginDestroy c).1 := by
  cases hcl : w.clients.get? c with
  | none =>
      simp only [World.beginDestroy, hcl]
      exact h.flag
  | some cl =>
      cases hev : cl.mSubscribeEvent with
      | some e =>
          simp only [World.beginDestroy, hcl, hev]
          exact (h.free c).terminate e
      | none =>
          simp only [World.beginDestroy, hcl, hev]
          exact h.free c

/-- A state change reaches the client that the event carries, if it is alive. -/
theorem Traced.beginStateChanged {w : World A} (h : Traced w) (e : EventId)
    (state : SubscriptionState) : Traced (w.beginStateChanged e state).1 := by
  rw [World.beginStateChanged]
  cases w.dispatch e with
  | none => exact h
  | some c =>
      cases hcl : w.clients.get? c with
      | none =>
          simp only [hcl]
          exact h.flag
      | some cl =>
          simp only [hcl]
          exact h.beginClientStateChanged c cl state

/-- A NOTIFY changes the list of a client only. -/
theorem Traced.onNotifyReceived {w : World A} (h : Traced w) (S : Sdk A R) (e : EventId)
    (body : NotifyBody) : Traced (w.onNotifyReceived S e body).1 := by
  rw [World.onNotifyReceived]
  cases w.dispatch e with
  | none => exact h
  | some c =>
      cases hcl : w.clients.get? c with
      | none =>
          simp only [hcl]
          exact h.flag
      | some cl =>
          simp only [hcl]
          cases body with
          | null => exact h
          | malformed => exact h
          | reginfo ri =>
              exact h.updateClient c (f := fun cl' => { cl' with
                mParticipantDevices := (Reginfos.Client.onNotifyReceived S
                  (S.asStringUriOnly cl.mTo) cl.mParticipantDevices ri).1 }) (fun _ => rfl)

/-- **Step lemma**: every act of the dispatch machine keeps `Traced`. -/
theorem traced_step (S : Sdk A R) (m : State A) (act : Act A) (h : Traced m.world) :
    Traced (step S m act).world := by
  cases act with
  | create address => exact h.create address
  | addObserver c o =>
      simp only [step]
      split
      · exact h.updateClient c (fun _ => rfl)
      · exact h
  | removeObserver c o =>
      simp only [step]
      split
      · exact h.updateClient c (fun _ => rfl)
      · exact h
  | subscribe c listener =>
      simp only [step]
      split
      · exact h.beginSubscribe c listener
      · exact h
  | unsubscribe c =>
      simp only [step]
      split
      · exact h.beginUnsubscribe c
      · exact h
  | destroy c =>
      simp only [step]
      split
      · exact h.beginDestroy c
      · exact h
  | onSubscriptionStateChanged e state => exact h.beginStateChanged e state
  | onNotifyReceived e body => exact h.onNotifyReceived S e body
  | ret =>
      simp only [step]
      cases m.stack with
      | nil => exact h
      | cons p rest => exact h.finish p

/-- Between the calls of the handler the claim holds. -/
theorem traced_of_atRest {S : Sdk A R} {w : World A} (h : AtRest S w) : Traced w := by
  obtain ⟨acts, rfl, -⟩ := h
  exact Machine.invariant_reach (M := machine S) (I := fun m => Traced m.world) traced_init
    (traced_step S) acts

/-! ## The live events -/

/-- The event is not terminated. -/
def IsLive (w : World A) (e : EventId) : Prop :=
  ∃ ev, w.events.get? e = some ev ∧ ev.terminated = false

/-- **At rest the live events are the current events of the clients alive.** -/
theorem isLive_iff {S : Sdk A R} {w : World A} (h : AtRest S w) {e : EventId} :
    IsLive w e ↔ ∃ c, IsCurrent w c e := by
  constructor
  · rintro ⟨ev, hev, hlive⟩
    obtain ⟨c, hdata⟩ := Option.isSome_iff_exists.mp
      (((traced_of_atRest h).live e ev hev).mp hlive)
    exact ⟨c, h.carries_iff.mp ⟨ev, hev, hdata⟩⟩
  · rintro ⟨c, hcur⟩
    obtain ⟨ev, hev, hdata⟩ := h.carries_iff.mpr hcur
    exact ⟨ev, hev, ((traced_of_atRest h).live e ev hev).mpr (by rw [hdata]; rfl)⟩

/-- A current event was addressed to the address of its client. -/
theorem toAddress_of_isCurrent {S : Sdk A R} {w : World A} (h : AtRest S w) {e : EventId}
    {c : ClientId} {cl : Client A} {ev : Event A} (hcl : w.clients.get? c = some cl)
    (hcur : IsCurrent w c e) (hev : w.events.get? e = some ev) : cl.mTo = ev.toAddress := by
  obtain ⟨ev', hev', hdata⟩ := h.carries_iff.mpr hcur
  rw [hev] at hev'
  obtain rfl := Option.some.inj hev'
  exact ((traced_of_atRest h).addressed e ev c hev hdata).2 cl hcl

/-- At rest a client has one current event, and an event one client. -/
theorem isCurrent_client_inj {S : Sdk A R} {w : World A} (h : AtRest S w) {e : EventId}
    {c c' : ClientId} (hcur : IsCurrent w c e) (hcur' : IsCurrent w c' e) : c = c' :=
  (h.carries_iff.mpr hcur).inj (h.carries_iff.mpr hcur')

/-! ## One world after another -/

/-- The second world comes later: no object is forgotten, a client that is alive
    in both has the event it had, and clients do not come back. -/
structure Follows (w w' : World A) : Prop where
  clients : w.clients.next ≤ w'.clients.next
  events : w.events.next ≤ w'.events.next
  alive : ∀ c < w.clients.next, (face w' c).isSome → (face w c).isSome
  current : ∀ c e, e < w.events.next → (IsCurrent w' c e ↔ IsCurrent w c e ∧ (face w' c).isSome)

/-- A client with an event is alive. -/
theorem isSome_face_of_isCurrent {w : World A} {c : ClientId} {e : EventId}
    (h : IsCurrent w c e) : (face w c).isSome := by
  obtain ⟨cl, hcl, -⟩ := h
  exact isSome_face.mpr ⟨cl, hcl⟩

theorem Follows.refl (w : World A) : Follows w w :=
  ⟨Nat.le_refl _, Nat.le_refl _, fun _ _ hs => hs,
    fun _ _ _ => ⟨fun hcur => ⟨hcur, isSome_face_of_isCurrent hcur⟩, fun h => h.1⟩⟩

theorem Follows.trans {w w' w'' : World A} (h : Follows w w') (h' : Follows w' w'') :
    Follows w w'' := by
  refine ⟨Nat.le_trans h.clients h'.clients, Nat.le_trans h.events h'.events,
    fun c hc hs => h.alive c hc (h'.alive c (Nat.lt_of_lt_of_le hc h.clients) hs),
    fun c e he => ?_⟩
  rw [h'.current c e (Nat.lt_of_lt_of_le he h.events), h.current c e he]
  constructor
  · rintro ⟨⟨hcur, -⟩, hs⟩
    exact ⟨hcur, hs⟩
  · rintro ⟨hcur, hs⟩
    have hlt := Nat.lt_of_lt_of_le (face_lt_next (isSome_face_of_isCurrent hcur)) h.clients
    exact ⟨⟨hcur, h'.alive c hlt hs⟩, hs⟩

/-- Changes that make and end nothing. -/
theorem follows_of_same {w w' : World A} (hclients : w'.clients.next = w.clients.next)
    (hevents : w'.events.next = w.events.next)
    (hface : ∀ c, (face w' c).isSome = (face w c).isSome)
    (hcurrent : ∀ c e, IsCurrent w' c e ↔ IsCurrent w c e) : Follows w w' := by
  refine ⟨hclients.ge, hevents.ge, fun c _ hs => by rw [← hface c]; exact hs, fun c e _ => ?_⟩
  rw [hcurrent, hface]
  exact ⟨fun hcur => ⟨hcur, isSome_face_of_isCurrent hcur⟩, fun h => h.1⟩

/-- A new client has the next number, and no event. -/
theorem follows_create (w : World A) (address : A) : Follows w (w.create address) := by
  have hnext : (w.create address).clients.next = w.clients.next + 1 := Heap.next_alloc _ _
  have hface : ∀ c, c ≠ w.clients.next → face (w.create address) c = face w c := by
    intro c hc
    rw [face_create, if_neg hc]
  refine ⟨by rw [hnext]; exact Nat.le_succ _, Nat.le_refl _, fun c hc hs => ?_, fun c e _ => ?_⟩
  · rw [hface c (Nat.ne_of_lt hc)] at hs
    exact hs
  · rw [isCurrent_create]
    refine ⟨fun hcur => ⟨hcur, ?_⟩, fun h => h.1⟩
    have hs := isSome_face_of_isCurrent hcur
    rw [hface c (Nat.ne_of_lt (face_lt_next hs))]
    exact hs

/-- An observer that joins changes no event. -/
theorem follows_addObserver (w : World A) (c : ClientId) (o : ListenerId) :
    Follows w (w.addObserver c o) := by
  refine follows_of_same (Heap.next_modify _ _ _) rfl (fun c' => ?_)
    (fun _ _ => isCurrent_updateClient (fun _ => rfl))
  rw [face_addObserver]
  split
  · exact Option.isSome_map
  · rfl

theorem follows_removeObserver (w : World A) (c : ClientId) (o : ListenerId) :
    Follows w (w.removeObserver c o) := by
  refine follows_of_same (Heap.next_modify _ _ _) rfl (fun c' => ?_)
    (fun _ _ => isCurrent_updateClient (fun _ => rfl))
  rw [face_removeObserver]
  split
  · exact Option.isSome_map
  · rfl

/-- `subscribe()` on a client alive opens its event, if it has none. -/
theorem follows_subscribe {w : World A} {c : ClientId} {cl : Client A}
    (hcl : w.clients.get? c = some cl) (listener : ListenerId) :
    Follows w (w.subscribe c listener).1 := by
  cases hev : cl.mSubscribeEvent with
  | some e =>
      rw [subscribe_replay hcl hev]
      exact Follows.refl w
  | none =>
      have hface := face_subscribe hcl listener
      rw [subscribe_open hcl hev] at hface ⊢
      have hnext : (opened w c cl).events.next = w.events.next + 1 := Heap.next_alloc _ _
      refine ⟨(Heap.next_modify _ _ _).ge, by rw [hnext]; exact Nat.le_succ _, fun c' _ hs => ?_,
        fun c' e he => ?_⟩
      · rw [← hface c']
        exact hs
      · -- the event that is opened is none of the earlier ones
        rw [isCurrent_opened hcl hev, hface c',
          or_iff_right (fun hnew => Nat.ne_of_lt he hnew.2)]
        exact ⟨fun hcur => ⟨hcur, isSome_face_of_isCurrent hcur⟩, fun h => h.1⟩

/-- After `subscribe()` the client has an event. -/
theorem isCurrent_subscribe {w : World A} {c : ClientId} {cl : Client A}
    (hcl : w.clients.get? c = some cl) (listener : ListenerId) :
    ∃ e, IsCurrent (w.subscribe c listener).1 c e := by
  cases hev : cl.mSubscribeEvent with
  | some e =>
      rw [subscribe_replay hcl hev]
      exact ⟨e, cl, hcl, hev⟩
  | none =>
      rw [subscribe_open hcl hev]
      exact ⟨w.events.next, (isCurrent_opened hcl hev).mpr (Or.inl ⟨rfl, rfl⟩)⟩

theorem isCurrent_terminate {w : World A} {c : ClientId} {e e' : EventId} :
    IsCurrent (w.terminate e') c e ↔ IsCurrent w c e := Iff.rfl

/-- The destructor takes the client and its event away, and nothing else. -/
theorem follows_destroy {w : World A} {c : ClientId} {cl : Client A}
    (hcl : w.clients.get? c = some cl) : Follows w (w.destroy c) := by
  have hcurrent : ∀ c' e, IsCurrent (w.destroy c) c' e ↔ c' ≠ c ∧ IsCurrent w c' e := by
    intro c' e
    cases hev : cl.mSubscribeEvent with
    | none =>
        rw [destroy_of_none hcl hev]
        exact isCurrent_free
    | some e' =>
        rw [destroy_of_some hcl hev, isCurrent_terminate]
        exact isCurrent_free
  have hevents : (w.destroy c).events.next = w.events.next := by
    cases hev : cl.mSubscribeEvent with
    | none =>
        rw [destroy_of_none hcl hev]
        rfl
    | some e' =>
        rw [destroy_of_some hcl hev]
        exact Heap.next_modify _ _ _
  have hnext : (w.destroy c).clients.next = w.clients.next := by
    rw [clients_destroy hcl, Heap.next_free]
  refine ⟨hnext.ge, hevents.ge, fun c' _ hs => ?_, fun c' e _ => ?_⟩
  · rw [face_destroy hcl] at hs
    split at hs
    · cases hs
    · exact hs
  · rw [hcurrent, face_destroy hcl]
    by_cases hc : c = c'
    · rw [if_pos hc]
      exact iff_of_false (fun h => h.1 hc.symm) (fun h => (nomatch h.2))
    · rw [if_neg hc]
      exact ⟨fun h => ⟨h.2, isSome_face_of_isCurrent h.2⟩, fun h => ⟨Ne.symm hc, h.1⟩⟩

end Events
