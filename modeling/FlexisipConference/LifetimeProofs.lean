import FlexisipConference.EventProofs
import FlexisipConference.HandlerStepProofs

/-! # The life of the shared clients

    A client is held by the subscriptions that point to it, remembered weakly
    by the clients store, counted by its factory, and has its event ended by
    its destructor.  Over every sequence of calls of the handler the four agree:
    a client is alive as long as an entry of the store points to it, its event
    is live as long as it is, and what comes after its death is a new client
    with a new event. -/

namespace Lifetime

open Sdks Heaps Machines Clients Dispatch QuietRun Events Subscriptions Handlers Invariants
open HandlerSteps

variable {A R : Type}

/-- The calls of the handler. -/
inductive Call (A R : Type) where
  | subscribe (chatRoom : R) (address : A)
  | unsubscribe (chatRoom : R) (address : A)
  | unsubscribeAll

def Call.op : Call A R → Op A R
  | .subscribe chatRoom address => .subscribe chatRoom address
  | .unsubscribe chatRoom address => .unsubscribe chatRoom address
  | .unsubscribeAll => .unsubscribeAll

/-- The machine of the handler, when only the handler is called. -/
def callMachine [DecidableEq R] (S : Sdk A R) (server : ConferenceServer) :
    Machine (System A R) (Call A R) where
  init := System.init
  step sys call := step S server sys call.op

/-- An external subscription in the store points to the client. -/
def Referenced (sys : System A R) (c : ClientId) : Prop :=
  ∃ s ∈ stored sys, ∃ sub, sys.subs.get? s = some (.external sub) ∧ sub.mClient = c

/-- Referenced is a client that a subscription in the store points to. -/
theorem referenced_iff {sys : System A R} {c : ClientId} :
    Referenced sys c ↔ ∃ s ∈ stored sys, clientOf sys s = some c := by
  simp only [Referenced, clientOf_eq_some_iff]

/-- **A client is alive exactly when the store references it.** -/
theorem alive_iff_referenced {S : Sdk A R} {sys : System A R} (h : Sound S sys) {c : ClientId} :
    (∃ cl, sys.world.clients.get? c = some cl) ↔ Referenced sys c := by
  rw [referenced_iff]
  exact h.inv.owned.alive_iff

/-- **External subscriptions share a client exactly when their addresses have
    the same ordered URI.** -/
theorem same_client_iff {S : Sdk A R} {sys : System A R} (h : Sound S sys) {s s' : SubscriptionId}
    (hs : s ∈ stored sys) (hs' : s' ∈ stored sys)
    {sub sub' : ExternalRegistrationSubscription A R}
    (hsub : sys.subs.get? s = some (.external sub))
    (hsub' : sys.subs.get? s' = some (.external sub')) :
    sub.mClient = sub'.mClient ↔
      S.asStringUriOnlyOrdered sub.mParticipant = S.asStringUriOnlyOrdered sub'.mParticipant := by
  obtain ⟨cl, hcl⟩ := h.inv.owned.client_alive hs (clientOf_external hsub)
  obtain ⟨cl', hcl'⟩ := h.inv.owned.client_alive hs' (clientOf_external hsub')
  have hf : face sys.world sub.mClient = some (cl.mTo, cl.observers) :=
    face_eq_some_iff.mpr ⟨cl, hcl, rfl, rfl⟩
  have hf' : face sys.world sub'.mClient = some (cl'.mTo, cl'.observers) :=
    face_eq_some_iff.mpr ⟨cl', hcl', rfl, rfl⟩
  have hord := h.inv.owned.served s hs sub hsub _ _ hf
  have hord' := h.inv.owned.served s' hs' sub' hsub' _ _ hf'
  constructor
  · intro heq
    rw [heq, hf'] at hf
    obtain ⟨hto, -⟩ := Prod.mk.inj (Option.some.inj hf)
    rw [← hord, ← hord', hto]
  · intro heq
    exact h.inv.owned.ordered_inj hf hf' ((hord.trans heq).trans hord'.symm)

/-! ## The worlds of the primitive steps -/

/-- Starting an own subscription is no business of the clients. -/
theorem world_start_own (S : Sdk A R) {sys : System A R} {s : SubscriptionId}
    {sub : OwnRegistrationSubscription A R} (hs : sys.subs.get? s = some (.own sub)) :
    (sys.start S s).world = sys.world := by
  rw [start_writeOwn S hs]
  exact (writeOwn_frame { sys with log := sys.log ++ [.started s] } s (sub.start S)).2.2.2

/-- An external one attaches itself to its client, and subscribes. -/
theorem world_start_external (S : Sdk A R) {sys : System A R} {s : SubscriptionId}
    {sub : ExternalRegistrationSubscription A R} (hs : sys.subs.get? s = some (.external sub)) :
    (sys.start S s).world =
      ((sys.world.addObserver sub.mClient s).subscribe sub.mClient s).1 := by
  rw [start_external S hs]
  rfl

/-- The second world follows the first and has no new client. -/
def Declines (w w' : World A) : Prop := Follows w w' ∧ w'.clients.next = w.clients.next

theorem Declines.refl (w : World A) : Declines w w := ⟨Follows.refl w, rfl⟩

theorem Declines.trans {w w' w'' : World A} (h : Declines w w') (h' : Declines w' w'') :
    Declines w w'' :=
  ⟨h.1.trans h'.1, h'.2.trans h.2⟩

/-- A relation between worlds that the two things done to the clients when
    subscriptions are taken down keep. -/
structure Teardown (Rel : World A → World A → Prop) : Prop where
  refl : ∀ w, Rel w w
  trans : ∀ {w w' w''}, Rel w w' → Rel w' w'' → Rel w w''
  removeObserver : ∀ w c o, Rel w (w.removeObserver c o)
  destroy : ∀ {w c cl}, w.clients.get? c = some cl → Rel w (w.destroy c)

namespace Teardown

variable {Rel : World A → World A → Prop}

/-- Stopping a subscription takes an observer off at most. -/
theorem stop (hrel : Teardown Rel) (S : Sdk A R) (sys : System A R) (s : SubscriptionId) :
    Rel sys.world (sys.stop S s).world := by
  cases hs : sys.subs.get? s with
  | none =>
      rw [stop_none S hs]
      exact hrel.refl _
  | some sub =>
      cases sub with
      | own sub =>
          rw [stop_writeOwn S hs,
            (writeOwn_frame { sys with log := sys.log ++ [.stopped s] } s (sub.stop S)).2.2.2]
          exact hrel.refl _
      | external sub =>
          rw [stop_external S hs]
          exact hrel.removeObserver _ _ _

/-- Giving up a subscription destroys its client at most. -/
theorem release (hrel : Teardown Rel) {S : Sdk A R} {sys : System A R}
    {listening owning : List SubscriptionId} {s : SubscriptionId}
    (h : Inv S sys listening (s :: owning)) :
    Rel sys.world (sys.releaseSubscription s).world := by
  rw [System.releaseSubscription]
  split
  · rename_i sub hsub
    obtain ⟨cl, hcl⟩ := h.owned.client_alive (List.mem_cons_self ..) (clientOf_external hsub)
    rw [world_releaseClient]
    split
    · exact hrel.destroy hcl
    · exact hrel.refl _
  · exact hrel.refl _

/-- Subscription by subscription. -/
theorem stopAll (hrel : Teardown Rel) (S : Sdk A R) :
    ∀ (l : List SubscriptionId) (sys : System A R),
      Rel sys.world (l.foldl (System.stop S) sys).world := by
  intro l
  induction l with
  | nil => intro sys; exact hrel.refl _
  | cons s l ih => intro sys; exact hrel.trans (hrel.stop S sys s) (ih _)

/-- Owner by owner, each of which is owned until its turn. -/
theorem releaseAll (hrel : Teardown Rel) (S : Sdk A R) :
    ∀ (l : List SubscriptionId) (sys : System A R), Inv S sys [] l →
      Rel sys.world (l.foldl System.releaseSubscription sys).world := by
  intro l
  induction l with
  | nil => intro sys _; exact hrel.refl _
  | cons s l ih =>
      intro sys h
      exact hrel.trans (hrel.release h) (ih _ (h.release List.not_mem_nil))

/-- Dropping an entry: the stop, and then the release. -/
theorem dropEntry (hrel : Teardown Rel) {S : Sdk A R} {sys : System A R} (h : Sound S sys)
    {entry : String × SubscriptionId} (hin : entry ∈ sys.mSubscriptions) :
    Rel sys.world (dropEntry S sys entry).world := by
  have hperm := stored_perm_erase hin
  exact hrel.trans (hrel.stop S sys entry.2)
    (hrel.release ((h.inv.perm hperm hperm).stop.frame
      ((sys.stop S entry.2).mSubscriptions.erase entry) (sys.stop S entry.2).log))

/-- `unsubscribeAll`: all stops, and then all releases. -/
theorem unsubscribeAll (hrel : Teardown Rel) {S : Sdk A R} {sys : System A R}
    (h : Sound S sys) : Rel sys.world (sys.unsubscribeAll S).world := by
  obtain ⟨hstopped, -, -⟩ := HandlerSteps.stopAll S (stored sys) sys h.inv
  exact hrel.trans (hrel.stopAll S (stored sys) sys)
    (hrel.releaseAll S (stored sys) _ (hstopped.frame [] _))

end Teardown

/-- Taking observers off and destroying clients leads to a decline. -/
theorem teardown_declines : Teardown (A := A) Declines where
  refl := Declines.refl
  trans := Declines.trans
  removeObserver := fun w c o => ⟨follows_removeObserver w c o, Heap.next_modify _ _ _⟩
  destroy := fun hcl => ⟨follows_destroy hcl, by
    rw [clients_destroy hcl]
    exact Heap.next_free _ _⟩

/-- An unsubscribe leads to a decline. -/
theorem declines_dropEntry {S : Sdk A R} {sys : System A R} (h : Sound S sys)
    {entry : String × SubscriptionId} (hin : entry ∈ sys.mSubscriptions) :
    Declines sys.world (dropEntry S sys entry).world :=
  teardown_declines.dropEntry h hin

/-- So does `unsubscribeAll`. -/
theorem declines_unsubscribeAll {S : Sdk A R} {sys : System A R} (h : Sound S sys) :
    Declines sys.world (sys.unsubscribeAll S).world :=
  teardown_declines.unsubscribeAll h

/-! ## The world after subscribe -/

/-- The client that an external subscription gets is alive under the ordered
    URI of the address; getting it changes no other client. -/
theorem acquired {S : Sdk A R} {sys : System A R} {owning : List SubscriptionId}
    (h : Owned S sys owning) (address : A) :
    Follows sys.world (sys.acquireClient S address).1.world ∧
    (∃ cl, (sys.acquireClient S address).1.world.clients.get?
        (sys.acquireClient S address).2 = some cl ∧
      S.asStringUriOnlyOrdered cl.mTo = S.asStringUriOnlyOrdered address) ∧
    ∀ c, (face (sys.acquireClient S address).1.world c).isSome →
      (face sys.world c).isSome ∨ c = (sys.acquireClient S address).2 := by
  rcases acquire_cases h address with ⟨c, address', obs, hf, hord, hacq⟩ | ⟨-, hacq⟩
  · rw [hacq]
    obtain ⟨cl, hcl, rfl, -⟩ := face_eq_some_iff.mp hf
    exact ⟨Follows.refl _, ⟨cl, hcl, hord⟩, fun c' hs => Or.inl hs⟩
  · rw [hacq]
    refine ⟨follows_create _ _, ⟨⟨address, none, [], []⟩, Heap.get?_alloc_self _ _, rfl⟩,
      fun c hs => ?_⟩
    rw [face_newClient] at hs
    by_cases hc : c = sys.world.clients.next
    · exact Or.inr hc
    · rw [if_neg hc] at hs
      exact Or.inl hs

/-- Every client alive has an event. -/
def Opened (w : World A) : Prop := ∀ c, (face w c).isSome → ∃ e, IsCurrent w c e

/-- Clients keep their events while they live, so only the new ones have to be
    looked at. -/
theorem Opened.follows {S : Sdk A R} {w w' : World A} (h : Opened w) (hrest : AtRest S w)
    (hf : Follows w w')
    (hnew : ∀ c, (face w' c).isSome → w.clients.next ≤ c → ∃ e, IsCurrent w' c e) : Opened w' := by
  intro c hs
  by_cases hc : c < w.clients.next
  · obtain ⟨e, hcur⟩ := h c (hf.alive c hc hs)
    exact ⟨e, (hf.current c e (hrest.linked.known c e hcur)).mpr ⟨hcur, hs⟩⟩
  · exact hnew c hs (Nat.le_of_not_lt hc)

/-- A decline makes no client. -/
theorem Opened.declines {S : Sdk A R} {w w' : World A} (h : Opened w) (hrest : AtRest S w)
    (hd : Declines w w') : Opened w' := by
  refine h.follows hrest hd.1 (fun c hs hle => ?_)
  have hlt := face_lt_next hs
  rw [hd.2] at hlt
  exact absurd hlt (Nat.not_lt.mpr hle)

/-- Nothing is left of the clients when the store is empty. -/
theorem unsubscribeAll_releases {S : Sdk A R} {sys : System A R} (h : Sound S sys) :
    (∀ c, (sys.unsubscribeAll S).world.clients.get? c = none) ∧
      (∀ e, ¬ IsLive (sys.unsubscribeAll S).world e) ∧
      (sys.unsubscribeAll S).world.coreListeners = 0 := by
  obtain ⟨hall, hempty, -⟩ := h.unsubscribeAll
  have hdead : ∀ c, (sys.unsubscribeAll S).world.clients.get? c = none := by
    intro c
    cases hcl : (sys.unsubscribeAll S).world.clients.get? c with
    | none => rfl
    | some cl =>
        obtain ⟨s, hs, -⟩ := (alive_iff_referenced hall).mp ⟨cl, hcl⟩
        rw [stored, hempty] at hs
        cases hs
  refine ⟨hdead, fun e hlive => ?_, ?_⟩
  · obtain ⟨c, cl, hcl, -⟩ := (isLive_iff hall.inv.rest).mp hlive
    rw [hdead c] at hcl
    cases hcl
  · have hacc := hall.inv.rest.accounted
    rw [hacc.listening, hacc.counted, Heap.liveCount_eq_zero hdead]
    rfl

/-- The external subscription that `subscribe` has just stored. -/
theorem get?_added_external {S : Sdk A R} {sys : System A R} {owning : List SubscriptionId}
    (h : Owned S sys owning) (server : ConferenceServer) (chatRoom : R) (address : A) :
    ((sys.createExternal S server chatRoom address).addSubscription S address
      sys.subs.next).subs.get? sys.subs.next =
      some (.external (ExternalRegistrationSubscription.make server.capabilityCheckEnabled
        chatRoom address (sys.acquireClient S address).2)) := by
  show (sys.createExternal S server chatRoom address).subs.get? _ = _
  rw [(createExternal_frame h server chatRoom address).1, Heap.get?_alloc_self]

section Calls

variable [DecidableEq R]

/-- The subscribe of a local participant is no business of the clients. -/
theorem world_subscribe_own (S : Sdk A R) (server : ConferenceServer) {sys : System A R}
    {chatRoom : R} {address : A} (hfind : sys.findSubscription S chatRoom address = false)
    (hlocal : S.getDomain address ∈ server.localDomains) :
    (sys.subscribe S server chatRoom address).world = sys.world := by
  rw [subscribe_local S hfind hlocal]
  exact world_start_own S (Heap.get?_alloc_self _ _)

/-- That of another participant starts the new subscription on the client that it
    acquires. -/
theorem world_subscribe_external {S : Sdk A R} (server : ConferenceServer) {sys : System A R}
    {owning : List SubscriptionId} (h : Owned S sys owning) {chatRoom : R} {address : A}
    (hfind : sys.findSubscription S chatRoom address = false)
    (hlocal : S.getDomain address ∉ server.localDomains) :
    (sys.subscribe S server chatRoom address).world =
      (((sys.acquireClient S address).1.world.addObserver (sys.acquireClient S address).2
        sys.subs.next).subscribe (sys.acquireClient S address).2 sys.subs.next).1 := by
  rw [subscribe_remote S hfind hlocal, System.startSubscription,
    world_start_external S (get?_added_external h server chatRoom address)]
  rfl

/-- `subscribe` makes at most one client, and that one has an event. -/
theorem follows_subscribe_call {S : Sdk A R} (server : ConferenceServer) {sys : System A R}
    (h : Sound S sys) (chatRoom : R) (address : A) :
    Follows sys.world (sys.subscribe S server chatRoom address).world ∧
      ∀ c, (face (sys.subscribe S server chatRoom address).world c).isSome →
        sys.world.clients.next ≤ c →
          ∃ e, IsCurrent (sys.subscribe S server chatRoom address).world c e := by
  have hold : ∀ c, (face sys.world c).isSome → ¬ sys.world.clients.next ≤ c :=
    fun c hs => Nat.not_le.mpr (face_lt_next hs)
  cases hfind : sys.findSubscription S chatRoom address with
  | true =>
      rw [subscribe_found S server hfind]
      exact ⟨Follows.refl _, fun c hs hle => absurd hle (hold c hs)⟩
  | false =>
      by_cases hlocal : S.getDomain address ∈ server.localDomains
      · rw [world_subscribe_own S server hfind hlocal]
        exact ⟨Follows.refl _, fun c hs hle => absurd hle (hold c hs)⟩
      · rw [world_subscribe_external server h.inv.owned hfind hlocal]
        obtain ⟨hfollows, ⟨cl, hcl, -⟩, halive⟩ := acquired h.inv.owned address
        have hobs := get?_addObserver hcl sys.subs.next
        refine ⟨(hfollows.trans (follows_addObserver _ _ _)).trans (follows_subscribe hobs _),
          fun c hs hle => ?_⟩
        rw [face_subscribe hobs, face_addObserver] at hs
        have hs' : (face (sys.acquireClient S address).1.world c).isSome := by
          split at hs
          · rw [Option.isSome_map] at hs
            exact hs
          · exact hs
        rcases halive c hs' with hs | rfl
        · exact absurd hle (hold c hs)
        · exact isCurrent_subscribe hobs _

/-- A call of the handler ends no event of a client that stays alive, and leaves
    no client without an event. -/
theorem follows_call (S : Sdk A R) (server : ConferenceServer) {sys : System A R}
    (h : Sound S sys) (call : Call A R) :
    Follows sys.world (step S server sys call.op).world ∧
      (Opened sys.world → Opened (step S server sys call.op).world) := by
  have hdeclines : ∀ {sys' : System A R}, Declines sys.world sys'.world →
      Follows sys.world sys'.world ∧ (Opened sys.world → Opened sys'.world) :=
    fun hd => ⟨hd.1, fun ho => ho.declines h.inv.rest hd⟩
  cases call with
  | subscribe chatRoom address =>
      obtain ⟨hf, hnew⟩ := follows_subscribe_call server h chatRoom address
      exact ⟨hf, fun ho => ho.follows h.inv.rest hf hnew⟩
  | unsubscribe chatRoom address =>
      have hd : Declines sys.world (sys.unsubscribe S chatRoom address).world := by
        rcases unsubscribe_cases h chatRoom address with ⟨-, hsame⟩ | ⟨entry, hin, -, -, hdrop⟩
        · rw [hsame]
          exact Declines.refl _
        · rw [hdrop]
          exact declines_dropEntry h hin
      exact hdeclines hd
  | unsubscribeAll => exact hdeclines (declines_unsubscribeAll h)

/-- What each call keeps, every sequence of calls keeps. -/
theorem follows_run (S : Sdk A R) (server : ConferenceServer) {sys : System A R}
    (h : Sound S sys) (ho : Opened sys.world) (calls : List (Call A R)) :
    Sound S ((callMachine S server).run sys calls) ∧
      Opened ((callMachine S server).run sys calls).world ∧
      Follows sys.world ((callMachine S server).run sys calls).world :=
  Machine.invariant_run (M := callMachine S server)
    (I := fun sys' => Sound S sys' ∧ Opened sys'.world ∧ Follows sys.world sys'.world)
    (fun sys' call h' => by
      obtain ⟨hf, ho'⟩ := follows_call S server h'.1 call
      exact ⟨sound_step S server sys' call.op h'.1, ho' h'.2.1, h'.2.2.trans hf⟩)
    calls sys ⟨h, ho, Follows.refl _⟩

/-- **A fresh client.** A subscribe for an external participant whose ordered
    URI no live client has makes a new client with a new event, whatever the
    clients store remembers. -/
theorem subscribe_fresh {S : Sdk A R} (server : ConferenceServer) {sys : System A R}
    (h : Sound S sys) {chatRoom : R} {address : A}
    (hfind : sys.findSubscription S chatRoom address = false)
    (hlocal : S.getDomain address ∉ server.localDomains)
    (hnone : ∀ c cl, sys.world.clients.get? c = some cl →
      S.asStringUriOnlyOrdered cl.mTo ≠ S.asStringUriOnlyOrdered address) :
    clientOf (sys.subscribe S server chatRoom address) sys.subs.next =
        some sys.world.clients.next ∧
      (∃ cl, (sys.subscribe S server chatRoom address).world.clients.get?
        sys.world.clients.next = some cl ∧ cl.mTo = address) ∧
      IsCurrent (sys.subscribe S server chatRoom address).world sys.world.clients.next
        sys.world.events.next := by
  -- a live client with the ordered URI would be one of those excluded
  have hacq : sys.acquireClient S address = sys.newClient S address := by
    rcases acquire_cases h.inv.owned address with ⟨c, address', obs, hf, hord, -⟩ | ⟨-, hacq⟩
    · obtain ⟨cl, hcl, rfl, -⟩ := face_eq_some_iff.mp hf
      exact absurd hord (hnone c cl hcl)
    · exact hacq
  have hworld := world_subscribe_external server h.inv.owned hfind hlocal
  rw [hacq] at hworld
  have hcl : (sys.newClient S address).1.world.clients.get? sys.world.clients.next =
      some ⟨address, none, [], []⟩ := Heap.get?_alloc_self _ _
  have hobs := get?_addObserver hcl sys.subs.next
  have hcur : (sys.subscribe S server chatRoom address).world =
      opened ((sys.newClient S address).1.world.addObserver sys.world.clients.next sys.subs.next)
        sys.world.clients.next ⟨address, none, [], [] ++ [sys.subs.next]⟩ := by
    rw [hworld]
    exact congrArg Prod.fst (subscribe_open hobs rfl sys.subs.next)
  refine ⟨?_, ?_, ?_⟩
  · rcases subscribe_cases S server h chatRoom address with
      ⟨hfound, -⟩ | ⟨-, hin, -, -⟩ | ⟨-, -, hadd, -⟩
    · rw [hfind] at hfound
      cases hfound
    · exact absurd hin hlocal
    · rw [clientOf, hadd.subject, if_pos rfl, hacq]
      rfl
  · have hface : face (sys.subscribe S server chatRoom address).world sys.world.clients.next =
        some (address, [] ++ [sys.subs.next]) := by
      have hsame := face_subscribe hobs sys.subs.next sys.world.clients.next
      rw [hworld]
      refine hsame.trans ?_
      exact face_eq_some_iff.mpr ⟨_, hobs, rfl, rfl⟩
    obtain ⟨cl, hcl', hto, -⟩ := face_eq_some_iff.mp hface
    exact ⟨cl, hcl', hto⟩
  · rw [hcur]
    exact (isCurrent_opened hobs rfl).mpr (Or.inl ⟨rfl, rfl⟩)

/-- **The life of the shared clients**, after every sequence of calls of the
    handler.  The clients alive are those that the store references; the external
    subscriptions with the same ordered URI share one, and no two live ones have
    the same.  Each has a live event, and, however the calls go on, that event is
    live exactly as long as the store references the client.  A subscribe for a
    URI that no live client has makes a new client and a new event; and
    unsubscribeAll leaves no client, no live event and nothing on the Core. -/
theorem client_lifetime (S : Sdk A R) (server : ConferenceServer) (calls : List (Call A R)) :
    let sys := (callMachine S server).reach calls
    (∀ c, (∃ cl, sys.world.clients.get? c = some cl) ↔ Referenced sys c) ∧
    (∀ s ∈ stored sys, ∀ s' ∈ stored sys, ∀ sub sub', sys.subs.get? s = some (.external sub) →
      sys.subs.get? s' = some (.external sub') → (sub.mClient = sub'.mClient ↔
        S.asStringUriOnlyOrdered sub.mParticipant = S.asStringUriOnlyOrdered sub'.mParticipant)) ∧
    (∀ c c' cl cl', sys.world.clients.get? c = some cl → sys.world.clients.get? c' = some cl' →
      S.asStringUriOnlyOrdered cl.mTo = S.asStringUriOnlyOrdered cl'.mTo → c = c') ∧
    (∀ c cl, sys.world.clients.get? c = some cl → ∃ e, cl.mSubscribeEvent = some e ∧
      ∀ later, IsLive ((callMachine S server).run sys later).world e ↔
        Referenced ((callMachine S server).run sys later) c) ∧
    (∀ chatRoom address, sys.findSubscription S chatRoom address = false →
      S.getDomain address ∉ server.localDomains →
      (∀ c cl, sys.world.clients.get? c = some cl →
        S.asStringUriOnlyOrdered cl.mTo ≠ S.asStringUriOnlyOrdered address) →
      let sys' := step S server sys (.subscribe chatRoom address)
      clientOf sys' sys.subs.next = some sys.world.clients.next ∧
        (∃ cl, sys'.world.clients.get? sys.world.clients.next = some cl ∧ cl.mTo = address) ∧
        IsCurrent sys'.world sys.world.clients.next sys.world.events.next) ∧
    (let off := step S server sys .unsubscribeAll
     (∀ c, off.world.clients.get? c = none) ∧ (∀ e, ¬ IsLive off.world e) ∧
       off.world.coreListeners = 0) := by
  intro sys
  have hrun := follows_run S server (Sound.init S) (fun c hs => (nomatch hs)) calls
  have h : Sound S sys := hrun.1
  have ho : Opened sys.world := hrun.2.1
  refine ⟨fun c => alive_iff_referenced h, fun s hs s' hs' sub sub' hsub hsub' =>
    same_client_iff h hs hs' hsub hsub', fun c c' cl cl' hcl hcl' hord => ?_,
    fun c cl hcl => ?_, fun chatRoom address hfind hlocal hnone =>
      subscribe_fresh server h hfind hlocal hnone, unsubscribeAll_releases h⟩
  · exact h.inv.owned.ordered_inj (face_eq_some_iff.mpr ⟨cl, hcl, rfl, rfl⟩)
      (face_eq_some_iff.mpr ⟨cl', hcl', rfl, rfl⟩) hord
  · obtain ⟨e, hcur⟩ := ho c (isSome_face.mpr ⟨cl, hcl⟩)
    refine ⟨e, (isCurrent_iff_of_get? hcl e).mp hcur, fun later => ?_⟩
    obtain ⟨h', -, hfollows⟩ := follows_run S server h ho later
    -- later, `e` is current for nobody but `c`, and for `c` while it is alive
    have hcurrent := fun c' => hfollows.current c' e (h.inv.rest.linked.known c e hcur)
    rw [← alive_iff_referenced h', ← isSome_face, isLive_iff h'.inv.rest]
    constructor
    · rintro ⟨c', hcur'⟩
      obtain ⟨hold, hs⟩ := (hcurrent c').mp hcur'
      rw [isCurrent_client_inj h.inv.rest hcur hold]
      exact hs
    · exact fun hs => ⟨c, (hcurrent c).mpr ⟨hcur, hs⟩⟩

end Calls

end Lifetime
