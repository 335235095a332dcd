import Mathlib.Data.List.Count
import Mathlib.Data.List.Perm.Basic
import FlexisipConference.QuietRunProofs
import FlexisipConference.HandlerProofs

/-! # Who listens, and who owns the clients

    Between two operations of the handler the subscriptions that listen and
    those that own a client are the same: the ones in the store.  Inside an
    operation they are not, because a subscription is made, started, stopped
    and released in separate steps.  The invariant therefore has two lists: the
    LISTENING subscriptions (started and not yet stopped) and the OWNING ones
    (made and not yet released).

    Each primitive step puts one subscription on one of the lists or takes one
    off, and has one lemma that says so; the operations of the handler are
    sequences of such steps. -/

namespace Invariants

open Sdks Heaps Clients QuietRun Subscriptions Handlers

variable {A R : Type}

/-- A subscription without its `mActive`: no method changes the rest. -/
def fixed : Subscription A R → Subscription A R
  | .own sub => .own { sub with mActive := false }
  | .external sub => .external sub

/-- What is fixed about a subscription, once it is made. -/
def subject (sys : System A R) (s : SubscriptionId) : Option (Subscription A R) :=
  (sys.subs.get? s).map fixed

/-- The client that a subscription of the external kind points to. -/
def client? : Subscription A R → Option ClientId
  | .own _ => none
  | .external sub => some sub.mClient

/-- The registrar key under which a subscription of the own kind listens. -/
def registrarKey? (S : Sdk A R) : Subscription A R → Option String
  | .own sub => sub.mParticipantAor.map S.recordKey
  | .external _ => none

def clientOf (sys : System A R) (s : SubscriptionId) : Option ClientId :=
  (subject sys s).bind client?

def keyOf (S : Sdk A R) (sys : System A R) (s : SubscriptionId) : Option String :=
  (subject sys s).bind (registrarKey? S)

/-- The `mActive` of a subscription; the external kind has none. -/
def isActive (sys : System A R) (s : SubscriptionId) : Bool :=
  match sys.subs.get? s with
  | some (.own sub) => sub.mActive
  | _ => false

theorem clientOf_own {sys : System A R} {s : SubscriptionId}
    {sub : OwnRegistrationSubscription A R} (hs : sys.subs.get? s = some (.own sub)) :
    clientOf sys s = none := by
  simp [clientOf, subject, hs, fixed, client?]

theorem clientOf_external {sys : System A R} {s : SubscriptionId}
    {sub : ExternalRegistrationSubscription A R} (hs : sys.subs.get? s = some (.external sub)) :
    clientOf sys s = some sub.mClient := by
  simp [clientOf, subject, hs, fixed, client?]

/-- An own subscription listens under the key of its AOR, if that was parsed. -/
theorem keyOf_own (S : Sdk A R) {sys : System A R} {s : SubscriptionId}
    {sub : OwnRegistrationSubscription A R} (hs : sys.subs.get? s = some (.own sub)) :
    keyOf S sys s = sub.mParticipantAor.map S.recordKey := by
  simp [keyOf, subject, hs, fixed, registrarKey?]

/-- An external one has no registrar key. -/
theorem keyOf_external (S : Sdk A R) {sys : System A R} {s : SubscriptionId}
    {sub : ExternalRegistrationSubscription A R} (hs : sys.subs.get? s = some (.external sub)) :
    keyOf S sys s = none := by
  simp [keyOf, subject, hs, fixed, registrarKey?]

theorem clientOf_eq_some_iff {sys : System A R} {s : SubscriptionId} {c : ClientId} :
    clientOf sys s = some c ↔ ∃ sub, sys.subs.get? s = some (.external sub) ∧ sub.mClient = c := by
  cases hs : sys.subs.get? s with
  | none => simp [clientOf, subject, hs]
  | some sub =>
      cases sub with
      | own sub => simp [clientOf_own hs]
      | external sub => simp [clientOf_external hs]

theorem keyOf_eq_some_iff {S : Sdk A R} {sys : System A R} {s : SubscriptionId} {k : String} :
    keyOf S sys s = some k ↔ ∃ sub, sys.subs.get? s = some (.own sub) ∧
      sub.mParticipantAor.map S.recordKey = some k := by
  cases hs : sys.subs.get? s with
  | none => simp [keyOf, subject, hs]
  | some sub =>
      cases sub with
      | own sub => simp [keyOf_own S hs]
      | external sub => simp [keyOf_external S hs]

theorem subject_congr {sys sys' : System A R} (h : sys'.subs = sys.subs) :
    subject sys' = subject sys := by
  funext s
  rw [subject, subject, h]

theorem clientOf_congr {sys sys' : System A R} {s : SubscriptionId}
    (h : subject sys' s = subject sys s) : clientOf sys' s = clientOf sys s := by
  rw [clientOf, clientOf, h]

theorem keyOf_congr (S : Sdk A R) {sys sys' : System A R} {s : SubscriptionId}
    (h : subject sys' s = subject sys s) : keyOf S sys' s = keyOf S sys s := by
  rw [keyOf, keyOf, h]

theorem clientOf_of_subject {sys sys' : System A R} (h : subject sys' = subject sys) :
    clientOf sys' = clientOf sys :=
  funext fun s => clientOf_congr (congrFun h s)

theorem keyOf_of_subject (S : Sdk A R) {sys sys' : System A R} (h : subject sys' = subject sys) :
    keyOf S sys' = keyOf S sys :=
  funext fun s => keyOf_congr S (congrFun h s)

theorem getChatRoom_eq (sys : System A R) (s : SubscriptionId) :
    sys.getChatRoom s = (subject sys s).map (fun sub => sub.base.mChatRoom) := by
  rw [System.getChatRoom, subject]
  cases sys.subs.get? s with
  | none => rfl
  | some sub => cases sub <;> rfl

/-- Writing `mActive` leaves what is fixed. -/
theorem subject_setActive {sys sys' : System A R} {s : SubscriptionId}
    {sub : OwnRegistrationSubscription A R} (hs : sys.subs.get? s = some (.own sub))
    (active : Bool)
    (h : sys'.subs = sys.subs.modify s (fun _ => .own { sub with mActive := active })) :
    subject sys' = subject sys := by
  funext s'
  simp only [subject]
  rw [h, Heap.get?_modify]
  split
  · rename_i heq
    rw [← heq, hs]
    rfl
  · rfl

/-- It is the activity of that one subscription that changes. -/
theorem isActive_setActive {sys sys' : System A R} {s : SubscriptionId}
    {sub : OwnRegistrationSubscription A R} (hs : sys.subs.get? s = some (.own sub))
    (active : Bool)
    (h : sys'.subs = sys.subs.modify s (fun _ => .own { sub with mActive := active }))
    (s' : SubscriptionId) :
    isActive sys' s' = if s = s' then active else isActive sys s' := by
  simp only [isActive]
  rw [h, Heap.get?_modify]
  by_cases heq : s = s'
  · rw [if_pos heq, if_pos heq, ← heq, hs]
    rfl
  · rw [if_neg heq, if_neg heq]

/-- Making a subscription leaves those that were made before. -/
theorem subject_alloc {sys sys' : System A R} {sub : Subscription A R}
    (h : sys'.subs = sys.subs.alloc sub) (s : SubscriptionId) :
    subject sys' s = if s = sys.subs.next then some (fixed sub) else subject sys s := by
  rw [subject, h, Heap.get?_alloc]
  split <;> rfl

theorem subject_next (sys : System A R) : subject sys sys.subs.next = none := by
  rw [subject, Heap.get?_next]
  rfl

/-! ## The invariant -/

/-- The observers of the clients alive, the listeners of the registrar and the
    active flags are those of the subscriptions that listen. -/
structure Attached (S : Sdk A R) (sys : System A R) (listening : List SubscriptionId) :
    Prop where
  nodup : listening.Nodup
  observers : ∀ c address obs, face sys.world c = some (address, obs) →
    obs.Nodup ∧ ∀ s, s ∈ obs ↔ s ∈ listening ∧ clientOf sys s = some c
  registrar : sys.registrarListeners.Nodup ∧
    ∀ k s, (k, s) ∈ sys.registrarListeners ↔ s ∈ listening ∧ keyOf S sys s = some k
  active : ∀ s, isActive sys s = true ↔ s ∈ listening ∧ (keyOf S sys s).isSome

/-- The clients alive are those that the owning subscriptions point to, and the
    clients store finds them by their ordered URI. -/
structure Owned (S : Sdk A R) (sys : System A R) (owning : List SubscriptionId) : Prop where
  nodup : owning.Nodup
  made : ∀ s ∈ owning, (subject sys s).isSome
  counted : ∀ c, sys.useCount c = owning.countP (fun s => clientOf sys s = some c)
  alive : ∀ c, (face sys.world c).isSome ↔ sys.useCount c ≠ 0
  served : ∀ s ∈ owning, ∀ sub, sys.subs.get? s = some (.external sub) →
    ∀ address obs, face sys.world sub.mClient = some (address, obs) →
      S.asStringUriOnlyOrdered address = S.asStringUriOnlyOrdered sub.mParticipant
  remembered : ∀ c address obs, face sys.world c = some (address, obs) →
    ∀ uri, sys.mClients uri = some c ↔ uri = S.asStringUriOnlyOrdered address
  given : ∀ uri c, sys.mClients uri = some c → c < sys.world.clients.next

/-- The invariant, with the subscriptions that listen and those that own. -/
structure Inv (S : Sdk A R) (sys : System A R) (listening owning : List SubscriptionId) :
    Prop where
  rest : AtRest S sys.world
  attached : Attached S sys listening
  owned : Owned S sys owning
  within : ∀ s ∈ listening, s ∈ owning

theorem Inv.init (S : Sdk A R) : Inv S System.init [] [] where
  rest := AtRest.init S
  attached := by
    refine ⟨List.nodup_nil, fun c address obs h => ?_, ⟨List.nodup_nil, fun k s => ?_⟩,
      fun s => ?_⟩
    · cases h
    · simp [System.init]
    · simp [isActive, System.init]
  owned := by
    refine ⟨List.nodup_nil, fun s h => (nomatch h), fun c => rfl, fun c => ?_,
      fun s h => (nomatch h), fun c address obs h => (nomatch h), fun uri c h => (nomatch h)⟩
    simp [System.init, World.init, face]
  within := List.forall_mem_nil _

/-- The order of the two lists does not matter. -/
theorem Inv.perm {S : Sdk A R} {sys : System A R} {listening listening' owning owning' :
    List SubscriptionId} (h : Inv S sys listening owning) (hl : listening.Perm listening')
    (ho : owning.Perm owning') : Inv S sys listening' owning' where
  rest := h.rest
  attached :=
    { nodup := hl.nodup_iff.mp h.attached.nodup
      observers := fun c address obs hf => by
        refine ⟨(h.attached.observers c address obs hf).1, fun s => ?_⟩
        rw [(h.attached.observers c address obs hf).2, hl.mem_iff]
      registrar := ⟨h.attached.registrar.1, fun k s => by
        rw [h.attached.registrar.2, hl.mem_iff]⟩
      active := fun s => by rw [h.attached.active, hl.mem_iff] }
  owned :=
    { h.owned with
      nodup := ho.nodup_iff.mp h.owned.nodup
      made := fun s hs => h.owned.made s (ho.mem_iff.mpr hs)
      counted := fun c => by rw [h.owned.counted, ho.countP_eq]
      served := fun s hs => h.owned.served s (ho.mem_iff.mpr hs) }
  within := fun s hs => ho.mem_iff.mp (h.within s (hl.mem_iff.mpr hs))

/-- The invariant reads neither the store nor the log. -/
theorem Inv.frame {S : Sdk A R} {sys : System A R} {listening owning : List SubscriptionId}
    (h : Inv S sys listening owning) (mSubscriptions : List (String × SubscriptionId))
    (log : List (Handlers.Entry A R)) :
    Inv S { sys with mSubscriptions := mSubscriptions, log := log } listening owning :=
  ⟨h.rest, ⟨h.attached.nodup, h.attached.observers, h.attached.registrar, h.attached.active⟩,
    ⟨h.owned.nodup, h.owned.made, h.owned.counted, h.owned.alive, h.owned.served,
      h.owned.remembered, h.owned.given⟩, h.within⟩

/-- A client that an owning subscription points to is alive. -/
theorem Owned.client_alive {S : Sdk A R} {sys : System A R} {owning : List SubscriptionId}
    (h : Owned S sys owning) {s : SubscriptionId} (hs : s ∈ owning) {c : ClientId}
    (hc : clientOf sys s = some c) : ∃ cl, sys.world.clients.get? c = some cl := by
  refine isSome_face.mp ((h.alive c).mpr ?_)
  rw [h.counted]
  exact (List.countP_pos_iff.mpr ⟨s, hs, by simpa using hc⟩).ne'

/-- A client is alive exactly when an owning subscription points to it. -/
theorem Owned.alive_iff {S : Sdk A R} {sys : System A R} {owning : List SubscriptionId}
    (h : Owned S sys owning) {c : ClientId} :
    (∃ cl, sys.world.clients.get? c = some cl) ↔ ∃ s ∈ owning, clientOf sys s = some c := by
  constructor
  · intro hcl
    have hcount := (h.alive c).mp (isSome_face.mpr hcl)
    rw [h.counted] at hcount
    obtain ⟨s, hs, hc⟩ := List.countP_pos_iff.mp (Nat.pos_of_ne_zero hcount)
    exact ⟨s, hs, by simpa using hc⟩
  · rintro ⟨s, hs, hc⟩
    exact h.client_alive hs hc

/-- **No two live clients have the same ordered URI.** -/
theorem Owned.ordered_inj {S : Sdk A R} {sys : System A R} {owning : List SubscriptionId}
    (h : Owned S sys owning) {c c' : ClientId} {address address' : A} {obs obs' : List ListenerId}
    (hc : face sys.world c = some (address, obs)) (hc' : face sys.world c' = some (address', obs'))
    (hord : S.asStringUriOnlyOrdered address = S.asStringUriOnlyOrdered address') : c = c' := by
  have h1 := (h.remembered c address obs hc _).mpr rfl
  have h2 := (h.remembered c' address' obs' hc' _).mpr hord
  exact Option.some.inj (h1.symm.trans h2)

/-- An owning subscription is not the next one to be made. -/
theorem Owned.ne_next {S : Sdk A R} {sys : System A R} {owning : List SubscriptionId}
    (h : Owned S sys owning) {s : SubscriptionId} (hs : s ∈ owning) : s ≠ sys.subs.next := by
  rintro rfl
  have := h.made _ hs
  rw [subject_next] at this
  cases this

/-! ## Making a subscription -/

/-- A new subscription does not listen yet, and a new client has no
    observers. -/
theorem Inv.attached_alloc {S : Sdk A R} {sys sys' : System A R}
    {listening owning : List SubscriptionId} (h : Inv S sys listening owning)
    {sub : Subscription A R} (hsubs : sys'.subs = sys.subs.alloc sub)
    (hactive : isActive sys' sys.subs.next = false)
    (hregistrar : sys'.registrarListeners = sys.registrarListeners)
    (hface : ∀ c address obs, face sys'.world c = some (address, obs) →
      face sys.world c = some (address, obs) ∨ (obs = [] ∧ face sys.world c = none)) :
    Attached S sys' listening := by
  have hne : ∀ s ∈ listening, s ≠ sys.subs.next := fun s hs => h.owned.ne_next (h.within s hs)
  have hsubject : ∀ s ∈ listening, subject sys' s = subject sys s := by
    intro s hs
    rw [subject_alloc hsubs, if_neg (hne s hs)]
  refine ⟨h.attached.nodup, fun c address obs hf => ?_, ⟨?_, fun k s => ?_⟩, fun s => ?_⟩
  · rcases hface c address obs hf with hold | ⟨rfl, hnone⟩
    · obtain ⟨hnodup, hmem⟩ := h.attached.observers c address obs hold
      refine ⟨hnodup, fun s => ?_⟩
      rw [hmem]
      exact and_congr_right (fun hs => by rw [clientOf_congr (hsubject s hs)])
    · refine ⟨List.nodup_nil, fun s => ⟨fun hs => absurd hs List.not_mem_nil, ?_⟩⟩
      rintro ⟨hs, hc⟩
      -- a client that is pointed to was alive before
      rw [clientOf_congr (hsubject s hs)] at hc
      have halive := isSome_face.mpr (h.owned.client_alive (h.within s hs) hc)
      rw [hnone] at halive
      cases halive
  · rw [hregistrar]
    exact h.attached.registrar.1
  · rw [hregistrar, h.attached.registrar.2]
    exact and_congr_right (fun hs => by rw [keyOf_congr S (hsubject s hs)])
  · by_cases heq : s = sys.subs.next
    · rw [heq, hactive]
      refine ⟨fun hs => (Bool.false_ne_true hs).elim, fun hs => ?_⟩
      exact absurd rfl (hne _ hs.1)
    · have hsame : isActive sys' s = isActive sys s := by
        rw [isActive, isActive, hsubs, Heap.get?_alloc, if_neg heq]
      rw [hsame, h.attached.active]
      exact and_congr_right (fun hs => by rw [keyOf_congr S (hsubject s hs)])

/-- Counting is not disturbed by a new subscription. -/
theorem Owned.countP_alloc {S : Sdk A R} {sys sys' : System A R} {owning : List SubscriptionId}
    (h : Owned S sys owning) {sub : Subscription A R} (hsubs : sys'.subs = sys.subs.alloc sub)
    (c : ClientId) :
    (sys.subs.next :: owning).countP (fun s => clientOf sys' s = some c) =
      sys.useCount c + if client? sub = some c then 1 else 0 := by
  have hnew : clientOf sys' sys.subs.next = client? sub := by
    rw [clientOf, subject_alloc hsubs, if_pos rfl]
    cases sub <;> rfl
  have hold : owning.countP (fun s => clientOf sys' s = some c) =
      owning.countP (fun s => clientOf sys s = some c) := by
    refine List.countP_congr (fun s hs => ?_)
    have hsame : subject sys' s = subject sys s := by
      rw [subject_alloc hsubs, if_neg (h.ne_next hs)]
    rw [clientOf_congr hsame]
  rw [List.countP_cons, hold, ← h.counted, hnew]
  by_cases hc : client? sub = some c <;> simp [hc]

/-- The new subscription and the owners have been made. -/
theorem Owned.made_alloc {S : Sdk A R} {sys sys' : System A R} {owning : List SubscriptionId}
    (h : Owned S sys owning) {sub : Subscription A R} (hsubs : sys'.subs = sys.subs.alloc sub) :
    ∀ s ∈ sys.subs.next :: owning, (subject sys' s).isSome := by
  intro s hs
  rw [subject_alloc hsubs]
  by_cases heq : s = sys.subs.next
  · rw [if_pos heq]
    rfl
  · rw [if_neg heq]
    exact h.made s ((List.mem_cons.mp hs).resolve_left heq)

theorem Owned.nodup_alloc {S : Sdk A R} {sys : System A R} {owning : List SubscriptionId}
    (h : Owned S sys owning) : (sys.subs.next :: owning).Nodup :=
  List.nodup_cons.mpr ⟨fun hs => h.ne_next hs rfl, h.nodup⟩

/-- Making a subscription of the own kind. -/
theorem Inv.createOwn {S : Sdk A R} {sys : System A R} {listening owning : List SubscriptionId}
    (h : Inv S sys listening owning) (server : ConferenceServer) (chatRoom : R) (address : A) :
    Inv S (sys.createOwn S server chatRoom address) listening (sys.subs.next :: owning) where
  rest := h.rest
  attached := h.attached_alloc rfl (by simp [isActive, System.createOwn,
    OwnRegistrationSubscription.make]) rfl (fun c address obs hf => Or.inl hf)
  owned :=
    { nodup := h.owned.nodup_alloc
      made := h.owned.made_alloc rfl
      counted := fun c => by
        have hsubs : (sys.createOwn S server chatRoom address).subs =
            sys.subs.alloc (.own (OwnRegistrationSubscription.make S
              server.capabilityCheckEnabled chatRoom address)) := rfl
        rw [h.owned.countP_alloc hsubs]
        rfl
      alive := h.owned.alive
      served := by
        intro s hs sub hsub address' obs hf
        have hget : ((sys.createOwn S server chatRoom address).subs).get? s =
            if s = sys.subs.next then some (.own (OwnRegistrationSubscription.make S
              server.capabilityCheckEnabled chatRoom address)) else sys.subs.get? s :=
          Heap.get?_alloc _ _ _
        rw [hget] at hsub
        by_cases heq : s = sys.subs.next
        · rw [if_pos heq] at hsub
          cases hsub
        · rw [if_neg heq] at hsub
          exact h.owned.served s ((List.mem_cons.mp hs).resolve_left heq) sub hsub address' obs hf
      remembered := h.owned.remembered
      given := h.owned.given }
  within := fun s hs => List.mem_cons_of_mem _ (h.within s hs)

/-- The client that a new external subscription gets: the live one with the
    ordered URI of the address, or else a new one. -/
theorem acquire_cases {S : Sdk A R} {sys : System A R} {owning : List SubscriptionId}
    (h : Owned S sys owning) (address : A) :
    (∃ c address' obs, face sys.world c = some (address', obs) ∧
      S.asStringUriOnlyOrdered address' = S.asStringUriOnlyOrdered address ∧
      sys.acquireClient S address =
        ({ sys with useCount := Function.update sys.useCount c (sys.useCount c + 1) }, c)) ∨
    ((∀ c address' obs, face sys.world c = some (address', obs) →
        S.asStringUriOnlyOrdered address' ≠ S.asStringUriOnlyOrdered address) ∧
      sys.acquireClient S address = sys.newClient S address) := by
  rw [System.acquireClient]
  cases hc : sys.mClients (S.asStringUriOnlyOrdered address) with
  | none =>
      refine Or.inr ⟨fun c address' obs hf heq => ?_, rfl⟩
      have := (h.remembered c address' obs hf _).mpr heq.symm
      rw [hc] at this
      cases this
  | some c =>
      by_cases hcount : sys.useCount c ≠ 0
      · obtain ⟨⟨address', obs⟩, hf⟩ := Option.isSome_iff_exists.mp ((h.alive c).mpr hcount)
        refine Or.inl ⟨c, address', obs, hf, ((h.remembered c address' obs hf _).mp hc).symm, ?_⟩
        simp only [if_pos hcount]
      · -- the entry has expired: what it points to is not alive
        refine Or.inr ⟨fun c' address' obs hf heq => ?_, ?_⟩
        · have := (h.remembered c' address' obs hf _).mpr heq.symm
          rw [hc] at this
          obtain rfl := Option.some.inj this
          exact hcount ((h.alive c).mp (by rw [hf]; rfl))
        · simp only [if_neg hcount]

/-- One more pointer to a client that is alive now. -/
theorem Owned.acquire {S : Sdk A R} {sys sys' : System A R} {owning : List SubscriptionId}
    (h : Owned S sys owning) {sub : ExternalRegistrationSubscription A R}
    (hsubs : sys'.subs = sys.subs.alloc (.external sub))
    (hcount : sys'.useCount =
      Function.update sys.useCount sub.mClient (sys.useCount sub.mClient + 1))
    (hclient : ∃ address obs, face sys'.world sub.mClient = some (address, obs) ∧
      S.asStringUriOnlyOrdered address = S.asStringUriOnlyOrdered sub.mParticipant)
    (hother : ∀ c, sub.mClient ≠ c → face sys'.world c = face sys.world c)
    (hremembered : ∀ c address obs, face sys'.world c = some (address, obs) →
      ∀ uri, sys'.mClients uri = some c ↔ uri = S.asStringUriOnlyOrdered address)
    (hgiven : ∀ uri c, sys'.mClients uri = some c → c < sys'.world.clients.next)
    (hkeep : ∀ address obs, face sys.world sub.mClient = some (address, obs) →
      face sys'.world sub.mClient = some (address, obs)) :
    Owned S sys' (sys.subs.next :: owning) where
  nodup := h.nodup_alloc
  made := h.made_alloc hsubs
  counted := fun c => by
    rw [h.countP_alloc hsubs, hcount, Function.update_apply]
    by_cases hc : c = sub.mClient
    · rw [if_pos hc, if_pos (by rw [hc]; rfl), hc]
    · have hne : client? (Subscription.external sub) ≠ some c :=
        fun heq => hc (Option.some.inj heq).symm
      rw [if_neg hc, if_neg hne, Nat.add_zero]
  alive := fun c => by
    rw [hcount, Function.update_apply]
    by_cases hc : c = sub.mClient
    · obtain ⟨address, obs, hf, -⟩ := hclient
      rw [if_pos hc, hc, hf]
      exact iff_of_true rfl (Nat.succ_ne_zero _)
    · rw [if_neg hc, hother c (Ne.symm hc)]
      exact h.alive c
  served := by
    intro s hs sub' hsub' address obs hf
    rw [hsubs, Heap.get?_alloc] at hsub'
    by_cases heq : s = sys.subs.next
    · rw [if_pos heq] at hsub'
      obtain rfl := Subscription.external.inj (Option.some.inj hsub')
      obtain ⟨address', obs', hf', hord⟩ := hclient
      rw [hf'] at hf
      obtain ⟨rfl, -⟩ := Prod.mk.inj (Option.some.inj hf)
      exact hord
    · rw [if_neg heq] at hsub'
      have hmem := (List.mem_cons.mp hs).resolve_left heq
      refine h.served s hmem sub' hsub' address obs ?_
      by_cases hc : sub.mClient = sub'.mClient
      · -- the client was alive before, for the older subscription
        have halive := isSome_face.mpr (h.client_alive hmem (clientOf_external hsub'))
        obtain ⟨⟨address', obs'⟩, hf'⟩ := Option.isSome_iff_exists.mp halive
        have hkept := hkeep address' obs' (by rw [hc, hf'])
        rw [hc, hf] at hkept
        rw [hf', hkept]
      · rw [← hother _ hc, hf]
  remembered := hremembered
  given := hgiven

/-- A new client is alive and unobserved; the others are as before. -/
theorem face_newClient (S : Sdk A R) (sys : System A R) (address : A) (c : ClientId) :
    face (sys.newClient S address).1.world c =
      if c = sys.world.clients.next then some (address, []) else face sys.world c :=
  face_create sys.world address c

theorem face_next (w : World A) : face w w.clients.next = none := by
  simp [face]

/-- The client that is made next is used by nobody yet. -/
theorem Owned.useCount_next {S : Sdk A R} {sys : System A R} {owning : List SubscriptionId}
    (h : Owned S sys owning) : sys.useCount sys.world.clients.next = 0 := by
  by_contra hcount
  have halive := (h.alive _).mpr hcount
  rw [face_next] at halive
  cases halive

/-- A new client takes the place of an expired one in the clients store. -/
theorem Owned.remembered_newClient {S : Sdk A R} {sys : System A R}
    {owning : List SubscriptionId} (h : Owned S sys owning) {address : A}
    (hnone : ∀ c address' obs, face sys.world c = some (address', obs) →
      S.asStringUriOnlyOrdered address' ≠ S.asStringUriOnlyOrdered address)
    (c : ClientId) (address' : A) (obs : List ListenerId)
    (hf : face (sys.newClient S address).1.world c = some (address', obs)) (uri : String) :
    (sys.newClient S address).1.mClients uri = some c ↔
      uri = S.asStringUriOnlyOrdered address' := by
  show Function.update sys.mClients (S.asStringUriOnlyOrdered address)
    (some sys.world.clients.next) uri = some c ↔ _
  rw [face_newClient] at hf
  rw [Function.update_apply]
  by_cases hc : c = sys.world.clients.next
  · rw [if_pos hc] at hf
    obtain ⟨rfl, -⟩ := Prod.mk.inj (Option.some.inj hf)
    by_cases huri : uri = S.asStringUriOnlyOrdered address
    · rw [if_pos huri, hc]
      exact iff_of_true rfl huri
    · rw [if_neg huri]
      refine iff_of_false (fun hmem => ?_) huri
      exact Nat.lt_irrefl _ (hc ▸ h.given uri c hmem)
  · rw [if_neg hc] at hf
    by_cases huri : uri = S.asStringUriOnlyOrdered address
    · rw [if_pos huri]
      refine iff_of_false (fun heq => hc (Option.some.inj heq).symm) (fun heq => ?_)
      exact hnone c address' obs hf (heq.symm.trans huri)
    · rw [if_neg huri]
      exact h.remembered c address' obs hf uri

/-- The store of the clients remembers only clients that were made. -/
theorem Owned.given_newClient {S : Sdk A R} {sys : System A R} {owning : List SubscriptionId}
    (h : Owned S sys owning) (address : A) (uri : String) (c : ClientId)
    (hc : (sys.newClient S address).1.mClients uri = some c) :
    c < (sys.newClient S address).1.world.clients.next := by
  change Function.update sys.mClients (S.asStringUriOnlyOrdered address)
    (some sys.world.clients.next) uri = some c at hc
  have hbound : (sys.newClient S address).1.world.clients.next = sys.world.clients.next + 1 :=
    Heap.next_alloc _ _
  rw [hbound]
  rw [Function.update_apply] at hc
  split at hc
  · exact (Option.some.inj hc) ▸ Nat.lt_succ_self _
  · exact Nat.lt_succ_of_lt (h.given uri c hc)

/-- Making a subscription of the external kind. -/
theorem Inv.createExternal {S : Sdk A R} {sys : System A R}
    {listening owning : List SubscriptionId} (h : Inv S sys listening owning)
    (server : ConferenceServer) (chatRoom : R) (address : A) :
    Inv S (sys.createExternal S server chatRoom address) listening
      (sys.subs.next :: owning) := by
  rw [System.createExternal]
  rcases acquire_cases h.owned address with ⟨c, address', obs, hf, hord, hacq⟩ | ⟨hnone, hacq⟩
  · -- a client that is alive
    rw [hacq]
    refine ⟨h.rest, h.attached_alloc rfl (by simp [isActive]) rfl (fun c address obs hf =>
      Or.inl hf), ?_, fun s hs => List.mem_cons_of_mem _ (h.within s hs)⟩
    exact h.owned.acquire rfl rfl ⟨address', obs, hf, hord⟩ (fun _ _ => rfl) h.owned.remembered
      h.owned.given (fun _ _ hf => hf)
  · -- a new client
    rw [hacq]
    refine ⟨h.rest.create address, h.attached_alloc rfl (by simp [isActive, System.newClient]) rfl
      (fun c address' obs hf => ?_), ?_, fun s hs => List.mem_cons_of_mem _ (h.within s hs)⟩
    · change face (sys.newClient S address).1.world c = _ at hf
      rw [face_newClient] at hf
      split at hf
      · rename_i heq
        obtain ⟨-, rfl⟩ := Prod.mk.inj (Option.some.inj hf)
        exact Or.inr ⟨rfl, by rw [heq, face_next]⟩
      · exact Or.inl hf
    · refine h.owned.acquire rfl ?_ ⟨address, [], ?_, rfl⟩ (fun c hc => ?_)
        (h.owned.remembered_newClient hnone) (h.owned.given_newClient address)
        (fun address' obs hf => ?_)
      · show Function.update sys.useCount sys.world.clients.next 1 =
          Function.update sys.useCount sys.world.clients.next
            (sys.useCount sys.world.clients.next + 1)
        rw [h.owned.useCount_next]
      · show face (sys.newClient S address).1.world sys.world.clients.next = _
        rw [face_newClient, if_pos rfl]
      · show face (sys.newClient S address).1.world c = _
        rw [face_newClient, if_neg (fun heq => hc heq.symm)]
      · change face sys.world sys.world.clients.next = some (address', obs) at hf
        rw [face_next] at hf
        cases hf

/-! ## Starting and stopping -/

/-- All is fixed about an external subscription. -/
theorem subject_external_iff {sys : System A R} {s : SubscriptionId}
    {sub : ExternalRegistrationSubscription A R} :
    subject sys s = some (.external sub) ↔ sys.subs.get? s = some (.external sub) := by
  rw [subject]
  cases sys.subs.get? s with
  | none => simp
  | some sub' => cases sub' <;> simp [fixed]

/-- Owning does not depend on who observes the clients. -/
theorem Owned.congr {S : Sdk A R} {sys sys' : System A R} {owning : List SubscriptionId}
    (h : Owned S sys owning) (hsubject : subject sys' = subject sys)
    (huse : sys'.useCount = sys.useCount) (hstore : sys'.mClients = sys.mClients)
    (hnext : sys'.world.clients.next = sys.world.clients.next)
    (hface : ∀ c, (face sys'.world c).map Prod.fst = (face sys.world c).map Prod.fst) :
    Owned S sys' owning := by
  have hclient : clientOf sys' = clientOf sys := clientOf_of_subject hsubject
  -- a client alive now was alive before, with the same address
  have hback : ∀ c address obs, face sys'.world c = some (address, obs) →
      ∃ obs', face sys.world c = some (address, obs') := by
    intro c address obs hf
    have haddress := hface c
    rw [hf] at haddress
    obtain ⟨⟨address', obs'⟩, hf', heq⟩ := Option.map_eq_some_iff.mp haddress.symm
    exact ⟨obs', by rw [hf', ← show address' = address from heq]⟩
  refine ⟨h.nodup, fun s hs => by rw [hsubject]; exact h.made s hs, fun c => ?_, fun c => ?_,
    fun s hs sub hsub address obs hf => ?_, fun c address obs hf => ?_, fun uri c hc => ?_⟩
  · rw [huse, h.counted, hclient]
  · have hsome := congrArg Option.isSome (hface c)
    rw [Option.isSome_map, Option.isSome_map] at hsome
    rw [huse, hsome]
    exact h.alive c
  · rw [← subject_external_iff, hsubject, subject_external_iff] at hsub
    obtain ⟨obs', hf'⟩ := hback _ _ _ hf
    exact h.served s hs sub hsub address obs' hf'
  · obtain ⟨obs', hf'⟩ := hback _ _ _ hf
    rw [hstore]
    exact h.remembered c address obs' hf'
  · rw [hnext]
    rw [hstore] at hc
    exact h.given uri c hc

section Listening

variable {S : Sdk A R} {sys sys' : System A R} {listening : List SubscriptionId}
  {s : SubscriptionId}

/-- A subscription begins to listen: it becomes an observer of its client or a
    listener of the registrar, and active in the second case. -/
theorem Attached.cons (h : Attached S sys listening) (hnew : s ∉ listening)
    (hsubject : subject sys' = subject sys)
    (hface : ∀ c, face sys'.world c = (face sys.world c).map (fun f =>
      (f.1, if clientOf sys s = some c then f.2 ++ [s] else f.2)))
    (hregistrar : sys'.registrarListeners =
      sys.registrarListeners ++ ((keyOf S sys s).map (fun k => (k, s))).toList)
    (hactive : ∀ s', isActive sys' s' =
      if s = s' then (keyOf S sys s).isSome else isActive sys s') :
    Attached S sys' (s :: listening) := by
  have hclient : clientOf sys' = clientOf sys := clientOf_of_subject hsubject
  have hkey : keyOf S sys' = keyOf S sys := keyOf_of_subject S hsubject
  refine ⟨List.nodup_cons.mpr ⟨hnew, h.nodup⟩, fun c address obs hf => ?_, ⟨?_, fun k s' => ?_⟩,
    fun s' => ?_⟩
  · rw [hface] at hf
    obtain ⟨⟨address', obs'⟩, hf', heq⟩ := Option.map_eq_some_iff.mp hf
    obtain ⟨hnodup, hmem⟩ := h.observers c address' obs' hf'
    obtain ⟨-, rfl⟩ := Prod.mk.inj heq
    -- it did not listen, so it is no observer yet
    have hfresh : s ∉ obs' := fun hin => hnew ((hmem s).mp hin).1
    rw [hclient]
    by_cases hc : clientOf sys s = some c
    · simp only [if_pos hc]
      refine ⟨List.nodup_append.mpr ⟨hnodup, List.nodup_singleton s, ?_⟩, fun s' => ?_⟩
      · rintro x hx y hy rfl
        exact hfresh (List.mem_singleton.mp hy ▸ hx)
      · rw [List.mem_append, List.mem_singleton, hmem, List.mem_cons]
        by_cases hss : s' = s
        · simp [hss, hc]
        · simp [hss]
    · simp only [if_neg hc]
      refine ⟨hnodup, fun s' => ?_⟩
      rw [hmem, List.mem_cons]
      by_cases hss : s' = s
      · simp [hss, hc]
      · simp [hss]
  · rw [hregistrar]
    refine List.nodup_append.mpr ⟨h.registrar.1, ?_, ?_⟩
    · cases keyOf S sys s with
      | none => exact List.nodup_nil
      | some k => exact List.nodup_singleton _
    · rintro ⟨k, s'⟩ hx y hy rfl
      obtain ⟨k', -, heq⟩ := Option.map_eq_some_iff.mp (Option.mem_toList.mp hy)
      obtain ⟨-, rfl⟩ := Prod.mk.inj heq
      exact hnew ((h.registrar.2 k s).mp hx).1
  · rw [hregistrar, List.mem_append, h.registrar.2, hkey, List.mem_cons, Option.mem_toList,
      Option.map_eq_some_iff]
    by_cases hss : s' = s
    · simp [hss, hnew]
    · simp [hss, Ne.symm hss]
  · rw [hactive, hkey, List.mem_cons]
    by_cases hss : s = s'
    · simp [hss]
    · rw [if_neg hss, h.active]
      simp [Ne.symm hss]

/-- The key under which the registrar still knows a subscription, once another
    one is off its list. -/
theorem Attached.registrar_erase (h : Attached S sys (s :: listening)) (k : String)
    (s' : SubscriptionId) :
    (k, s') ∈ (keyOf S sys s).elim sys.registrarListeners
        (fun k => sys.registrarListeners.erase (k, s)) ↔
      (s' ∈ s :: listening ∧ s' ≠ s) ∧ keyOf S sys s' = some k := by
  cases hk : keyOf S sys s with
  | none =>
      show (k, s') ∈ sys.registrarListeners ↔ _
      rw [h.registrar.2]
      refine ⟨fun hs' => ⟨⟨hs'.1, ?_⟩, hs'.2⟩, fun hs' => ⟨hs'.1.1, hs'.2⟩⟩
      rintro rfl
      rw [hk] at hs'
      cases hs'.2
  | some k' =>
      show (k, s') ∈ sys.registrarListeners.erase (k', s) ↔ _
      rw [h.registrar.1.mem_erase_iff, h.registrar.2]
      constructor
      · rintro ⟨hne, hs', hks⟩
        refine ⟨⟨hs', ?_⟩, hks⟩
        rintro rfl
        exact hne (by rw [Option.some.inj (hks.symm.trans hk)])
      · rintro ⟨⟨hs', hss⟩, hks⟩
        exact ⟨fun heq => hss (Prod.mk.inj heq).2, hs', hks⟩

/-- A subscription ceases to listen. -/
theorem Attached.tail (h : Attached S sys (s :: listening)) (hsubject : subject sys' = subject sys)
    (hface : ∀ c, face sys'.world c = (face sys.world c).map (fun f =>
      (f.1, if clientOf sys s = some c then f.2.erase s else f.2)))
    (hregistrar : sys'.registrarListeners = (keyOf S sys s).elim sys.registrarListeners
      (fun k => sys.registrarListeners.erase (k, s)))
    (hactive : ∀ s', isActive sys' s' = if s = s' then false else isActive sys s') :
    Attached S sys' listening := by
  have hclient : clientOf sys' = clientOf sys := clientOf_of_subject hsubject
  have hkey : keyOf S sys' = keyOf S sys := keyOf_of_subject S hsubject
  obtain ⟨hnew, hnodup⟩ := List.nodup_cons.mp h.nodup
  have hother : ∀ s', s' ∈ s :: listening ∧ s' ≠ s ↔ s' ∈ listening := by
    intro s'
    rw [List.mem_cons]
    constructor
    · rintro ⟨hs', hss⟩
      exact hs'.resolve_left hss
    · exact fun hs' => ⟨Or.inr hs', fun hss => hnew (hss ▸ hs')⟩
  refine ⟨hnodup, fun c address obs hf => ?_, ⟨?_, fun k s' => ?_⟩, fun s' => ?_⟩
  · rw [hface] at hf
    obtain ⟨⟨address', obs'⟩, hf', heq⟩ := Option.map_eq_some_iff.mp hf
    obtain ⟨hobs, hmem⟩ := h.observers c address' obs' hf'
    obtain ⟨-, rfl⟩ := Prod.mk.inj heq
    rw [hclient]
    by_cases hc : clientOf sys s = some c
    · simp only [if_pos hc]
      refine ⟨hobs.erase s, fun s' => ?_⟩
      rw [hobs.mem_erase_iff, hmem, ← hother]
      tauto
    · -- the client is another one than that of `s`, so `s` was no observer of it
      simp only [if_neg hc]
      refine ⟨hobs, fun s' => ?_⟩
      rw [hmem, ← hother]
      refine ⟨fun hs' => ⟨⟨hs'.1, ?_⟩, hs'.2⟩, fun hs' => ⟨hs'.1.1, hs'.2⟩⟩
      rintro rfl
      exact hc hs'.2
  · rw [hregistrar]
    cases keyOf S sys s with
    | none => exact h.registrar.1
    | some k => exact h.registrar.1.erase _
  · rw [hregistrar, hkey, h.registrar_erase, hother]
  · rw [hactive, hkey, ← hother]
    by_cases hss : s = s'
    · simp [hss]
    · rw [if_neg hss, h.active]
      simp [Ne.symm hss]

/-- `Attached.cons`, for the whole invariant. -/
theorem Inv.attach {owning : List SubscriptionId} (h : Inv S sys listening owning)
    (hs : s ∈ owning) (hnew : s ∉ listening) (hrest : AtRest S sys'.world)
    (hsubject : subject sys' = subject sys)
    (huse : sys'.useCount = sys.useCount) (hstore : sys'.mClients = sys.mClients)
    (hnext : sys'.world.clients.next = sys.world.clients.next)
    (hface : ∀ c, face sys'.world c = (face sys.world c).map (fun f =>
      (f.1, if clientOf sys s = some c then f.2 ++ [s] else f.2)))
    (hregistrar : sys'.registrarListeners =
      sys.registrarListeners ++ ((keyOf S sys s).map (fun k => (k, s))).toList)
    (hactive : ∀ s', isActive sys' s' =
      if s = s' then (keyOf S sys s).isSome else isActive sys s') :
    Inv S sys' (s :: listening) owning := by
  refine ⟨hrest, h.attached.cons hnew hsubject hface hregistrar hactive, ?_, fun s' hs' => ?_⟩
  · refine h.owned.congr hsubject huse hstore hnext (fun c => ?_)
    rw [hface, Option.map_map]
    rfl
  · rcases List.mem_cons.mp hs' with rfl | hold
    · exact hs
    · exact h.within s' hold

/-- `Attached.tail`, for the whole invariant. -/
theorem Inv.detach {owning : List SubscriptionId} (h : Inv S sys (s :: listening) owning)
    (hrest : AtRest S sys'.world) (hsubject : subject sys' = subject sys)
    (huse : sys'.useCount = sys.useCount) (hstore : sys'.mClients = sys.mClients)
    (hnext : sys'.world.clients.next = sys.world.clients.next)
    (hface : ∀ c, face sys'.world c = (face sys.world c).map (fun f =>
      (f.1, if clientOf sys s = some c then f.2.erase s else f.2)))
    (hregistrar : sys'.registrarListeners = (keyOf S sys s).elim sys.registrarListeners
      (fun k => sys.registrarListeners.erase (k, s)))
    (hactive : ∀ s', isActive sys' s' = if s = s' then false else isActive sys s') :
    Inv S sys' listening owning := by
  refine ⟨hrest, h.attached.tail hsubject hface hregistrar hactive, ?_,
    fun s' hs' => h.within s' (List.mem_cons_of_mem _ hs')⟩
  refine h.owned.congr hsubject huse hstore hnext (fun c => ?_)
  rw [hface, Option.map_map]
  rfl

end Listening

/-- An own subscription becomes active and listens to the registrar, if its
    AOR parsed. -/
theorem start_own (S : Sdk A R) {sys : System A R} {s : SubscriptionId}
    {sub : OwnRegistrationSubscription A R} (hs : sys.subs.get? s = some (.own sub)) :
    sys.start S s =
      { sys with
        log := sys.log ++ [.started s]
        subs := sys.subs.modify s (fun _ =>
          .own { sub with mActive := sub.mActive || (keyOf S sys s).isSome })
        registrarListeners :=
          sys.registrarListeners ++ ((keyOf S sys s).map (fun k => (k, s))).toList } := by
  rw [keyOf_own S hs]
  obtain ⟨base, aor, active⟩ := sub
  cases aor with
  | none => simp [System.start, hs, OwnRegistrationSubscription.start, System.writeOwn]
  | some aor =>
      simp [System.start, hs, OwnRegistrationSubscription.start, System.writeOwn,
        System.request]

/-- An external subscription becomes an observer of its client, and makes it
    subscribe. -/
theorem start_external (S : Sdk A R) {sys : System A R} {s : SubscriptionId}
    {sub : ExternalRegistrationSubscription A R} (hs : sys.subs.get? s = some (.external sub)) :
    sys.start S s = System.deliver S
      { sys with
        log := sys.log ++ [.started s]
        world := ((sys.world.addObserver sub.mClient s).subscribe sub.mClient s).1 }
      ((sys.world.addObserver sub.mClient s).subscribe sub.mClient s).2 := by
  simp [System.start, hs]

theorem get?_addObserver {w : World A} {c : ClientId} {cl : Client A}
    (hcl : w.clients.get? c = some cl) (o : ListenerId) :
    (w.addObserver c o).clients.get? c =
      some { cl with observers := cl.observers ++ [o] } := by
  simp [World.addObserver, World.updateClient, hcl]

theorem next_subscribe {w : World A} {c : ClientId} {cl : Client A}
    (hcl : w.clients.get? c = some cl) (o : ListenerId) :
    (w.subscribe c o).1.clients.next = w.clients.next := by
  cases hev : cl.mSubscribeEvent with
  | none =>
      rw [subscribe_open hcl hev]
      exact Heap.next_modify _ _ _
  | some e => rw [subscribe_replay hcl hev]

/-- **Starting** a subscription that does not listen makes it listen. -/
theorem Inv.start {S : Sdk A R} {sys : System A R} {listening owning : List SubscriptionId}
    (h : Inv S sys listening owning) {s : SubscriptionId} (hs : s ∈ owning)
    (hnew : s ∉ listening) : Inv S (sys.start S s) (s :: listening) owning := by
  obtain ⟨sub, hsub⟩ :=
    Option.isSome_iff_exists.mp (Option.isSome_map.symm.trans (h.owned.made s hs))
  cases sub with
  | own sub =>
      -- it does not listen yet, so it is not active
      have hinactive : sub.mActive = false := by
        have := mt (h.attached.active s).mp (fun hl => hnew hl.1)
        simpa [isActive, hsub] using this
      rw [start_own S hsub, hinactive, Bool.false_or]
      refine h.attach hs hnew h.rest (subject_setActive hsub _ rfl) rfl rfl rfl (fun c => ?_) rfl
        (isActive_setActive hsub _ rfl)
      rw [clientOf_own hsub]
      simp
  | external sub =>
      have hc := clientOf_external hsub
      obtain ⟨cl, hcl⟩ := h.owned.client_alive hs hc
      have hobs := get?_addObserver hcl s
      rw [start_external S hsub]
      refine h.attach hs hnew ((h.rest.addObserver hcl s).subscribe hobs s) rfl rfl rfl ?_
        (fun c => ?_) ?_ (fun s' => ?_)
      · show ((sys.world.addObserver sub.mClient s).subscribe sub.mClient s).1.clients.next = _
        rw [next_subscribe hobs]
        exact Heap.next_modify _ _ _
      · show face ((sys.world.addObserver sub.mClient s).subscribe sub.mClient s).1 c = _
        rw [face_subscribe hobs, face_addObserver, hc]
        by_cases heq : sub.mClient = c
        · simp [heq]
        · simp [heq]
      · rw [keyOf_external S hsub]
        exact (List.append_nil _).symm
      · rw [keyOf_external S hsub]
        by_cases heq : s = s'
        · rw [if_pos heq, ← heq]
          show isActive sys s = false
          simp [isActive, hsub]
        · rw [if_neg heq]
          rfl

/-- An own subscription is no longer active and leaves the registrar. -/
theorem stop_own (S : Sdk A R) {sys : System A R} {s : SubscriptionId}
    {sub : OwnRegistrationSubscription A R} (hs : sys.subs.get? s = some (.own sub))
    (hactive : sub.mActive = (keyOf S sys s).isSome) :
    sys.stop S s =
      { sys with
        log := sys.log ++ [.stopped s]
        subs := sys.subs.modify s (fun _ => .own { sub with mActive := false })
        registrarListeners := (keyOf S sys s).elim sys.registrarListeners
          (fun k => sys.registrarListeners.erase (k, s)) } := by
  rw [keyOf_own S hs] at hactive ⊢
  obtain ⟨base, aor, active⟩ := sub
  cases aor with
  | none =>
      obtain rfl : active = false := hactive
      simp [System.stop, hs, OwnRegistrationSubscription.stop, System.writeOwn]
  | some aor =>
      obtain rfl : active = true := hactive
      simp [System.stop, hs, OwnRegistrationSubscription.stop, System.writeOwn, System.request]

/-- An external subscription is no longer an observer of its client. -/
theorem stop_external (S : Sdk A R) {sys : System A R} {s : SubscriptionId}
    {sub : ExternalRegistrationSubscription A R} (hs : sys.subs.get? s = some (.external sub)) :
    sys.stop S s =
      { sys with
        log := sys.log ++ [.stopped s]
        world := sys.world.removeObserver sub.mClient s } := by
  simp [System.stop, hs]

/-- **Stopping** a subscription that listens makes it cease. -/
theorem Inv.stop {S : Sdk A R} {sys : System A R} {listening owning : List SubscriptionId}
    {s : SubscriptionId} (h : Inv S sys (s :: listening) owning) :
    Inv S (sys.stop S s) listening owning := by
  have hs : s ∈ owning := h.within s (List.mem_cons_self ..)
  obtain ⟨sub, hsub⟩ :=
    Option.isSome_iff_exists.mp (Option.isSome_map.symm.trans (h.owned.made s hs))
  cases sub with
  | own sub =>
      have hactive : sub.mActive = (keyOf S sys s).isSome := by
        have := h.attached.active s
        rw [Bool.eq_iff_iff]
        simpa [isActive, hsub] using this
      rw [stop_own S hsub hactive]
      refine h.detach h.rest (subject_setActive hsub _ rfl) rfl rfl rfl (fun c => ?_) rfl
        (isActive_setActive hsub _ rfl)
      rw [clientOf_own hsub]
      simp
  | external sub =>
      have hc := clientOf_external hsub
      obtain ⟨cl, hcl⟩ := h.owned.client_alive hs hc
      rw [stop_external S hsub]
      refine h.detach (h.rest.removeObserver hcl s) rfl rfl rfl (Heap.next_modify _ _ _)
        (fun c => ?_) ?_ (fun s' => ?_)
      · show face (sys.world.removeObserver sub.mClient s) c = _
        rw [face_removeObserver, hc]
        by_cases heq : sub.mClient = c
        · simp [heq]
        · simp [heq]
      · rw [keyOf_external S hsub]
        rfl
      · by_cases heq : s = s'
        · rw [if_pos heq, ← heq]
          simp [isActive, hsub]
        · rw [if_neg heq]
          rfl

/-! ## Releasing a subscription -/

/-- A client dies with its last owner. -/
theorem world_releaseClient (sys : System A R) (c : ClientId) :
    (sys.releaseClient c).world =
      if sys.useCount c - 1 = 0 then sys.world.destroy c else sys.world := rfl

/-- The client that a pointer is taken from dies with the last pointer. -/
theorem face_releaseClient {sys : System A R} {c : ClientId} {cl : Client A}
    (hcl : sys.world.clients.get? c = some cl) (c' : ClientId) :
    face (sys.releaseClient c).world c' =
      if c = c' ∧ sys.useCount c - 1 = 0 then none else face sys.world c' := by
  rw [world_releaseClient]
  by_cases hlast : sys.useCount c - 1 = 0
  · rw [if_pos hlast, face_destroy hcl]
    simp only [hlast, and_true]
  · rw [if_neg hlast, if_neg (fun hand => hlast hand.2)]

theorem next_releaseClient {sys : System A R} {c : ClientId} {cl : Client A}
    (hcl : sys.world.clients.get? c = some cl) :
    (sys.releaseClient c).world.clients.next = sys.world.clients.next := by
  rw [world_releaseClient]
  split
  · rw [clients_destroy hcl, Heap.next_free]
  · rfl

/-- Giving up a client leads from rest to rest. -/
theorem atRest_releaseClient {S : Sdk A R} {sys : System A R} (h : AtRest S sys.world)
    {c : ClientId} {cl : Client A} (hcl : sys.world.clients.get? c = some cl) :
    AtRest S (sys.releaseClient c).world := by
  rw [world_releaseClient]
  split
  · exact h.destroy hcl
  · exact h

/-- A client that is still alive afterwards is as it was. -/
theorem face_of_releaseClient {sys : System A R} {c : ClientId} {cl : Client A}
    (hcl : sys.world.clients.get? c = some cl) {c' : ClientId} {f : A × List ListenerId}
    (hf : face (sys.releaseClient c).world c' = some f) : face sys.world c' = some f := by
  rw [face_releaseClient hcl] at hf
  split at hf
  · cases hf
  · exact hf

/-- A subscription without a client is released. -/
theorem Owned.tail {S : Sdk A R} {sys : System A R} {owning : List SubscriptionId}
    {s : SubscriptionId} (h : Owned S sys (s :: owning)) (hc : clientOf sys s = none) :
    Owned S sys owning where
  nodup := (List.nodup_cons.mp h.nodup).2
  made := fun s' hs' => h.made s' (List.mem_cons_of_mem _ hs')
  counted := fun c => by
    rw [h.counted, List.countP_cons, hc]
    simp
  alive := h.alive
  served := fun s' hs' => h.served s' (List.mem_cons_of_mem _ hs')
  remembered := h.remembered
  given := h.given

/-- A subscription gives up its client, which is destroyed if nothing else
    points to it. -/
theorem Owned.releaseClient {S : Sdk A R} {sys : System A R} {owning : List SubscriptionId}
    {s : SubscriptionId} (h : Owned S sys (s :: owning)) {c₀ : ClientId} {cl : Client A}
    (hc : clientOf sys s = some c₀) (hcl : sys.world.clients.get? c₀ = some cl) :
    Owned S (sys.releaseClient c₀) owning where
  nodup := (List.nodup_cons.mp h.nodup).2
  made := fun s' hs' => h.made s' (List.mem_cons_of_mem _ hs')
  counted := fun c => by
    show Function.update sys.useCount c₀ (sys.useCount c₀ - 1) c =
      owning.countP (fun s' => clientOf sys s' = some c)
    rw [Function.update_apply]
    by_cases heq : c = c₀
    · rw [if_pos heq, heq, h.counted, List.countP_cons_of_pos (by simpa using hc),
        Nat.add_sub_cancel]
    · have hne : clientOf sys s ≠ some c := by
        rw [hc]
        exact fun hsame => heq (Option.some.inj hsame).symm
      rw [if_neg heq, h.counted, List.countP_cons_of_neg (by simpa using hne)]
  alive := fun c => by
    show _ ↔ Function.update sys.useCount c₀ (sys.useCount c₀ - 1) c ≠ 0
    rw [face_releaseClient hcl, Function.update_apply]
    by_cases heq : c = c₀
    · by_cases hlast : sys.useCount c₀ - 1 = 0
      · -- the last pointer: the client dies
        rw [if_pos ⟨heq.symm, hlast⟩, if_pos heq]
        exact iff_of_false Bool.false_ne_true (fun hne => hne hlast)
      · rw [if_neg (fun hand => hlast hand.2), if_pos heq, heq]
        refine iff_of_true ((h.alive _).mpr ?_) hlast
        omega
    · rw [if_neg (fun hand => heq hand.1.symm), if_neg heq]
      exact h.alive c
  served := fun s' hs' sub hsub address obs hf =>
    h.served s' (List.mem_cons_of_mem _ hs') sub hsub address obs (face_of_releaseClient hcl hf)
  remembered := fun c address obs hf =>
    h.remembered c address obs (face_of_releaseClient hcl hf)
  given := fun uri c hmem => by
    rw [next_releaseClient hcl]
    exact h.given uri c hmem

/-- The subscriptions do not notice that one of them is released, once it has
    ceased to listen. -/
theorem Inv.release {S : Sdk A R} {sys : System A R} {listening owning : List SubscriptionId}
    {s : SubscriptionId} (h : Inv S sys listening (s :: owning)) (hs : s ∉ listening) :
    Inv S (sys.releaseSubscription s) listening owning := by
  have hwithin : ∀ s' ∈ listening, s' ∈ owning := by
    intro s' hs'
    rcases List.mem_cons.mp (h.within s' hs') with rfl | hmem
    · exact absurd hs' hs
    · exact hmem
  have hmade : (subject sys s).isSome := h.owned.made s (List.mem_cons_self ..)
  obtain ⟨sub, hsub⟩ := Option.isSome_iff_exists.mp (Option.isSome_map.symm.trans hmade)
  cases sub with
  | own sub =>
      have hsame : sys.releaseSubscription s = sys := by
        simp [System.releaseSubscription, hsub]
      rw [hsame]
      exact ⟨h.rest, h.attached, h.owned.tail (clientOf_own hsub), hwithin⟩
  | external sub =>
      have hc := clientOf_external hsub
      obtain ⟨cl, hcl⟩ := h.owned.client_alive (List.mem_cons_self ..) hc
      have hsys : sys.releaseSubscription s = sys.releaseClient sub.mClient := by
        simp [System.releaseSubscription, hsub]
      rw [hsys]
      refine ⟨atRest_releaseClient h.rest hcl, ⟨h.attached.nodup, fun c address obs hf => ?_,
        h.attached.registrar, h.attached.active⟩, h.owned.releaseClient hc hcl, hwithin⟩
      exact h.attached.observers c address obs (face_of_releaseClient hcl hf)

/-! ## Messages -/

/-- A change of the world that keeps the address and the observers of every
    client keeps the invariant. -/
theorem Inv.setWorld {S : Sdk A R} {sys : System A R} {listening owning : List SubscriptionId}
    (h : Inv S sys listening owning) {w : World A} (hrest : AtRest S w)
    (hnext : w.clients.next = sys.world.clients.next)
    (hface : ∀ c, face w c = face sys.world c) :
    Inv S { sys with world := w } listening owning := by
  refine ⟨hrest, ⟨h.attached.nodup, fun c address obs hf => ?_, h.attached.registrar,
    h.attached.active⟩, h.owned.congr rfl rfl rfl hnext (fun c => ?_), h.within⟩
  · exact h.attached.observers c address obs ((hface c).symm.trans hf)
  · exact congrArg (Option.map Prod.fst) (hface c)

/-- A state change makes no client. -/
theorem next_onSubscriptionStateChanged {S : Sdk A R} {w : World A} (h : AtRest S w)
    (e : EventId) (state : SubscriptionState) :
    (w.onSubscriptionStateChanged e state).clients.next = w.clients.next := by
  rcases stateChanged_cases h e state with hsame | ⟨c, -, -, hw⟩
  · rw [hsame]
  · rw [hw]
    exact Heap.next_modify _ _ _

theorem next_onNotifyReceived {S : Sdk A R} {w : World A} (h : AtRest S w)
    (e : EventId) (body : Reginfos.NotifyBody) :
    (w.onNotifyReceived S e body).1.clients.next = w.clients.next := by
  rcases notify_cases h e body with hsame | ⟨c, cl, ri, -, -, -, hw⟩
  · rw [hsame]
  · rw [hw]
    exact Heap.next_modify _ _ _

/-- A state change keeps the invariant: it changes no face. -/
theorem Inv.onSubscriptionStateChanged {S : Sdk A R} {sys : System A R}
    {listening owning : List SubscriptionId} (h : Inv S sys listening owning) (e : EventId)
    (state : SubscriptionState) :
    Inv S { sys with world := sys.world.onSubscriptionStateChanged e state }
      listening owning :=
  h.setWorld (h.rest.onSubscriptionStateChanged e state)
    (next_onSubscriptionStateChanged h.rest e state)
    (face_onSubscriptionStateChanged h.rest e state)

/-- So does a NOTIFY. -/
theorem Inv.onNotifyReceived {S : Sdk A R} {sys : System A R}
    {listening owning : List SubscriptionId} (h : Inv S sys listening owning) (e : EventId)
    (body : Reginfos.NotifyBody) : Inv S (sys.onNotifyReceived S e body) listening owning :=
  (h.setWorld (h.rest.onNotifyReceived e body) (next_onNotifyReceived h.rest e body)
    (face_onNotifyReceived h.rest e body)).frame _ _

/-- So does a message to an own subscription, which only makes calls. -/
theorem Inv.tellOwn {S : Sdk A R} {sys : System A R} {listening owning : List SubscriptionId}
    (h : Inv S sys listening owning) (s : SubscriptionId)
    (calls : OwnRegistrationSubscription A R → List (ChatRoomCall A)) :
    Inv S (sys.tellOwn s calls) listening owning := by
  rw [System.tellOwn]
  split
  · exact h.frame _ _
  · exact h

end Invariants
