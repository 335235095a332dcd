import Mathlib.Order.BooleanAlgebra.Set
import FlexisipConference.Library.SubstringProofs
import FlexisipConference.HandlerStepProofs

/-! # The subscription store is a set of pairs

    What the store is FOR is said by the machine `wanted`: a set of pairs of a
    participant and a chat room, to which `subscribe` adds a pair, from which
    `unsubscribe` takes one off and which `unsubscribeAll` empties.  A pair is in
    it exactly when the last operation on the pair is a subscribe.

    The handler refines this machine although its store permits duplicate
    entries and knows participants only by a concatenated key.  The listeners
    that are attached somewhere are the subscriptions in the store, one by
    one. -/

namespace Stores

open Sdks Heaps Multimaps Substrings Machines Clients QuietRun Subscriptions Handlers Invariants
open HandlerSteps

variable {A R : Type}

/-- A participant in a chat room. -/
abbrev Pair (R : Type) := (String × String) × R

/-! ## The abstract store -/

def wantedStep (S : Sdk A R) (w : Set (Pair R)) : Op A R → Set (Pair R)
  | .subscribe chatRoom address => insert (S.participant address, chatRoom) w
  | .unsubscribe chatRoom address => w \ {(S.participant address, chatRoom)}
  | .unsubscribeAll => ∅
  | _ => w

/-- The pairs that are wanted. -/
def wanted (S : Sdk A R) : Machine (Set (Pair R)) (Op A R) where
  init := ∅
  step := wantedStep S

section Last

variable [DecidableEq R]

/-- An operation on this pair: `true` for a subscribe, `false` for the others. -/
def operationOn (S : Sdk A R) (p : Pair R) : Op A R → Option Bool
  | .subscribe chatRoom address =>
      if (S.participant address, chatRoom) = p then some true else none
  | .unsubscribe chatRoom address =>
      if (S.participant address, chatRoom) = p then some false else none
  | .unsubscribeAll => some false
  | _ => none

/-- The last operation on this pair, if there is one. -/
def lastOperation (S : Sdk A R) (p : Pair R) (ops : List (Op A R)) : Option Bool :=
  ops.reverse.findSome? (operationOn S p)

/-- **A pair is wanted exactly when the last operation on it is a subscribe.** -/
theorem wanted_iff_last (S : Sdk A R) (p : Pair R) (ops : List (Op A R)) :
    p ∈ (wanted S).reach ops ↔ lastOperation S p ops = some true := by
  induction ops using List.reverseRecOn with
  | nil => exact iff_of_false (Set.notMem_empty p) (fun h => nomatch h)
  | append_singleton ops op ih =>
      rw [Machine.reach_concat, lastOperation, List.reverse_append, List.reverse_singleton,
        List.singleton_append, List.findSome?_cons]
      change p ∈ wantedStep S _ op ↔ _
      cases op with
      | subscribe chatRoom address =>
          by_cases hp : (S.participant address, chatRoom) = p
          · simp [wantedStep, operationOn, hp]
          · simp only [wantedStep, operationOn, if_neg hp, Set.mem_insert_iff,
              or_iff_right (fun heq => hp (Eq.symm heq))]
            exact ih
      | unsubscribe chatRoom address =>
          by_cases hp : (S.participant address, chatRoom) = p
          · simp [wantedStep, operationOn, hp]
          · simp only [wantedStep, operationOn, if_neg hp, Set.mem_sdiff, Set.mem_singleton_iff,
              and_iff_left (fun heq => hp (Eq.symm heq))]
            exact ih
      | unsubscribeAll => simp [wantedStep, operationOn]
      | onNotifyReceived e body => exact ih
      | onSubscriptionStateChanged e state => exact ih
      | onRecordFound s r => exact ih
      | onContactRegistered s r uid => exact ih

end Last

/-! ## The pairs of the store -/

/-- The pair that a subscription is for. -/
def pairOf (S : Sdk A R) (sys : System A R) (s : SubscriptionId) : Option (Pair R) :=
  (subject sys s).map (fun sub => (S.participant sub.base.mParticipant, sub.base.mChatRoom))

/-- **Distinct participants have distinct keys**, because a domain has no
    `@`. -/
theorem getSubscriptionKey_inj (S : Sdk A R) {a b : A} :
    System.getSubscriptionKey S a = System.getSubscriptionKey S b ↔
      S.participant a = S.participant b := by
  constructor
  · intro h
    have hlist := congrArg String.toList h
    simp only [System.getSubscriptionKey, String.toList_append] at hlist
    -- the last `@` of the key is the separator
    obtain ⟨huser, hdomain⟩ := join_inj (q := '@') (S.domain_no_at a) (S.domain_no_at b)
      (by simpa using hlist)
    exact Prod.ext (String.toList_inj.mp huser) (String.toList_inj.mp hdomain)
  · intro h
    obtain ⟨huser, hdomain⟩ := Prod.mk.inj h
    rw [System.getSubscriptionKey, System.getSubscriptionKey, huser, hdomain]

/-- An entry under the key of an address and of a chat room is one for the
    pair. -/
theorem pairOf_eq_iff {S : Sdk A R} {sys : System A R} (h : Sound S sys)
    {entry : String × SubscriptionId} (hin : entry ∈ sys.mSubscriptions) {chatRoom : R}
    {address : A} :
    pairOf S sys entry.2 = some (S.participant address, chatRoom) ↔
      entry.1 = System.getSubscriptionKey S address ∧
        sys.getChatRoom entry.2 = some chatRoom := by
  obtain ⟨sub, hsub, hkey⟩ := h.keyed entry hin
  rw [hkey, getSubscriptionKey_inj, pairOf, getChatRoom_eq, hsub]
  simp

/-- A pair has at most one subscription in the store. -/
theorem stored_unique {S : Sdk A R} {sys : System A R} (h : Sound S sys) {s s' : SubscriptionId}
    (hs : s ∈ stored sys) (hs' : s' ∈ stored sys) {p : Pair R} (hp : pairOf S sys s = some p)
    (hp' : pairOf S sys s' = some p) : s = s' := by
  obtain ⟨entry, hin, rfl⟩ := mem_stored.mp hs
  obtain ⟨entry', hin', rfl⟩ := mem_stored.mp hs'
  obtain ⟨sub, hsub, hkey⟩ := h.keyed entry hin
  have hpair : p = (S.participant sub.base.mParticipant, sub.base.mChatRoom) := by
    rw [pairOf, hsub] at hp
    exact (Option.some.inj hp).symm
  rw [hpair] at hp hp'
  obtain ⟨hk, hr⟩ := (pairOf_eq_iff h hin).mp hp
  obtain ⟨hk', hr'⟩ := (pairOf_eq_iff h hin').mp hp'
  exact congrArg Prod.snd (h.single entry hin entry' hin' (hk.trans hk'.symm) (hr.trans hr'.symm))

/-- The store has a subscription for exactly the pairs in the set. -/
def Refines (S : Sdk A R) (sys : System A R) (w : Set (Pair R)) : Prop :=
  ∀ p, (∃ s ∈ stored sys, pairOf S sys s = some p) ↔ p ∈ w

theorem Refines.congr {S : Sdk A R} {sys sys' : System A R} {w : Set (Pair R)}
    (h : Refines S sys w) (hkeeps : Keeps sys sys') : Refines S sys' w := by
  intro p
  rw [← h p, stored, hkeeps.2.2, ← stored]
  simp only [pairOf, hkeeps.1]

/-- The new subscription is for the pair of the subscribe, and the others keep
    theirs. -/
theorem pairOf_added {S : Sdk A R} {sys sys' : System A R} {sub : Subscription A R}
    (h : Added S sys sys' sub) (s : SubscriptionId) :
    pairOf S sys' s = if s = sys.subs.next then
      some (S.participant sub.base.mParticipant, sub.base.mChatRoom) else pairOf S sys s := by
  rw [pairOf, h.subject]
  split
  · rw [Option.map_some, base_fixed]
  · rfl

/-- An added entry adds its pair. -/
theorem Refines.added {S : Sdk A R} {sys sys' : System A R} {w : Set (Pair R)}
    (h : Refines S sys w) (hsound : Sound S sys) {sub : Subscription A R}
    (hadd : Added S sys sys' sub) :
    Refines S sys' (insert (S.participant sub.base.mParticipant, sub.base.mChatRoom) w) := by
  intro p
  rw [Set.mem_insert_iff, ← h p]
  have hne : ∀ s ∈ stored sys, s ≠ sys.subs.next := fun s hs => Nat.ne_of_lt (hsound.lt_next hs)
  constructor
  · rintro ⟨s, hs, hp⟩
    rw [pairOf_added hadd] at hp
    rcases hadd.mem_stored_iff.mp hs with rfl | hold
    · rw [if_pos rfl] at hp
      exact Or.inl (Option.some.inj hp).symm
    · rw [if_neg (hne s hold)] at hp
      exact Or.inr ⟨s, hold, hp⟩
  · rintro (rfl | ⟨s, hs, hp⟩)
    · refine ⟨sys.subs.next, hadd.mem_stored_iff.mpr (Or.inl rfl), ?_⟩
      rw [pairOf_added hadd, if_pos rfl]
    · refine ⟨s, hadd.mem_stored_iff.mpr (Or.inr hs), ?_⟩
      rw [pairOf_added hadd, if_neg (hne s hs)]
      exact hp

/-- A dropped entry takes its pair off. -/
theorem Refines.dropEntry {S : Sdk A R} {sys : System A R} {w : Set (Pair R)}
    (h : Refines S sys w) (hsound : Sound S sys) {entry : String × SubscriptionId}
    (hin : entry ∈ sys.mSubscriptions) {p : Pair R} (hp : pairOf S sys entry.2 = some p) :
    Refines S (dropEntry S sys entry) (w \ {p}) := by
  intro p'
  have hperm := stored_perm_erase hin
  obtain ⟨hgone, -⟩ := List.nodup_cons.mp (hperm.nodup_iff.mp hsound.stored_nodup)
  rw [Set.mem_sdiff, Set.mem_singleton_iff, ← h p']
  simp only [pairOf, subject_dropEntry, stored, mSubscriptions_dropEntry]
  constructor
  · rintro ⟨s, hs, hs'⟩
    have hmem : s ∈ stored sys := hperm.mem_iff.mpr (List.mem_cons_of_mem _ hs)
    refine ⟨⟨s, hmem, hs'⟩, ?_⟩
    rintro rfl
    -- the only subscription for the pair was the one of the entry
    have heq := stored_unique hsound hmem (mem_stored.mpr ⟨entry, hin, rfl⟩) hs' hp
    exact hgone (heq ▸ hs)
  · rintro ⟨⟨s, hs, hs'⟩, hne⟩
    refine ⟨s, ?_, hs'⟩
    rcases List.mem_cons.mp (hperm.mem_iff.mp hs) with rfl | hold
    · exact absurd (Option.some.inj (hs'.symm.trans hp)) hne
    · exact hold

section Runs

variable [DecidableEq R]

/-- The pair of an address and a chat room is found when it is in the set. -/
theorem Refines.find_iff {S : Sdk A R} {sys : System A R} {w : Set (Pair R)}
    (h : Refines S sys w) (hsound : Sound S sys) (chatRoom : R) (address : A) :
    sys.findSubscription S chatRoom address = true ↔ (S.participant address, chatRoom) ∈ w := by
  rw [findSubscription_iff, ← h (S.participant address, chatRoom)]
  constructor
  · rintro ⟨entry, hin, hkey, hroom⟩
    exact ⟨entry.2, mem_stored.mpr ⟨entry, hin, rfl⟩,
      (pairOf_eq_iff hsound hin).mpr ⟨hkey, hroom⟩⟩
  · rintro ⟨s, hs, hp⟩
    obtain ⟨entry, hin, rfl⟩ := mem_stored.mp hs
    exact ⟨entry, hin, (pairOf_eq_iff hsound hin).mp hp⟩

/-- One operation of the handler does to the set what it does to the store. -/
theorem refines_step (S : Sdk A R) (server : ConferenceServer) (sys : System A R)
    (w : Set (Pair R)) (op : Op A R) (hsound : Sound S sys) (h : Refines S sys w) :
    Refines S (step S server sys op) (wantedStep S w op) := by
  cases op with
  | subscribe chatRoom address =>
      show Refines S (sys.subscribe S server chatRoom address)
        (insert (S.participant address, chatRoom) w)
      rcases subscribe_cases S server hsound chatRoom address with
        ⟨hfind, hsame⟩ | ⟨-, -, hadd, -⟩ | ⟨-, -, hadd, -⟩
      · rw [hsame, Set.insert_eq_of_mem ((h.find_iff hsound chatRoom address).mp hfind)]
        exact h
      · exact h.added hsound hadd
      · exact h.added hsound hadd
  | unsubscribe chatRoom address =>
      show Refines S (sys.unsubscribe S chatRoom address)
        (w \ {(S.participant address, chatRoom)})
      rcases unsubscribe_cases hsound chatRoom address with
        ⟨hnone, hsame⟩ | ⟨entry, hin, hkey, hroom, hdrop⟩
      · have habsent : (S.participant address, chatRoom) ∉ w := by
          intro hmem
          obtain ⟨s, hs, hp⟩ := (h _).mpr hmem
          obtain ⟨entry, hin, rfl⟩ := mem_stored.mp hs
          obtain ⟨hkey, hroom⟩ := (pairOf_eq_iff hsound hin).mp hp
          exact hnone entry hin hkey hroom
        rw [hsame, Set.sdiff_singleton_eq_self habsent]
        exact h
      · rw [hdrop]
        exact h.dropEntry hsound hin ((pairOf_eq_iff hsound hin).mpr ⟨hkey, hroom⟩)
  | unsubscribeAll =>
      intro p
      have hempty := hsound.unsubscribeAll.2.1
      show (∃ s ∈ stored (sys.unsubscribeAll S), _) ↔ p ∈ (∅ : Set (Pair R))
      rw [stored, hempty]
      refine iff_of_false ?_ (Set.notMem_empty p)
      rintro ⟨_, hs, _⟩
      cases hs
  | onNotifyReceived e body => exact h.congr (keeps_onNotifyReceived S sys e body)
  | onSubscriptionStateChanged e state => exact h
  | onRecordFound s r => exact h.congr (keeps_tellOwn sys s _)
  | onContactRegistered s r uid => exact h.congr (keeps_tellOwn sys s _)

/-- **The handler refines the set of pairs**, over every run. -/
theorem refines_reach (S : Sdk A R) (server : ConferenceServer) (ops : List (Op A R)) :
    Refines S ((machine S server).reach ops) ((wanted S).reach ops) := by
  have hsim := Machine.simulation_run (M := machine S server) (N := wanted S) (f := id)
    (R := fun sys w => Sound S sys ∧ Refines S sys w)
    (fun sys w op h => ⟨sound_step S server sys op h.1, refines_step S server sys w op h.1 h.2⟩)
    ops System.init ∅
    ⟨Sound.init S, fun p => iff_of_false (fun ⟨_, hs, _⟩ => nomatch hs) (Set.notMem_empty p)⟩
  rw [List.map_id] at hsim
  exact hsim.2

end Runs

/-! ## The listeners -/

/-- The observers of all the clients alive. -/
def observersOf (w : World A) : List ListenerId :=
  (List.range w.clients.next).flatMap
    (fun c => ((w.clients.get? c).map (fun cl => cl.observers)).getD [])

/-- The listeners attached to the registrar and to the clients. -/
def listeners (sys : System A R) : List SubscriptionId :=
  sys.registrarListeners.map Prod.snd ++ observersOf sys.world

/-- The subscription has something to listen to: it is of the external kind, or
    its AOR parsed. -/
def canListen (sys : System A R) (s : SubscriptionId) : Bool :=
  match sys.subs.get? s with
  | some (.own sub) => sub.mParticipantAor.isSome
  | some (.external _) => true
  | none => false

theorem mem_observersAt {w : World A} {c : ClientId} {o : ListenerId} :
    o ∈ ((w.clients.get? c).map (fun cl => cl.observers)).getD [] ↔
      ∃ cl, w.clients.get? c = some cl ∧ o ∈ cl.observers := by
  cases w.clients.get? c with
  | none => simp
  | some cl => simp

theorem mem_observersOf {w : World A} {o : ListenerId} :
    o ∈ observersOf w ↔ ∃ c cl, w.clients.get? c = some cl ∧ o ∈ cl.observers := by
  rw [observersOf, List.mem_flatMap]
  constructor
  · rintro ⟨c, -, ho⟩
    exact ⟨c, mem_observersAt.mp ho⟩
  · rintro ⟨c, cl, hcl, ho⟩
    exact ⟨c, List.mem_range.mpr (Heap.lt_next_of_get? hcl), mem_observersAt.mpr ⟨cl, hcl, ho⟩⟩

/-- The observers of a client alive are the subscriptions in the store that
    point to it, each once. -/
theorem observers_iff {S : Sdk A R} {sys : System A R} (h : Sound S sys) {c : ClientId}
    {cl : Client A} (hcl : sys.world.clients.get? c = some cl) :
    cl.observers.Nodup ∧ ∀ s, s ∈ cl.observers ↔ s ∈ stored sys ∧ clientOf sys s = some c :=
  h.inv.attached.observers c cl.mTo cl.observers (face_eq_some_iff.mpr ⟨cl, hcl, rfl, rfl⟩)

/-- The observers of the clients alive are the external subscriptions in the store. -/
theorem mem_observersOf_iff {S : Sdk A R} {sys : System A R} (h : Sound S sys)
    {s : SubscriptionId} :
    s ∈ observersOf sys.world ↔ s ∈ stored sys ∧ ∃ sub, sys.subs.get? s = some (.external sub) := by
  rw [mem_observersOf]
  constructor
  · rintro ⟨c, cl, hcl, hobs⟩
    obtain ⟨hs, hc⟩ := ((observers_iff h hcl).2 s).mp hobs
    obtain ⟨sub, hsub, -⟩ := clientOf_eq_some_iff.mp hc
    exact ⟨hs, sub, hsub⟩
  · rintro ⟨hs, sub, hsub⟩
    have hc := clientOf_external hsub
    obtain ⟨cl, hcl⟩ := h.inv.owned.client_alive hs hc
    exact ⟨sub.mClient, cl, hcl, ((observers_iff h hcl).2 s).mpr ⟨hs, hc⟩⟩

/-- None of them observes twice. -/
theorem observersOf_nodup {S : Sdk A R} {sys : System A R} (h : Sound S sys) :
    (observersOf sys.world).Nodup := by
  refine List.nodup_flatMap.mpr ⟨fun c _ => ?_, ?_⟩
  · cases hcl : sys.world.clients.get? c with
    | none => exact List.nodup_nil
    | some cl => exact (observers_iff h hcl).1
  · refine List.nodup_range.imp (fun {c c'} hne s hs hs' => hne ?_)
    -- one subscription does not observe two clients
    obtain ⟨cl, hcl, hobs⟩ := mem_observersAt.mp hs
    obtain ⟨cl', hcl', hobs'⟩ := mem_observersAt.mp hs'
    have hc := (((observers_iff h hcl).2 s).mp hobs).2
    have hc' := (((observers_iff h hcl').2 s).mp hobs').2
    exact Option.some.inj (hc.symm.trans hc')

/-- The listeners of the registrar are the own subscriptions in the store whose AOR
    was parsed. -/
theorem registrarListeners_iff {S : Sdk A R} {sys : System A R} (h : Sound S sys) {k : String}
    {s : SubscriptionId} :
    (k, s) ∈ sys.registrarListeners ↔ s ∈ stored sys ∧ ∃ sub,
      sys.subs.get? s = some (.own sub) ∧ sub.mParticipantAor.map S.recordKey = some k := by
  rw [h.inv.attached.registrar.2, keyOf_eq_some_iff]

/-- **The listeners are the subscriptions in the store**, with no duplicate and
    no leftover. -/
theorem listeners_perm {S : Sdk A R} {sys : System A R} (h : Sound S sys) :
    (listeners sys).Perm ((stored sys).filter (canListen sys)) := by
  refine (List.perm_ext_iff_of_nodup ?_ (h.stored_nodup.filter _)).mpr (fun s => ?_)
  · refine List.nodup_append.mpr ⟨?_, observersOf_nodup h, ?_⟩
    -- one subscription has one key, and is of one kind
    · refine h.inv.attached.registrar.1.map_on ?_
      rintro ⟨k, s⟩ hin ⟨k', s'⟩ hin' (rfl : s = s')
      have hk := ((h.inv.attached.registrar.2 k s).mp hin).2
      have hk' := ((h.inv.attached.registrar.2 k' s).mp hin').2
      rw [Option.some.inj (hk.symm.trans hk')]
    · rintro s hs _ hs' rfl
      obtain ⟨⟨k, _⟩, hin, rfl⟩ := List.mem_map.mp hs
      obtain ⟨-, sub, hsub, -⟩ := (registrarListeners_iff h).mp hin
      obtain ⟨-, sub', hsub'⟩ := (mem_observersOf_iff h).mp hs'
      rw [hsub] at hsub'
      cases hsub'
  · rw [listeners, List.mem_append, List.mem_map, mem_observersOf_iff h, List.mem_filter]
    constructor
    · rintro (⟨⟨k, _⟩, hin, rfl⟩ | ⟨hs, sub, hsub⟩)
      · obtain ⟨hs, sub, hsub, hk⟩ := (registrarListeners_iff h).mp hin
        obtain ⟨aor, haor, -⟩ := Option.map_eq_some_iff.mp hk
        exact ⟨hs, by simp [canListen, hsub, haor]⟩
      · exact ⟨hs, by simp [canListen, hsub]⟩
    · rintro ⟨hs, hcan⟩
      rw [canListen] at hcan
      split at hcan
      · rename_i sub hsub
        obtain ⟨aor, haor⟩ := Option.isSome_iff_exists.mp hcan
        refine Or.inl ⟨(S.recordKey aor, s),
          (registrarListeners_iff h).mpr ⟨hs, sub, hsub, ?_⟩, rfl⟩
        rw [haor]
        rfl
      · rename_i sub hsub
        exact Or.inr ⟨hs, sub, hsub⟩
      · cases hcan

/-! ## The store after every run -/

/-- **The store holds exactly one subscription for each pair whose last
    operation is a subscribe, and none for any other.**  Every subscription ever
    made was started once, and stopped once if it has left the store; and the
    listeners are the subscriptions in the store. -/
theorem store_refines_pairs [DecidableEq R] (S : Sdk A R) (server : ConferenceServer)
    (ops : List (Op A R)) :
    let sys := (machine S server).reach ops
    (∀ p, (stored sys).countP (fun s => pairOf S sys s = some p) =
      if lastOperation S p ops = some true then 1 else 0) ∧
    (∀ s ∈ stored sys, ∃ p, pairOf S sys s = some p) ∧
    (∀ s, sys.log.countP (isStart s) = if s < sys.subs.next then 1 else 0) ∧
    (∀ s, sys.log.countP (isStop s) = if s < sys.subs.next ∧ s ∉ stored sys then 1 else 0) ∧
    (listeners sys).Perm ((stored sys).filter (canListen sys)) ∧
    (∀ k s, (k, s) ∈ sys.registrarListeners ↔ s ∈ stored sys ∧ ∃ sub,
      sys.subs.get? s = some (.own sub) ∧ sub.mParticipantAor.map S.recordKey = some k) ∧
    (∀ c cl, sys.world.clients.get? c = some cl → ∀ s, s ∈ cl.observers ↔ s ∈ stored sys ∧
      ∃ sub, sys.subs.get? s = some (.external sub) ∧ sub.mClient = c) := by
  intro sys
  have h : Sound S sys := sound_reach S server ops
  refine ⟨fun p => ?_, fun s hs => ?_, h.started, h.stopped, listeners_perm h,
    fun k s => registrarListeners_iff h, fun c cl hcl s => ?_⟩
  · rw [Multimap.countP_of_unique h.stored_nodup (fun s hs s' hs' hp hp' =>
      stored_unique h hs hs' (of_decide_eq_true hp) (of_decide_eq_true hp'))]
    have hmem : (stored sys).any (fun s => pairOf S sys s = some p) = true ↔
        lastOperation S p ops = some true := by
      rw [← wanted_iff_last, ← refines_reach S server ops p, List.any_eq_true]
      simp only [decide_eq_true_eq]
      rfl
    simp only [hmem]
  · obtain ⟨sub, hsub⟩ := Option.isSome_iff_exists.mp (h.inv.owned.made s hs)
    exact ⟨_, by rw [pairOf, hsub]; rfl⟩
  · rw [(observers_iff h hcl).2 s, clientOf_eq_some_iff]

end Stores
