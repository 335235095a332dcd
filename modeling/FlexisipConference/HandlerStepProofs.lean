import FlexisipConference.InvariantProofs

/-! # The operations of the handler, one by one

    What one operation of the handler can do is said here once.  `subscribe`
    does nothing or adds one entry; `unsubscribe` does nothing or drops one
    entry, because the store has at most one entry for a participant and a chat
    room; `unsubscribeAll` stops every entry and then releases every entry.

    `Sound` is the invariant of the handler between two operations: the two
    lists of `Inv` are both the subscriptions of the store, the entries stand
    under the key of their participant, and the log has one start for each
    subscription ever made and one stop for each that left the store. -/

namespace HandlerSteps

open Sdks Heaps Multimaps Machines Clients QuietRun Subscriptions Handlers Invariants

variable {A R : Type}

/-- The subscriptions in the store. -/
def stored (sys : System A R) : List SubscriptionId := sys.mSubscriptions.map Prod.snd

theorem mem_stored {sys : System A R} {s : SubscriptionId} :
    s ∈ stored sys ↔ ∃ entry ∈ sys.mSubscriptions, entry.2 = s :=
  List.mem_map

/-! ## What the primitive steps leave alone -/

/-- Requests to the registrar are made outside the store, the log and the clients.
    -/
theorem request_frame (s : SubscriptionId) :
    ∀ (reqs : List RegistrarRequest) (sys : System A R),
      (reqs.foldl (fun sys req => sys.request s req) sys).subs = sys.subs ∧
      (reqs.foldl (fun sys req => sys.request s req) sys).mSubscriptions = sys.mSubscriptions ∧
      (reqs.foldl (fun sys req => sys.request s req) sys).log = sys.log ∧
      (reqs.foldl (fun sys req => sys.request s req) sys).world = sys.world := by
  intro reqs
  induction reqs with
  | nil => intro sys; exact ⟨rfl, rfl, rfl, rfl⟩
  | cons req reqs ih =>
      intro sys
      obtain ⟨h1, h2, h3, h4⟩ := ih (sys.request s req)
      cases req <;> exact ⟨h1, h2, h3, h4⟩

/-- Writing an own subscription back changes that one object and its requests. -/
theorem writeOwn_frame (sys : System A R) (s : SubscriptionId)
    (r : OwnRegistrationSubscription A R × List RegistrarRequest) :
    (sys.writeOwn s r).subs = sys.subs.modify s (fun _ => .own r.1) ∧
      (sys.writeOwn s r).mSubscriptions = sys.mSubscriptions ∧ (sys.writeOwn s r).log = sys.log ∧
      (sys.writeOwn s r).world = sys.world :=
  request_frame s r.2 { sys with subs := sys.subs.modify s (fun _ => .own r.1) }

/-- Writing an own subscription changes at most its `mActive`. -/
theorem subject_writeOwn {sys : System A R} {s : SubscriptionId}
    {sub : OwnRegistrationSubscription A R} (hs : sys.subs.get? s = some (.own sub))
    {r : OwnRegistrationSubscription A R × List RegistrarRequest}
    (hr : { r.1 with mActive := false } = { sub with mActive := false }) :
    subject (sys.writeOwn s r) = subject sys := by
  funext s'
  simp only [subject]
  rw [(writeOwn_frame sys s r).1, Heap.get?_modify]
  split
  · rename_i heq
    rw [← heq, hs]
    exact congrArg (fun sub => some (Subscription.own sub)) hr
  · rfl

/-- `start()` changes only the activity of an own subscription. -/
theorem fixed_start (S : Sdk A R) (sub : OwnRegistrationSubscription A R) :
    ({ (sub.start S).1 with mActive := false } : OwnRegistrationSubscription A R) =
      { sub with mActive := false } := by
  rw [OwnRegistrationSubscription.start]
  split <;> rfl

theorem fixed_stop (S : Sdk A R) (sub : OwnRegistrationSubscription A R) :
    ({ (sub.stop S).1 with mActive := false } : OwnRegistrationSubscription A R) =
      { sub with mActive := false } := by
  rw [OwnRegistrationSubscription.stop]
  split <;> rfl

/-- What is fixed about the subscriptions, how many there are, and the store
    stay as they are. -/
def Keeps (sys sys' : System A R) : Prop :=
  subject sys' = subject sys ∧ sys'.subs.next = sys.subs.next ∧
    sys'.mSubscriptions = sys.mSubscriptions

/-- Writing back what differs in the activity at most keeps what is fixed. -/
theorem keeps_writeOwn {sys : System A R} {s : SubscriptionId}
    {sub : OwnRegistrationSubscription A R} (hs : sys.subs.get? s = some (.own sub))
    {r : OwnRegistrationSubscription A R × List RegistrarRequest}
    (hr : { r.1 with mActive := false } = { sub with mActive := false }) :
    Keeps sys (sys.writeOwn s r) := by
  obtain ⟨hsubs, hstore, -⟩ := writeOwn_frame sys s r
  exact ⟨subject_writeOwn hs hr, by rw [hsubs, Heap.next_modify], hstore⟩

theorem start_none (S : Sdk A R) {sys : System A R} {s : SubscriptionId}
    (hs : sys.subs.get? s = none) :
    sys.start S s = { sys with log := sys.log ++ [.started s] } := by
  simp [System.start, hs]

/-- Starting an own subscription writes back what its `start()` made of it. -/
theorem start_writeOwn (S : Sdk A R) {sys : System A R} {s : SubscriptionId}
    {sub : OwnRegistrationSubscription A R} (hs : sys.subs.get? s = some (.own sub)) :
    sys.start S s =
      System.writeOwn { sys with log := sys.log ++ [.started s] } s (sub.start S) := by
  simp [System.start, hs]

theorem stop_none (S : Sdk A R) {sys : System A R} {s : SubscriptionId}
    (hs : sys.subs.get? s = none) :
    sys.stop S s = { sys with log := sys.log ++ [.stopped s] } := by
  simp [System.stop, hs]

/-- Stopping an own subscription writes back what its `stop()` made of it. -/
theorem stop_writeOwn (S : Sdk A R) {sys : System A R} {s : SubscriptionId}
    {sub : OwnRegistrationSubscription A R} (hs : sys.subs.get? s = some (.own sub)) :
    sys.stop S s =
      System.writeOwn { sys with log := sys.log ++ [.stopped s] } s (sub.stop S) := by
  simp [System.stop, hs]

/-- Starting leaves the store and what is fixed about the subscriptions alone,
    whatever the kind. -/
theorem keeps_start (S : Sdk A R) (sys : System A R) (s : SubscriptionId) :
    Keeps sys (sys.start S s) := by
  cases hs : sys.subs.get? s with
  | none =>
      rw [start_none S hs]
      exact ⟨rfl, rfl, rfl⟩
  | some sub =>
      cases sub with
      | own sub =>
          rw [start_writeOwn S hs]
          have hs' : ({ sys with log := sys.log ++ [.started s] } : System A R).subs.get? s =
              some (.own sub) := hs
          exact keeps_writeOwn hs' (fixed_start S sub)
      | external sub =>
          rw [start_external S hs]
          exact ⟨rfl, rfl, rfl⟩

theorem keeps_stop (S : Sdk A R) (sys : System A R) (s : SubscriptionId) :
    Keeps sys (sys.stop S s) := by
  cases hs : sys.subs.get? s with
  | none =>
      rw [stop_none S hs]
      exact ⟨rfl, rfl, rfl⟩
  | some sub =>
      cases sub with
      | own sub =>
          rw [stop_writeOwn S hs]
          have hs' : ({ sys with log := sys.log ++ [.stopped s] } : System A R).subs.get? s =
              some (.own sub) := hs
          exact keeps_writeOwn hs' (fixed_stop S sub)
      | external sub =>
          rw [stop_external S hs]
          exact ⟨rfl, rfl, rfl⟩

/-- The store giving up a subscription touches the clients only. -/
theorem releaseSubscription_frame (sys : System A R) (s : SubscriptionId) :
    (sys.releaseSubscription s).subs = sys.subs ∧
      (sys.releaseSubscription s).mSubscriptions = sys.mSubscriptions ∧
      (sys.releaseSubscription s).log = sys.log := by
  rw [System.releaseSubscription]
  split <;> exact ⟨rfl, rfl, rfl⟩

theorem keeps_release (sys : System A R) (s : SubscriptionId) :
    Keeps sys (sys.releaseSubscription s) := by
  obtain ⟨hsubs, hstore, -⟩ := releaseSubscription_frame sys s
  exact ⟨subject_congr hsubs, by rw [hsubs], hstore⟩

theorem Keeps.getChatRoom {sys sys' : System A R} (h : Keeps sys sys') (s : SubscriptionId) :
    sys'.getChatRoom s = sys.getChatRoom s := by
  rw [getChatRoom_eq, getChatRoom_eq, h.1]

theorem Keeps.stored {sys sys' : System A R} (h : Keeps sys sys') : stored sys' = stored sys :=
  congrArg (List.map Prod.snd) h.2.2

theorem Keeps.trans {sys sys' sys'' : System A R} (h : Keeps sys sys') (h' : Keeps sys' sys'') :
    Keeps sys sys'' :=
  ⟨h'.1.trans h.1, h'.2.1.trans h.2.1, h'.2.2.trans h.2.2⟩

/-! ## The log of the primitive steps -/

/-- A log that stays as it is has no new calls. -/
theorem no_new_calls (log : List (Handlers.Entry A R))
    {P : SubscriptionId → R → ChatRoomCall A → Prop} :
    ∃ new, log = log ++ new ∧
      ∀ s room call, Handlers.Entry.called s room call ∈ new → P s room call :=
  ⟨[], (List.append_nil _).symm, fun _ _ _ hin => absurd hin List.not_mem_nil⟩

/-- The entries are calls of this subscription. -/
def CallsBy (s : SubscriptionId) (entries : List (Handlers.Entry A R)) : Prop :=
  ∀ entry ∈ entries, ∃ chatRoom call, entry = .called s chatRoom call

/-- What a callback of a client brings about is done by the observer it is addressed
    to. -/
theorem callsBy_callsOf (S : Sdk A R) (subs : Heap (Subscription A R)) (em : Emission A) :
    CallsBy em.1 (System.callsOf S subs em) := by
  rw [System.callsOf]
  split
  · intro entry hentry
    obtain ⟨call, -, rfl⟩ := List.mem_map.mp hentry
    exact ⟨_, call, rfl⟩
  · intro entry hentry
    cases hentry

/-- `subscribe()` calls nobody but its listener. -/
theorem subscribe_emissions (w : World A) (c : ClientId) (listener : ListenerId) :
    ∀ em ∈ (w.subscribe c listener).2, em.1 = listener := by
  intro em hem
  rw [World.subscribe, World.beginSubscribe] at hem
  cases hcl : w.clients.get? c with
  | none =>
      rw [hcl] at hem
      cases hem
  | some cl =>
      cases hev : cl.mSubscribeEvent with
      | none =>
          simp only [hcl, hev] at hem
          cases hem
      | some e =>
          simp only [hcl, hev] at hem
          rw [List.mem_singleton.mp hem]

/-- A start is logged, and what follows at once are calls of that subscription. -/
theorem log_start (S : Sdk A R) (sys : System A R) (s : SubscriptionId) :
    ∃ calls, (sys.start S s).log = sys.log ++ .started s :: calls ∧ CallsBy s calls := by
  cases hs : sys.subs.get? s with
  | none =>
      rw [start_none S hs]
      exact ⟨[], rfl, List.forall_mem_nil _⟩
  | some sub =>
      cases sub with
      | own sub =>
          rw [start_writeOwn S hs]
          refine ⟨[], ?_, List.forall_mem_nil _⟩
          exact (writeOwn_frame { sys with log := sys.log ++ [.started s] } s (sub.start S)).2.2.1
      | external sub =>
          rw [start_external S hs]
          refine ⟨_, List.append_assoc _ [Handlers.Entry.started s] _, fun entry hentry => ?_⟩
          obtain ⟨em, hem, hin⟩ := List.mem_flatMap.mp hentry
          rw [← subscribe_emissions _ _ _ em hem]
          exact callsBy_callsOf S _ em entry hin

/-- A stop is logged, and brings about no call. -/
theorem log_stop (S : Sdk A R) (sys : System A R) (s : SubscriptionId) :
    (sys.stop S s).log = sys.log ++ [.stopped s] := by
  cases hs : sys.subs.get? s with
  | none => rw [stop_none S hs]
  | some sub =>
      cases sub with
      | own sub =>
          rw [stop_writeOwn S hs]
          exact (writeOwn_frame { sys with log := sys.log ++ [.stopped s] } s (sub.stop S)).2.2.1
      | external sub => rw [stop_external S hs]

/-! ## Dropping entries -/

/-- What `removeSubscription` does for an entry that it removes. -/
def dropEntry (S : Sdk A R) (sys : System A R) (entry : String × SubscriptionId) : System A R :=
  System.releaseSubscription { sys.stop S entry.2 with
    mSubscriptions := (sys.stop S entry.2).mSubscriptions.erase entry } entry.2

/-- Dropping an entry destroys no subscription: messages may still hold it. -/
theorem subject_dropEntry (S : Sdk A R) (sys : System A R) (entry : String × SubscriptionId) :
    subject (dropEntry S sys entry) = subject sys :=
  (keeps_release _ entry.2).1.trans (keeps_stop S sys entry.2).1

theorem next_dropEntry (S : Sdk A R) (sys : System A R) (entry : String × SubscriptionId) :
    (dropEntry S sys entry).subs.next = sys.subs.next :=
  (keeps_release _ entry.2).2.1.trans (keeps_stop S sys entry.2).2.1

/-- The store loses that entry and no other. -/
theorem mSubscriptions_dropEntry (S : Sdk A R) (sys : System A R)
    (entry : String × SubscriptionId) :
    (dropEntry S sys entry).mSubscriptions = sys.mSubscriptions.erase entry := by
  refine (keeps_release _ entry.2).2.2.trans ?_
  show (sys.stop S entry.2).mSubscriptions.erase entry = _
  rw [(keeps_stop S sys entry.2).2.2]

/-- What is dropped is stopped, and nothing else is logged. -/
theorem log_dropEntry (S : Sdk A R) (sys : System A R) (entry : String × SubscriptionId) :
    (dropEntry S sys entry).log = sys.log ++ [.stopped entry.2] :=
  (releaseSubscription_frame _ entry.2).2.2.trans (log_stop S sys entry.2)

section Rooms

variable [DecidableEq R]

/-- The loop passes over entries of other chat rooms. -/
theorem removeLoop_none (S : Sdk A R) {chatRoom : R} :
    ∀ (l : Multimap String SubscriptionId) (sys : System A R),
      (∀ entry ∈ l, sys.getChatRoom entry.2 ≠ some chatRoom) →
      System.removeLoop S chatRoom l sys = sys := by
  intro l
  induction l with
  | nil => intro sys _; rfl
  | cons entry rest ih =>
      intro sys h
      rw [System.removeLoop, if_neg (h entry (List.mem_cons_self ..))]
      exact ih sys (fun entry' hin => h entry' (List.mem_cons_of_mem _ hin))

/-- The loop drops the one entry of the chat room. -/
theorem removeLoop_single (S : Sdk A R) {chatRoom : R} {entry : String × SubscriptionId}
    {post : Multimap String SubscriptionId} :
    ∀ (pre : Multimap String SubscriptionId) (sys : System A R),
      (∀ entry' ∈ pre, sys.getChatRoom entry'.2 ≠ some chatRoom) →
      sys.getChatRoom entry.2 = some chatRoom →
      (∀ entry' ∈ post, sys.getChatRoom entry'.2 ≠ some chatRoom) →
      System.removeLoop S chatRoom (pre ++ entry :: post) sys = dropEntry S sys entry := by
  intro pre
  induction pre with
  | nil =>
      intro sys _ hroom hpost
      rw [List.nil_append, System.removeLoop, if_pos hroom]
      refine removeLoop_none S post (dropEntry S sys entry) (fun entry' hin => ?_)
      rw [getChatRoom_eq, subject_dropEntry, ← getChatRoom_eq]
      exact hpost entry' hin
  | cons hd pre ih =>
      intro sys hpre hroom hpost
      rw [List.cons_append, System.removeLoop, if_neg (hpre hd (List.mem_cons_self ..))]
      exact ih sys (fun entry' hin => hpre entry' (List.mem_cons_of_mem _ hin)) hroom hpost

end Rooms

/-! ## Stopping and releasing all -/

/-- Stopping all that listen leaves nobody listening, and logs each stop once. -/
theorem stopAll (S : Sdk A R) {owning : List SubscriptionId} :
    ∀ (l : List SubscriptionId) (sys : System A R), Inv S sys l owning →
      Inv S (l.foldl (System.stop S) sys) [] owning ∧
      Keeps sys (l.foldl (System.stop S) sys) ∧
      (l.foldl (System.stop S) sys).log = sys.log ++ l.map .stopped := by
  intro l
  induction l with
  | nil => intro sys h; exact ⟨h, ⟨rfl, rfl, rfl⟩, (List.append_nil _).symm⟩
  | cons s l ih =>
      intro sys h
      obtain ⟨hinv, hkeeps, hlog⟩ := ih (sys.stop S s) h.stop
      refine ⟨hinv, (keeps_stop S sys s).trans hkeeps, hlog.trans ?_⟩
      rw [log_stop, List.append_assoc]
      rfl

/-- Giving up all that own a client leaves no owner. -/
theorem releaseAll (S : Sdk A R) :
    ∀ (l : List SubscriptionId) (sys : System A R), Inv S sys [] l →
      Inv S (l.foldl System.releaseSubscription sys) [] [] ∧
      Keeps sys (l.foldl System.releaseSubscription sys) ∧
      (l.foldl System.releaseSubscription sys).log = sys.log := by
  intro l
  induction l with
  | nil => intro sys h; exact ⟨h, ⟨rfl, rfl, rfl⟩, rfl⟩
  | cons s l ih =>
      intro sys h
      obtain ⟨hinv, hkeeps, hlog⟩ :=
        ih (sys.releaseSubscription s) (h.release List.not_mem_nil)
      exact ⟨hinv, (keeps_release sys s).trans hkeeps,
        hlog.trans (releaseSubscription_frame sys s).2.2⟩

/-! ## The invariant between two operations -/

/-- The entry records the start of this subscription. -/
def isStart (s : SubscriptionId) : Handlers.Entry A R → Bool
  | .started s' => s' = s
  | _ => false

/-- The entry records the stop of this subscription. -/
def isStop (s : SubscriptionId) : Handlers.Entry A R → Bool
  | .stopped s' => s' = s
  | _ => false

/-- The invariant of the handler. -/
structure Sound (S : Sdk A R) (sys : System A R) : Prop where
  inv : Inv S sys (stored sys) (stored sys)
  keyed : ∀ entry ∈ sys.mSubscriptions, ∃ sub, subject sys entry.2 = some sub ∧
    entry.1 = System.getSubscriptionKey S sub.base.mParticipant
  single : ∀ entry ∈ sys.mSubscriptions, ∀ entry' ∈ sys.mSubscriptions, entry.1 = entry'.1 →
    sys.getChatRoom entry.2 = sys.getChatRoom entry'.2 → entry = entry'
  started : ∀ s, sys.log.countP (isStart s) = if s < sys.subs.next then 1 else 0
  stopped : ∀ s, sys.log.countP (isStop s) = if s < sys.subs.next ∧ s ∉ stored sys then 1 else 0

theorem Sound.init (S : Sdk A R) : Sound S System.init where
  inv := Inv.init S
  keyed := List.forall_mem_nil _
  single := List.forall_mem_nil _
  started := fun s => rfl
  stopped := fun s => by simp [System.init]

theorem Sound.stored_nodup {S : Sdk A R} {sys : System A R} (h : Sound S sys) :
    (stored sys).Nodup :=
  h.inv.owned.nodup

/-- What is in the store has been made. -/
theorem Sound.lt_next {S : Sdk A R} {sys : System A R} (h : Sound S sys) {s : SubscriptionId}
    (hs : s ∈ stored sys) : s < sys.subs.next := by
  obtain ⟨sub, hsub⟩ := Option.isSome_iff_exists.mp
    (Option.isSome_map.symm.trans (h.inv.owned.made s hs))
  exact Heap.lt_next_of_get? hsub

/-- Calls on chat rooms neither start nor stop a subscription. -/
theorem countP_calls {calls : List (Handlers.Entry A R)}
    (h : ∀ entry ∈ calls, ∃ s chatRoom call, entry = .called s chatRoom call)
    (s : SubscriptionId) :
    calls.countP (isStart s) = 0 ∧ calls.countP (isStop s) = 0 := by
  constructor
  · refine List.countP_eq_zero.mpr (fun entry hentry => ?_)
    obtain ⟨_, _, _, rfl⟩ := h entry hentry
    exact Bool.false_ne_true
  · refine List.countP_eq_zero.mpr (fun entry hentry => ?_)
    obtain ⟨_, _, _, rfl⟩ := h entry hentry
    exact Bool.false_ne_true

/-- Calls are neither starts nor stops. -/
theorem countP_callsBy {s : SubscriptionId} {calls : List (Handlers.Entry A R)}
    (h : CallsBy s calls) (s' : SubscriptionId) :
    calls.countP (isStart s') = 0 ∧ calls.countP (isStop s') = 0 :=
  countP_calls (fun entry hentry => ⟨s, h entry hentry⟩) s'

/-- The store without an entry, as a list of subscriptions. -/
theorem stored_perm_erase {sys : System A R} {entry : String × SubscriptionId}
    (hentry : entry ∈ sys.mSubscriptions) :
    (stored sys).Perm (entry.2 :: (sys.mSubscriptions.erase entry).map Prod.snd) :=
  (List.perm_cons_erase hentry).map Prod.snd

/-- **Dropping an entry** keeps the invariant. -/
theorem Sound.dropEntry {S : Sdk A R} {sys : System A R} (h : Sound S sys)
    {entry : String × SubscriptionId} (hentry : entry ∈ sys.mSubscriptions) :
    Sound S (dropEntry S sys entry) := by
  have hperm := stored_perm_erase hentry
  have hstored : stored (HandlerSteps.dropEntry S sys entry) =
      (sys.mSubscriptions.erase entry).map Prod.snd := by
    rw [stored, mSubscriptions_dropEntry]
  obtain ⟨hgone, -⟩ := List.nodup_cons.mp (hperm.nodup_iff.mp h.stored_nodup)
  refine ⟨?_, fun entry' hin => ?_, fun entry' hin entry'' hin' hkey hroom => ?_, fun s => ?_,
    fun s => ?_⟩
  · rw [hstored]
    exact ((h.inv.perm hperm hperm).stop.frame _ _).release hgone
  · rw [mSubscriptions_dropEntry] at hin
    rw [subject_dropEntry]
    exact h.keyed entry' (List.mem_of_mem_erase hin)
  · rw [mSubscriptions_dropEntry] at hin hin'
    rw [getChatRoom_eq, getChatRoom_eq, subject_dropEntry, ← getChatRoom_eq, ← getChatRoom_eq]
      at hroom
    exact h.single entry' (List.mem_of_mem_erase hin) entry'' (List.mem_of_mem_erase hin')
      hkey hroom
  · rw [log_dropEntry, List.countP_append, h.started, next_dropEntry]
    rfl
  · rw [log_dropEntry, List.countP_append, h.stopped, next_dropEntry, hstored,
      List.countP_singleton]
    simp only [hperm.mem_iff, List.mem_cons]
    have hlt : entry.2 < sys.subs.next :=
      h.lt_next (hperm.mem_iff.mpr (List.mem_cons_self ..))
    by_cases heq : entry.2 = s
    · subst heq
      simp [isStop, hlt, hgone]
    · have hne : ¬ s = entry.2 := fun hsame => heq hsame.symm
      simp only [isStop, heq, decide_false, Bool.false_eq_true, if_false, Nat.add_zero,
        or_iff_right hne]

/-- **Clearing the store** keeps the invariant. -/
theorem Sound.unsubscribeAll {S : Sdk A R} {sys : System A R} (h : Sound S sys) :
    Sound S (sys.unsubscribeAll S) ∧ (sys.unsubscribeAll S).mSubscriptions = [] ∧
      (sys.unsubscribeAll S).subs.next = sys.subs.next ∧
      subject (sys.unsubscribeAll S) = subject sys ∧
      (sys.unsubscribeAll S).log = sys.log ++ (stored sys).map .stopped := by
  obtain ⟨hstopped, ⟨hsubject, hnext, -⟩, hlog⟩ := stopAll S (stored sys) sys h.inv
  obtain ⟨hinv, ⟨hsubject', hnext', hstore⟩, hlog'⟩ := releaseAll S (stored sys)
    { (stored sys).foldl (System.stop S) sys with mSubscriptions := [] } (hstopped.frame _ _)
  have hempty : (sys.unsubscribeAll S).mSubscriptions = [] := hstore
  have hcount : (sys.unsubscribeAll S).subs.next = sys.subs.next := hnext'.trans hnext
  have hentries : (sys.unsubscribeAll S).log = sys.log ++ (stored sys).map .stopped :=
    hlog'.trans hlog
  refine ⟨⟨?_, fun entry hin => ?_, fun entry hin => ?_, fun s => ?_, fun s => ?_⟩, hempty, hcount,
    hsubject'.trans hsubject, hentries⟩
  · rw [stored, hempty]
    exact hinv
  · rw [hempty] at hin
    cases hin
  · rw [hempty] at hin
    cases hin
  · rw [hentries, List.countP_append, h.started, hcount, List.countP_map]
    -- a stop is no start
    have hzero : (stored sys).countP (isStart s ∘ Handlers.Entry.stopped (A := A) (R := R)) = 0 :=
      List.countP_eq_zero.mpr (fun _ _ => Bool.false_ne_true)
    rw [hzero, Nat.add_zero]
  · rw [hentries, List.countP_append, h.stopped, hcount, List.countP_map]
    have hnone : s ∉ stored (sys.unsubscribeAll S) := by
      rw [stored, hempty]
      exact List.not_mem_nil
    have hcomp : isStop s ∘ Handlers.Entry.stopped (A := A) (R := R) = fun s' => decide (s' = s) :=
      rfl
    have hone : (stored sys).countP (fun s' => decide (s' = s)) =
        if s ∈ stored sys then 1 else 0 := by
      have := h.stored_nodup.count (a := s)
      rw [← this, List.count_eq_countP]
      rfl
    rw [hcomp, hone]
    by_cases hs : s ∈ stored sys
    · simp [hs, hnone, h.lt_next hs]
    · simp [hs, hnone]

/-- `unsubscribeAll` brings about no call on a chat room. -/
theorem log_unsubscribeAll {S : Sdk A R} {sys : System A R} (h : Sound S sys) :
    ∃ new, (sys.unsubscribeAll S).log = sys.log ++ new ∧
      ∀ s room call, Handlers.Entry.called s room call ∉ new := by
  obtain ⟨-, -, -, -, hlog⟩ := h.unsubscribeAll
  refine ⟨_, hlog, fun s room call hin => ?_⟩
  obtain ⟨_, -, heq⟩ := List.mem_map.mp hin
  cases heq

/-! ## Adding an entry -/

/-- What `subscribe` has done when it has added an entry for a subscription it
    has made. -/
structure Added (S : Sdk A R) (sys sys' : System A R) (sub : Subscription A R) : Prop where
  mSubscriptions : sys'.mSubscriptions = sys.mSubscriptions.insert
    (System.getSubscriptionKey S sub.base.mParticipant) sys.subs.next
  next : sys'.subs.next = sys.subs.next + 1
  subject : ∀ s, subject sys' s = if s = sys.subs.next then some (fixed sub) else subject sys s
  log : ∃ calls, sys'.log = sys.log ++ .started sys.subs.next :: calls ∧
    CallsBy sys.subs.next calls

theorem base_fixed (sub : Subscription A R) : (fixed sub).base = sub.base := by
  cases sub <;> rfl

/-- What a factory has just made is in the store after it was started. -/
theorem added_startSubscription (S : Sdk A R) {sys made : System A R} (sub : Subscription A R)
    (hsubs : made.subs = sys.subs.alloc sub) (hstore : made.mSubscriptions = sys.mSubscriptions)
    (hlog : made.log = sys.log) :
    Added S sys (made.startSubscription S sub.base.mParticipant sys.subs.next) sub := by
  obtain ⟨hsubject, hnext, hentries⟩ :=
    keeps_start S (made.addSubscription S sub.base.mParticipant sys.subs.next) sys.subs.next
  obtain ⟨calls, hcalls, hby⟩ :=
    log_start S (made.addSubscription S sub.base.mParticipant sys.subs.next) sys.subs.next
  refine ⟨hentries.trans ?_, hnext.trans ?_, fun s => (congrFun hsubject s).trans ?_, calls,
    hcalls.trans ?_, hby⟩
  · show made.mSubscriptions.insert _ _ = _
    rw [hstore]
  · show made.subs.next = _
    rw [hsubs, Heap.next_alloc]
  · exact subject_alloc hsubs s
  · show made.log ++ _ = _
    rw [hlog]

/-- The store has the new subscription besides those it had. -/
theorem Added.stored_perm {S : Sdk A R} {sys sys' : System A R} {sub : Subscription A R}
    (h : Added S sys sys' sub) : (stored sys').Perm (sys.subs.next :: stored sys) := by
  rw [stored, h.mSubscriptions]
  exact (Multimap.insert_perm _ _ _).map Prod.snd

theorem Added.mem_stored_iff {S : Sdk A R} {sys sys' : System A R} {sub : Subscription A R}
    (h : Added S sys sys' sub) {s : SubscriptionId} :
    s ∈ stored sys' ↔ s = sys.subs.next ∨ s ∈ stored sys :=
  h.stored_perm.mem_iff.trans List.mem_cons

/-- A new subscription points to the client that it was made with. -/
theorem clientOf_added {S : Sdk A R} {sys sys' : System A R} {made : Subscription A R}
    (hadd : Added S sys sys' made) : clientOf sys' sys.subs.next = client? made := by
  rw [clientOf, hadd.subject, if_pos rfl, Option.bind_some]
  cases made <;> rfl

/-- **Adding an entry** keeps the invariant, when the store has none for the
    participant and the chat room. -/
theorem Sound.added {S : Sdk A R} {sys sys' : System A R} (h : Sound S sys)
    {sub : Subscription A R} (hadd : Added S sys sys' sub)
    (hinv : Inv S sys' (sys.subs.next :: stored sys) (sys.subs.next :: stored sys))
    (hfree : ∀ entry ∈ sys.mSubscriptions,
      entry.1 = System.getSubscriptionKey S sub.base.mParticipant →
        sys.getChatRoom entry.2 ≠ some sub.base.mChatRoom) : Sound S sys' := by
  have hperm := hadd.stored_perm
  -- the old subscriptions are as they were, and the new one is for the pair
  have hold : ∀ entry ∈ sys.mSubscriptions, subject sys' entry.2 = subject sys entry.2 := by
    intro entry hin
    have hlt := h.lt_next (mem_stored.mpr ⟨entry, hin, rfl⟩)
    rw [hadd.subject, if_neg (Nat.ne_of_lt hlt)]
  have hroom : ∀ entry ∈ sys.mSubscriptions,
      sys'.getChatRoom entry.2 = sys.getChatRoom entry.2 := by
    intro entry hin
    rw [getChatRoom_eq, hold entry hin, ← getChatRoom_eq]
  have hnew : sys'.getChatRoom sys.subs.next = some sub.base.mChatRoom := by
    rw [getChatRoom_eq, hadd.subject, if_pos rfl, Option.map_some, base_fixed]
  obtain ⟨calls, hlog, hby⟩ := hadd.log
  refine ⟨hinv.perm hperm.symm hperm.symm, fun entry hin => ?_,
    fun entry hin entry' hin' hkey hsame => ?_, fun s => ?_, fun s => ?_⟩
  · rw [hadd.mSubscriptions, Multimap.mem_insert] at hin
    rcases hin with rfl | hin
    · refine ⟨fixed sub, ?_, by rw [base_fixed]⟩
      rw [hadd.subject, if_pos rfl]
    · rw [hold entry hin]
      exact h.keyed entry hin
  · rw [hadd.mSubscriptions, Multimap.mem_insert] at hin hin'
    rcases hin with rfl | hin <;> rcases hin' with rfl | hin'
    · rfl
    · refine absurd ?_ (hfree entry' hin' hkey.symm)
      rw [← hroom entry' hin', ← hsame, hnew]
    · refine absurd ?_ (hfree entry hin hkey)
      rw [← hroom entry hin, hsame, hnew]
    · rw [hroom entry hin, hroom entry' hin'] at hsame
      exact h.single entry hin entry' hin' hkey hsame
  · rw [hlog, List.countP_append, List.countP_cons, (countP_callsBy hby s).1, h.started, hadd.next]
    simp only [isStart, decide_eq_true_eq]
    by_cases heq : sys.subs.next = s
    · subst heq
      simp
    · have hlt : s < sys.subs.next + 1 ↔ s < sys.subs.next :=
        Nat.lt_succ_iff_lt_or_eq.trans (or_iff_left (fun hsame => heq hsame.symm))
      simp [heq, hlt]
  · rw [hlog, List.countP_append, List.countP_cons, (countP_callsBy hby s).2, h.stopped, hadd.next]
    simp only [isStop, hperm.mem_iff, List.mem_cons]
    by_cases heq : s = sys.subs.next
    · simp [heq]
    · have hlt : s < sys.subs.next + 1 ↔ s < sys.subs.next :=
        Nat.lt_succ_iff_lt_or_eq.trans (or_iff_left heq)
      simp [heq, hlt]

/-- The external factory makes one subscription and touches neither the store
    nor the log. -/
theorem createExternal_frame {S : Sdk A R} {sys : System A R} {owning : List SubscriptionId}
    (h : Owned S sys owning) (server : ConferenceServer) (chatRoom : R) (address : A) :
    (sys.createExternal S server chatRoom address).subs = sys.subs.alloc (.external
        (ExternalRegistrationSubscription.make server.capabilityCheckEnabled chatRoom address
          (sys.acquireClient S address).2)) ∧
      (sys.createExternal S server chatRoom address).mSubscriptions = sys.mSubscriptions ∧
      (sys.createExternal S server chatRoom address).log = sys.log := by
  rw [System.createExternal]
  rcases acquire_cases h address with ⟨c, -, -, -, -, hacq⟩ | ⟨-, hacq⟩
  · rw [hacq]
    exact ⟨rfl, rfl, rfl⟩
  · rw [hacq]
    exact ⟨rfl, rfl, rfl⟩

section Operations

variable [DecidableEq R]

/-- `findSubscription` finds the entries with the key of the address and the same
    chat room. -/
theorem findSubscription_iff (S : Sdk A R) (sys : System A R) (chatRoom : R) (address : A) :
    sys.findSubscription S chatRoom address = true ↔
      ∃ entry ∈ sys.mSubscriptions, entry.1 = System.getSubscriptionKey S address ∧
        sys.getChatRoom entry.2 = some chatRoom := by
  rw [System.findSubscription, List.any_eq_true]
  constructor
  · rintro ⟨entry, hin, hroom⟩
    obtain ⟨hin, hkey⟩ := Multimap.mem_equalRange.mp hin
    exact ⟨entry, hin, hkey, of_decide_eq_true hroom⟩
  · rintro ⟨entry, hin, hkey, hroom⟩
    exact ⟨entry, Multimap.mem_equalRange.mpr ⟨hin, hkey⟩, decide_eq_true hroom⟩

/-- `subscribe` when the store has an entry for the pair. -/
theorem subscribe_found (S : Sdk A R) (server : ConferenceServer) {sys : System A R}
    {chatRoom : R} {address : A} (hfind : sys.findSubscription S chatRoom address = true) :
    sys.subscribe S server chatRoom address = sys := by
  simp [System.subscribe, hfind]

/-- `subscribe` when the store has no entry for the pair: which factory makes
    the subscription. -/
theorem subscribe_local (S : Sdk A R) {server : ConferenceServer} {sys : System A R}
    {chatRoom : R} {address : A} (hfind : sys.findSubscription S chatRoom address = false)
    (hlocal : S.getDomain address ∈ server.localDomains) :
    sys.subscribe S server chatRoom address =
      (sys.createOwn S server chatRoom address).startSubscription S address sys.subs.next := by
  simp [System.subscribe, hfind, hlocal]

/-- A participant of no local domain gets a subscription of the external kind. -/
theorem subscribe_remote (S : Sdk A R) {server : ConferenceServer} {sys : System A R}
    {chatRoom : R} {address : A} (hfind : sys.findSubscription S chatRoom address = false)
    (hlocal : S.getDomain address ∉ server.localDomains) :
    sys.subscribe S server chatRoom address =
      (sys.createExternal S server chatRoom address).startSubscription S address
        sys.subs.next := by
  simp [System.subscribe, hfind, hlocal]

/-- What `subscribe` can do. -/
theorem subscribe_cases (S : Sdk A R) (server : ConferenceServer) {sys : System A R}
    (h : Sound S sys) (chatRoom : R) (address : A) :
    (sys.findSubscription S chatRoom address = true ∧
      sys.subscribe S server chatRoom address = sys) ∨
    (sys.findSubscription S chatRoom address = false ∧
      S.getDomain address ∈ server.localDomains ∧
      Added S sys (sys.subscribe S server chatRoom address) (.own
        (OwnRegistrationSubscription.make S server.capabilityCheckEnabled chatRoom address)) ∧
      Inv S (sys.subscribe S server chatRoom address) (sys.subs.next :: stored sys)
        (sys.subs.next :: stored sys)) ∨
    (sys.findSubscription S chatRoom address = false ∧
      S.getDomain address ∉ server.localDomains ∧
      Added S sys (sys.subscribe S server chatRoom address) (.external
        (ExternalRegistrationSubscription.make server.capabilityCheckEnabled chatRoom address
          (sys.acquireClient S address).2)) ∧
      Inv S (sys.subscribe S server chatRoom address) (sys.subs.next :: stored sys)
        (sys.subs.next :: stored sys)) := by
  have hnew : sys.subs.next ∉ stored sys := fun hs => Nat.lt_irrefl _ (h.lt_next hs)
  cases hfind : sys.findSubscription S chatRoom address with
  | true => exact Or.inl ⟨rfl, subscribe_found S server hfind⟩
  | false =>
      by_cases hlocal : S.getDomain address ∈ server.localDomains
      · rw [subscribe_local S hfind hlocal]
        refine Or.inr (Or.inl ⟨rfl, hlocal, ?_, ?_⟩)
        · exact added_startSubscription S (.own (OwnRegistrationSubscription.make S
            server.capabilityCheckEnabled chatRoom address)) rfl rfl rfl
        · exact ((h.inv.createOwn server chatRoom address).frame _ _).start
            (List.mem_cons_self ..) hnew
      · rw [subscribe_remote S hfind hlocal]
        refine Or.inr (Or.inr ⟨rfl, hlocal, ?_, ?_⟩)
        · obtain ⟨hsubs, hstore, hlog⟩ := createExternal_frame h.inv.owned server chatRoom address
          exact added_startSubscription S (.external (ExternalRegistrationSubscription.make
            server.capabilityCheckEnabled chatRoom address (sys.acquireClient S address).2))
            hsubs hstore hlog
        · exact ((h.inv.createExternal server chatRoom address).frame _ _).start
            (List.mem_cons_self ..) hnew

/-- A subscribe for a local domain adds an own subscription. -/
theorem added_own {S : Sdk A R} (server : ConferenceServer) {sys : System A R} (h : Sound S sys)
    {chatRoom : R} {address : A} (hfind : sys.findSubscription S chatRoom address = false)
    (hlocal : S.getDomain address ∈ server.localDomains) :
    Added S sys (sys.subscribe S server chatRoom address) (.own
      (OwnRegistrationSubscription.make S server.capabilityCheckEnabled chatRoom address)) := by
  rcases subscribe_cases S server h chatRoom address with
    ⟨hfind', -⟩ | ⟨-, -, hadd, -⟩ | ⟨-, hlocal', -⟩
  · rw [hfind] at hfind'
    cases hfind'
  · exact hadd
  · exact absurd hlocal hlocal'

/-- A subscribe for another domain adds an external subscription. -/
theorem added_external {S : Sdk A R} (server : ConferenceServer) {sys : System A R}
    (h : Sound S sys) {chatRoom : R} {address : A}
    (hfind : sys.findSubscription S chatRoom address = false)
    (hlocal : S.getDomain address ∉ server.localDomains) :
    Added S sys (sys.subscribe S server chatRoom address) (.external
      (ExternalRegistrationSubscription.make server.capabilityCheckEnabled chatRoom address
        (sys.acquireClient S address).2)) := by
  rcases subscribe_cases S server h chatRoom address with
    ⟨hfind', -⟩ | ⟨-, hlocal', -⟩ | ⟨-, -, hadd, -⟩
  · rw [hfind] at hfind'
    cases hfind'
  · exact absurd hlocal' hlocal
  · exact hadd

/-- What `unsubscribe` can do. -/
theorem unsubscribe_cases {S : Sdk A R} {sys : System A R} (h : Sound S sys) (chatRoom : R)
    (address : A) :
    ((∀ entry ∈ sys.mSubscriptions, entry.1 = System.getSubscriptionKey S address →
        sys.getChatRoom entry.2 ≠ some chatRoom) ∧
      sys.unsubscribe S chatRoom address = sys) ∨
    ∃ entry ∈ sys.mSubscriptions, entry.1 = System.getSubscriptionKey S address ∧
      sys.getChatRoom entry.2 = some chatRoom ∧
      sys.unsubscribe S chatRoom address = dropEntry S sys entry := by
  by_cases hex : ∃ entry ∈ sys.mSubscriptions, entry.1 = System.getSubscriptionKey S address ∧
      sys.getChatRoom entry.2 = some chatRoom
  · obtain ⟨entry, hin, hkey, hroom⟩ := hex
    refine Or.inr ⟨entry, hin, hkey, hroom, ?_⟩
    obtain ⟨pre, post, hsplit⟩ :=
      List.append_of_mem (Multimap.mem_equalRange.mpr ⟨hin, hkey⟩)
    have hnodup : (pre ++ entry :: post).Nodup := by
      rw [← hsplit]
      exact (h.stored_nodup.of_map Prod.snd).filter _
    -- the store has no second entry for the pair, so the loop drops just one
    have hothers : ∀ entry' ∈ pre ++ post, sys.getChatRoom entry'.2 ≠ some chatRoom := by
      intro entry' hin' hroom'
      have hmem : entry' ∈ pre ++ entry :: post := by
        rcases List.mem_append.mp hin' with hp | hp
        · exact List.mem_append_left _ hp
        · exact List.mem_append_right _ (List.mem_cons_of_mem _ hp)
      rw [← hsplit, Multimap.mem_equalRange] at hmem
      have heq := h.single entry' hmem.1 entry hin (hmem.2.trans hkey.symm)
        (hroom'.trans hroom.symm)
      have hgone := (List.nodup_middle.mp hnodup)
      exact (List.nodup_cons.mp hgone).1 (heq ▸ hin')
    show System.removeLoop S chatRoom
      (sys.mSubscriptions.equalRange (System.getSubscriptionKey S address)) sys = _
    rw [hsplit]
    exact removeLoop_single S pre sys
      (fun entry' hp => hothers entry' (List.mem_append_left _ hp)) hroom
      (fun entry' hp => hothers entry' (List.mem_append_right _ hp))
  · have hnone : ∀ entry ∈ sys.mSubscriptions, entry.1 = System.getSubscriptionKey S address →
        sys.getChatRoom entry.2 ≠ some chatRoom :=
      fun entry hin hkey hroom => hex ⟨entry, hin, hkey, hroom⟩
    refine Or.inl ⟨hnone, removeLoop_none S _ sys (fun entry hin => ?_)⟩
    obtain ⟨hin, hkey⟩ := Multimap.mem_equalRange.mp hin
    exact hnone entry hin hkey

/-- An unsubscribe makes no call. -/
theorem log_unsubscribe {S : Sdk A R} {sys : System A R} (h : Sound S sys) (chatRoom : R)
    (address : A) : ∃ new, (sys.unsubscribe S chatRoom address).log = sys.log ++ new ∧
      ∀ s room call, Handlers.Entry.called s room call ∉ new := by
  rcases unsubscribe_cases h chatRoom address with ⟨-, hsame⟩ | ⟨entry, -, -, -, hdrop⟩
  · rw [hsame]
    exact no_new_calls _
  · rw [hdrop]
    refine ⟨_, log_dropEntry S sys entry, fun s room call hin => ?_⟩
    cases List.mem_singleton.mp hin

end Operations

/-! ## Messages -/

/-- **A message** keeps the invariant: it changes neither the store nor the
    subscriptions. -/
theorem Sound.message {S : Sdk A R} {sys sys' : System A R} (h : Sound S sys)
    (hkeeps : Keeps sys sys') (hinv : Inv S sys' (stored sys) (stored sys))
    (hlog : ∃ calls, sys'.log = sys.log ++ calls ∧
      ∀ entry ∈ calls, ∃ s chatRoom call, entry = .called s chatRoom call) : Sound S sys' := by
  have hstored : stored sys' = stored sys := by rw [stored, hkeeps.2.2, stored]
  obtain ⟨calls, hlog, hcalls⟩ := hlog
  refine ⟨by rw [hstored]; exact hinv, fun entry hin => ?_,
    fun entry hin entry' hin' hkey hroom => ?_, fun s => ?_, fun s => ?_⟩
  · rw [hkeeps.2.2] at hin
    rw [hkeeps.1]
    exact h.keyed entry hin
  · rw [hkeeps.2.2] at hin hin'
    rw [hkeeps.getChatRoom, hkeeps.getChatRoom] at hroom
    exact h.single entry hin entry' hin' hkey hroom
  · rw [hlog, List.countP_append, (countP_calls hcalls s).1, h.started, hkeeps.2.1,
      Nat.add_zero]
  · rw [hlog, List.countP_append, (countP_calls hcalls s).2, h.stopped, hkeeps.2.1, hstored,
      Nat.add_zero]

theorem keeps_onNotifyReceived (S : Sdk A R) (sys : System A R) (e : EventId)
    (body : Reginfos.NotifyBody) : Keeps sys (sys.onNotifyReceived S e body) :=
  ⟨rfl, rfl, rfl⟩

/-- What a NOTIFY brings about is logged after what was there, in the order of the
    emissions. -/
theorem log_onNotifyReceived (S : Sdk A R) (sys : System A R) (e : EventId)
    (body : Reginfos.NotifyBody) :
    (sys.onNotifyReceived S e body).log =
      sys.log ++ (sys.world.onNotifyReceived S e body).2.flatMap (System.callsOf S sys.subs) :=
  rfl

/-- A message to a subscription changes neither the store nor the subscriptions. -/
theorem keeps_tellOwn (sys : System A R) (s : SubscriptionId)
    (calls : OwnRegistrationSubscription A R → List (ChatRoomCall A)) :
    Keeps sys (sys.tellOwn s calls) := by
  rw [System.tellOwn]
  split <;> exact ⟨rfl, rfl, rfl⟩

/-- What a message brings about are calls of the subscription that it is addressed
    to. -/
theorem log_tellOwn (sys : System A R) (s : SubscriptionId)
    (calls : OwnRegistrationSubscription A R → List (ChatRoomCall A)) :
    ∃ entries, (sys.tellOwn s calls).log = sys.log ++ entries ∧ CallsBy s entries := by
  rw [System.tellOwn]
  split
  · refine ⟨_, rfl, fun entry hin => ?_⟩
    obtain ⟨call, -, rfl⟩ := List.mem_map.mp hin
    exact ⟨_, call, rfl⟩
  · exact ⟨[], (List.append_nil _).symm, List.forall_mem_nil _⟩

/-- A NOTIFY keeps the laws. -/
theorem Sound.onNotifyReceived {S : Sdk A R} {sys : System A R} (h : Sound S sys) (e : EventId)
    (body : Reginfos.NotifyBody) : Sound S (sys.onNotifyReceived S e body) := by
  refine h.message (keeps_onNotifyReceived S sys e body) (h.inv.onNotifyReceived e body)
    ⟨_, log_onNotifyReceived S sys e body, fun entry hin => ?_⟩
  obtain ⟨em, -, hcalls⟩ := List.mem_flatMap.mp hin
  exact ⟨em.1, callsBy_callsOf S sys.subs em entry hcalls⟩

theorem Sound.tellOwn {S : Sdk A R} {sys : System A R} (h : Sound S sys) (s : SubscriptionId)
    (calls : OwnRegistrationSubscription A R → List (ChatRoomCall A)) :
    Sound S (sys.tellOwn s calls) := by
  obtain ⟨entries, hlog, hby⟩ := log_tellOwn sys s calls
  exact h.message (keeps_tellOwn sys s calls) (h.inv.tellOwn s calls)
    ⟨entries, hlog, fun entry hin => ⟨s, hby entry hin⟩⟩

section Runs

variable [DecidableEq R]

/-- A subscribe keeps the laws, whichever kind it makes. -/
theorem Sound.subscribe {S : Sdk A R} {sys : System A R} (h : Sound S sys)
    (server : ConferenceServer) (chatRoom : R) (address : A) :
    Sound S (sys.subscribe S server chatRoom address) := by
  have hfree : sys.findSubscription S chatRoom address = false →
      ∀ entry ∈ sys.mSubscriptions, entry.1 = System.getSubscriptionKey S address →
        sys.getChatRoom entry.2 ≠ some chatRoom := by
    intro hfind entry hin hkey hroom
    rw [(findSubscription_iff S sys chatRoom address).mpr ⟨entry, hin, hkey, hroom⟩] at hfind
    cases hfind
  rcases subscribe_cases S server h chatRoom address with
    ⟨-, hsame⟩ | ⟨hfind, -, hadd, hinv⟩ | ⟨hfind, -, hadd, hinv⟩
  · rw [hsame]
    exact h
  · exact h.added hadd hinv (hfree hfind)
  · exact h.added hadd hinv (hfree hfind)

/-- An unsubscribe keeps the laws: it drops the one entry of the pair, or nothing.
    -/
theorem Sound.unsubscribe {S : Sdk A R} {sys : System A R} (h : Sound S sys) (chatRoom : R)
    (address : A) : Sound S (sys.unsubscribe S chatRoom address) := by
  rcases unsubscribe_cases h chatRoom address with ⟨-, hsame⟩ | ⟨entry, hin, -, -, hdrop⟩
  · rw [hsame]
    exact h
  · rw [hdrop]
    exact h.dropEntry hin

/-- Every operation keeps the invariant. -/
theorem sound_step (S : Sdk A R) (server : ConferenceServer) (sys : System A R) (op : Op A R)
    (h : Sound S sys) : Sound S (step S server sys op) := by
  cases op with
  | subscribe chatRoom address => exact h.subscribe server chatRoom address
  | unsubscribe chatRoom address => exact h.unsubscribe chatRoom address
  | unsubscribeAll => exact h.unsubscribeAll.1
  | onNotifyReceived e body => exact h.onNotifyReceived e body
  | onSubscriptionStateChanged e state =>
      exact h.message ⟨rfl, rfl, rfl⟩ (h.inv.onSubscriptionStateChanged e state)
        ⟨[], (List.append_nil _).symm, List.forall_mem_nil _⟩
  | onRecordFound s r => exact h.tellOwn s _
  | onContactRegistered s r uid => exact h.tellOwn s _

/-- **The invariant holds after every run.** -/
theorem sound_reach (S : Sdk A R) (server : ConferenceServer) (ops : List (Op A R)) :
    Sound S ((machine S server).reach ops) :=
  Machine.invariant_reach (Sound.init S) (sound_step S server) ops

end Runs

end HandlerSteps
