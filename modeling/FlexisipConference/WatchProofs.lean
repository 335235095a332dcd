import FlexisipConference.RegistrarProofs

/-! # What the registrar watches

    A subscription asks the registrar to watch its record when it is started, and
    no longer to when it is stopped; the registrar comes to it later.  So what it
    watches is behind the store.  What it will watch once it has evaluated what
    it was asked (`settle`) is not: the key of each own subscription in the
    store that has one, and nothing for the others (`settle_reach`).

    A registrar that has nothing left to evaluate has no watch for a
    subscription that is gone, and lacks none (`no_watch_leaks`). -/

namespace Watches

open Sdks Reginfos Heaps Multimaps Machines Clients Subscriptions Invariants HandlerSteps
open Lifetime Calls Silence Registrars
open Handlers hiding step machine

variable {A R : Type}

/-- What the registrar watches for a subscription when it has evaluated its
    requests. -/
def settle : Option String → List RegistrarRequest → Option String
  | watched, [] => watched
  | watched, .fetch _ :: rest => settle watched rest
  | _, .subscribe key :: rest => settle (some key) rest
  | _, .unsubscribe _ :: rest => settle none rest

theorem settle_append (reqs reqs' : List RegistrarRequest) :
    ∀ watched, settle watched (reqs ++ reqs') = settle (settle watched reqs) reqs' := by
  induction reqs with
  | nil => intro watched; rfl
  | cons request rest ih =>
      intro watched
      cases request with
      | fetch aor => exact ih watched
      | subscribe key => exact ih (some key)
      | unsubscribe key => exact ih none

/-- Unsubscribing leaves no watch. -/
theorem settle_unsubscribes {reqs : List RegistrarRequest}
    (h : ∀ request ∈ reqs, ∃ key, request = .unsubscribe key) :
    settle none reqs = none ∧ (reqs ≠ [] → ∀ watched, settle watched reqs = none) := by
  induction reqs with
  | nil => exact ⟨rfl, fun hne => absurd rfl hne⟩
  | cons request rest ih =>
      obtain ⟨key, rfl⟩ := h request (List.mem_cons_self ..)
      have hrest := (ih (fun request hin => h request (List.mem_cons_of_mem _ hin))).1
      exact ⟨hrest, fun _ _ => hrest⟩

/-- The key that the store has for a subscription. -/
def storedKey (S : Sdk A R) (sys : System A R) (s : SubscriptionId) :
    Option String :=
  if s ∈ stored sys then keyOf S sys s else none

/-- What the registrar will watch is what the store has. -/
def Settles (S : Sdk A R) (st : State A R) : Prop :=
  ∀ s, settle (st.watched s) (st.requests s) = storedKey S st.system s

/-! ## What stopping asks for -/

theorem keyOf_of_subject {S : Sdk A R} {sys sys' : System A R} {s : SubscriptionId}
    (h : subject sys' s = subject sys s) : keyOf S sys' s = keyOf S sys s := by
  rw [keyOf, keyOf, h]

/-- A subscription in the store asks to unsubscribe from its key, if it has one. -/
theorem stopRequests_of_stored {S : Sdk A R} {sys : System A R} (h : Sound S sys)
    {s : SubscriptionId} (hs : s ∈ stored sys) :
    stopRequests S sys s = ((keyOf S sys s).map (fun key => (s, .unsubscribe key))).toList := by
  rw [stopRequests]
  cases hget : sys.subs.get? s with
  | none =>
      have hkey : keyOf S sys s = none := by
        cases hkey : keyOf S sys s with
        | none => rfl
        | some key =>
            obtain ⟨sub, hsub, -⟩ := keyOf_eq_some_iff.mp hkey
            rw [hget] at hsub
            cases hsub
      rw [hkey]
      rfl
  | some made =>
      cases made with
      | external sub =>
          rw [keyOf_external S hget]
          rfl
      | own sub =>
          have hactive := h.inv.attached.active s
          rw [isActive, hget, keyOf_own S hget] at hactive
          rw [keyOf_own S hget]
          cases haor : sub.mParticipantAor with
          | none =>
              have hnot : sub.mActive = false := by
                refine Bool.eq_false_iff.mpr ?_
                intro htrue
                have := (hactive.mp htrue).2
                rw [haor] at this
                cases this
              simp [OwnRegistrationSubscription.stop, hnot]
          | some aor =>
              have htrue : sub.mActive = true := hactive.mpr ⟨hs, by rw [haor]; rfl⟩
              simp [OwnRegistrationSubscription.stop, htrue, haor]

section Rooms

variable [DecidableEq R]

/-- A call that takes subscriptions off the store asks for nothing but to
    unsubscribe, from the key of each that it takes off. -/
theorem issued_of_gone {S : Sdk A R} {server : ConferenceServer} {sys : System A R}
    (h : Sound S sys) (call : Call A R) {s : SubscriptionId} (hs : s ∈ stored sys)
    (hgone : s ∉ stored (Handlers.step S server sys call.op)) :
    (∀ p ∈ issued S server sys call, ∃ key, p.2 = .unsubscribe key) ∧
      ∀ key, keyOf S sys s = some key → (s, .unsubscribe key) ∈ issued S server sys call := by
  have hstop : ∀ s' ∈ stored sys, ∀ p ∈ stopRequests S sys s', ∃ key, p.2 = .unsubscribe key := by
    intro s' hs' p hp
    rw [stopRequests_of_stored h hs', Option.mem_toList, Option.map_eq_some_iff] at hp
    obtain ⟨key, -, rfl⟩ := hp
    exact ⟨key, rfl⟩
  have hkey : ∀ key, keyOf S sys s = some key → (s, .unsubscribe key) ∈ stopRequests S sys s := by
    intro key hkey
    rw [stopRequests_of_stored h hs, hkey]
    exact List.mem_singleton_self _
  cases call with
  | subscribe chatRoom address =>
      -- subscribing takes nothing off
      exfalso
      apply hgone
      show s ∈ stored (sys.subscribe S server chatRoom address)
      rcases subscribe_cases S server h chatRoom address with
        ⟨-, hsame⟩ | ⟨-, -, hadd, -⟩ | ⟨-, -, hadd, -⟩
      · rw [hsame]
        exact hs
      · exact hadd.mem_stored_iff.mpr (Or.inr hs)
      · exact hadd.mem_stored_iff.mpr (Or.inr hs)
  | unsubscribe chatRoom address =>
      constructor
      · intro p hp
        obtain ⟨entry, hentry, hp⟩ := List.mem_flatMap.mp hp
        obtain ⟨hin, -⟩ := Multimap.mem_equalRange.mp (List.mem_filter.mp hentry).1
        exact hstop entry.2 (mem_stored.mpr ⟨entry, hin, rfl⟩) p hp
      · intro key hk
        rcases unsubscribe_cases h chatRoom address with
          ⟨-, hsame⟩ | ⟨entry, hin, hentry, hroom, hdrop⟩
        · have hgone' : s ∉ stored (sys.unsubscribe S chatRoom address) := hgone
          rw [hsame] at hgone'
          exact absurd hs hgone'
        · have hgone' : s ∉ stored (sys.unsubscribe S chatRoom address) := hgone
          have hs' : s = entry.2 := by
            by_contra hne
            rw [hdrop, stored, mSubscriptions_dropEntry] at hgone'
            have hmem := (stored_perm_erase hin).mem_iff.mp hs
            rcases List.mem_cons.mp hmem with heq | hmem
            · exact hne heq
            · exact hgone' hmem
          subst hs'
          refine List.mem_flatMap.mpr ⟨entry, List.mem_filter.mpr
            ⟨Multimap.mem_equalRange.mpr ⟨hin, hentry⟩, decide_eq_true hroom⟩, hkey key hk⟩
  | unsubscribeAll =>
      constructor
      · intro p hp
        obtain ⟨s', hs', hp⟩ := List.mem_flatMap.mp hp
        exact hstop s' hs' p hp
      · intro key hk
        exact List.mem_flatMap.mpr ⟨s, hs, hkey key hk⟩

/-- So the registrar will have no watch for what is taken off. -/
theorem settle_of_gone {S : Sdk A R} {server : ConferenceServer} {sys : System A R}
    (h : Sound S sys) (call : Call A R) {s : SubscriptionId} (hs : s ∈ stored sys)
    (hgone : s ∉ stored (Handlers.step S server sys call.op)) :
    settle (keyOf S sys s) (addressed s (issued S server sys call)) = none := by
  obtain ⟨hall, hkey⟩ := issued_of_gone h call hs hgone
  have hunsubscribes : ∀ request ∈ addressed s (issued S server sys call),
      ∃ key, request = .unsubscribe key := by
    intro request hrequest
    obtain ⟨p, hp, hsome⟩ := List.mem_filterMap.mp hrequest
    obtain ⟨key, hp2⟩ := hall p hp
    split at hsome
    · exact ⟨key, (Option.some.inj hsome).symm.trans hp2⟩
    · cases hsome
  obtain ⟨hnone, hsome⟩ := settle_unsubscribes hunsubscribes
  cases hk : keyOf S sys s with
  | none => exact hnone
  | some key =>
      have hin : .unsubscribe key ∈ addressed s (issued S server sys call) :=
        List.mem_filterMap.mpr ⟨_, hkey key hk, if_pos rfl⟩
      exact hsome (List.ne_nil_of_mem hin) (some key)

/-- What a call leaves of a subscription that was made before. -/
theorem settle_call {S : Sdk A R} (server : ConferenceServer) {st : State A R} (h : Wired S st)
    (hsettles : Settles S st) (call : Call A R) {s : SubscriptionId}
    (hlt : s < st.system.subs.next) :
    settle (st.watched s) (st.requests s ++ addressed s (issued S server st.system call)) =
      storedKey S (Handlers.step S server st.system call.op) s := by
  have honward := onward_step S server h.sound call.op
  have hkey := keyOf_of_subject (S := S) (honward.subject s hlt)
  rw [settle_append, hsettles s, storedKey, storedKey, hkey]
  by_cases hs : s ∈ stored st.system
  · rw [if_pos hs]
    by_cases hstays : s ∈ stored (Handlers.step S server st.system call.op)
    · rw [if_pos hstays, issued_of_stays h.sound call hs hstays]
      rfl
    · rw [if_neg hstays]
      exact settle_of_gone h.sound call hs hstays
  · rw [if_neg hs, if_neg (fun hin => hs (honward.entered s hin hlt))]
    -- what is not in the store asks for nothing
    have hnone : addressed s (issued S server st.system call) = [] := by
      refine addressed_eq_nil ?_
      intro p hp
      rintro rfl
      rcases issued_by h.sound call p hp with ⟨hnew, -⟩ | ⟨hold, -⟩
      · exact absurd hlt (hnew ▸ Nat.lt_irrefl _)
      · exact hs hold
    rw [hnone]
    rfl

/-- What a subscribe leaves of the subscription that it makes. -/
theorem settle_made {S : Sdk A R} (server : ConferenceServer) {st : State A R} (h : Wired S st)
    (chatRoom : R) (address : A)
    (hnew : st.system.subs.next < (st.system.subscribe S server chatRoom address).subs.next) :
    settle none (addressed st.system.subs.next
        (issued S server st.system (.subscribe chatRoom address))) =
      storedKey S (st.system.subscribe S server chatRoom address) st.system.subs.next := by
  rcases subscribe_cases S server h.sound chatRoom address with
    ⟨-, hsame⟩ | ⟨hfind, hlocal, hadd, -⟩ | ⟨hfind, hlocal, hadd, -⟩
  · rw [hsame] at hnew
    exact absurd hnew (Nat.lt_irrefl _)
  · have hsubject := hadd.subject st.system.subs.next
    rw [if_pos rfl] at hsubject
    rw [issued, hfind, if_neg Bool.false_ne_true, if_pos hlocal, addressed_own, storedKey,
      if_pos (hadd.mem_stored_iff.mpr (Or.inl rfl)), keyOf, hsubject]
    cases haor : (OwnRegistrationSubscription.make S server.capabilityCheckEnabled chatRoom
      address).mParticipantAor with
    | none => simp [OwnRegistrationSubscription.start, haor, settle, fixed, registrarKey?]
    | some aor => simp [OwnRegistrationSubscription.start, haor, settle, fixed, registrarKey?]
  · have hsubject := hadd.subject st.system.subs.next
    rw [if_pos rfl] at hsubject
    rw [issued, hfind, if_neg Bool.false_ne_true, if_neg hlocal, storedKey,
      if_pos (hadd.mem_stored_iff.mpr (Or.inl rfl)), keyOf, hsubject]
    rfl

omit [DecidableEq R] in
/-- What keeps the subscriptions and the store keeps the keys. -/
theorem storedKey_of_keeps {S : Sdk A R} {sys sys' : System A R} (h : Keeps sys sys')
    (s : SubscriptionId) : storedKey S sys' s = storedKey S sys s := by
  rw [storedKey, storedKey, stored, stored, h.2.2, keyOf_of_subject (congrFun h.1 s)]

/-- What a call leaves of a subscription that was not made before. -/
theorem settle_unknown {S : Sdk A R} (server : ConferenceServer) {st : State A R}
    (h : Wired S st) (call : Call A R) {s : SubscriptionId} (hlt : ¬ s < st.system.subs.next) :
    settle none (addressed s (issued S server st.system call)) =
      storedKey S (Handlers.step S server st.system call.op) s := by
  have hsound := sound_step S server st.system call.op h.sound
  by_cases hmade : s < (Handlers.step S server st.system call.op).subs.next
  · cases call with
    | subscribe chatRoom address =>
        have hs : s = st.system.subs.next := by
          have hmade' : s < (st.system.subscribe S server chatRoom address).subs.next := hmade
          rcases subscribe_cases S server h.sound chatRoom address with
            ⟨-, hsame⟩ | ⟨-, -, hadd, -⟩ | ⟨-, -, hadd, -⟩
          · rw [hsame] at hmade'
            exact absurd hmade' hlt
          · rw [hadd.next] at hmade'
            exact Nat.le_antisymm (Nat.le_of_lt_succ hmade') (Nat.not_lt.mp hlt)
          · rw [hadd.next] at hmade'
            exact Nat.le_antisymm (Nat.le_of_lt_succ hmade') (Nat.not_lt.mp hlt)
        subst hs
        exact settle_made server h chatRoom address hmade
    | unsubscribe chatRoom address =>
        have hmade' : s < (st.system.unsubscribe S chatRoom address).subs.next := hmade
        rcases unsubscribe_cases h.sound chatRoom address with
          ⟨-, hsame⟩ | ⟨entry, -, -, -, hdrop⟩
        · rw [hsame] at hmade'
          exact absurd hmade' hlt
        · rw [hdrop, next_dropEntry] at hmade'
          exact absurd hmade' hlt
    | unsubscribeAll =>
        have hmade' : s < (st.system.unsubscribeAll S).subs.next := hmade
        rw [h.sound.unsubscribeAll.2.2.1] at hmade'
        exact absurd hmade' hlt
  · -- it is not made yet
    rw [issued_unknown h.sound call (Nat.not_lt.mp hmade), storedKey,
      if_neg (fun hin => hmade (hsound.lt_next hin))]
    rfl

/-- **Every action keeps what the registrar will watch to the store.** -/
theorem settles_step (S : Sdk A R) (server : ConferenceServer) (st : State A R) (act : Act A R)
    (h : Wired S st) (hsettles : Settles S st) : Settles S (step S server st act) := by
  intro s
  cases act with
  | call call =>
      show settle (st.watched s) (st.requests s ++ addressed s (issued S server st.system call)) =
        storedKey S (Handlers.step S server st.system call.op) s
      by_cases hlt : s < st.system.subs.next
      · exact settle_call server h hsettles call hlt
      · obtain ⟨hrequests, hwatched, -⟩ := h.unknown s (Nat.not_lt.mp hlt)
        rw [hrequests, hwatched, List.nil_append]
        exact settle_unknown server h call hlt
  | onNotifyReceived e body =>
      exact (hsettles s).trans
        (storedKey_of_keeps (keeps_onNotifyReceived S st.system e body) s).symm
  | onSubscriptionStateChanged e state => exact hsettles s
  | change key r uid => exact hsettles s
  | serve s' =>
      rw [serve_system, ← hsettles s]
      by_cases hs' : s = s'
      · subst hs'
        rw [step]
        cases hrequests : st.requests s with
        | nil => rw [hrequests]
        | cons request rest =>
            -- evaluating the first request is what `settle` does
            cases request with
            | fetch aor => simp [State.evaluate, settle]
            | subscribe key => simp [State.evaluate, settle]
            | unsubscribe key => simp [State.evaluate, settle]
      · obtain ⟨-, hrequests, hwatched, -⟩ := serve_apart S server st hs'
        rw [hrequests, hwatched]
  | deliver s' =>
      rw [step]
      split
      · exact hsettles s
      · rename_i message rest _
        refine (hsettles s).trans (Eq.symm ?_)
        cases message with
        | recordFound r => exact storedKey_of_keeps (keeps_tellOwn st.system s' _) s
        | contactRegistered r uid => exact storedKey_of_keeps (keeps_tellOwn st.system s' _) s

/-- After every run the registrar will watch, once it has evaluated what it was
    asked, the key of each subscription in the store. -/
theorem settle_reach (S : Sdk A R) (server : ConferenceServer) (records : String → Option Record)
    (acts : List (Act A R)) : Settles S ((machine S server records).reach acts) := by
  have hboth := Machine.invariant_reach (M := machine S server records)
    (I := fun st => Wired S st ∧ Settles S st) ⟨wired_init S records, fun _ => rfl⟩
    (fun st act h => ⟨wired_step S server st act h.1, settles_step S server st act h.1 h.2⟩) acts
  exact hboth.2

/-- **NO WATCH LEAKS, AND NONE IS MISSING.**  In any state of any run, once the
    registrar has evaluated the requests of a subscription, it watches a key for
    it exactly when the subscription is in the store and this is the key of its
    participant. -/
theorem no_watch_leaks (S : Sdk A R) (server : ConferenceServer)
    (records : String → Option Record) (acts : List (Act A R)) (s : SubscriptionId)
    (hserved : ((machine S server records).reach acts).requests s = []) (key : String) :
    ((machine S server records).reach acts).watched s = some key ↔
      ∃ sub aor, Starts ((machine S server records).reach acts).system s sub aor ∧
        S.recordKey aor = key := by
  have hsettle := settle_reach S server records acts s
  rw [hserved, settle] at hsettle
  rw [hsettle, storedKey]
  constructor
  · intro hkey
    split at hkey
    · rename_i hs
      obtain ⟨sub, hsub, haor⟩ := keyOf_eq_some_iff.mp hkey
      obtain ⟨aor, haor, hkey'⟩ := Option.map_eq_some_iff.mp haor
      exact ⟨sub, aor, ⟨hs, hsub, haor⟩, hkey'⟩
    · cases hkey
  · rintro ⟨sub, aor, hs, rfl⟩
    rw [if_pos hs.stored, keyOf_own S hs.own, hs.aor]
    rfl

/-- A participant that left before the registrar came to its subscription. -/
theorem no_watch_leaks_left :
    let acts : List (Act String (BitVec 32)) :=
      [.call (.subscribe 1#32 "sip:bob@example.org"), .serve 0,
        .call (.unsubscribe 1#32 "sip:bob@example.org"), .serve 0, .serve 0]
    let st := (machine stringSdk sampleServer (fun _ => none)).reach acts
    st.watched 0 = some "sip:bob@example.org" ↔ ∃ sub aor, Starts st.system 0 sub aor ∧
      stringSdk.recordKey aor = "sip:bob@example.org" := by
  intro acts st
  exact no_watch_leaks stringSdk sampleServer (fun _ => none) acts 0 rfl "sip:bob@example.org"

end Rooms

end Watches
