import FlexisipConference.LifetimeProofs

/-! # One client for each participant

    The store tells participants apart by user name and domain, the clients
    store by the ordered URI of their address.  Where the addresses of one
    participant differ in anything else (a parameter, a port, the scheme), the
    participant gets a client, and a subscription, for each of them.

    `one_client_per_participant_iff` says exactly when this does not happen: no
    external participant is subscribed under another ordered URI than one under
    which the store already has a subscription of the participant. -/

namespace Sharing

open Sdks Heaps Machines Clients Dispatch QuietRun Events Subscriptions Handlers Invariants
open HandlerSteps Lifetime

variable {A R : Type}

/-- No two clients alive are for the same participant. -/
def OneClient (S : Sdk A R) (w : World A) : Prop :=
  ∀ c c' cl cl', w.clients.get? c = some cl → w.clients.get? c' = some cl' →
    S.participant cl.mTo = S.participant cl'.mTo → c = c'

/-- No two live events are for the same participant. -/
def OneEvent (S : Sdk A R) (w : World A) : Prop :=
  ∀ e e' ev ev', w.events.get? e = some ev → w.events.get? e' = some ev' →
    ev.terminated = false → ev'.terminated = false →
      S.participant ev.toAddress = S.participant ev'.toAddress → e = e'

/-- One client for each participant means one live event for each. -/
theorem oneEvent_of_oneClient {S : Sdk A R} {w : World A} (hrest : AtRest S w)
    (h : OneClient S w) : OneEvent S w := by
  intro e e' ev ev' hev hev' hlive hlive' hsame
  obtain ⟨c, hcur⟩ := (isLive_iff hrest).mp ⟨ev, hev, hlive⟩
  obtain ⟨c', hcur'⟩ := (isLive_iff hrest).mp ⟨ev', hev', hlive'⟩
  obtain ⟨cl, hcl, -⟩ := id hcur
  obtain ⟨cl', hcl', -⟩ := id hcur'
  have hto := toAddress_of_isCurrent hrest hcl hcur hev
  have hto' := toAddress_of_isCurrent hrest hcl' hcur' hev'
  obtain rfl := h c c' cl cl' hcl hcl' (by rw [hto, hto', hsame])
  exact hcur.inj hcur'

/-- The external subscriptions of one participant in the store have one ordered
    URI. -/
def OneUri (S : Sdk A R) (sys : System A R) : Prop :=
  ∀ s ∈ stored sys, ∀ s' ∈ stored sys, ∀ sub sub', subject sys s = some (.external sub) →
    subject sys s' = some (.external sub') →
      S.participant sub.mParticipant = S.participant sub'.mParticipant →
        S.asStringUriOnlyOrdered sub.mParticipant = S.asStringUriOnlyOrdered sub'.mParticipant

/-- The client of an external subscription in the store, with its address. -/
theorem client_of_stored {S : Sdk A R} {sys : System A R} (h : Sound S sys) {s : SubscriptionId}
    (hs : s ∈ stored sys) {sub : ExternalRegistrationSubscription A R}
    (hsub : sys.subs.get? s = some (.external sub)) :
    ∃ cl, sys.world.clients.get? sub.mClient = some cl ∧
      S.asStringUriOnlyOrdered cl.mTo = S.asStringUriOnlyOrdered sub.mParticipant := by
  obtain ⟨cl, hcl⟩ := h.inv.owned.client_alive hs (clientOf_external hsub)
  exact ⟨cl, hcl, h.inv.owned.served s hs sub hsub cl.mTo cl.observers
    (face_eq_some_iff.mpr ⟨cl, hcl, rfl, rfl⟩)⟩

/-- What the clients are for can be read from the store. -/
theorem oneClient_iff_oneUri {S : Sdk A R} {sys : System A R} (h : Sound S sys) :
    OneClient S sys.world ↔ OneUri S sys := by
  constructor
  · intro hone s hs s' hs' sub sub' hsub hsub' hsame
    rw [subject_external_iff] at hsub hsub'
    obtain ⟨cl, hcl, hord⟩ := client_of_stored h hs hsub
    obtain ⟨cl', hcl', hord'⟩ := client_of_stored h hs' hsub'
    -- an ordered URI determines the participant
    have hto : S.participant cl.mTo = S.participant cl'.mTo := by
      rw [S.participant_of_ordered hord, S.participant_of_ordered hord', hsame]
    exact (same_client_iff h hs hs' hsub hsub').mp (hone _ _ cl cl' hcl hcl' hto)
  · intro hone c c' cl cl' hcl hcl' hto
    obtain ⟨s, hs, sub, hsub, rfl⟩ := (alive_iff_referenced h).mp ⟨cl, hcl⟩
    obtain ⟨s', hs', sub', hsub', rfl⟩ := (alive_iff_referenced h).mp ⟨cl', hcl'⟩
    obtain ⟨_, hcl₁, hord⟩ := client_of_stored h hs hsub
    obtain rfl := Option.some.inj (hcl.symm.trans hcl₁)
    obtain ⟨_, hcl₁', hord'⟩ := client_of_stored h hs' hsub'
    obtain rfl := Option.some.inj (hcl'.symm.trans hcl₁')
    have hsame : S.participant sub.mParticipant = S.participant sub'.mParticipant := by
      rw [← S.participant_of_ordered hord, ← S.participant_of_ordered hord', hto]
    exact (same_client_iff h hs hs' hsub hsub').mpr (hone s hs s' hs' sub sub'
      (subject_external_iff.mpr hsub) (subject_external_iff.mpr hsub') hsame)

theorem OneUri.mono {S : Sdk A R} {sys sys' : System A R} (h : OneUri S sys)
    (hsubject : subject sys' = subject sys) (hstored : ∀ s ∈ stored sys', s ∈ stored sys) :
    OneUri S sys' := by
  intro s hs s' hs' sub sub' hsub hsub'
  rw [hsubject] at hsub hsub'
  exact h s (hstored s hs) s' (hstored s' hs') sub sub' hsub hsub'

theorem OneUri.congr {S : Sdk A R} {sys sys' : System A R} (h : OneUri S sys)
    (hkeeps : Keeps sys sys') : OneUri S sys' :=
  h.mono hkeeps.1 (fun s hs => by
    rw [stored, hkeeps.2.2] at hs
    exact hs)

/-- An added entry keeps one ordered URI for each participant exactly when it
    comes with the URI that is there. -/
theorem oneUri_added_iff {S : Sdk A R} {sys sys' : System A R} (hsound : Sound S sys)
    (h : OneUri S sys) {sub : Subscription A R} (hadd : Added S sys sys' sub) :
    OneUri S sys' ↔ ∀ ext, sub = .external ext → ∀ s ∈ stored sys, ∀ ext',
      subject sys s = some (.external ext') →
        S.participant ext'.mParticipant = S.participant ext.mParticipant →
          S.asStringUriOnlyOrdered ext'.mParticipant =
            S.asStringUriOnlyOrdered ext.mParticipant := by
  have hmem : ∀ s, s ∈ stored sys' ↔ s = sys.subs.next ∨ s ∈ stored sys := fun s => by
    rw [hadd.mem_stored_iff]
  have hold : ∀ s ∈ stored sys, subject sys' s = subject sys s := fun s hs => by
    rw [hadd.subject, if_neg (Nat.ne_of_lt (hsound.lt_next hs))]
  have hnew : subject sys' sys.subs.next = some (fixed sub) := by
    rw [hadd.subject, if_pos rfl]
  have hfixed : ∀ ext, fixed sub = .external ext → sub = .external ext := by
    intro ext hext
    cases sub with
    | own sub => cases hext
    | external sub => exact hext
  constructor
  · rintro hone ext rfl s hs ext' hext' hsame
    refine hone s ((hmem s).mpr (Or.inr hs)) sys.subs.next ((hmem _).mpr (Or.inl rfl)) ext' ext ?_
      hnew hsame
    rw [hold s hs]
    exact hext'
  · intro hcond s hs s' hs' ext ext' hext hext' hsame
    -- the new one or an old one, on either side
    rcases (hmem s).mp hs with rfl | hs <;> rcases (hmem s').mp hs' with rfl | hs'
    · rw [hext] at hext'
      rw [Subscription.external.inj (Option.some.inj hext')]
    · rw [hnew] at hext
      rw [hold s' hs'] at hext'
      exact (hcond ext (hfixed ext (Option.some.inj hext)) s' hs' ext' hext' hsame.symm).symm
    · rw [hnew] at hext'
      rw [hold s hs] at hext
      exact hcond ext' (hfixed ext' (Option.some.inj hext')) s hs ext hext hsame
    · rw [hold s hs] at hext
      rw [hold s' hs'] at hext'
      exact h s hs s' hs' ext ext' hext hext' hsame

section Runs

variable [DecidableEq R]

/-- A subscribe of an external participant that adds an entry comes with the
    ordered URI under which the store has the participant, if it has it. -/
def SameUri (S : Sdk A R) (server : ConferenceServer) (sys : System A R) : Op A R → Prop
  | .subscribe chatRoom address =>
      sys.findSubscription S chatRoom address = false →
        S.getDomain address ∉ server.localDomains →
          ∀ s ∈ stored sys, ∀ sub, sys.subs.get? s = some (.external sub) →
            S.participant sub.mParticipant = S.participant address →
              S.asStringUriOnlyOrdered sub.mParticipant = S.asStringUriOnlyOrdered address
  | _ => True

/-- **Step lemma**: one step keeps one ordered URI for each participant exactly
    when it meets `SameUri`. -/
theorem oneUri_step_iff (S : Sdk A R) (server : ConferenceServer) (sys : System A R) (op : Op A R)
    (hsound : Sound S sys) (h : OneUri S sys) :
    OneUri S (step S server sys op) ↔ SameUri S server sys op := by
  cases op with
  | subscribe chatRoom address =>
      show OneUri S (sys.subscribe S server chatRoom address) ↔ _
      rcases subscribe_cases S server hsound chatRoom address with
        ⟨hfind, hsame⟩ | ⟨-, hlocal, hadd, -⟩ | ⟨hfind, hlocal, hadd, -⟩
      · rw [hsame]
        refine iff_of_true h (fun hnot => ?_)
        rw [hfind] at hnot
        cases hnot
      · -- a local participant gets no client
        rw [oneUri_added_iff hsound h hadd]
        exact iff_of_true (fun ext hext => nomatch hext) (fun _ hnot => absurd hlocal hnot)
      · rw [oneUri_added_iff hsound h hadd]
        constructor
        · intro hcond _ _ s hs sub hsub
          exact hcond _ rfl s hs sub (subject_external_iff.mpr hsub)
        · intro hcond ext hext s hs ext' hext'
          obtain rfl := Subscription.external.inj hext
          exact hcond hfind hlocal s hs ext' (subject_external_iff.mp hext')
  | unsubscribe chatRoom address =>
      refine iff_of_true ?_ trivial
      show OneUri S (sys.unsubscribe S chatRoom address)
      rcases unsubscribe_cases hsound chatRoom address with ⟨-, hsame⟩ | ⟨entry, hin, -, -, hdrop⟩
      · rw [hsame]
        exact h
      · rw [hdrop]
        refine h.mono (subject_dropEntry S sys entry) (fun s hs => ?_)
        rw [stored, mSubscriptions_dropEntry] at hs
        exact (stored_perm_erase hin).mem_iff.mpr (List.mem_cons_of_mem _ hs)
  | unsubscribeAll =>
      refine iff_of_true ?_ trivial
      obtain ⟨-, hempty, -, hsubject, -⟩ := hsound.unsubscribeAll
      refine h.mono hsubject (fun s hs => ?_)
      change s ∈ stored (sys.unsubscribeAll S) at hs
      rw [stored, hempty] at hs
      cases hs
  | onNotifyReceived e body =>
      exact iff_of_true (h.congr (keeps_onNotifyReceived S sys e body)) trivial
  | onSubscriptionStateChanged e state => exact iff_of_true h trivial
  | onRecordFound s r => exact iff_of_true (h.congr (keeps_tellOwn sys s _)) trivial
  | onContactRegistered s r uid => exact iff_of_true (h.congr (keeps_tellOwn sys s _)) trivial

/-- **At most one client, and one live event, for each participant**: this holds
    in all the states of a run exactly when no subscribe of the run brings in an
    external participant under a second ordered URI. -/
theorem one_client_per_participant_iff (S : Sdk A R) (server : ConferenceServer)
    (ops : List (Op A R)) :
    (∀ pre, pre <+: ops → OneClient S ((machine S server).reach pre).world ∧
      OneEvent S ((machine S server).reach pre).world) ↔
    (machine S server).Along (SameUri S server) (machine S server).init ops := by
  have hexact := Machine.forall_prefix_iff_along (M := machine S server) (I := OneUri S)
    (J := Sound S) (P := SameUri S server) (sound_step S server)
    (oneUri_step_iff S server) ops System.init (Sound.init S) (List.forall_mem_nil _)
  refine Iff.trans (forall_congr' fun pre => imp_congr_right fun _ => ?_) hexact
  have hsound := sound_reach S server pre
  have hiff := oneClient_iff_oneUri hsound
  exact ⟨fun h => hiff.mp h.1, fun h => ⟨hiff.mpr h,
    oneEvent_of_oneClient hsound.inv.rest (hiff.mpr h)⟩⟩

end Runs

/-- A participant who is in one chat room under the plain URI and in another
    under a URI with a parameter has two clients and two live events. -/
theorem two_clients_for_one_participant :
    let sys := (machine stringSdk sampleServer).reach
      [.subscribe Capabilities.conference "sip:alice@external.example.org",
        .subscribe Capabilities.encrypted "sip:alice@external.example.org;transport=tcp"]
    sys.world.clients.get? 0 = some ⟨"sip:alice@external.example.org", some 0, [], [0]⟩ ∧
    sys.world.clients.get? 1 =
      some ⟨"sip:alice@external.example.org;transport=tcp", some 1, [], [1]⟩ ∧
    (sys.world.events.get? 0).map (·.terminated) = some false ∧
    (sys.world.events.get? 1).map (·.terminated) = some false ∧
    stringSdk.participant "sip:alice@external.example.org" =
      stringSdk.participant "sip:alice@external.example.org;transport=tcp" ∧
    ¬ OneClient stringSdk sys.world := by
  intro sys
  have h0 : sys.world.clients.get? 0 =
      some ⟨"sip:alice@external.example.org", some 0, [], [0]⟩ := by decide
  have h1 : sys.world.clients.get? 1 =
      some ⟨"sip:alice@external.example.org;transport=tcp", some 1, [], [1]⟩ := by decide
  have hsame : stringSdk.participant "sip:alice@external.example.org" =
      stringSdk.participant "sip:alice@external.example.org;transport=tcp" := by decide
  refine ⟨h0, h1, by decide, by decide, hsame, fun hone => ?_⟩
  exact absurd (hone 0 1 _ _ h0 h1 hsame) (by decide)

end Sharing
