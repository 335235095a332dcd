import Mathlib.Data.List.Sort
import FlexisipConference.FanoutProofs
import FlexisipConference.ClientStepProofs

/-! # The AORs that a shared client accepts

    External subscriptions share a client when their addresses have the same
    ORDERED URI, in which the order of the parameters does not matter.  The
    client compares the AORs of a document with the plain string of the address
    that it was made with, in which the order does matter.  A subscription that
    joins a client made for the same URI in another order is therefore served by
    a client that skips the registrations of its address.

    Nothing is lost when the client does with every document what a client made
    for the address itself would do (`Accepts`).  `no_loss_iff` says exactly
    which runs lose nothing: those in which every address that joins a client
    has the string of the address that made it. -/

namespace Aors

open Sdks Reginfos Heaps Machines Clients Subscriptions Handlers Invariants HandlerSteps Lifetime
open Fanout ClientSteps

variable {A R : Type}

/-- The client deals with every document as one made for this AOR would do: it
    keeps the same devices and makes the same calls, whatever it has kept
    before. -/
def Accepts (S : Sdk A R) (cl : Client A) (aor : String) : Prop :=
  ∀ (mParticipantDevices : List (ParticipantDeviceIdentity A)) (ri : Reginfo),
    Client.onNotifyReceived S (S.asStringUriOnly cl.mTo) mParticipantDevices ri =
      Client.onNotifyReceived S aor mParticipantDevices ri

/-- The end of a registration is told to the observers by the client of its AOR,
    and by no other one. -/
theorem onNotifyReceived_terminated (S : Sdk A R) (aor aor' : String) :
    (Client.onNotifyReceived S aor [] [⟨aor', .terminated, []⟩]).2 =
      if aor' = aor then [.onNotifyReceived []] else [] := by
  rw [Client.onNotifyReceived, registrationLoop]
  by_cases haor : aor' = aor
  · rw [if_neg (not_not_intro haor), if_pos rfl, if_pos haor]
    rfl
  · rw [if_pos haor, if_neg haor]
    rfl

theorem accepts_iff {S : Sdk A R} {cl : Client A} {aor : String} :
    Accepts S cl aor ↔ S.asStringUriOnly cl.mTo = aor := by
  constructor
  · intro h
    have hcalls := congrArg Prod.snd (h [] [⟨aor, .terminated, []⟩])
    rw [onNotifyReceived_terminated, onNotifyReceived_terminated, if_pos rfl] at hcalls
    by_contra hne
    rw [if_neg (Ne.symm hne)] at hcalls
    cases hcalls
  · rintro rfl mParticipantDevices ri
    rfl

/-- Each external subscription in the store is served by a client that processes
    the registrations of its address as a client of its own would. -/
def NoLoss (S : Sdk A R) (sys : System A R) : Prop :=
  ∀ s ∈ stored sys, ∀ sub, sys.subs.get? s = some (.external sub) →
    ∀ cl, sys.world.clients.get? sub.mClient = some cl →
      Accepts S cl (S.asStringUriOnly sub.mParticipant)

/-- An operation that makes no subscription loses nothing. -/
theorem NoLoss.keep [DecidableEq R] {S : Sdk A R} (server : ConferenceServer) {sys : System A R}
    (hsound : Sound S sys) (h : NoLoss S sys) (op : Op A R)
    (hsubject : subject (step S server sys op) = subject sys)
    (hstored : ∀ s ∈ stored (step S server sys op), s ∈ stored sys) :
    NoLoss S (step S server sys op) := by
  intro s hs sub hsub cl' hcl'
  rw [← subject_external_iff, hsubject, subject_external_iff] at hsub
  have hs' := hstored s hs
  obtain ⟨cl₀, hcl₀⟩ := hsound.inv.owned.client_alive hs' (clientOf_external hsub)
  obtain ⟨cl, hcl, hto⟩ := mTo_step server hsound op (Heap.lt_next_of_get? hcl₀) hcl'
  have haccepts := accepts_iff.mp (h s hs' sub hsub cl hcl)
  rw [hto] at haccepts
  exact accepts_iff.mpr haccepts

/-- An operation that leaves the store alone leaves the clients their addresses. -/
theorem NoLoss.congr [DecidableEq R] {S : Sdk A R} (server : ConferenceServer) {sys : System A R}
    (hsound : Sound S sys) (h : NoLoss S sys) (op : Op A R)
    (hkeeps : Keeps sys (step S server sys op)) : NoLoss S (step S server sys op) :=
  h.keep server hsound op hkeeps.1 (fun s hs => by
    rw [stored, hkeeps.2.2] at hs
    exact hs)

section Runs

variable [DecidableEq R]

/-- A subscribe that joins a live client comes with the string of the address
    that the client was made with. -/
def SameString (S : Sdk A R) (server : ConferenceServer) (sys : System A R) : Op A R → Prop
  | .subscribe chatRoom address =>
      sys.findSubscription S chatRoom address = false →
        S.getDomain address ∉ server.localDomains →
          ∀ c cl, sys.world.clients.get? c = some cl →
            S.asStringUriOnlyOrdered cl.mTo = S.asStringUriOnlyOrdered address →
              S.asStringUriOnly cl.mTo = S.asStringUriOnly address
  | _ => True

/-- The subscriptions that were in the store before are served as before. -/
theorem accepts_old {S : Sdk A R} (server : ConferenceServer) {sys sys' : System A R}
    (hsound : Sound S sys) (h : NoLoss S sys) {chatRoom : R} {address : A}
    (hsys : sys' = sys.subscribe S server chatRoom address) {made : Subscription A R}
    (hadd : Added S sys sys' made) {s : SubscriptionId} (hs : s ∈ stored sys)
    {sub : ExternalRegistrationSubscription A R} (hsub : sys'.subs.get? s = some (.external sub))
    {cl' : Client A} (hcl' : sys'.world.clients.get? sub.mClient = some cl') :
    Accepts S cl' (S.asStringUriOnly sub.mParticipant) := by
  subst hsys
  rw [← subject_external_iff, hadd.subject, if_neg (Nat.ne_of_lt (hsound.lt_next hs)),
    subject_external_iff] at hsub
  obtain ⟨cl₀, hcl₀⟩ := hsound.inv.owned.client_alive hs (clientOf_external hsub)
  obtain ⟨cl, hcl, hto⟩ := mTo_step server hsound (.subscribe chatRoom address)
    (Heap.lt_next_of_get? hcl₀) hcl'
  have haccepts := accepts_iff.mp (h s hs sub hsub cl hcl)
  rw [hto] at haccepts
  exact accepts_iff.mpr haccepts

/-- An own subscription is served by no client. -/
theorem noLoss_added_own {S : Sdk A R} (server : ConferenceServer) {sys : System A R}
    (hsound : Sound S sys) (h : NoLoss S sys) {chatRoom : R} {address : A}
    {own : OwnRegistrationSubscription A R}
    (hadd : Added S sys (sys.subscribe S server chatRoom address) (.own own)) :
    NoLoss S (sys.subscribe S server chatRoom address) := by
  intro s hs sub hsub cl' hcl'
  rcases hadd.mem_stored_iff.mp hs with rfl | hold
  · rw [← subject_external_iff, hadd.subject, if_pos rfl] at hsub
    cases hsub
  · exact accepts_old server hsound h rfl hadd hold hsub hcl'

/-- An external subscription is served by the client that it joins. -/
theorem noLoss_added_external_iff {S : Sdk A R} (server : ConferenceServer) {sys : System A R}
    (hsound : Sound S sys) (h : NoLoss S sys) {chatRoom : R} {address : A}
    (hfind : sys.findSubscription S chatRoom address = false)
    (hlocal : S.getDomain address ∉ server.localDomains)
    (hadd : Added S sys (sys.subscribe S server chatRoom address) (.external
      (ExternalRegistrationSubscription.make server.capabilityCheckEnabled chatRoom address
        (sys.acquireClient S address).2))) :
    NoLoss S (sys.subscribe S server chatRoom address) ↔
      SameString S server sys (.subscribe chatRoom address) := by
  obtain ⟨c, cl, hjoined⟩ := subscribe_joins server hsound hfind hlocal
  have hnew : (sys.subscribe S server chatRoom address).subs.get? sys.subs.next =
      some (.external (ExternalRegistrationSubscription.make server.capabilityCheckEnabled chatRoom
        address (sys.acquireClient S address).2)) := by
    rw [← subject_external_iff, hadd.subject, if_pos rfl]
    rfl
  have hstored : sys.subs.next ∈ stored (sys.subscribe S server chatRoom address) :=
    hadd.mem_stored_iff.mpr (Or.inl rfl)
  have hclient : (sys.subscribe S server chatRoom address).world.clients.get?
      (sys.acquireClient S address).2 = some (joined sys.world sys.subs.next cl) := by
    rw [hjoined.pointer]
    exact hjoined.client
  constructor
  · intro hno _ _ c' cl' hcl' hord
    have haccepts : S.asStringUriOnly cl.mTo = S.asStringUriOnly address :=
      accepts_iff.mp
      (hno sys.subs.next hstored _ hnew (joined sys.world sys.subs.next cl) hclient)
    rcases hjoined.origin with ⟨hcl, hord₀⟩ | ⟨-, -, hnone⟩
    · -- the client that is joined is the one with the ordered URI
      have hsame : c' = c := hsound.inv.owned.ordered_inj
        (QuietRun.face_eq_some_iff.mpr ⟨cl', hcl', rfl, rfl⟩)
        (QuietRun.face_eq_some_iff.mpr ⟨cl, hcl, rfl, rfl⟩) (hord.trans hord₀.symm)
      rw [hsame, hcl] at hcl'
      rw [← Option.some.inj hcl']
      exact haccepts
    · exact absurd hord (hnone c' cl' hcl')
  · intro hcond s hs sub hsub cl' hcl'
    rcases hadd.mem_stored_iff.mp hs with rfl | hold
    · rw [hnew] at hsub
      obtain rfl := Subscription.external.inj (Option.some.inj hsub)
      obtain rfl := Option.some.inj (hclient.symm.trans hcl')
      refine accepts_iff.mpr ?_
      rcases hjoined.origin with ⟨hcl, hord⟩ | ⟨-, rfl, -⟩
      · exact hcond hfind hlocal c cl hcl hord
      · rfl
    · exact accepts_old server hsound h rfl hadd hold hsub hcl'

/-- **Step lemma**: a step loses nothing exactly when it meets `SameString`. -/
theorem noLoss_step_iff (S : Sdk A R) (server : ConferenceServer) (sys : System A R) (op : Op A R)
    (hsound : Sound S sys) (h : NoLoss S sys) :
    NoLoss S (step S server sys op) ↔ SameString S server sys op := by
  cases op with
  | subscribe chatRoom address =>
      show NoLoss S (sys.subscribe S server chatRoom address) ↔ _
      rcases subscribe_cases S server hsound chatRoom address with
        ⟨hfind, hsame⟩ | ⟨-, hlocal, hadd, -⟩ | ⟨hfind, hlocal, hadd, -⟩
      · rw [hsame]
        refine iff_of_true h (fun hnot => ?_)
        rw [hfind] at hnot
        cases hnot
      · exact iff_of_true (noLoss_added_own server hsound h hadd)
          (fun _ hnot => absurd hlocal hnot)
      · exact noLoss_added_external_iff server hsound h hfind hlocal hadd
  | unsubscribe chatRoom address =>
      have hfacts : subject (sys.unsubscribe S chatRoom address) = subject sys ∧
          ∀ s ∈ stored (sys.unsubscribe S chatRoom address), s ∈ stored sys := by
        rcases unsubscribe_cases hsound chatRoom address with
          ⟨-, hsame⟩ | ⟨entry, hin, -, -, hdrop⟩
        · rw [hsame]
          exact ⟨rfl, fun _ hs => hs⟩
        · rw [hdrop]
          refine ⟨subject_dropEntry S sys entry, fun s hs => ?_⟩
          rw [stored, mSubscriptions_dropEntry] at hs
          exact (stored_perm_erase hin).mem_iff.mpr (List.mem_cons_of_mem _ hs)
      exact iff_of_true (h.keep server hsound (.unsubscribe chatRoom address) hfacts.1 hfacts.2)
        trivial
  | unsubscribeAll =>
      obtain ⟨-, hempty, -, hsubject, -⟩ := hsound.unsubscribeAll
      refine iff_of_true (h.keep server hsound .unsubscribeAll hsubject (fun s hs => ?_)) trivial
      change s ∈ stored (sys.unsubscribeAll S) at hs
      rw [stored, hempty] at hs
      cases hs
  | onNotifyReceived e body =>
      exact iff_of_true (h.congr server hsound (.onNotifyReceived e body)
        (keeps_onNotifyReceived S sys e body)) trivial
  | onSubscriptionStateChanged e state =>
      exact iff_of_true (h.congr server hsound (.onSubscriptionStateChanged e state)
        ⟨rfl, rfl, rfl⟩) trivial
  | onRecordFound s r =>
      exact iff_of_true (h.congr server hsound (.onRecordFound s r) (keeps_tellOwn sys s _)) trivial
  | onContactRegistered s r uid =>
      exact iff_of_true (h.congr server hsound (.onContactRegistered s r uid)
        (keeps_tellOwn sys s _)) trivial

/-- **Client sharing loses no registration** in all the states of a run exactly
    when no subscribe of the run joins a live client with an address whose
    string differs from that of the address which made the client. -/
theorem no_loss_iff (S : Sdk A R) (server : ConferenceServer) (ops : List (Op A R)) :
    (∀ pre, pre <+: ops → NoLoss S ((machine S server).reach pre)) ↔
      (machine S server).Along (SameString S server) (machine S server).init ops :=
  Machine.forall_prefix_iff_along (M := machine S server) (I := NoLoss S) (J := Sound S)
    (P := SameString S server) (sound_step S server) (noLoss_step_iff S server) ops System.init
    (Sound.init S) (List.forall_mem_nil _)

end Runs

/-! ## Addresses whose parameters are ordered -/

/-- The order of two texts. -/
def textLe (a b : List Char) : Bool := !b.lex a (fun c d => c.toNat < d.toNat)

/-- The parameters of a URI, each behind its semicolon, in the order of their
    text. -/
def orderedParams (uri : List Char) : List Char :=
  ((((hostPart uri).dropWhile (· ≠ ';')).splitOn ';').drop 1).insertionSort (textLe · ·)
    |>.flatMap (';' :: ·)

/-- The URI of an address with its parameters in order. -/
def orderedUri (a : String) : String :=
  String.ofList (['s', 'i', 'p', ':'] ++ ((stringSdk.getUsername a).toList ++
    '@' :: ((stringSdk.getDomain a).toList ++ orderedParams a.toList)))

theorem takeWhile_exact {p : Char → Bool} {body rest : List Char} (hbody : ∀ c ∈ body, p c = true)
    (hrest : ∀ c, rest.head? = some c → p c = false) : (body ++ rest).takeWhile p = body := by
  rw [List.takeWhile_append_of_pos hbody]
  cases rest with
  | nil => simp
  | cons c rest => simp [hrest c rfl]

theorem username_no_at (a : String) : ∀ c ∈ (stringSdk.getUsername a).toList, c ≠ '@' := by
  intro c hc
  have hc : c ∈ (String.ofList _).toList := hc
  rw [String.toList_ofList] at hc
  simpa using List.mem_takeWhile_imp hc

theorem domain_chars (a : String) :
    ∀ c ∈ (stringSdk.getDomain a).toList, c ≠ '@' ∧ c ≠ ':' ∧ c ≠ ';' := by
  intro c hc
  have hc : c ∈ (String.ofList _).toList := hc
  rw [String.toList_ofList] at hc
  simpa using List.mem_takeWhile_imp hc

/-- Ordering the parameters changes neither the user name nor the domain. -/
theorem participant_orderedUri (a : String) :
    stringSdk.getUsername (orderedUri a) = stringSdk.getUsername a ∧
      stringSdk.getDomain (orderedUri a) = stringSdk.getDomain a := by
  have huser := username_no_at a
  have hdomain := domain_chars a
  have hparams : ∀ c, (orderedParams a.toList).head? = some c → c = ';' := by
    intro c hc
    rw [orderedParams] at hc
    cases hsorted : ((((hostPart a.toList).dropWhile (· ≠ ';')).splitOn ';').drop 1).insertionSort
        (textLe · ·) with
    | nil => rw [hsorted] at hc; cases hc
    | cons param rest => rw [hsorted] at hc; exact (Option.some.inj hc).symm
  constructor
  · show String.ofList
      ((((orderedUri a).toList.dropWhile (· ≠ ':')).drop 1).takeWhile (· ≠ '@')) = _
    have hcut : ((orderedUri a).toList.dropWhile (· ≠ ':')).drop 1 =
        (stringSdk.getUsername a).toList ++
          '@' :: ((stringSdk.getDomain a).toList ++ orderedParams a.toList) := by
      rw [orderedUri, String.toList_ofList]
      simp
    rw [hcut, takeWhile_exact (by simpa using huser) (by simp), String.ofList_toList]
  · show String.ofList ((hostPart (orderedUri a).toList).takeWhile
      (fun c => c ≠ '@' ∧ c ≠ ':' ∧ c ≠ ';')) = _
    have hcut : hostPart (orderedUri a).toList =
        (stringSdk.getDomain a).toList ++ orderedParams a.toList := by
      rw [orderedUri, String.toList_ofList, hostPart]
      have hbefore : ∀ c ∈ ['s', 'i', 'p', ':'] ++ (stringSdk.getUsername a).toList,
          decide (c ≠ '@') = true := by
        intro c hc
        have hscheme : ∀ c ∈ ['s', 'i', 'p', ':'], decide (c ≠ '@') = true := by simp
        rcases List.mem_append.mp hc with hc | hc
        · exact hscheme c hc
        · exact decide_eq_true (huser c hc)
      rw [← List.append_assoc, List.dropWhile_append_of_pos hbefore]
      simp
    rw [hcut, takeWhile_exact (by simpa using hdomain) ?_, String.ofList_toList]
    intro c hc
    obtain rfl := hparams c hc
    decide

/-- `stringSdk`, with an ordered URI in which the order of the parameters does
    not matter. -/
def orderedSdk : Sdk String (BitVec 32) :=
  { stringSdk with
    asStringUriOnlyOrdered := orderedUri
    ordered_participant := fun a b h => by
      rw [← (participant_orderedUri a).1, ← (participant_orderedUri a).2,
        ← (participant_orderedUri b).1, ← (participant_orderedUri b).2, h]
      exact ⟨rfl, rfl⟩ }

/-- A participant is in one chat room under a URI and in another under the same
    URI with its parameters the other way round: both share a client, which
    skips the registrations of the second address.  A client made for that
    address lists the phone. -/
theorem reordered_address_skipped :
    let ops : List (Op String (BitVec 32)) :=
      [.subscribe Capabilities.conference "sip:alice@ext.org;app;tcp",
        .subscribe Capabilities.encrypted "sip:alice@ext.org;tcp;app"]
    let sys := (machine orderedSdk sampleServer).reach ops
    sys.world.clients.get? 0 =
      some ⟨"sip:alice@ext.org;app;tcp", some 0, [], [0, 1]⟩ ∧
    (sys.world.onNotifyReceived orderedSdk 0 (.reginfo
      [⟨"sip:alice@ext.org;tcp;app", .active,
        [samplePhone]⟩])).2 = [] ∧
    (Client.onNotifyReceived orderedSdk "sip:alice@ext.org;tcp;app" []
      [⟨"sip:alice@ext.org;tcp;app", .active, [samplePhone]⟩]).2 =
        [.onNotifyReceived (devicesOf orderedSdk [samplePhone])] ∧
    ¬ ∀ pre, pre <+: ops → NoLoss orderedSdk ((machine orderedSdk sampleServer).reach pre) := by
  intro ops sys
  obtain ⟨hclient, hskipped, hlisted, hmem, hpointer, haddress⟩ : sys.world.clients.get? 0 =
        some ⟨"sip:alice@ext.org;app;tcp", some 0, [], [0, 1]⟩ ∧
      (sys.world.onNotifyReceived orderedSdk 0 (.reginfo
        [⟨"sip:alice@ext.org;tcp;app", .active, [samplePhone]⟩])).2 = [] ∧
      (Client.onNotifyReceived orderedSdk "sip:alice@ext.org;tcp;app" []
        [⟨"sip:alice@ext.org;tcp;app", .active, [samplePhone]⟩]).2 =
          [.onNotifyReceived (devicesOf orderedSdk [samplePhone])] ∧
      1 ∈ stored sys ∧ clientOf sys 1 = some 0 ∧
      (sys.subs.get? 1).map (·.base.mParticipant) = some "sip:alice@ext.org;tcp;app" := by
    decide +kernel
  refine ⟨hclient, hskipped, hlisted, fun hall => ?_⟩
  have hno : NoLoss orderedSdk sys := hall ops (List.prefix_refl ops)
  clear_value sys
  obtain ⟨sub, hsub, hzero⟩ := clientOf_eq_some_iff.mp hpointer
  rw [hsub] at haddress
  have hshared : sys.world.clients.get? sub.mClient =
      some ⟨"sip:alice@ext.org;app;tcp", some 0, [], [0, 1]⟩ := by
    rw [hzero]
    exact hclient
  have hto := accepts_iff.mp (hno 1 hmem sub hsub _ hshared)
  have hparticipant : sub.mParticipant = "sip:alice@ext.org;tcp;app" :=
    Option.some.inj haddress
  rw [hparticipant] at hto
  exact absurd hto (by decide)

end Aors
