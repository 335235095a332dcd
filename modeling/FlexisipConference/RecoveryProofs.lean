import FlexisipConference.FanoutProofs
import FlexisipConference.SilenceProofs
import FlexisipConference.ClientStepProofs

/-! # Recovery from a failed subscription

    A client whose subscription is terminated or runs into an error gives up its
    event and its list, and keeps its observers.  Nothing retries by itself: the
    client stays without an event until some chat room subscribes to a
    participant that it serves.  That subscribe opens one new event, and the
    NOTIFYs on it reach the new observer and the old ones alike.  The failed
    event is of nobody any more, so what still comes in on it is ignored. -/

namespace Recovery

open Sdks Reginfos Heaps Machines Clients Dispatch QuietRun Events Subscriptions Handlers
open Invariants HandlerSteps Stores Fanout Silence ClientSteps Notifies

variable {A R : Type}

/-- A callback of the Core on the event. -/
def IsCallbackOn (e : EventId) : Op A R → Prop
  | .onNotifyReceived e' _ => e' = e
  | .onSubscriptionStateChanged e' _ => e' = e
  | _ => False

/-- An error may come while `sendSubscribe()` is still running; it is handled as
    if it came right after.  The same holds of every other state. -/
theorem error_inside_subscribe (S : Sdk A R) {w : World A}
    {c : ClientId} {cl : Client A} (hcl : w.clients.get? c = some cl)
    (hev : cl.mSubscribeEvent = none) (listener : ListenerId) (state : SubscriptionState)
    (log : List (Dispatch.Entry A)) :
    (Dispatch.machine S).run ⟨w, [], log⟩ [.subscribe c listener,
        .onSubscriptionStateChanged w.events.next state, .ret, .ret] =
      ⟨(w.subscribe c listener).1.onSubscriptionStateChanged w.events.next state, [], log⟩ := by
  have halive : State.alive ⟨w, [], log⟩ c = true := alive_of_get? hcl
  have hbegin : Dispatch.step S ⟨w, [], log⟩ (.subscribe c listener) =
      ⟨opened w c cl, [.subscribe c w.events.next], log⟩ := by
    simp [Dispatch.step, halive, World.beginSubscribe, hcl, hev, opened, State.enter,
      calledEntries]
  show Dispatch.step S (Dispatch.step S (Dispatch.step S (Dispatch.step S ⟨w, [], log⟩
    (.subscribe c listener)) (.onSubscriptionStateChanged w.events.next state)) .ret) .ret = _
  rw [hbegin, subscribe_open hcl hev, World.onSubscriptionStateChanged]
  show Dispatch.step S (Dispatch.step S (State.enter ⟨opened w c cl, _, log⟩
    ((opened w c cl).beginStateChanged w.events.next state)) .ret) .ret = _
  generalize (opened w c cl).beginStateChanged w.events.next state = begun
  obtain ⟨w', p⟩ := begun
  cases p <;> rfl

section Runs

variable [DecidableEq R]

/-! ## The failed event -/

/-- A callback on an event that is of no client changes nothing. -/
theorem step_callback_of_not_current {S : Sdk A R} (server : ConferenceServer) {sys : System A R}
    (h : Sound S sys) {e : EventId} (hnone : ∀ c, ¬ IsCurrent sys.world c e) {op : Op A R}
    (hop : IsCallbackOn e op) : step S server sys op = sys := by
  cases op with
  | onNotifyReceived e' body =>
      obtain rfl : e' = e := hop
      have hsame : sys.world.onNotifyReceived S e' body = (sys.world, []) := by
        rcases notify_cases h.inv.rest e' body with hsame | ⟨c, cl, ri, hcl, hev, -⟩
        · exact hsame
        · exact absurd ⟨cl, hcl, hev⟩ (hnone c)
      show sys.onNotifyReceived S e' body = sys
      rw [System.onNotifyReceived, hsame]
      simp [System.deliver]
  | onSubscriptionStateChanged e' state =>
      obtain rfl : e' = e := hop
      have hsame : sys.world.onSubscriptionStateChanged e' state = sys.world := by
        rcases stateChanged_cases h.inv.rest e' state with hsame | ⟨c, hcur, -⟩
        · exact hsame
        · exact absurd hcur (hnone c)
      show { sys with world := sys.world.onSubscriptionStateChanged e' state } = sys
      rw [hsame]
  | subscribe chatRoom address => cases hop
  | unsubscribe chatRoom address => cases hop
  | unsubscribeAll => cases hop
  | onRecordFound s r => cases hop
  | onContactRegistered s r uid => cases hop

/-- The client gives up its event and its list, and keeps its observers. -/
theorem client_failed {S : Sdk A R} (server : ConferenceServer) {sys : System A R}
    (h : Sound S sys) {c : ClientId} {cl : Client A} {e : EventId}
    (hcl : sys.world.clients.get? c = some cl) (hev : cl.mSubscribeEvent = some e)
    {state : SubscriptionState} (hstate : state = .terminated ∨ state = .error) :
    (step S server sys (.onSubscriptionStateChanged e state)).world.clients.get? c =
        some { cl with mSubscribeEvent := none, mParticipantDevices := [] } ∧
      ∀ c', ¬ IsCurrent (step S server sys (.onSubscriptionStateChanged e state)).world c' e := by
  have hclient := client_ended server h hcl hev hstate
  refine ⟨hclient, fun c' hcur => ?_⟩
  have hbefore := isCurrent_step server h (.onSubscriptionStateChanged e state) hcur
    (h.inv.rest.linked.known c e ⟨cl, hcl, hev⟩)
  obtain rfl := isCurrent_client_inj h.inv.rest hbefore ⟨cl, hcl, hev⟩
  obtain ⟨cl', hcl', hev'⟩ := hcur
  obtain rfl := Option.some.inj (hclient.symm.trans hcl')
  cases hev'

/-- The same of the subscribe that opens the event of a client: the client is told
    of the error while its new observer is still starting. -/
theorem failed_inside_start {S : Sdk A R} (server : ConferenceServer) {sys : System A R}
    (h : Sound S sys) {chatRoom : R} {address : A} {c : ClientId} {cl : Client A}
    (hcl : (step S server sys (.subscribe chatRoom address)).world.clients.get? c = some cl)
    (hev : cl.mSubscribeEvent = some sys.world.events.next) (state : SubscriptionState)
    (log : List (Dispatch.Entry A)) :
    (Dispatch.machine S).run
        ⟨(sys.acquireClient S address).1.world.addObserver c sys.subs.next, [], log⟩
        [.subscribe c sys.subs.next,
          .onSubscriptionStateChanged sys.world.events.next state, .ret, .ret] =
      ⟨(step S server (step S server sys (.subscribe chatRoom address))
        (.onSubscriptionStateChanged sys.world.events.next state)).world, [], log⟩ := by
  -- the event was not there before, so the subscribe has opened it
  have hunknown : ∀ cl', sys.world.clients.get? c = some cl' →
      cl'.mSubscribeEvent ≠ some sys.world.events.next := by
    intro cl' hcl' hev'
    exact Nat.lt_irrefl _ (h.inv.rest.linked.known c _ ⟨cl', hcl', hev'⟩)
  cases client_step server h (.subscribe chatRoom address) hcl with
  | same hold => exact absurd hev (hunknown cl hold)
  | joined chatRoom' address' cl' hop hfind hlocal hjoined heq =>
      obtain ⟨rfl, rfl⟩ := Op.subscribe.inj hop
      have hclosed : cl'.mSubscribeEvent = none := by
        cases hev' : cl'.mSubscribeEvent with
        | none => rfl
        | some e =>
            rw [heq, joined, hev'] at hev
            rcases hjoined.origin with ⟨hold, -⟩ | ⟨-, rfl, -⟩
            · exact absurd (hev'.trans hev) (hunknown cl' hold)
            · cases hev'
      have hinside := error_inside_subscribe S
        (get?_addObserver hjoined.acquired sys.subs.next) hclosed sys.subs.next state log
      have hworld := Lifetime.world_subscribe_external server h.inv.owned hfind hlocal
      rw [hjoined.pointer] at hworld
      have hnext : ((sys.acquireClient S address).1.world.addObserver c
          sys.subs.next).events.next = sys.world.events.next :=
        congrArg Heap.next hjoined.opening
      rw [hnext] at hinside
      rw [hinside]
      show _ = State.mk ((sys.subscribe S server chatRoom address).world.onSubscriptionStateChanged
        sys.world.events.next state) [] log
      rw [hworld]
  | left entry cl' hin hpointer hold hgone heq =>
      rw [heq] at hev
      exact absurd hev (hunknown cl' hold)
  | ended e state' cl' hop hold hev' heq => cases hop
  | notified e ri cl' hop hold hev' heq => cases hop

/-! ## Until the next subscribe -/

/-- A subscribe of a pair that is not in the store, whose address resolves to the
    client. -/
def Joins (S : Sdk A R) (server : ConferenceServer) (c : ClientId) (sys : System A R) :
    Op A R → Prop
  | .subscribe chatRoom address =>
      sys.findSubscription S chatRoom address = false ∧
        S.getDomain address ∉ server.localDomains ∧ (sys.acquireClient S address).2 = c
  | _ => False

/-- A client that was made, and that is not subscribed if it is still alive. -/
def Unsubscribed (w : World A) (c : ClientId) : Prop :=
  c < w.clients.next ∧ ∀ cl, w.clients.get? c = some cl →
    cl.mSubscribeEvent = none ∧ cl.mParticipantDevices = []

/-- Only a subscribe that joins the client makes it subscribe again. -/
theorem Unsubscribed.step {S : Sdk A R} (server : ConferenceServer) {sys : System A R}
    (h : Sound S sys) {c : ClientId} (hun : Unsubscribed sys.world c) {op : Op A R}
    (hjoins : ¬ Joins S server c sys op) : Unsubscribed (step S server sys op).world c := by
  refine ⟨Nat.lt_of_lt_of_le hun.1 (next_step server h op).1, fun cl' hcl' => ?_⟩
  cases client_step server h op hcl' with
  | same hcl => exact hun.2 cl' hcl
  | joined chatRoom address cl hop hfind hlocal hjoined heq =>
      subst hop
      exact absurd ⟨hfind, hlocal, hjoined.pointer⟩ hjoins
  | left entry cl hin hpointer hcl hgone heq =>
      rw [heq]
      exact hun.2 cl hcl
  | ended e state cl hop hcl hev heq =>
      rw [heq]
      exact ⟨rfl, rfl⟩
  | notified e ri cl hop hcl hev heq =>
      rw [(hun.2 cl hcl).1] at hev
      cases hev

theorem Unsubscribed.run {S : Sdk A R} (server : ConferenceServer) {sys : System A R}
    (h : Sound S sys) {c : ClientId} (hun : Unsubscribed sys.world c) {later : List (Op A R)}
    (hjoins : (machine S server).Along (fun sys op => ¬ Joins S server c sys op) sys later) :
    Unsubscribed ((machine S server).run sys later).world c :=
  (Machine.invariant_along (M := machine S server)
    (I := fun sys' => Sound S sys' ∧ Unsubscribed sys'.world c)
    (fun sys' op h' hop => ⟨sound_step S server sys' op h'.1, h'.2.step server h'.1 hop⟩)
    later sys ⟨h, hun⟩ hjoins).2

/-- **Reopening.** A subscribe that joins a client without an event opens one,
    and replays nothing. -/
theorem reopened {S : Sdk A R} (server : ConferenceServer) {sys : System A R} (h : Sound S sys)
    {c : ClientId} (hun : Unsubscribed sys.world c) {chatRoom : R} {address : A}
    (hjoins : Joins S server c sys (.subscribe chatRoom address)) :
    ∃ cl, sys.world.clients.get? c = some cl ∧
      (sys.subscribe S server chatRoom address).world.clients.get? c = some
        { cl with
          mSubscribeEvent := some sys.world.events.next
          observers := cl.observers ++ [sys.subs.next] } ∧
      (sys.subscribe S server chatRoom address).world.events =
        sys.world.events.alloc ⟨cl.mTo, some c, false⟩ ∧
      (sys.subscribe S server chatRoom address).log = sys.log ++ [.started sys.subs.next] := by
  obtain ⟨hfind, hlocal, hpointer⟩ := hjoins
  obtain ⟨c₀, cl, hjoined⟩ := subscribe_joins server h hfind hlocal
  obtain rfl : c₀ = c := hjoined.pointer.symm.trans hpointer
  rcases hjoined.origin with ⟨hcl, -⟩ | ⟨hnew, -⟩
  · have hev := (hun.2 cl hcl).1
    have hclient := hjoined.client
    have hevents := hjoined.events
    have hlog := hjoined.log
    rw [hev] at hevents hlog
    rw [joined, hev] at hclient
    exact ⟨cl, hcl, hclient, hevents, hlog⟩
  · -- an old client is not made again
    exact absurd hun.1 (by rw [hnew]; exact Nat.lt_irrefl _)

/-! ## After the next subscribe -/

/-- A subscription keeps pointing to its client. -/
theorem clientOf_run {S : Sdk A R} (server : ConferenceServer) {sys : System A R}
    (h : Sound S sys) (ops : List (Op A R)) {s : SubscriptionId} (hs : s < sys.subs.next) :
    clientOf ((machine S server).run sys ops) s = clientOf sys s := by
  rw [clientOf, clientOf, (onward_run S server h ops).2.subject s hs]

/-- The new subscription points to the client that it joins. -/
theorem clientOf_joined {S : Sdk A R} (server : ConferenceServer) {sys : System A R}
    (h : Sound S sys) {c : ClientId} {chatRoom : R} {address : A}
    (hjoins : Joins S server c sys (.subscribe chatRoom address)) :
    sys.subs.next < (sys.subscribe S server chatRoom address).subs.next ∧
      clientOf (sys.subscribe S server chatRoom address) sys.subs.next = some c := by
  obtain ⟨hfind, hlocal, rfl⟩ := hjoins
  have hadd := added_external server h hfind hlocal
  exact ⟨by rw [hadd.next]; exact Nat.lt_succ_self _, clientOf_added hadd⟩

/-- However a run goes on, a NOTIFY on the event of a client makes no other client
    do anything. -/
theorem notify_after {S : Sdk A R} (server : ConferenceServer) {sys : System A R}
    (h : Sound S sys) {c : ClientId} {e : EventId} (hcur : IsCurrent sys.world c e)
    (after : List (Op A R)) (body : NotifyBody)
    (hout : (((machine S server).run sys after).world.onNotifyReceived S e body).2 ≠ []) :
    ∃ cl ri, ((machine S server).run sys after).world.clients.get? c = some cl ∧
      cl.mSubscribeEvent = some e ∧ body = .reginfo ri := by
  obtain ⟨hnow, -, hcurrent⟩ :=
    isCurrent_run server h after (h.inv.rest.linked.known c e hcur)
  rcases notify_cases hnow.inv.rest e body with hsame | ⟨c', cl, ri, hcl, hev, hbody, -⟩
  · exact absurd (congrArg Prod.snd hsame) hout
  · obtain rfl : c' = c := isCurrent_client_inj h.inv.rest (hcurrent c' ⟨cl, hcl, hev⟩) hcur
    exact ⟨cl, ri, hcl, hev, hbody⟩

/-- **RECOVERY.** In every state reached, an event that ends leaves its client
    without an event and with an empty list, and with all its observers; it is
    all the same whether the error comes later or while `sendSubscribe()` of the
    subscribe that opened the event is still running.  However the run goes on,
    callbacks on that event change nothing.  The next subscribe that resolves to
    the client opens one new event and replays nothing; and however the run goes
    on then, whatever a NOTIFY on the new event makes the client do, each
    observer that was attached before the failure and the new one are told
    exactly once, as long as they are in the store. -/
theorem failed_subscription_recovers (S : Sdk A R) (server : ConferenceServer)
    (ops : List (Op A R)) (c : ClientId) (cl : Client A) (e : EventId)
    (state : SubscriptionState)
    (hcl : ((machine S server).reach ops).world.clients.get? c = some cl)
    (hev : cl.mSubscribeEvent = some e) (hstate : state = .terminated ∨ state = .error) :
    let failed := (machine S server).reach (ops ++ [.onSubscriptionStateChanged e state])
    failed.world.clients.get? c =
      some { cl with mSubscribeEvent := none, mParticipantDevices := [] } ∧
    (∀ opening chatRoom address, ops = opening ++ [.subscribe chatRoom address] →
      let sys := (machine S server).reach opening
      e = sys.world.events.next → ∀ log, (Dispatch.machine S).run
        ⟨(sys.acquireClient S address).1.world.addObserver c sys.subs.next, [], log⟩
        [.subscribe c sys.subs.next, .onSubscriptionStateChanged e state, .ret, .ret] =
          ⟨failed.world, [], log⟩) ∧
    ∀ later, let sys := (machine S server).run failed later
      (∀ op, IsCallbackOn e op → step S server sys op = sys) ∧
      ((machine S server).Along (fun sys op => ¬ Joins S server c sys op) failed later →
        ∀ chatRoom address, Joins S server c sys (.subscribe chatRoom address) →
          let again := step S server sys (.subscribe chatRoom address)
          (∃ cl', sys.world.clients.get? c = some cl' ∧
            again.world.clients.get? c = some
              { cl' with
                mSubscribeEvent := some sys.world.events.next
                observers := cl'.observers ++ [sys.subs.next] } ∧
            again.world.events = sys.world.events.alloc ⟨cl'.mTo, some c, false⟩ ∧
            again.log = sys.log ++ [.started sys.subs.next]) ∧
          ∀ after body, let now := (machine S server).run again after
            let out := (now.world.onNotifyReceived S sys.world.events.next body).2
            out ≠ [] → ∃ cl' ri, now.world.clients.get? c = some cl' ∧ body = .reginfo ri ∧
              ∀ s, s ∈ cl.observers ∨ s = sys.subs.next → s ∈ stored now →
                callbacksTo s out = (Reginfos.Client.onNotifyReceived S
                  (S.asStringUriOnly cl'.mTo) cl'.mParticipantDevices ri).2) := by
  intro failed
  have hbefore : Sound S ((machine S server).reach ops) := sound_reach S server ops
  have hfailed : failed = step S server ((machine S server).reach ops)
      (.onSubscriptionStateChanged e state) := Machine.reach_concat _ _ _
  obtain ⟨hclient, hnobody⟩ := client_failed server hbefore hcl hev hstate
  rw [← hfailed] at hclient hnobody
  have h : Sound S failed := sound_reach S server _
  have he : e < failed.world.events.next := by
    rw [hfailed]
    exact Nat.lt_of_lt_of_le (hbefore.inv.rest.linked.known c e ⟨cl, hcl, hev⟩)
      (next_step server hbefore _).2
  refine ⟨hclient, fun opening chatRoom address hops => ?_,
    fun later => ⟨fun op hop => ?_, fun hnone chatRoom address hjoins => ?_⟩⟩
  · intro sys heq log
    subst hops heq
    have hopening : Sound S sys := sound_reach S server opening
    rw [Machine.reach_concat] at hcl hfailed
    rw [hfailed]
    exact failed_inside_start server hopening hcl hev state log
  · obtain ⟨hsys, -, hold⟩ := isCurrent_run server h later he
    exact step_callback_of_not_current server hsys (fun c' hcur => hnobody c' (hold c' hcur)) hop
  · have hun : Unsubscribed failed.world c := by
      refine ⟨Heap.lt_next_of_get? hclient, fun cl' hcl' => ?_⟩
      obtain rfl := Option.some.inj (hclient.symm.trans hcl')
      exact ⟨rfl, rfl⟩
    obtain ⟨hsys, honward⟩ := onward_run S server h later
    have hreopened := reopened server hsys (hun.run server h hnone) hjoins
    refine ⟨hreopened, fun after body hout => ?_⟩
    obtain ⟨cl₁, -, hclient₁, -⟩ := hreopened
    have hagain := sound_step S server _ (.subscribe chatRoom address) hsys
    obtain ⟨cl', ri, hcl', hev', hri⟩ :=
      notify_after server hagain ⟨_, hclient₁, rfl⟩ after body hout
    refine ⟨cl', ri, hcl', hri, fun s hs hin => ?_⟩
    obtain ⟨hnow, -⟩ := onward_run S server hagain after
    rw [hri]
    refine notify_tells hnow hcl' hev' ri hin ?_
    rcases hs with hold | rfl
    · have hpointer := ((observers_iff h hclient).2 s).mp hold
      have hrun := clientOf_run server h (later ++ .subscribe chatRoom address :: after)
        (h.lt_next hpointer.1)
      rw [Machine.run_append] at hrun
      exact hrun.trans hpointer.2
    · obtain ⟨hnext, hpointer⟩ := clientOf_joined server hsys hjoins
      exact (clientOf_run server hagain after hnext).trans hpointer

end Runs

/-- `failed_subscription_recovers` at work: a third chat room repairs the
    updates of the first, and an error inside the first subscribe leaves what one
    after it would. -/
theorem failed_subscription_recovers_third_room :
    let sys := (machine stringSdk sampleServer).reach
      (sampleOps ++ [.onSubscriptionStateChanged 0 .error])
    let out := ((step stringSdk sampleServer sys (.subscribe Capabilities.ephemeral
      "sip:alice@external.example.org")).world.onNotifyReceived stringSdk 1 (.reginfo
        [⟨"sip:alice@external.example.org", .active, [samplePhone]⟩])).2
    sys.world.clients.get? 0 = some ⟨"sip:alice@external.example.org", none, [], [0, 1]⟩ ∧
    callbacksTo 0 out = callbacksTo 2 out ∧ callbacksTo 0 out = [.onNotifyReceived
      [⟨some "sip:alice@external.example.org;gr=phone", "", ["groupchat/1.2"]⟩]] ∧
    (Dispatch.machine stringSdk).run
        ⟨((System.init : System String (BitVec 32)).acquireClient stringSdk
          "sip:alice@external.example.org").1.world.addObserver 0 0, [], []⟩
        [.subscribe 0 0, .onSubscriptionStateChanged 0 .error, .ret, .ret] =
      ⟨((machine stringSdk sampleServer).reach
        [.subscribe Capabilities.conference "sip:alice@external.example.org",
          .onSubscriptionStateChanged 0 .error]).world, [], []⟩ := by
  intro sys out
  obtain ⟨hclient, -, hrun⟩ := failed_subscription_recovers stringSdk sampleServer sampleOps 0
    ⟨"sip:alice@external.example.org", some 0, [], [0, 1]⟩ 0 .error (by decide) (by decide)
    (Or.inr rfl)
  obtain ⟨-, hafter⟩ := (hrun []).2 trivial Capabilities.ephemeral
    "sip:alice@external.example.org" ⟨by decide, by decide, by decide⟩
  obtain ⟨cl, ri, hcl, hri, htold⟩ := hafter [] (.reginfo
    [⟨"sip:alice@external.example.org", .active, [samplePhone]⟩]) (by decide)
  have hfirst := htold 0 (Or.inl (by decide)) (by decide)
  have hthird := htold 2 (Or.inr (by decide)) (by decide)
  obtain ⟨-, hinside, -⟩ := failed_subscription_recovers stringSdk sampleServer
    [.subscribe Capabilities.conference "sip:alice@external.example.org"] 0
    ⟨"sip:alice@external.example.org", some 0, [], [0]⟩ 0 .error (by decide) (by decide)
    (Or.inr rfl)
  exact ⟨hclient, hfirst.trans hthird.symm, by decide, hinside [] _ _ rfl rfl []⟩

end Recovery
