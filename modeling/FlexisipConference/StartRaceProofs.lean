import FlexisipConference.Library.MachineProofs
import FlexisipConference.SubscriptionProofs

/-! # Starting an own subscription against an asynchronous registrar

    `OwnRegistrationSubscription.start` issues two requests, the fetch first.
    Here the registrar is a service that evaluates the requests at later
    instants, in the order of issue, while the record changes; it delivers the
    result of the fetch, and one message per change after the activation of the
    change subscription, in the order in which they were produced.

    A change between the two instants is in neither message.  Since messages
    are only moved and never altered, the proof looks at what the chat room
    will have been told once everything is delivered (`drained`): a delivery
    leaves it as it is. -/

namespace StartRace

open Sdks Machines Subscriptions

variable {A R : Type}

/-- A message of the registrar to the subscription. -/
inductive Message where
  | recordFound (r : Option Record)
  | contactRegistered (r : Record) (uid : String)
  deriving DecidableEq, Repr

/-- The registrar, the subscription and what the chat room was told.
    `requests` are issued and not evaluated, `outbox` is produced and not
    delivered. -/
structure State (A R : Type) where
  record : Option Record
  requests : List RegistrarRequest
  subscribed : Bool
  outbox : List Message
  sub : OwnRegistrationSubscription A R
  calls : List (ChatRoomCall A)

/-- The record changes, the registrar evaluates its next request, or the next
    message is delivered. -/
inductive Step where
  | change (r : Record) (uid : String)
  | serve
  | deliver
  deriving DecidableEq, Repr

/-- The effect of a message on the chat room. -/
def handle (S : Sdk A R) (sub : OwnRegistrationSubscription A R) :
    Message → List (ChatRoomCall A)
  | .recordFound r => sub.onRecordFound S r
  | .contactRegistered r uid => sub.onContactRegistered S r uid

/-- The registrar evaluates a request. -/
def evaluate (m : State A R) : RegistrarRequest → State A R
  | .fetch _ => { m with outbox := m.outbox ++ [.recordFound m.record] }
  | .subscribe _ => { m with subscribed := true }
  | .unsubscribe _ => { m with subscribed := false }

def step (S : Sdk A R) (m : State A R) : Step → State A R
  | .change r uid =>
      { m with
        record := some r
        outbox := if m.subscribed then m.outbox ++ [.contactRegistered r uid] else m.outbox }
  | .serve =>
      match m.requests with
      | [] => m
      | request :: rest => evaluate { m with requests := rest } request
  | .deliver =>
      match m.outbox with
      | [] => m
      | message :: rest => { m with outbox := rest, calls := m.calls ++ handle S m.sub message }

/-- The runs that begin with `start()`, on a record with this content. -/
def machine (S : Sdk A R) (sub : OwnRegistrationSubscription A R) (record : Option Record) :
    Machine (State A R) Step where
  init := ⟨record, (sub.start S).2, false, [], (sub.start S).1, []⟩
  step := step S

/-- The last device list given to the chat room. -/
def lastList (calls : List (ChatRoomCall A)) : Option (List (ParticipantDeviceIdentity A)) :=
  (calls.filterMap fun
    | .setParticipantDevices _ devices => some devices
    | .notifyParticipantDeviceRegistration _ => none).getLast?

/-- The content of the record after the changes of a schedule. -/
def contentAfter (record : Option Record) (steps : List Step) : Option Record :=
  steps.foldl (fun content s => match s with
    | .change r _ => some r
    | .serve | .deliver => content) record

/-- Some change of the record occurs in the schedule. -/
def Changes (steps : List Step) : Prop := ∃ r uid, Step.change r uid ∈ steps

/-! ## What will have been told -/

/-- What the chat room was told once all the messages are delivered. -/
def drained (S : Sdk A R) (m : State A R) : List (ChatRoomCall A) :=
  m.calls ++ m.outbox.flatMap (handle S m.sub)

theorem lastList_append_set (calls : List (ChatRoomCall A)) (participant : A)
    (devices : List (ParticipantDeviceIdentity A)) :
    lastList (calls ++ [.setParticipantDevices participant devices]) = some devices := by
  simp [lastList]

theorem lastList_append_notify (calls : List (ChatRoomCall A)) (device : Option A) :
    lastList (calls ++ [.notifyParticipantDeviceRegistration device]) = lastList calls := by
  simp [lastList]

/-- A message of an active subscription ends with the list of its record. -/
theorem lastList_contactRegistered (S : Sdk A R) {sub : OwnRegistrationSubscription A R}
    (h : sub.mActive = true) (calls : List (ChatRoomCall A)) (r : Record) (uid : String) :
    lastList (calls ++ handle S sub (.contactRegistered r uid)) =
      some (sub.recordDevices S (some r)) := by
  have hset := lastList_append_set calls sub.mParticipant (sub.recordDevices S (some r))
  simp only [handle, OwnRegistrationSubscription.onContactRegistered,
    OwnRegistrationSubscription.processRecord, h, Bool.not_true]
  by_cases huid : uid.isEmpty = true
  · simpa [huid] using hset
  · cases hct : S.extractContactByUniqueId r uid with
    | none => simpa [huid] using hset
    | some ct =>
        cases hgruu : getPubGruu S ct with
        | none => simpa [huid, hgruu] using hset
        | some pubGruu =>
            by_cases hc : sub.isContactCompatible S ct.orgLinphoneSpecs = true
            · have hnotify := lastList_append_notify
                (calls ++ [.setParticipantDevices sub.mParticipant
                  (sub.recordDevices S (some r))]) (some pubGruu)
              rw [hset] at hnotify
              simpa [huid, hgruu, hc] using hnotify
            · simpa [huid, hgruu, hc] using hset

/-- A delivery changes nothing but where the message is. -/
theorem step_deliver (S : Sdk A R) (m : State A R) :
    let m' := step S m .deliver
    drained S m' = drained S m ∧ m'.record = m.record ∧ m'.requests = m.requests ∧
      m'.subscribed = m.subscribed ∧ m'.sub = m.sub := by
  cases hout : m.outbox with
  | nil => simp [step, hout]
  | cons message rest => simp [step, hout, drained]

/-- While the change subscription is not active and the registrar evaluates
    nothing, only the record moves. -/
theorem run_unsubscribed (S : Sdk A R) {M : Machine (State A R) Step} (hM : M.step = step S) :
    ∀ (steps : List Step) (m : State A R), Step.serve ∉ steps → m.subscribed = false →
      let m' := M.run m steps
      drained S m' = drained S m ∧ m'.record = contentAfter m.record steps ∧
        m'.requests = m.requests ∧ m'.subscribed = false ∧ m'.sub = m.sub := by
  intro steps
  induction steps with
  | nil => intro m _ hsub; exact ⟨rfl, rfl, rfl, hsub, rfl⟩
  | cons s rest ih =>
      intro m hserve hsub
      have hrest : Step.serve ∉ rest := fun h => hserve (List.mem_cons_of_mem s h)
      rw [Machine.run_cons, hM]
      cases s with
      | serve => exact absurd (List.mem_cons_self ..) hserve
      | change r uid =>
          have hnext := ih (step S m (.change r uid)) hrest hsub
          simpa [step, hsub, drained, contentAfter] using hnext
      | deliver =>
          obtain ⟨hdr, hrec, hreq, hact, hsame⟩ := step_deliver S m
          obtain ⟨h1, h2, h3, h4, h5⟩ := ih (step S m .deliver) hrest (hact.trans hsub)
          refine ⟨h1.trans hdr, ?_, h3.trans hreq, h4, h5.trans hsame⟩
          rw [h2, hrec]
          rfl

/-- What a schedule comes to when the change subscription is active: the last
    list follows the record as soon as the record changes. -/
structure Tracks (S : Sdk A R) (m m' : State A R) (steps : List Step) : Prop where
  record : m'.record = contentAfter m.record steps
  sub : m'.sub = m.sub
  changed : Changes steps → lastList (drained S m') = some (m.sub.recordDevices S m'.record)
  unchanged : ¬ Changes steps →
    lastList (drained S m') = lastList (drained S m) ∧ m'.record = m.record

theorem changes_cons_iff {s : Step} (hs : ∀ r uid, s ≠ .change r uid) (rest : List Step) :
    Changes (s :: rest) ↔ Changes rest := by
  constructor
  · rintro ⟨r, uid, hmem⟩
    rcases List.mem_cons.mp hmem with heq | hmem'
    · exact absurd heq.symm (hs r uid)
    · exact ⟨r, uid, hmem'⟩
  · rintro ⟨r, uid, hmem⟩
    exact ⟨r, uid, List.mem_cons_of_mem s hmem⟩

theorem contentAfter_cons {s : Step} (hs : ∀ r uid, s ≠ .change r uid) (content : Option Record)
    (rest : List Step) : contentAfter content (s :: rest) = contentAfter content rest := by
  cases s with
  | change r uid => exact absurd rfl (hs r uid)
  | serve => rfl
  | deliver => rfl

/-- A step that moves no record leaves it all to the rest of the schedule. -/
theorem Tracks.skip {S : Sdk A R} {m m₁ m' : State A R} {s : Step} {rest : List Step}
    (h : Tracks S m₁ m' rest) (hs : ∀ r uid, s ≠ .change r uid)
    (hdr : drained S m₁ = drained S m) (hrec : m₁.record = m.record) (hsub : m₁.sub = m.sub) :
    Tracks S m m' (s :: rest) := by
  refine ⟨?_, h.sub.trans hsub, ?_, ?_⟩
  · rw [contentAfter_cons hs, ← hrec]
    exact h.record
  · rw [changes_cons_iff hs, ← hsub]
    exact h.changed
  · rw [changes_cons_iff hs, ← hdr, ← hrec]
    exact h.unchanged

/-- A change is told about now, unless a later one is. -/
theorem Tracks.change {S : Sdk A R} {m m' : State A R} {r : Record} {uid : String}
    {rest : List Step} (h : Tracks S (step S m (.change r uid)) m' rest)
    (hsub : m.subscribed = true) (hact : m.sub.mActive = true) :
    Tracks S m m' (.change r uid :: rest) := by
  have hnow : lastList (drained S (step S m (.change r uid))) =
      some (m.sub.recordDevices S (some r)) := by
    have := lastList_contactRegistered S hact (drained S m) r uid
    simpa [drained, step, hsub] using this
  refine ⟨h.record, h.sub, fun _ => ?_, fun hno => ?_⟩
  · by_cases hlater : Changes rest
    · exact h.changed hlater
    · obtain ⟨hlast, hrec⟩ := h.unchanged hlater
      rw [hlast, hnow, hrec]
      rfl
  · exact absurd ⟨r, uid, List.mem_cons_self ..⟩ hno

/-- Once the change subscription is active and no request is left, every
    schedule tracks the record. -/
theorem run_subscribed (S : Sdk A R) {M : Machine (State A R) Step} (hM : M.step = step S) :
    ∀ (steps : List Step) (m : State A R), m.subscribed = true → m.requests = [] →
      m.sub.mActive = true → Tracks S m (M.run m steps) steps := by
  intro steps
  induction steps with
  | nil =>
      intro m _ _ _
      refine ⟨rfl, rfl, ?_, fun _ => ⟨rfl, rfl⟩⟩
      rintro ⟨r, uid, hmem⟩
      cases hmem
  | cons s rest ih =>
      intro m hsub hreq hact
      rw [Machine.run_cons, hM]
      cases s with
      | deliver =>
          obtain ⟨hdr, hrec, hreq', hsub', hsame⟩ := step_deliver S m
          have hrest := ih (step S m .deliver) (hsub'.trans hsub) (hreq'.trans hreq)
            (by rw [hsame]; exact hact)
          exact hrest.skip (fun _ _ => Step.noConfusion) hdr hrec hsame
      | serve =>
          -- both requests are evaluated, so nothing is left to serve
          have hstay : step S m .serve = m := by simp [step, hreq]
          rw [hstay]
          exact (ih m hsub hreq hact).skip (fun _ _ => Step.noConfusion) rfl rfl rfl
      | change r uid => exact (ih (step S m (.change r uid)) hsub hreq hact).change hsub hact

/-- A schedule that leaves no request unevaluated passes through the
    evaluation of the fetch and then of the change subscription. -/
theorem exists_instants (S : Sdk A R) {M : Machine (State A R) Step} (hM : M.step = step S)
    {m : State A R} {first second : RegistrarRequest} (hreq : m.requests = [first, second])
    {schedule : List Step} (hdone : (M.run m schedule).requests = []) :
    ∃ before during after, schedule = before ++ .serve :: (during ++ .serve :: after) ∧
      Step.serve ∉ before ∧ Step.serve ∉ during := by
  -- only `serve` takes a request off
  have hkeep : ∀ (steps : List Step) (m : State A R), Step.serve ∉ steps →
      (M.run m steps).requests = m.requests := by
    intro steps
    induction steps with
    | nil => intro m _; rfl
    | cons s rest ih =>
        intro m hserve
        rw [Machine.run_cons, hM, ih _ (fun h => hserve (List.mem_cons_of_mem s h))]
        cases s with
        | serve => exact absurd (List.mem_cons_self ..) hserve
        | change r uid => rfl
        | deliver => exact (step_deliver S m).2.2.1
  have hsplit : ∀ (steps : List Step) (m : State A R), m.requests ≠ [] →
      (M.run m steps).requests = [] →
      ∃ as bs, steps = as ++ .serve :: bs ∧ Step.serve ∉ as := by
    intro steps m hne hdone
    by_cases hmem : Step.serve ∈ steps
    · exact List.eq_append_cons_of_mem hmem
    · rw [hkeep steps m hmem] at hdone
      exact absurd hdone hne
  obtain ⟨before, tail, rfl, hbefore⟩ := hsplit schedule m (by simp [hreq]) hdone
  have hreq₁ := (hkeep before m hbefore).trans hreq
  have hreq₂ : (step S (M.run m before) .serve).requests = [second] := by
    cases first <;> simp [step, hreq₁, evaluate]
  rw [Machine.run_append, Machine.run_cons, hM] at hdone
  obtain ⟨during, after, rfl, hduring⟩ := hsplit tail _ (by simp [hreq₂]) hdone
  exact ⟨before, during, after, rfl, hbefore, hduring⟩

/-- The state right after `start()`: both requests are issued. -/
theorem machine_init (S : Sdk A R) {sub : OwnRegistrationSubscription A R} {aor : String}
    (haor : sub.mParticipantAor = some aor) (record : Option Record) :
    (machine S sub record).init =
      ⟨record, [.fetch aor, .subscribe (S.recordKey aor)], false, [],
        { sub with mActive := true }, []⟩ := by
  simp [machine, OwnRegistrationSubscription.start, haor]

/-- At the evaluation of the fetch: what will have been told is the device list
    of the record as it is then. -/
theorem reach_fetched (S : Sdk A R) {sub : OwnRegistrationSubscription A R} {aor : String}
    (haor : sub.mParticipantAor = some aor) (record : Option Record) {before : List Step}
    (hbefore : Step.serve ∉ before) :
    let m := (machine S sub record).reach (before ++ [.serve])
    m.requests = [.subscribe (S.recordKey aor)] ∧ m.subscribed = false ∧
      m.sub = { sub with mActive := true } ∧ m.record = contentAfter record before ∧
      drained S m = [.setParticipantDevices sub.mParticipant
        (sub.recordDevices S (contentAfter record before))] := by
  have hinit := machine_init S haor record
  intro m
  obtain ⟨hdr, hrec, hreq, hact, hsub⟩ := run_unsubscribed S (M := machine S sub record) rfl
    before (machine S sub record).init hbefore (by rw [hinit])
  set m₀ := (machine S sub record).run (machine S sub record).init before
  rw [hinit] at hdr hrec hreq hsub
  have hm : m = { m₀ with
      requests := [.subscribe (S.recordKey aor)]
      outbox := m₀.outbox ++ [.recordFound m₀.record] } := by
    show (machine S sub record).run _ (before ++ [.serve]) = _
    rw [Machine.run_concat]
    show step S m₀ .serve = _
    simp [step, hreq, evaluate]
  refine ⟨by rw [hm], by rw [hm]; exact hact, by rw [hm]; exact hsub, by rw [hm]; exact hrec, ?_⟩
  have hbefore' : m₀.calls ++ m₀.outbox.flatMap (handle S m₀.sub) = [] := hdr
  -- the result of the fetch is the only message
  have hfound : handle S m₀.sub (.recordFound m₀.record) = [.setParticipantDevices
      sub.mParticipant (sub.recordDevices S (contentAfter record before))] := by
    rw [hsub, hrec, ← OwnRegistrationSubscription.recordDevices_setActive S sub true]
    rfl
  rw [hm, drained]
  simp only [List.flatMap_append, ← List.append_assoc, hbefore']
  simpa using hfound

/-- At the activation of the change subscription: the record has moved on, what
    will have been told has not. -/
theorem reach_activated (S : Sdk A R) {sub : OwnRegistrationSubscription A R} {aor : String}
    (haor : sub.mParticipantAor = some aor) (record : Option Record) {before during : List Step}
    (hbefore : Step.serve ∉ before) (hduring : Step.serve ∉ during) :
    let m := (machine S sub record).reach (before ++ .serve :: (during ++ [.serve]))
    m.requests = [] ∧ m.subscribed = true ∧ m.sub = { sub with mActive := true } ∧
      m.record = contentAfter record (before ++ during) ∧
      drained S m = [.setParticipantDevices sub.mParticipant
        (sub.recordDevices S (contentAfter record before))] := by
  obtain ⟨hreq₁, hact₁, hsub₁, hrec₁, hdr₁⟩ := reach_fetched S haor record hbefore
  intro m
  -- in between the record moves, and nobody is told
  obtain ⟨hdr₂, hrec₂, hreq₂, -, hsub₂⟩ := run_unsubscribed S (M := machine S sub record) rfl
    during ((machine S sub record).reach (before ++ [.serve])) hduring hact₁
  set m₂ := (machine S sub record).run ((machine S sub record).reach (before ++ [.serve])) during
  have hm : m = { m₂ with requests := [], subscribed := true } := by
    have hsplit : before ++ Step.serve :: (during ++ [.serve]) =
        (before ++ [.serve]) ++ (during ++ [.serve]) := by simp
    show (machine S sub record).reach _ = _
    rw [hsplit, Machine.reach_append, Machine.run_concat]
    show step S m₂ .serve = _
    simp [step, hreq₂, hreq₁, evaluate]
  refine ⟨by rw [hm], by rw [hm], by rw [hm]; exact hsub₂.trans hsub₁, ?_, ?_⟩
  · rw [hm]
    show m₂.record = _
    rw [hrec₂, hrec₁, contentAfter, contentAfter, contentAfter, List.foldl_append]
  · rw [← hdr₁, ← hdr₂, hm]
    rfl

/-- **WHEN NO CHANGE IS LOST.**  Take any schedule of record changes,
    evaluations and deliveries after `start()` that ends with all requests
    evaluated and all messages delivered.  It has two instants, the evaluation
    of the fetch and the activation of the change subscription; the last list
    given to the chat room is the one of the final content exactly when some
    change comes after the activation, or the changes between the two instants
    left the device list of the record as it was at the first. -/
theorem start_loses_no_change_iff (S : Sdk A R) (sub : OwnRegistrationSubscription A R)
    {aor : String} (haor : sub.mParticipantAor = some aor) (record : Option Record)
    (schedule : List Step) :
    let m := (machine S sub record).reach schedule
    m.requests = [] → m.outbox = [] →
    ∃ before during after, schedule = before ++ .serve :: (during ++ .serve :: after) ∧
      Step.serve ∉ before ∧ Step.serve ∉ during ∧
      (lastList m.calls = some (sub.recordDevices S m.record) ↔
        Changes after ∨
          sub.recordDevices S (contentAfter record before) =
            sub.recordDevices S (contentAfter record (before ++ during))) := by
  intro m hrequests houtbox
  obtain ⟨before, during, after, rfl, hbefore, hduring⟩ :=
    exists_instants S (M := machine S sub record) rfl (by rw [machine_init S haor]) hrequests
  refine ⟨before, during, after, rfl, hbefore, hduring, ?_⟩
  obtain ⟨hreq, hact, hsub, hrec, hdr⟩ := reach_activated S haor record hbefore hduring
  have htracks := run_subscribed S (M := machine S sub record) rfl after _ hact hreq (by rw [hsub])
  have hm : m = (machine S sub record).run
      ((machine S sub record).reach (before ++ .serve :: (during ++ [.serve]))) after := by
    rw [← Machine.reach_append]
    simp [m]
  have hdevices : ∀ r : Option Record,
      OwnRegistrationSubscription.recordDevices S { sub with mActive := true } r =
        sub.recordDevices S r :=
    OwnRegistrationSubscription.recordDevices_setActive S sub true
  -- no message is left, so what will have been told is what was told
  have hcalls : drained S m = m.calls := by simp [drained, houtbox]
  rw [← hm] at htracks
  rw [← hcalls]
  by_cases hch : Changes after
  · have hlast := htracks.changed hch
    rw [hsub, hdevices] at hlast
    exact ⟨fun _ => Or.inl hch, fun _ => hlast⟩
  · obtain ⟨hlast, hsame⟩ := htracks.unchanged hch
    rw [hlast, hdr, hsame, hrec]
    simp [lastList, hch]

/-- A change after the activation is delivered. -/
theorem start_loses_no_change_late :
    let sub := OwnRegistrationSubscription.make stringSdk false 0#32 "sip:bob@example.org"
    let r : Record := ⟨[⟨"phone", some "sip:bob@example.org;gr=phone", "groupchat", "phone"⟩]⟩
    let schedule : List Step := [.serve, .serve, .change r "", .deliver, .deliver]
    ∃ before during after, schedule = before ++ .serve :: (during ++ .serve :: after) ∧
      Step.serve ∉ before ∧ Step.serve ∉ during ∧
      (lastList ((machine stringSdk sub none).reach schedule).calls =
          some (sub.recordDevices stringSdk ((machine stringSdk sub none).reach schedule).record) ↔
        Changes after ∨ sub.recordDevices stringSdk (contentAfter none before) =
          sub.recordDevices stringSdk (contentAfter none (before ++ during))) := by
  intro sub r schedule
  have haor : sub.mParticipantAor = some "sip:bob@example.org" := by decide
  exact start_loses_no_change_iff stringSdk sub haor none schedule (by decide) (by decide)

/-- A phone that registers between the evaluation of the fetch and the
    activation of the change subscription is never given to the chat room. -/
theorem start_loses_change :
    let sub := OwnRegistrationSubscription.make stringSdk false 0#32 "sip:bob@example.org"
    let r : Record := ⟨[⟨"phone", some "sip:bob@example.org;gr=phone", "groupchat", "phone"⟩]⟩
    let m := (machine stringSdk sub none).reach [.serve, .change r "phone", .serve, .deliver]
    m.requests = [] ∧ m.outbox = [] ∧ lastList m.calls = some [] ∧
      sub.recordDevices stringSdk m.record =
        [⟨some "sip:bob@example.org;gr=phone", "phone", ["groupchat"]⟩] := by
  intro sub r m
  exact ⟨by decide, by decide, by decide, by decide⟩

end StartRace
