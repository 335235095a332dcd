import FlexisipConference.Library.IssuingProofs
import FlexisipConference.Library.MachineProofs
import FlexisipConference.SdkProofs

/-! # Binding the addresses of the server

    When the registrar can be written, the server binds its factory URIs, the
    identities of its accounts and its chat rooms.  Each of the three loops may
    raise, because of a URI or because the registrar raises, and the pass is
    then over; `mAddressesBound` is set at the very end.

    A pass is a `Procedure` that issues requests to the registrar.  What it has
    to issue is said by plain list functions (`bindings`); `bindAddresses` runs
    it unless an earlier pass came to its end. -/

namespace Bindings

open Sdks Machines Issuing Procedure

variable {A R : Type}

/-- `BindingParameters`. -/
structure BindingParameters where
  callId : String
  path : String
  globalExpire : Nat
  isAlias : Bool
  version : Nat
  withGruu : Bool
  deriving DecidableEq, Repr

/-- `sip_contact_t`, as it is made here: a URL and at most one parameter. -/
structure SipContact where
  url : String
  param : Option String
  deriving DecidableEq, Repr

/-- A request to `RegistrarDb`. -/
inductive Request where
  | clear (aor : String) (callId : String)
  | bind (aor : String) (sipContact : SipContact) (parameter : BindingParameters)
  deriving DecidableEq, Repr

/-- What a pass can be stopped by. -/
inductive BindError where
  | badConfiguration (message : String)
  | invalidUrl (url : String)
  | flexisip (message : String)
  | registrar (message : String)
  deriving DecidableEq, Repr

/-- What the binding uses besides: comparisons of addresses, which may be null
    on the right, and accessors of SIP URIs. -/
structure BindingSdk (A R : Type) extends Sdk A R where
  equal : A → Option A → Bool
  weakEqual : A → Option A → Bool
  getUser : String → String
  getParam : String → String → String
  grToUniqueId : String → String

/-- An account of the Core. -/
structure Account (A : Type) where
  identityAddress : A
  conferenceFactoryUri : String

/-- What the server knows from its configuration. -/
structure ConferenceServer where
  mConfServerUris : List (String × String)
  textEnabled : Bool
  mTransport : String
  mPath : String

/-- What a pass meets: the accounts and the chat rooms of the Core, the uuid,
    and whether the registrar raises. -/
structure Surroundings (A : Type) where
  accounts : List (Account A)
  chatRooms : List A
  uuid : String
  raises : List Request → Request → Option BindError

/-- `numeric_limits<int>::max()`. -/
def intMax : Nat := 2147483647

/-- The parameters of every binding, but for the call id. -/
def ConferenceServer.parameter (server : ConferenceServer) (callId : String) :
    BindingParameters where
  callId := callId
  path := server.mPath
  globalExpire := intMax
  isAlias := false
  version := 0
  withGruu := true

/-- The parameter of a contact that carries an instance. -/
def instanceParam (S : BindingSdk A R) (gr : String) : String :=
  "+sip.instance=" ++ S.grToUniqueId gr

/-- The contact of the server itself. -/
def ConferenceServer.sipContact (S : BindingSdk A R) (server : ConferenceServer)
    (uuid : String) : SipContact where
  url := server.mTransport
  param := if uuid.isEmpty then none else some (instanceParam S uuid)

section Pass

variable (S : BindingSdk A R) (server : ConferenceServer) (env : Surroundings A)

/-- The error of an invalid URI, as `bindFactoryUris` raises it again. -/
def factoryError : BindError → BindError
  | .invalidUrl url => .badConfiguration ("invalid conference-server SIP URI '" ++ url ++ "'")
  | err => err

/-- One turn of `bindFactoryUris`. -/
def bindFactoryUri (conferenceFactoryUri : String × String) : Procedure Request BindError Unit :=
  rethrow factoryError <|
    match S.sipUri conferenceFactoryUri.1 with
    | none => raise (.invalidUrl conferenceFactoryUri.1)
    | some factory => do
        let parameter := server.parameter "CONFERENCE"
        -- clear what a server of version 2.2 has bound
        issue env.raises (.clear factory parameter.callId)
        issue env.raises (.bind factory (server.sipContact S env.uuid) parameter)

/-- `bindFactoryUris`. -/
def bindFactoryUris : Procedure Request BindError Unit :=
  server.mConfServerUris.forM (bindFactoryUri S server env)

/-- One turn of `bindFocusUris`. -/
def bindFocusUri (account : Account A) : Procedure Request BindError Unit :=
  let factoryAddress := S.createAddress account.conferenceFactoryUri
  if S.equal account.identityAddress factoryAddress then pure ()
  else
    match S.sipUri (S.asStringUriOnly account.identityAddress) with
    | none => raise (.invalidUrl (S.asStringUriOnly account.identityAddress))
    | some focus =>
        issue env.raises (.bind focus (server.sipContact S env.uuid)
          (server.parameter "CONFERENCE"))

/-- `bindFocusUris`. -/
def bindFocusUris : Procedure Request BindError Unit :=
  env.accounts.forM (bindFocusUri S server env)

/-- `bindChatRoom`. -/
def bindChatRoom (bindingUrl contact : String) : Procedure Request BindError Unit :=
  match S.sipUri bindingUrl with
  | none => raise (.invalidUrl bindingUrl)
  | some uri =>
      let gruu := S.getParam uri "gr"
      let gruu := if gruu.isEmpty then env.uuid else gruu
      if (S.getUser uri).isEmpty then raise (.flexisip "trying to bind with no username")
      else
        issue env.raises (.bind uri ⟨contact, some (instanceParam S gruu)⟩
          (server.parameter "dummy-call-id"))

/-- The peer address of a chat room is one of the focus URIs. -/
def isFocusUri (peerAddress : A) : Bool :=
  server.mConfServerUris.any (fun p => S.weakEqual peerAddress (S.createAddress p.2))

/-- The body of `bindAddresses`. -/
def bindAll : Procedure Request BindError Unit := do
  bindFactoryUris S server env
  bindFocusUris S server env
  if server.textEnabled then
    env.chatRooms.forM fun peerAddress =>
      if isFocusUri S server peerAddress then pure ()
      else bindChatRoom S server env (S.asStringUriOnly peerAddress) server.mTransport
  else pure ()

/-! ## What a pass has to issue -/

/-- The old binding of a factory URI is cleared, then the URI is bound. -/
def factoryBindings : List Request :=
  server.mConfServerUris.flatMap fun conferenceFactoryUri =>
    let factory := (S.sipUri conferenceFactoryUri.1).getD conferenceFactoryUri.1
    [.clear factory "CONFERENCE",
      .bind factory (server.sipContact S env.uuid) (server.parameter "CONFERENCE")]

/-- One bind for each account whose identity is not its factory address. -/
def focusBindings : List Request :=
  (env.accounts.filter (fun account =>
    !S.equal account.identityAddress (S.createAddress account.conferenceFactoryUri))).map
      fun account =>
        let identity := S.asStringUriOnly account.identityAddress
        .bind ((S.sipUri identity).getD identity) (server.sipContact S env.uuid)
          (server.parameter "CONFERENCE")

/-- One bind for each chat room whose peer address is weakly equal to none of the
    focus URIs. -/
def chatRoomBindings : List Request :=
  (env.chatRooms.filter (fun peerAddress => ∀ uris ∈ server.mConfServerUris,
    S.weakEqual peerAddress (S.createAddress uris.2) = false)).map
    fun peerAddress =>
      let uri := (S.sipUri (S.asStringUriOnly peerAddress)).getD (S.asStringUriOnly peerAddress)
      let gr := S.getParam uri "gr"
      .bind uri ⟨server.mTransport, some (instanceParam S (if gr.isEmpty then env.uuid else gr))⟩
        (server.parameter "dummy-call-id")

/-- All the bindings of the server; those of the chat rooms only when text is
    enabled. -/
def bindings : List Request :=
  factoryBindings S server env ++ focusBindings S server env ++
    if server.textEnabled then chatRoomBindings S server env else []

end Pass

section Spec

variable (S : BindingSdk A R) (server : ConferenceServer) (env : Surroundings A)

theorem issues_bindFactoryUris :
    Issues (bindFactoryUris S server env) (factoryBindings S server env) := by
  refine issues_forM _ (fun conferenceFactoryUri _ => ?_)
  rw [bindFactoryUri]
  refine Issues.rethrow ?_ factoryError
  cases S.sipUri conferenceFactoryUri.1 with
  | none => exact issues_raise _ _
  | some factory => exact (issues_issue _ _).bind (fun _ => issues_issue _ _)

/-- A loop that passes over some elements issues nothing for them. -/
theorem flatMap_skip {α β : Type} (skip : α → Bool) (f : α → β) (l : List α) :
    l.flatMap (fun a => if skip a then [] else [f a]) =
      (l.filter (fun a => !skip a)).map f := by
  induction l with
  | nil => rfl
  | cons a l ih =>
      rw [List.flatMap_cons, ih]
      cases h : skip a <;> simp [h]

theorem issues_bindFocusUris :
    Issues (bindFocusUris S server env) (focusBindings S server env) := by
  rw [focusBindings, ← flatMap_skip]
  refine issues_forM _ (fun account _ => ?_)
  refine issues_ite _ (fun _ => issues_pure _) (fun _ => ?_)
  cases hfocus : S.sipUri (S.asStringUriOnly account.identityAddress) with
  | none => exact issues_raise _ _
  | some focus =>
      simp only [hfocus, Option.getD_some]
      exact issues_issue _ _

/-- The chat rooms that the loop does not pass over. -/
theorem isFocusUri_eq (peerAddress : A) : (!isFocusUri S server peerAddress) =
    decide (∀ uris ∈ server.mConfServerUris,
      S.weakEqual peerAddress (S.createAddress uris.2) = false) := by
  rw [Bool.eq_iff_iff, decide_eq_true_iff, isFocusUri, List.not_any_eq_all_not, List.all_eq_true]
  simp only [Bool.not_eq_true']

/-- The loop over the chat rooms, without those that are a focus. -/
theorem issues_bindChatRooms :
    Issues (env.chatRooms.forM fun peerAddress =>
        if isFocusUri S server peerAddress then pure ()
        else bindChatRoom S server env (S.asStringUriOnly peerAddress) server.mTransport)
      (chatRoomBindings S server env) := by
  simp only [chatRoomBindings, ← isFocusUri_eq]
  rw [← flatMap_skip]
  refine issues_forM _ (fun peerAddress _ => ?_)
  refine issues_ite _ (fun _ => issues_pure _) (fun _ => ?_)
  rw [bindChatRoom]
  cases huri : S.sipUri (S.asStringUriOnly peerAddress) with
  | none => exact issues_raise _ _
  | some uri =>
      simp only [Option.getD_some]
      show Issues (if (S.getUser uri).isEmpty = true then _ else _) _
      split
      · exact issues_raise _ _
      · exact issues_issue _ _

/-- **A pass issues the bindings of the server.** -/
theorem issues_bindAll : Issues (bindAll S server env) (bindings S server env) := by
  rw [bindAll, bindings, List.append_assoc]
  refine (issues_bindFactoryUris S server env).bind (fun _ => ?_)
  refine (issues_bindFocusUris S server env).bind (fun _ => ?_)
  exact issues_ite _ (fun _ => issues_bindChatRooms S server env) (fun _ => issues_pure _)

end Spec

/-! ## The passes over time -/

/-- The flag, and the requests issued so far. -/
structure State where
  mAddressesBound : Bool
  requests : List Request
  deriving DecidableEq, Repr

/-- `bindAddresses`: the flag is set when the pass has come to its end. -/
def bindAddresses (S : BindingSdk A R) (server : ConferenceServer) (env : Surroundings A)
    (st : State) : State :=
  if st.mAddressesBound then st
  else
    match bindAll S server env st.requests with
    | (.ok _, requests) => ⟨true, requests⟩
    | (.error _, requests) => ⟨st.mAddressesBound, requests⟩

/-- A notification of the registrar, and what a pass meets then. -/
structure Notification (A : Type) where
  writable : Bool
  env : Surroundings A

/-- `onRegistrarDbWritable`. -/
def onRegistrarDbWritable (S : BindingSdk A R) (server : ConferenceServer) (st : State)
    (notification : Notification A) : State :=
  if notification.writable then bindAddresses S server notification.env st else st

/-- The end of `_init`: a first pass when the registrar is writable already. -/
def initState (S : BindingSdk A R) (server : ConferenceServer) (isWritable : Bool)
    (env : Surroundings A) : State :=
  if isWritable then bindAddresses S server env ⟨false, []⟩ else ⟨false, []⟩

/-- The server from its start on. -/
def machine (S : BindingSdk A R) (server : ConferenceServer) (isWritable : Bool)
    (env : Surroundings A) : Machine State (Notification A) where
  init := initState S server isWritable env
  step := onRegistrarDbWritable S server

/-- The pass from this state raises. -/
def PassRaises (S : BindingSdk A R) (server : ConferenceServer) (env : Surroundings A)
    (st : State) : Prop :=
  ∃ err, (bindAll S server env st.requests).1 = .error err

/-- **One pass**: all the bindings and the flag, or the beginning of the
    bindings and no flag. -/
theorem bindAddresses_spec (S : BindingSdk A R) (server : ConferenceServer)
    (env : Surroundings A) {st : State} (hst : st.mAddressesBound = false) :
    (¬ PassRaises S server env st →
      bindAddresses S server env st = ⟨true, st.requests ++ bindings S server env⟩) ∧
    (PassRaises S server env st → ∃ done, done <+: bindings S server env ∧
      bindAddresses S server env st = ⟨false, st.requests ++ done⟩) := by
  have hpass : bindAddresses S server env st = (match bindAll S server env st.requests with
      | (.ok _, requests) => ⟨true, requests⟩
      | (.error _, requests) => ⟨st.mAddressesBound, requests⟩) := by
    rw [bindAddresses, hst]
    rfl
  rw [hpass, PassRaises]
  rcases issues_bindAll S server env st.requests with ⟨a, hrun⟩ | ⟨err, done, hdone, hrun⟩
  · rw [hrun]
    refine ⟨fun _ => rfl, ?_⟩
    rintro ⟨err, herr⟩
    cases herr
  · rw [hrun, hst]
    exact ⟨fun hno => absurd ⟨err, rfl⟩ hno, fun _ => ⟨done, hdone, rfl⟩⟩

/-- Once the addresses are bound there is no other pass. -/
theorem bindAddresses_bound (S : BindingSdk A R) (server : ConferenceServer)
    (env : Surroundings A) {st : State} (hst : st.mAddressesBound = true) :
    bindAddresses S server env st = st := by
  rw [bindAddresses, hst]
  rfl

/-- **When the flag is set** after a notification: it was set before, or the
    registrar can be written and the pass does not raise. -/
theorem mAddressesBound_step_iff (S : BindingSdk A R) (server : ConferenceServer) (st : State)
    (notification : Notification A) :
    (onRegistrarDbWritable S server st notification).mAddressesBound = true ↔
      st.mAddressesBound = true ∨
        notification.writable = true ∧ ¬ PassRaises S server notification.env st := by
  rw [onRegistrarDbWritable]
  cases hst : st.mAddressesBound with
  | true =>
      rw [bindAddresses_bound S server _ hst, ite_self]
      exact iff_of_true hst (Or.inl rfl)
  | false =>
      obtain ⟨hends, hraises⟩ := bindAddresses_spec S server notification.env hst
      cases notification.writable with
      | false => simp [hst]
      | true =>
          by_cases hr : PassRaises S server notification.env st
          · obtain ⟨done, -, hrun⟩ := hraises hr
            simp [hrun, hr]
          · simp [hends hr, hr]

/-- What the passes have issued: the beginnings that were cut off by an error,
    then all the bindings once, if some pass came to its end. -/
def Accounted (S : BindingSdk A R) (server : ConferenceServer) (st : State) : Prop :=
  ∃ cutOff : List (List Request),
    (∀ done ∈ cutOff, ∃ env, done <+: bindings S server env) ∧
    ((st.mAddressesBound = false ∧ st.requests = cutOff.flatten) ∨
      (st.mAddressesBound = true ∧ ∃ env,
        st.requests = cutOff.flatten ++ bindings S server env))

/-- **Step lemma**: one more pass keeps the account. -/
theorem Accounted.bindAddresses {S : BindingSdk A R} {server : ConferenceServer} {st : State}
    (h : Accounted S server st) (env : Surroundings A) :
    Accounted S server (bindAddresses S server env st) := by
  obtain ⟨cutOff, hcut, ⟨hst, hreqs⟩ | ⟨hst, hreqs⟩⟩ := id h
  · obtain ⟨hdone, hraise⟩ := bindAddresses_spec S server env hst
    by_cases hr : PassRaises S server env st
    · obtain ⟨done, hprefix, hpass⟩ := hraise hr
      rw [hpass]
      refine ⟨cutOff ++ [done], fun done' hin => ?_, Or.inl ⟨rfl, ?_⟩⟩
      · rcases List.mem_append.mp hin with hin | hin
        · exact hcut done' hin
        · rw [List.mem_singleton.mp hin]
          exact ⟨env, hprefix⟩
      · rw [hreqs, List.flatten_append, List.flatten_singleton]
    · rw [hdone hr, hreqs]
      exact ⟨cutOff, hcut, Or.inr ⟨rfl, env, rfl⟩⟩
  · rw [bindAddresses_bound S server env hst]
    exact h

theorem accounted_init (S : BindingSdk A R) (server : ConferenceServer) (isWritable : Bool)
    (env : Surroundings A) : Accounted S server (initState S server isWritable env) := by
  have hblank : Accounted S server ⟨false, []⟩ := ⟨[], List.forall_mem_nil _, Or.inl ⟨rfl, rfl⟩⟩
  rw [initState]
  split
  · exact hblank.bindAddresses env
  · exact hblank

/-- **Step lemma**: a notification adds what its pass has issued. -/
theorem accounted_step (S : BindingSdk A R) (server : ConferenceServer) (st : State)
    (notification : Notification A) (h : Accounted S server st) :
    Accounted S server (onRegistrarDbWritable S server st notification) := by
  rw [onRegistrarDbWritable]
  split
  · exact h.bindAddresses _
  · exact h

/-- Nothing happens any more once a pass has come to its end. -/
theorem run_of_bound (S : BindingSdk A R) (server : ConferenceServer) (isWritable : Bool)
    (env : Surroundings A) {st : State} (hst : st.mAddressesBound = true)
    (later : List (Notification A)) : (machine S server isWritable env).run st later = st := by
  refine Machine.invariant_run (M := machine S server isWritable env) (I := fun st' => st' = st)
    ?_ later st rfl
  rintro _ notification rfl
  show onRegistrarDbWritable S server _ notification = _
  rw [onRegistrarDbWritable]
  split
  · exact bindAddresses_bound S server _ hst
  · rfl

/-- Nothing happens as long as the registrar is not writable. -/
theorem run_of_not_writable (S : BindingSdk A R) (server : ConferenceServer) (env : Surroundings A)
    (notifications : List (Notification A))
    (h : ∀ notification ∈ notifications, notification.writable = false) :
    (machine S server false env).reach notifications = ⟨false, []⟩ := by
  refine Machine.invariant_run_of_forall (M := machine S server false env)
    (I := fun st => st = ⟨false, []⟩) ?_ notifications _ h rfl
  rintro _ notification hno rfl
  show onRegistrarDbWritable S server _ notification = _
  rw [onRegistrarDbWritable, hno]
  rfl

/-- **ADDRESSES ARE BOUND ONCE AND COMPLETELY.**  For every initial writability
    and every sequence of notifications: nothing is issued before the registrar
    has been writable; while no pass has come to its end, the start on a
    writable registrar and each writable notification run a pass from its
    beginning, which issues all the bindings when it does not raise, and
    otherwise a beginning of them and leaves the flag; once a pass has come to
    its end nothing is ever issued again; so what has been issued are the
    beginnings that were cut off and then, if some pass did not raise, all the
    bindings once. -/
theorem addresses_bound_once (S : BindingSdk A R) (server : ConferenceServer)
    (isWritable : Bool) (env : Surroundings A) (notifications : List (Notification A)) :
    let st := (machine S server isWritable env).reach notifications
    (isWritable = false → (∀ notification ∈ notifications, notification.writable = false) →
      st = ⟨false, []⟩) ∧
    (isWritable = true →
      (¬ PassRaises S server env ⟨false, []⟩ →
        (machine S server isWritable env).init = ⟨true, bindings S server env⟩) ∧
      (PassRaises S server env ⟨false, []⟩ → ∃ done, done <+: bindings S server env ∧
        (machine S server isWritable env).init = ⟨false, done⟩)) ∧
    (∀ env', st.mAddressesBound = false →
      let st' := (machine S server isWritable env).step st ⟨true, env'⟩
      (¬ PassRaises S server env' st →
        st' = ⟨true, st.requests ++ bindings S server env'⟩) ∧
      (PassRaises S server env' st → ∃ done, done <+: bindings S server env' ∧
        st' = ⟨false, st.requests ++ done⟩)) ∧
    (∀ env', (machine S server isWritable env).step st ⟨false, env'⟩ = st) ∧
    (st.mAddressesBound = true →
      ∀ later, (machine S server isWritable env).run st later = st) ∧
    Accounted S server st := by
  intro st
  refine ⟨?_, ?_, fun env' hst => bindAddresses_spec S server env' hst, fun env' => rfl,
    run_of_bound S server isWritable env, ?_⟩
  · rintro rfl hnever
    exact run_of_not_writable S server env notifications hnever
  · rintro rfl
    have hunbound : State.mAddressesBound ⟨false, []⟩ = false := rfl
    exact bindAddresses_spec S server env hunbound
  · exact Machine.invariant_reach (M := machine S server isWritable env)
      (accounted_init S server isWritable env) (accounted_step S server) notifications

/-! ## A pass that comes to its end -/

/-- Addresses are URIs with at most one parameter. -/
def stringBindingSdk : BindingSdk String (BitVec 32) where
  toSdk := stringSdk
  equal a b := b = some a
  weakEqual a b := b.map (fun uri => uri.toList.takeWhile (· ≠ ';')) =
    some (a.toList.takeWhile (· ≠ ';'))
  getUser uri := stringSdk.getUsername uri
  getParam uri name := String.ofList ((uri.toList.dropWhile (· ≠ ';')).drop (name.length + 2))
  grToUniqueId gr := "\"<urn:uuid:" ++ gr ++ ">\""

/-- One factory with its focus. -/
def oneFactory (mTransport : String) : ConferenceServer :=
  ⟨[("sip:factory@a.org", "sip:focus@a.org")], true, mTransport, ""⟩

/-- One account and two chat rooms, of which the second one is the focus. -/
def twoChatRooms (uuid : String) : Surroundings String :=
  ⟨[⟨"sip:focus@a.org", "sip:factory@a.org"⟩],
    ["sip:chatroom-1@a.org;gr=old", "sip:focus@a.org;gr=u1"], uuid, fun _ _ => none⟩

/-- What is asked of the registrar for the factory, its focus and the chat room that
    is none, by a server with the uuid `u1`. -/
def oneFactoryRequests (transport : String) : List Request :=
  let contact : SipContact := ⟨transport, some "+sip.instance=\"<urn:uuid:u1>\""⟩
  let parameter := (oneFactory transport).parameter
  [.clear "sip:factory@a.org" "CONFERENCE",
    .bind "sip:factory@a.org" contact (parameter "CONFERENCE"),
    .bind "sip:focus@a.org" contact (parameter "CONFERENCE"),
    .bind "sip:chatroom-1@a.org;gr=old"
      ⟨transport, some "+sip.instance=\"<urn:uuid:old>\""⟩ (parameter "dummy-call-id")]

/-- A registrar that can be written after a while: everything is bound then, and
    nothing at its next notifications. -/
theorem addresses_bound_once_sample :
    let M := machine stringBindingSdk (oneFactory "sip:h:1") false (twoChatRooms "u1")
    let writable : Notification String := ⟨true, twoChatRooms "u1"⟩
    M.reach [⟨false, twoChatRooms "u1"⟩] = ⟨false, []⟩ ∧
    M.reach [⟨false, twoChatRooms "u1"⟩, writable, writable] =
      ⟨true, oneFactoryRequests "sip:h:1"⟩ := by
  intro M writable
  have hquiet := addresses_bound_once stringBindingSdk (oneFactory "sip:h:1") false
    (twoChatRooms "u1") [⟨false, twoChatRooms "u1"⟩]
  have hbefore : M.reach [⟨false, twoChatRooms "u1"⟩] = ⟨false, []⟩ :=
    hquiet.1 rfl (by simp)
  have hpass : ¬ PassRaises stringBindingSdk (oneFactory "sip:h:1") (twoChatRooms "u1")
      ⟨false, []⟩ := by
    rintro ⟨err, herr⟩
    cases herr
  have hbound : M.reach [⟨false, twoChatRooms "u1"⟩, writable] =
      ⟨true, bindings stringBindingSdk (oneFactory "sip:h:1") (twoChatRooms "u1")⟩ :=
    (hquiet.2.2.1 (twoChatRooms "u1") rfl).1 hpass
  have hlater := (addresses_bound_once stringBindingSdk (oneFactory "sip:h:1") false
    (twoChatRooms "u1") [⟨false, twoChatRooms "u1"⟩, writable]).2.2.2.2.1
      (congrArg State.mAddressesBound hbound) [writable]
  refine ⟨hbefore, hlater.trans (hbound.trans ?_)⟩
  decide +kernel

end Bindings
