import FlexisipConference.StartupProofs
import Mathlib.Data.List.Enum
import Mathlib.Logic.Function.Basic

/-! # The contact addresses of the accounts

    With each focus URI that it binds the server passes a `FocusListener`.  When
    the registrar answers with the record of the URI, the listener looks there
    for the contact that has the instance of the server and makes its public GRUU
    the contact address of the account.  It raises when there is none.

    The registrar answers when it likes: some time after the request, more than
    once, or not at all, and meanwhile the passes go on.  What a record holds is
    determined by the requests carried out until then (`Registrar`).

    The passes are those of `Bindings`; here each request has a label, the
    listener that is passed with it (`erase_reach`). -/

namespace Focus

open Sdks Bindings Restarts Machines Registries Issuing Procedure

variable {A R σ : Type}

/-- `FocusListener`: the account is known by its place in the list of the Core. -/
structure FocusListener where
  mAccount : Nat
  mUuid : String
  deriving DecidableEq, Repr

/-- `FocusListener::onRecordFound`: the new contact address.  A public GRUU that is
    no address gives none here; the source then dereferences the null `gruuAddr` in
    the line that logs it. -/
def FocusListener.onRecordFound (S : BindingSdk A R) (listener : FocusListener) (r : Record) :
    Except BindError (Option A) :=
  if r.extendedContacts.isEmpty then .error (.flexisip "focus address bind failed")
  else
    match S.extractContactByUniqueId r (S.grToUniqueId listener.mUuid) with
    | none => .error (.flexisip "focus uri was not recorded in registrar database")
    | some ec =>
        match ec.pubGruu with
        | none => .error (.flexisip "focus binding does not have public gruu")
        | some pubGruu => .ok (S.createAddress pubGruu)

/-- A request, and the listener that is passed with it; the other listeners only
    log. -/
abbrev Passed : Type := Request × Option FocusListener

section Pass

variable (S : BindingSdk A R) (server : ConferenceServer) (accounts : List (Account A))
variable (uuid : String) (env : Surroundings A)

/-- What a pass meets, when the Core has these accounts. -/
def surroundings : Surroundings A := withUuid uuid { env with accounts := accounts }

/-- One turn of `bindFocusUris`, with the listener. -/
def bindFocusAccount (account : Account A × Nat) : Procedure Passed BindError Unit :=
  (bindFocusUri S server (surroundings accounts uuid env) account.1).label
    (some ⟨account.2, uuid⟩)

/-- `bindFocusUris`, with the listeners. -/
def bindFocusAccounts : Procedure Passed BindError Unit :=
  accounts.zipIdx.forM (bindFocusAccount S server accounts uuid env)

/-- The loop over the chat rooms. -/
def bindChatRooms : Procedure Request BindError Unit :=
  if server.textEnabled then
    env.chatRooms.forM fun peerAddress =>
      if isFocusUri S server peerAddress then pure ()
      else bindChatRoom S server env (S.asStringUriOnly peerAddress) server.mTransport
  else pure ()

/-- The body of `bindAddresses`, with the listeners. -/
def bindAll : Procedure Passed BindError Unit := do
  (bindFactoryUris S server (surroundings accounts uuid env)).label none
  bindFocusAccounts S server accounts uuid env
  (bindChatRooms S server (surroundings accounts uuid env)).label none

/-- The focus URI of an account. -/
def focusUri (account : Account A) : String :=
  let identity := S.asStringUriOnly account.identityAddress
  (S.sipUri identity).getD identity

/-- The bind of an account. -/
def focusBinding (account : Account A) : Request :=
  .bind (focusUri S account) (server.sipContact S uuid) (server.parameter "CONFERENCE")

/-- What a pass has to issue for the accounts. -/
def focusPassed : List Passed :=
  accounts.zipIdx.flatMap fun account =>
    if S.equal account.1.identityAddress (S.createAddress account.1.conferenceFactoryUri) then []
    else [(focusBinding S server uuid account.1, some ⟨account.2, uuid⟩)]

/-- All that a pass has to issue. -/
def passed : List Passed :=
  (factoryBindings S server (surroundings accounts uuid env)).map (fun req => (req, none)) ++
    (focusPassed S server accounts uuid ++
      (if server.textEnabled then chatRoomBindings S server (surroundings accounts uuid env)
        else []).map (fun req => (req, none)))

end Pass

section Spec

variable (S : BindingSdk A R) (server : ConferenceServer) (accounts : List (Account A))
variable (uuid : String) (env : Surroundings A)

theorem issues_bindFocusUri (account : Account A) (henv : env.uuid = uuid) :
    Issues (bindFocusUri S server env account)
      (if S.equal account.identityAddress (S.createAddress account.conferenceFactoryUri) then []
        else [focusBinding S server uuid account]) := by
  refine issues_ite _ (fun _ => issues_pure _) ?_
  intro _
  rw [focusBinding, focusUri, henv]
  cases S.sipUri (S.asStringUriOnly account.identityAddress) with
  | none => exact issues_raise _ _
  | some focus => exact issues_issue _ _

theorem issues_bindFocusAccounts :
    Issues (bindFocusAccounts S server accounts uuid env) (focusPassed S server accounts uuid) := by
  refine issues_forM _ ?_
  intro account _
  have hissues := (issues_bindFocusUri S server uuid (surroundings accounts uuid env) account.1
    rfl).label (some (⟨account.2, uuid⟩ : FocusListener))
  rw [apply_ite (List.map _)] at hissues
  exact hissues

theorem issues_bindChatRooms' :
    Issues (bindChatRooms S server env)
      (if server.textEnabled then chatRoomBindings S server env else []) :=
  issues_ite _ (fun _ => issues_bindChatRooms S server env) (fun _ => issues_pure _)

/-- **A pass issues what it has to issue**, with the listeners. -/
theorem issues_bindAll :
    Issues (bindAll S server accounts uuid env) (passed S server accounts uuid env) :=
  ((issues_bindFactoryUris S server _).label none).bind (fun _ =>
    (issues_bindFocusAccounts S server accounts uuid env).bind (fun _ =>
      (issues_bindChatRooms' S server _).label none))

/-- Without the listeners it is the pass of `Bindings`. -/
theorem erases_bindAll :
    Erases (bindAll S server accounts uuid env)
      (Bindings.bindAll S server (surroundings accounts uuid env)) := by
  refine ((issues_bindFactoryUris S server _).erases_label none).bind ?_
  intro _
  refine Erases.bind ?_ (fun _ => (issues_bindChatRooms' S server _).erases_label none)
  have hforM : Erases (bindFocusAccounts S server accounts uuid env)
      ((accounts.zipIdx.map Prod.fst).forM
        (bindFocusUri S server (surroundings accounts uuid env))) :=
    erases_forM Prod.fst accounts.zipIdx
      (fun account _ => (issues_bindFocusUri S server uuid _ account.1 rfl).erases_label _)
  rw [List.zipIdx_map_fst] at hforM
  exact hforM

end Spec

/-! ## The passes and the answers -/

/-- The flag, the requests issued so far, the contact addresses of the accounts, and
    what the listeners have raised. -/
structure FocusState (A : Type) where
  mAddressesBound : Bool
  issued : List Passed
  contactAddress : Nat → Option A
  raised : List BindError

/-- What `Bindings` says of the state. -/
def FocusState.erase (st : FocusState A) : Bindings.State :=
  ⟨st.mAddressesBound, st.issued.map Prod.fst⟩

/-- A registrar, as it is when the server starts, and how it answers. -/
structure GruuRegistrar (S : BindingSdk A R) (σ : Type) where
  M : Registrar σ S
  registrar : σ
  /-- The record that the registrar answers with. -/
  record : σ → String → Record
  /-- The public GRUU of a URI and an instance. -/
  pubGruu : String → String → String
  /-- A contact that was bound with an instance has a public GRUU. -/
  extract : ∀ s k uid, (∃ sipContact ∈ M.entries s k, sipContact.param =
      some ("+sip.instance=" ++ uid)) →
    ∃ ec, S.extractContactByUniqueId (record s k) uid = some ec ∧ ec.pubGruu = some (pubGruu k uid)

/-- A server that is up: its configuration, the accounts of the Core, its uuid and
    the registrar. -/
structure Setting (A R σ : Type) where
  S : BindingSdk A R
  server : ConferenceServer
  accounts : List (Account A)
  uuid : String
  G : GruuRegistrar S σ

/-- The server that a start has left. -/
def Setting.ofServer {P : Type} (start : Startup.Setting A R P) (env : Startup.Env A)
    (srv : Startup.Server A) (G : GruuRegistrar start.sdk σ) : Setting A R σ where
  S := start.sdk
  server := srv.binding
  accounts := start.getAccountList srv.setup.accountList
  uuid := (Startup.surroundings start env srv.setup srv.mUuid).uuid
  G := G

/-- It has a uuid. -/
theorem Setting.uuid_ofServer {P : Type} {start : Startup.Setting A R P} {conf : Startup.Config}
    {env : Startup.Env A} {srv : Startup.Server A} {effects : List Startup.Effect}
    (h : Startup.init start conf env [] = (.ok srv, effects)) (G : GruuRegistrar start.sdk σ) :
    (Setting.ofServer start env srv G).uuid ≠ "" := by
  obtain ⟨v, -, -, rfl⟩ := Startup.server_of_init h
  show (if _ then Startup.coreUuid env else Startup.coreUuid env) ≠ ""
  rw [ite_self]
  exact Startup.coreUuid_ne_empty env

namespace Setting

variable (T : Setting A R σ)

/-- `bindAddresses`. -/
def bindAddresses (env : Surroundings A) (st : FocusState A) : FocusState A :=
  if st.mAddressesBound then st
  else
    match bindAll T.S T.server T.accounts T.uuid env st.issued with
    | (.ok _, issued) => { st with mAddressesBound := true, issued := issued }
    | (.error _, issued) => { st with issued := issued }

/-- The registrar after the first requests. -/
def registrarAt (st : FocusState A) (moment : Nat) : σ :=
  T.G.M.run T.G.registrar ((st.issued.map Prod.fst).take moment)

/-- A listener is called with a record. -/
def onRecordFound (listener : FocusListener) (r : Record) (st : FocusState A) : FocusState A :=
  match listener.onRecordFound T.S r with
  | .ok address =>
      { st with contactAddress := Function.update st.contactAddress listener.mAccount address }
  | .error err => { st with raised := st.raised ++ [err] }

/-- What happens: the registrar becomes writable or not, or answers a request with
    the record as it was after some of the requests. -/
inductive Event (A : Type) where
  | notified (notification : Notification A)
  | answered (request moment : Nat)

/-- The registrar answers only once it has carried out the request. -/
def step (st : FocusState A) : Event A → FocusState A
  | .notified notification =>
      if notification.writable then T.bindAddresses notification.env st else st
  | .answered request moment =>
      match st.issued[request]? with
      | some (.bind aor _ _, some listener) =>
          if request < moment then
            T.onRecordFound listener (T.G.record (T.registrarAt st moment) (T.S.recordKey aor)) st
          else st
      | _ => st

/-- Nothing is bound yet; `_init` has made the identity of each account its contact
    address. -/
def blank : FocusState A :=
  ⟨false, [], fun k => (T.accounts[k]?).map (fun account => account.identityAddress), []⟩

/-- The server from the end of its start on. -/
def machine (isWritable : Bool) (env : Surroundings A) : Machine (FocusState A) (Event A) where
  init := if isWritable then T.bindAddresses env T.blank else T.blank
  step := T.step

/-- The account has a focus URI of its own. -/
def HasFocus (k : Nat) (account : Account A) : Prop :=
  T.accounts[k]? = some account ∧
    T.S.equal account.identityAddress (T.S.createAddress account.conferenceFactoryUri) = false

/-- The public GRUU of an account. -/
def gruuAddress (account : Account A) : Option A :=
  T.S.createAddress (T.G.pubGruu (T.S.recordKey (focusUri T.S account)) (T.S.grToUniqueId T.uuid))

/-- No factory URI has the record of a focus URI: what is cleared is never what an
    account waits for. -/
def Apart : Prop :=
  ∀ k account, T.HasFocus k account → ∀ uris ∈ T.server.mConfServerUris,
    T.S.recordKey ((T.S.sipUri uris.1).getD uris.1) ≠ T.S.recordKey (focusUri T.S account)

variable {T}

/-! ## What the registrar answers -/

/-- The requests of a pass that carry a listener are those of the focuses. -/
theorem mem_focusPassed {req : Passed} :
    req ∈ focusPassed T.S T.server T.accounts T.uuid ↔ ∃ k account, T.HasFocus k account ∧
      req = (focusBinding T.S T.server T.uuid account, some ⟨k, T.uuid⟩) := by
  rw [focusPassed, List.mem_flatMap]
  constructor
  · rintro ⟨⟨account, k⟩, hmem, hreq⟩
    split at hreq
    · cases hreq
    · rename_i hne
      exact ⟨k, account, ⟨List.mk_mem_zipIdx_iff_getElem?.mp hmem, Bool.eq_false_iff.mpr hne⟩,
        List.mem_singleton.mp hreq⟩
  · rintro ⟨k, account, ⟨hget, hne⟩, rfl⟩
    refine ⟨(account, k), List.mk_mem_zipIdx_iff_getElem?.mpr hget, ?_⟩
    rw [if_neg (Bool.eq_false_iff.mp hne)]
    exact List.mem_singleton_self _

/-- What is cleared has a factory URI. -/
theorem clear_of_mem_passed {env : Surroundings A} {req : Passed}
    (hreq : req ∈ passed T.S T.server T.accounts T.uuid env) {aor callId : String}
    (hclear : req.1 = .clear aor callId) :
    ∃ uris ∈ T.server.mConfServerUris, aor = (T.S.sipUri uris.1).getD uris.1 := by
  rw [passed, List.mem_append, List.mem_append] at hreq
  rcases hreq with hfactory | hfocus | hroom
  · obtain ⟨_, hin, rfl⟩ := List.mem_map.mp hfactory
    obtain ⟨uris, huris, hpair⟩ := List.mem_flatMap.mp hin
    rcases List.mem_pair.mp hpair with rfl | rfl
    · cases hclear
      exact ⟨uris, huris, rfl⟩
    · cases hclear
  · obtain ⟨k, account, -, rfl⟩ := mem_focusPassed.mp hfocus
    cases hclear
  · obtain ⟨_, hin, rfl⟩ := List.mem_map.mp hroom
    split at hin
    · obtain ⟨peerAddress, -, rfl⟩ := List.mem_map.mp hin
      cases hclear
    · cases hin

/-- Only the accounts have a listener. -/
theorem listener_of_mem_passed {env : Surroundings A} {req : Passed}
    (hreq : req ∈ passed T.S T.server T.accounts T.uuid env) {listener : FocusListener}
    (hlistener : req.2 = some listener) :
    ∃ k account, T.HasFocus k account ∧
      req = (focusBinding T.S T.server T.uuid account, some ⟨k, T.uuid⟩) := by
  rw [passed, List.mem_append, List.mem_append] at hreq
  rcases hreq with hfactory | hfocus | hroom
  · obtain ⟨_, -, rfl⟩ := List.mem_map.mp hfactory
    cases hlistener
  · exact mem_focusPassed.mp hfocus
  · obtain ⟨_, -, rfl⟩ := List.mem_map.mp hroom
    cases hlistener

/-- What is known of the requests: who waits for an answer, what was cleared, and
    that a pass that came to its end has bound all the accounts. -/
structure Attached (T : Setting A R σ) (st : FocusState A) : Prop where
  listener : ∀ req ∈ st.issued, ∀ listener, req.2 = some listener →
    ∃ k account, T.HasFocus k account ∧
      req = (focusBinding T.S T.server T.uuid account, some ⟨k, T.uuid⟩)
  clear : ∀ req ∈ st.issued, ∀ aor callId, req.1 = .clear aor callId →
    ∃ uris ∈ T.server.mConfServerUris, aor = (T.S.sipUri uris.1).getD uris.1
  complete : st.mAddressesBound = true → ∀ k account, T.HasFocus k account →
    (focusBinding T.S T.server T.uuid account, some ⟨k, T.uuid⟩) ∈ st.issued
  traced : Traced T.S T.server T.uuid st.erase

/-- **One pass**: nothing, or all the requests and the flag, or their beginning. -/
theorem bindAddresses_cases (T : Setting A R σ) (env : Surroundings A) (st : FocusState A) :
    T.bindAddresses env st = st ∨
    T.bindAddresses env st = { st with
      mAddressesBound := true
      issued := st.issued ++ passed T.S T.server T.accounts T.uuid env } ∨
    ∃ done, done <+: passed T.S T.server T.accounts T.uuid env ∧ st.mAddressesBound = false ∧
      T.bindAddresses env st = { st with issued := st.issued ++ done } := by
  rw [bindAddresses]
  cases hbound : st.mAddressesBound with
  | true => exact Or.inl rfl
  | false =>
      refine Or.inr ?_
      rw [if_neg Bool.false_ne_true]
      rcases issues_bindAll T.S T.server T.accounts T.uuid env st.issued with
        ⟨_, hrun⟩ | ⟨err, done, hdone, hrun⟩
      · rw [hrun]
        exact Or.inl rfl
      · rw [hrun]
        exact Or.inr ⟨done, hdone, rfl, rfl⟩

/-- Without the listeners it is a pass of `Bindings`. -/
theorem erase_bindAddresses (T : Setting A R σ) (env : Surroundings A) (st : FocusState A) :
    (T.bindAddresses env st).erase =
      Bindings.bindAddresses T.S T.server (surroundings T.accounts T.uuid env) st.erase := by
  have herases := erases_bindAll T.S T.server T.accounts T.uuid env st.issued
  have hflag : st.erase.mAddressesBound = st.mAddressesBound := rfl
  rw [Bindings.bindAddresses, hflag]
  cases hbound : st.mAddressesBound with
  | true =>
      rw [bindAddresses, hbound]
      rfl
  | false =>
      rcases hrun : bindAll T.S T.server T.accounts T.uuid env st.issued with ⟨result, issued⟩
      have hpass : Bindings.bindAll T.S T.server (surroundings T.accounts T.uuid env)
          st.erase.requests = (result, issued.map Prod.fst) := by
        rw [hrun] at herases
        exact herases
      rw [if_neg Bool.false_ne_true, hpass, bindAddresses, hbound, hrun]
      cases result with
      | ok _ => rfl
      | error err => rfl

/-- A pass appends requests, each focus with its listener. -/
theorem Attached.bindAddresses {st : FocusState A} (h : Attached T st) (huuid : T.uuid ≠ "")
    (env : Surroundings A) : Attached T (T.bindAddresses env st) := by
  have htraced : Traced T.S T.server T.uuid (T.bindAddresses env st).erase := by
    rw [erase_bindAddresses]
    exact h.traced.bindAddresses huuid _
  rcases bindAddresses_cases T env st with heq | heq | ⟨done, hdone, hbound, heq⟩
  · rw [heq]
    exact h
  · rw [heq] at htraced ⊢
    refine ⟨?_, ?_, ?_, htraced⟩
    · intro req hreq
      rcases List.mem_append.mp hreq with hold | hnew
      · exact h.listener req hold
      · exact fun _ => listener_of_mem_passed hnew
    · intro req hreq
      rcases List.mem_append.mp hreq with hold | hnew
      · exact h.clear req hold
      · exact fun _ _ => clear_of_mem_passed hnew
    · intro _ k account hfocus
      refine List.mem_append_right _ (List.mem_append_right _ (List.mem_append_left _ ?_))
      exact mem_focusPassed.mpr ⟨k, account, hfocus, rfl⟩
  · rw [heq] at htraced ⊢
    refine ⟨?_, ?_, ?_, htraced⟩
    · intro req hreq
      rcases List.mem_append.mp hreq with hold | hnew
      · exact h.listener req hold
      · exact fun _ => listener_of_mem_passed (hdone.subset hnew)
    · intro req hreq
      rcases List.mem_append.mp hreq with hold | hnew
      · exact h.clear req hold
      · exact fun _ _ => clear_of_mem_passed (hdone.subset hnew)
    · intro htrue
      rw [hbound] at htrue
      cases htrue

/-- **An answer to an account**: since the request was carried out its record has the
    contact of the server, whatever was requested in the meantime. -/
theorem onRecordFound_eq {st : FocusState A} (h : Attached T st) (huuid : T.uuid ≠ "")
    (hapart : T.Apart) {k : Nat} {account : Account A} (hfocus : T.HasFocus k account)
    {request moment : Nat} (hlt : request < moment)
    (hget : st.issued[request]? =
      some (focusBinding T.S T.server T.uuid account, some ⟨k, T.uuid⟩)) :
    FocusListener.onRecordFound T.S ⟨k, T.uuid⟩
      (T.G.record (T.registrarAt st moment) (T.S.recordKey (focusUri T.S account))) =
        .ok (T.gruuAddress account) := by
  have hparam : (T.server.sipContact T.S T.uuid).param = some (instanceParam T.S T.uuid) := by
    rw [sipContact_eq T.S T.server huuid]
  have hurl : (T.server.sipContact T.S T.uuid).url = T.server.mTransport := rfl
  have heff : requestEffect T.S (focusBinding T.S T.server T.uuid account) =
      .put (T.S.recordKey (focusUri T.S account)) (T.server.sipContact T.S T.uuid) := rfl
  have hmem : focusBinding T.S T.server T.uuid account ∈
      (st.issued.map Prod.fst).take moment := by
    refine List.mem_iff_getElem?.mpr ⟨request, ?_⟩
    rw [List.getElem?_take_of_lt hlt, List.getElem?_map, hget]
    rfl
  have hkeep : ∀ req ∈ (st.issued.map Prod.fst).take moment,
      Registry.Keeps (requestEffect T.S) SipContact.param (T.S.recordKey (focusUri T.S account))
        (T.server.sipContact T.S T.uuid) req := by
    intro req hreq
    have hissued := List.mem_of_mem_take hreq
    cases req with
    | clear aor callId =>
        obtain ⟨req, hreq, heq⟩ := List.mem_map.mp hissued
        obtain ⟨uris, huris, rfl⟩ := h.clear req hreq aor callId heq
        exact hapart k account hfocus uris huris
    | bind aor sipContact parameter =>
        refine keeps_of_withInstance hurl ?_ (h.traced.requests _ hissued)
        intro aor' callId heq
        cases heq
  have honly : T.G.M.Only (T.registrarAt st moment) (T.S.recordKey (focusUri T.S account))
      (T.server.sipContact T.S T.uuid) :=
    Registry.only_run_of_put (M := T.G.M) hmem heff hparam hkeep T.G.registrar
  obtain ⟨ec, hextract, hgruu⟩ := T.G.extract _ _ (T.S.grToUniqueId T.uuid) ⟨_, honly.mem, hparam⟩
  have hne := List.ne_nil_of_mem (T.S.extract_mem _ _ _ hextract)
  rw [FocusListener.onRecordFound, List.isEmpty_eq_false_iff.mpr hne, if_neg Bool.false_ne_true]
  simp only [hextract, hgruu, gruuAddress]

/-- The state with the contact address of one account set to its public GRUU. -/
def place (T : Setting A R σ) (k : Nat) (account : Account A) (st : FocusState A) : FocusState A :=
  { st with contactAddress := Function.update st.contactAddress k (T.gruuAddress account) }

theorem place_self (k : Nat) (account : Account A) (st : FocusState A) :
    (T.place k account st).contactAddress k = T.gruuAddress account := Function.update_self ..

theorem place_of_ne {k k' : Nat} (hk : k' ≠ k) (account : Account A) (st : FocusState A) :
    (T.place k account st).contactAddress k' = st.contactAddress k' := Function.update_of_ne hk ..

/-- **An answer** sets the contact address of the account that waits for it. -/
theorem step_answered {st : FocusState A} (h : Attached T st) (huuid : T.uuid ≠ "")
    (hapart : T.Apart) {k : Nat} {account : Account A} (hfocus : T.HasFocus k account)
    {request moment : Nat} (hlt : request < moment)
    (hget : st.issued[request]? =
      some (focusBinding T.S T.server T.uuid account, some ⟨k, T.uuid⟩)) :
    T.step st (.answered request moment) = T.place k account st := by
  have hrecord := onRecordFound_eq h huuid hapart hfocus hlt hget
  simp only [step, hget, focusBinding, if_pos hlt, onRecordFound, hrecord]
  rfl

/-- **What a step can do**: a pass, nothing, or the contact address of one
    account. -/
theorem step_cases {st : FocusState A} (h : Attached T st) (huuid : T.uuid ≠ "")
    (hapart : T.Apart) (event : Event A) :
    (∃ env, T.step st event = T.bindAddresses env st) ∨ T.step st event = st ∨
      ∃ k account, T.HasFocus k account ∧ T.step st event = T.place k account st := by
  cases event with
  | notified notification =>
      cases hwritable : notification.writable with
      | true => exact Or.inl ⟨notification.env, by rw [step, hwritable, if_pos rfl]⟩
      | false => exact Or.inr (Or.inl (by rw [step, hwritable, if_neg Bool.false_ne_true]))
  | answered request moment =>
      refine Or.inr ?_
      cases hget : st.issued[request]? with
      | none => exact Or.inl (by simp only [step, hget])
      | some req =>
          rcases req with ⟨req, listener⟩
          cases listener with
          | none =>
              refine Or.inl ?_
              cases req <;> simp only [step, hget]
          | some listener =>
              obtain ⟨k, account, hfocus, heq⟩ :=
                h.listener _ (List.mem_of_getElem? hget) listener rfl
              rw [heq] at hget
              by_cases hlt : request < moment
              · exact Or.inr ⟨k, account, hfocus, step_answered h huuid hapart hfocus hlt hget⟩
              · exact Or.inl (by simp only [step, hget, focusBinding, if_neg hlt])

/-- Neither a notification nor an answer takes a listener off a request. -/
theorem Attached.step {st : FocusState A} (h : Attached T st) (huuid : T.uuid ≠ "")
    (hapart : T.Apart) (event : Event A) : Attached T (T.step st event) := by
  rcases step_cases h huuid hapart event with ⟨env, heq⟩ | heq | ⟨k, account, -, heq⟩
  · rw [heq]
    exact h.bindAddresses huuid env
  · rw [heq]
    exact h
  · rw [heq]
    exact ⟨h.listener, h.clear, h.complete, h.traced⟩

/-- What `Bindings` has of the events. -/
def notifications (accounts : List (Account A)) (events : List (Event A)) :
    List (Notification A) :=
  events.filterMap fun event =>
    match event with
    | .notified notification =>
        some ⟨notification.writable, { notification.env with accounts := accounts }⟩
    | .answered _ _ => none

/-- An answer is nothing to the addresses being bound. -/
theorem erase_answered (T : Setting A R σ) (st : FocusState A) (request moment : Nat) :
    (T.step st (.answered request moment)).erase = st.erase := by
  rw [step]
  split
  · split
    · rw [onRecordFound]
      split <;> rfl
    · rfl
  · rfl

/-- **Without the listeners and the answers** the run is one of `Bindings`. -/
theorem erase_run (T : Setting A R σ) (isWritable : Bool) (env : Surroundings A)
    (events : List (Event A)) :
    ∀ st, ((T.machine isWritable env).run st events).erase =
      (passes T.S T.server T.uuid isWritable { env with accounts := T.accounts }).run st.erase
        (notifications T.accounts events) := by
  induction events with
  | nil =>
      intro st
      rfl
  | cons event events ih =>
      intro st
      rw [Machine.run_cons, ih]
      cases event with
      | answered request moment =>
          have herase := erase_answered T st request moment
          exact congrArg (fun st => Machine.run _ st (notifications T.accounts events)) herase
      | notified notification =>
          have hstep : (T.step st (.notified notification)).erase =
              onRegistrarDbWritable T.S T.server st.erase ⟨notification.writable,
                surroundings T.accounts T.uuid notification.env⟩ := by
            rw [step, onRegistrarDbWritable]
            split
            · exact erase_bindAddresses T notification.env st
            · rfl
          exact congrArg (fun st => Machine.run _ st (notifications T.accounts events)) hstep

/-- From the end of the start on. -/
theorem erase_reach (T : Setting A R σ) (isWritable : Bool) (env : Surroundings A)
    (events : List (Event A)) :
    ((T.machine isWritable env).reach events).erase =
      (passes T.S T.server T.uuid isWritable { env with accounts := T.accounts }).reach
        (notifications T.accounts events) := by
  have hinit : (T.machine isWritable env).init.erase =
      initState T.S T.server isWritable (surroundings T.accounts T.uuid env) := by
    show (if isWritable then T.bindAddresses env T.blank else T.blank).erase = _
    rw [initState]
    split
    · exact erase_bindAddresses T env T.blank
    · rfl
  rw [Machine.reach, Machine.reach, erase_run, hinit]
  rfl

theorem attached_blank (T : Setting A R σ) : Attached T T.blank := by
  refine ⟨?_, ?_, ?_, ?_⟩
  · intro req hreq
    cases hreq
  · intro req hreq
    cases hreq
  · intro hbound
    cases hbound
  · refine ⟨List.forall_mem_nil _, ?_⟩
    intro hbound
    cases hbound

/-- The first pass is made by the constructor, when the registrar is writable. -/
theorem attached_init (huuid : T.uuid ≠ "") (isWritable : Bool) (env : Surroundings A) :
    Attached T (T.machine isWritable env).init := by
  show Attached T (if isWritable then T.bindAddresses env T.blank else T.blank)
  split
  · exact (attached_blank T).bindAddresses huuid env
  · exact attached_blank T

/-! ## The contact addresses over time -/

/-- Nothing was raised, and the contact address of each account is its identity or
    its public GRUU. -/
structure Placed (T : Setting A R σ) (st : FocusState A) : Prop where
  raised : st.raised = []
  address : ∀ k account, T.accounts[k]? = some account →
    st.contactAddress k = some account.identityAddress ∨
      T.HasFocus k account ∧ st.contactAddress k = T.gruuAddress account

/-- A pass sets no contact address, and its requests come behind the others. -/
theorem bindAddresses_frame (T : Setting A R σ) (env : Surroundings A) (st : FocusState A) :
    (T.bindAddresses env st).contactAddress = st.contactAddress ∧
      (T.bindAddresses env st).raised = st.raised ∧
      st.issued <+: (T.bindAddresses env st).issued := by
  rcases bindAddresses_cases T env st with heq | heq | ⟨done, -, -, heq⟩
  · rw [heq]
    exact ⟨rfl, rfl, List.prefix_rfl⟩
  · rw [heq]
    exact ⟨rfl, rfl, List.prefix_append _ _⟩
  · rw [heq]
    exact ⟨rfl, rfl, List.prefix_append _ _⟩

/-- A pass places nothing. -/
theorem Placed.bindAddresses {st : FocusState A} (h : Placed T st) (env : Surroundings A) :
    Placed T (T.bindAddresses env st) := by
  obtain ⟨haddress, hraised, -⟩ := bindAddresses_frame T env st
  refine ⟨hraised.trans h.raised, ?_⟩
  rw [haddress]
  exact h.address

theorem placed_blank (T : Setting A R σ) : Placed T T.blank := by
  refine ⟨rfl, ?_⟩
  intro k account hget
  refine Or.inl ?_
  show (T.accounts[k]?).map _ = _
  rw [hget]
  rfl

/-- What is placed is the GRUU of the account, whatever is answered and in whatever
    order. -/
theorem Placed.step {st : FocusState A} (h : Placed T st) (hattached : Attached T st)
    (huuid : T.uuid ≠ "") (hapart : T.Apart) (event : Event A) : Placed T (T.step st event) := by
  rcases step_cases hattached huuid hapart event with ⟨env, heq⟩ | heq | ⟨k, account, hfocus, heq⟩
  · rw [heq]
    exact h.bindAddresses env
  · rw [heq]
    exact h
  · rw [heq]
    refine ⟨h.raised, ?_⟩
    intro k' account' hget
    by_cases hk : k' = k
    · subst hk
      cases Option.some.inj (hget.symm.trans hfocus.1)
      exact Or.inr ⟨hfocus, place_self ..⟩
    · rw [place_of_ne hk]
      exact h.address k' account' hget

/-- Two requests of one account are alike, and so are its addresses. -/
theorem HasFocus.unique {k : Nat} {account account' : Account A} (h : T.HasFocus k account)
    (h' : T.HasFocus k account') : account = account' :=
  Option.some.inj (h.1.symm.trans h'.1)

/-- The account waits for the answer to this request, or has its address and keeps
    it. -/
structure Waits (T : Setting A R σ) (k : Nat) (account : Account A) (request : Nat)
    (st : FocusState A) : Prop where
  attached : Attached T st
  issued : st.issued[request]? =
    some (focusBinding T.S T.server T.uuid account, some ⟨k, T.uuid⟩)

/-- A request that was made is not taken back. -/
theorem Waits.step {st : FocusState A} {k : Nat} {account : Account A} {request : Nat}
    (h : Waits T k account request st) (huuid : T.uuid ≠ "") (hapart : T.Apart)
    (event : Event A) : Waits T k account request (T.step st event) := by
  refine ⟨h.attached.step huuid hapart event, ?_⟩
  rcases step_cases h.attached huuid hapart event with ⟨env, heq⟩ | heq | ⟨k', account', -, heq⟩
  · obtain ⟨-, -, hprefix⟩ := bindAddresses_frame T env st
    obtain ⟨done, hdone⟩ := hprefix
    rw [heq, ← hdone]
    exact List.getElem?_append_left (List.getElem?_eq_some_iff.mp h.issued).1 ▸ h.issued
  · rw [heq]
    exact h.issued
  · rw [heq]
    exact h.issued

/-- The address of an account, once it is set, stays. -/
theorem contactAddress_step {st : FocusState A} (h : Attached T st) (huuid : T.uuid ≠ "")
    (hapart : T.Apart) {k : Nat} {account : Account A} (hfocus : T.HasFocus k account)
    (haddress : st.contactAddress k = T.gruuAddress account) (event : Event A) :
    (T.step st event).contactAddress k = T.gruuAddress account := by
  rcases step_cases h huuid hapart event with ⟨env, heq⟩ | heq | ⟨k', account', hfocus', heq⟩
  · rw [heq, (bindAddresses_frame T env st).1]
    exact haddress
  · rw [heq]
    exact haddress
  · rw [heq]
    by_cases hk : k = k'
    · subst hk
      rw [place_self, hfocus.unique hfocus']
    · rw [place_of_ne hk]
      exact haddress

/-- **From the answer on** the account has its address. -/
theorem contactAddress_run {k : Nat} {account : Account A} {request moment : Nat}
    (huuid : T.uuid ≠ "") (hapart : T.Apart) (hfocus : T.HasFocus k account)
    (hlt : request < moment) (isWritable : Bool) (env : Surroundings A) (later : List (Event A)) :
    ∀ st, Waits T k account request st →
      st.contactAddress k = T.gruuAddress account ∨ .answered request moment ∈ later →
      ((T.machine isWritable env).run st later).contactAddress k = T.gruuAddress account := by
  induction later with
  | nil =>
      intro st _ h
      exact h.resolve_right List.not_mem_nil
  | cons event later ih =>
      intro st hwaits h
      refine ih (T.step st event) (hwaits.step huuid hapart event) ?_
      rcases h with haddress | hmem
      · exact Or.inl (contactAddress_step hwaits.attached huuid hapart hfocus haddress event)
      · rcases List.mem_cons.mp hmem with heq | hlater
        · refine Or.inl ?_
          rw [← heq, step_answered hwaits.attached huuid hapart hfocus hlt hwaits.issued]
          exact place_self ..
        · exact Or.inr hlater

/-- **CONTACT ADDRESSES ARE PUBLIC GRUUS.**  For every order of notifications and
    answers, however late or often the registrar answers and whichever passes are cut
    off: when the server has a uuid and no factory URI has the record of a focus URI,
    no listener ever raises; the contact address of an account is its identity or,
    if it has a focus URI of its own, the public GRUU of this URI and the uuid; and
    once a pass has come to its end each such account waits for an answer and has
    its public GRUU from that answer on. -/
theorem contact_addresses_are_gruus (T : Setting A R σ) (huuid : T.uuid ≠ "") (hapart : T.Apart)
    (isWritable : Bool) (env : Surroundings A) (events : List (Event A)) :
    let st := (T.machine isWritable env).reach events
    st.raised = [] ∧
    (∀ k account, T.accounts[k]? = some account →
      st.contactAddress k = some account.identityAddress ∨
        T.HasFocus k account ∧ st.contactAddress k = T.gruuAddress account) ∧
    (st.mAddressesBound = true → ∀ k account, T.HasFocus k account →
      ∃ request, ∀ moment later, request < moment → .answered request moment ∈ later →
        ((T.machine isWritable env).run st later).contactAddress k = T.gruuAddress account) := by
  intro st
  have hinvariant : Attached T st ∧ Placed T st := by
    refine Machine.invariant_reach (M := T.machine isWritable env)
      (I := fun st => Attached T st ∧ Placed T st)
      ⟨attached_init huuid isWritable env, ?_⟩ ?_ events
    · show Placed T (if isWritable then T.bindAddresses env T.blank else T.blank)
      split
      · exact (placed_blank T).bindAddresses env
      · exact placed_blank T
    · intro st event h
      exact ⟨h.1.step huuid hapart event, h.2.step h.1 huuid hapart event⟩
  obtain ⟨hattached, hplaced⟩ := hinvariant
  refine ⟨hplaced.raised, hplaced.address, ?_⟩
  intro hbound k account hfocus
  obtain ⟨request, hget⟩ := List.mem_iff_getElem?.mp (hattached.complete hbound k account hfocus)
  refine ⟨request, ?_⟩
  intro moment later hlt hmem
  exact contactAddress_run huuid hapart hfocus hlt isWritable env later st ⟨hattached, hget⟩
    (Or.inr hmem)

/-! ## A server with one focus URI -/

/-- The instance of a contact. -/
def instanceOf (sipContact : SipContact) : String :=
  match sipContact.param with
  | some param => String.ofList (param.toList.drop 14)
  | none => ""

/-- The contact, as a record shows it. -/
def extendedContact (k : String) (sipContact : SipContact) : ExtendedContact where
  uniqueId := instanceOf sipContact
  pubGruu := some (k ++ ";gr=" ++ instanceOf sipContact)
  orgLinphoneSpecs := ""
  deviceName := ""

/-- The instance is what comes after the name of the parameter. -/
theorem instanceOf_eq {sipContact : SipContact} {uid : String}
    (h : sipContact.param = some ("+sip.instance=" ++ uid)) : instanceOf sipContact = uid := by
  rw [instanceOf, h]
  have hdrop : ("+sip.instance=".toList ++ uid.toList).drop 14 = uid.toList :=
    List.drop_left' (by decide)
  show String.ofList (("+sip.instance=" ++ uid).toList.drop 14) = uid
  rw [String.toList_append, hdrop, String.ofList_toList]

/-- A registrar that derives the public GRUU from the instance. -/
def sampleRegistrar : GruuRegistrar stringBindingSdk (String → List SipContact) where
  M := mapRegistrar stringBindingSdk
  registrar := fun _ => []
  record registrar k := ⟨(registrar k).map (extendedContact k)⟩
  pubGruu k uid := k ++ ";gr=" ++ uid
  extract := by
    rintro registrar k uid ⟨sipContact, hmem, hparam⟩
    have hsome : (((registrar k).map (extendedContact k)).find?
        (fun ec => ec.uniqueId = uid)).isSome = true := by
      rw [List.find?_isSome]
      exact ⟨_, List.mem_map_of_mem hmem, decide_eq_true (instanceOf_eq hparam)⟩
    obtain ⟨ec, hec⟩ := Option.isSome_iff_exists.mp hsome
    obtain ⟨sipContact', -, rfl⟩ := List.mem_map.mp (List.mem_of_find?_eq_some hec)
    have hfound := List.find?_some hec
    have huid : instanceOf sipContact' = uid := of_decide_eq_true hfound
    exact ⟨_, hec, by rw [extendedContact, huid]⟩

/-- A focus, and an account that is its own factory. -/
def sampleSetting : Setting String (BitVec 32) (String → List SipContact) where
  S := stringBindingSdk
  server := ⟨[("sip:factory@a.org", "sip:focus@a.org")], true, "sip:h:1", ""⟩
  accounts := [⟨"sip:focus@a.org", "sip:factory@a.org"⟩, ⟨"sip:b@a.org", "sip:b@a.org"⟩]
  uuid := "u1"
  G := sampleRegistrar

def sampleEnv : Surroundings String := ⟨[], [], "", fun _ _ => none⟩

theorem apart_sampleSetting : sampleSetting.Apart := by
  intro k account hfocus uris huris
  rw [List.mem_singleton.mp huris]
  obtain ⟨hget, hne⟩ := hfocus
  have hmem : account ∈ sampleSetting.accounts := List.mem_of_getElem? hget
  rcases List.mem_pair.mp hmem with rfl | rfl
  · decide
  · cases hne

/-- `contact_addresses_are_gruus` at work: an answer with the record of the pass
    places the GRUU of the focus. -/
theorem contact_addresses_are_gruus_sample :
    ((sampleSetting.machine true sampleEnv).reach [.answered 2 3]).raised = [] ∧
      ∃ request, ∀ moment later, request < moment → .answered request moment ∈ later →
        ((sampleSetting.machine true sampleEnv).run
          ((sampleSetting.machine true sampleEnv).reach []) later).contactAddress 0 =
            some "sip:focus@a.org;gr=\"<urn:uuid:u1>\"" := by
  have huuid : sampleSetting.uuid ≠ "" := by decide
  refine ⟨(contact_addresses_are_gruus sampleSetting huuid apart_sampleSetting true sampleEnv
    [.answered 2 3]).1, ?_⟩
  exact (contact_addresses_are_gruus sampleSetting huuid apart_sampleSetting true sampleEnv
    []).2.2 (by decide) 0 ⟨"sip:focus@a.org", "sip:factory@a.org"⟩ ⟨rfl, by decide⟩

-- a factory URI that is also a focus URI: a second pass clears what the first has bound,
-- before the registrar answers
example :
    let T : Setting String (BitVec 32) (String → List SipContact) := { sampleSetting with
      server := ⟨[("sip:a@a.org", "sip:b@a.org"), ("sip:b@a.org", "sip:c@a.org")], false,
        "sip:h:1", ""⟩
      accounts := [⟨"sip:b@a.org", "sip:a@a.org"⟩, ⟨"sip:c@a.org", "sip:b@a.org"⟩] }
    let cutOff : Surroundings String := { sampleEnv with
      raises := fun issued _ => if issued.length = 5 then some (.registrar "down") else none }
    ((T.machine true cutOff).reach [.notified ⟨true, sampleEnv⟩, .answered 4 9]).raised =
      [.flexisip "focus address bind failed"] := by
  decide +kernel

end Setting

end Focus
