import FlexisipConference.BindingProofs
import FlexisipConference.Library.RegistryProofs
import Mathlib.Data.List.TakeWhile

/-! # Restarts on one state directory

    The contacts of the server carry a uuid as their instance.  It is kept in a
    file of the state directory, in the configuration of the Core and in
    `mUuid`: a start reads the file before it creates the Core, and when there
    was nothing to read it writes there what the Core has drawn.

    A history is a list of starts, each with its own configuration and its own
    run of binding passes; in between the file may be lost.  What the registrar
    holds in the end is determined by the requests of all the starts. -/

namespace Restarts

open Sdks Bindings Machines Registries

variable {A R σ : Type}

/-! ## The state directory -/

/-- `filesystem::path::append`: an absolute path takes the place of the first one;
    otherwise a slash goes between the two, unless the first one is empty or ends
    with a slash. -/
def appendPath (path sub : String) : String :=
  if sub.toList.head? = some '/' then sub
  else if path.isEmpty ∨ path.toList.getLast? = some '/' then path ++ sub
  else path ++ "/" ++ sub

/-- What `stat` comes to: it finds the path, fails with `ENOENT`, or fails with
    another error. -/
inductive Stat where
  | found
  | noEntry
  | otherError
  deriving DecidableEq, Repr

/-- What `ensureDirectoryCreated` meets: the outcome of `stat`, and the status that
    `system` returns for `mkdir -p`, should it be run. -/
structure DirectoryCheck where
  stat : Stat
  status : Int
  deriving DecidableEq, Repr

/-- `WEXITSTATUS`. -/
def wexitstatus (status : Int) : Int := status / 256 % 256

/-- `mkdir -p` has failed. -/
def DirectoryCheck.mkdirFails (check : DirectoryCheck) : Prop :=
  check.status = -1 ∨ wexitstatus check.status ≠ 0

instance (check : DirectoryCheck) : Decidable check.mkdirFails :=
  inferInstanceAs (Decidable (_ ∨ _))

/-- `ensureDirectoryCreated` throws: `stat` has failed with `ENOENT`, and `mkdir -p`
    has failed.  It goes on when `stat` has failed with another error. -/
def DirectoryCheck.Fails (check : DirectoryCheck) : Prop :=
  check.stat = .noEntry ∧ check.mkdirFails

instance (check : DirectoryCheck) : Decidable check.Fails := inferInstanceAs (Decidable (_ ∧ _))

/-- What it throws. -/
def directoryMessage (directory : String) : String :=
  "directory '" ++ directory ++ "' does not exist and could not be created " ++
    "(insufficient permissions?), please create it manually"

/-! ## The uuid file -/

/-- `isspace`, in the locale of a stream. -/
def isSpace (c : Char) : Bool := c.toNat = 32 || (9 ≤ c.toNat && c.toNat ≤ 13)

/-- `fi >> mUuid`: the first word of the file. -/
def firstWord (content : String) : String :=
  String.ofList ((content.toList.dropWhile isSpace).takeWhile (fun c => !isSpace c))

/-- Not empty, and without white space. -/
structure Word (s : String) : Prop where
  ne_empty : s ≠ ""
  no_space : ∀ c ∈ s.toList, isSpace c = false

/-- What the file operations of a start come to. -/
structure FileOperations where
  /-- A uuid file that exists can be opened. -/
  readable : Bool
  /-- What `ensureDirectoryCreated` meets at the state directory. -/
  directory : DirectoryCheck
  /-- The uuid file can be opened for writing. -/
  writable : Bool
  deriving DecidableEq, Repr

/-- All of them succeed. -/
def FileOperations.Succeed (files : FileOperations) : Prop :=
  files.readable = true ∧ ¬ files.directory.Fails ∧ files.writable = true

/-- What `_init` can raise; `earlier` is for what comes before the Core is
    started. -/
inductive InitError where
  | earlier (message : String)
  | exitFailure (message : String)
  | flexisip (message : String)
  | badConfiguration (message : String)
  deriving DecidableEq, Repr

/-- `readUuid`. -/
def readUuid (files : FileOperations) (uuidFile : Option String) : String :=
  match uuidFile with
  | none => ""
  | some content => if files.readable then firstWord content else ""

/-- `writeUuid`: the new `mUuid`, and the file. -/
def writeUuid (mStateDir : String) (files : FileOperations) (uuid : String)
    (uuidFile : Option String) : Except InitError String × Option String :=
  if files.directory.Fails then
    (.error (.flexisip (directoryMessage (appendPath mStateDir ""))), uuidFile)
  else if !files.writable then (.ok uuid, uuidFile)
  else (.ok uuid, some uuid)

/-- What is assumed of the Core: the uuid in its configuration once it is
    started, from the one that it was given (empty when none was given). -/
structure Core where
  uuid : String → String
  keeps : ∀ given, given ≠ "" → uuid given = given
  draws : Word (uuid "")

/-! ## A start -/

/-- A start: the configuration, what the file operations and the Core do, and
    what the registrar notifies of afterwards. -/
structure Start (A : Type) where
  server : ConferenceServer
  files : FileOperations
  core : Core
  earlier : Option String
  status : Int
  isWritable : Bool
  env : Surroundings A
  notifications : List (Notification A)

/-- The two places where a server that is up has its uuid. -/
structure Process where
  mUuid : String
  coreUuid : String
  deriving DecidableEq, Repr

/-- `_init`, as far as the uuid is concerned. -/
def initUuid (mStateDir : String) (start : Start A) (uuidFile : Option String) :
    Except InitError Process × Option String :=
  let uuid := readUuid start.files uuidFile
  let coreUuid := start.core.uuid uuid
  match start.earlier with
  | some message => (.error (.earlier message), uuidFile)
  | none =>
      if start.status = -2 then
        (.error (.exitFailure ("the Linphone core could not start because the connection " ++
          "to the database failed")), uuidFile)
      else if start.status < 0 then
        (.error (.exitFailure "the Linphone core failed to start (please check the logs)"),
          uuidFile)
      else if uuid.isEmpty then
        match writeUuid mStateDir start.files coreUuid uuidFile with
        | (.ok mUuid, uuidFile) => (.ok ⟨mUuid, coreUuid⟩, uuidFile)
        | (.error err, uuidFile) => (.error err, uuidFile)
      else if coreUuid ≠ uuid then (.error (.badConfiguration "inconsistent uuid"), uuidFile)
      else (.ok ⟨uuid, coreUuid⟩, uuidFile)

/-- `getUuid`. -/
def getUuid (process : Process) : String × Process :=
  let mUuid := if process.mUuid.isEmpty then process.coreUuid else process.mUuid
  (mUuid, { process with mUuid := mUuid })

/-- A pass asks `getUuid` for its uuid. -/
def withUuid (uuid : String) (env : Surroundings A) : Surroundings A := { env with uuid := uuid }

/-- The passes of one server. -/
def passes (S : BindingSdk A R) (server : ConferenceServer) (uuid : String) (isWritable : Bool)
    (env : Surroundings A) : Machine State (Notification A) where
  init := initState S server isWritable (withUuid uuid env)
  step := fun st notification =>
    onRegistrarDbWritable S server st ⟨notification.writable, withUuid uuid notification.env⟩

/-- A server that came up: its uuid, and what its passes have done in the end. -/
structure Lifetime where
  uuid : String
  server : ConferenceServer
  state : State

/-- What became of a start. -/
inductive Outcome where
  | failed (err : InitError)
  | up (lifetime : Lifetime)

/-- The life of a server that came up with this uuid. -/
def lifetime (S : BindingSdk A R) (start : Start A) (uuid : String) : Lifetime where
  uuid := uuid
  server := start.server
  state := (passes S start.server uuid start.isWritable start.env).reach start.notifications

/-- One start, on what is in the uuid file. -/
def runStart (S : BindingSdk A R) (mStateDir : String) (start : Start A)
    (uuidFile : Option String) : Outcome × Option String :=
  match initUuid mStateDir start uuidFile with
  | (.error err, uuidFile) => (.failed err, uuidFile)
  | (.ok process, uuidFile) => (.up (lifetime S start (getUuid process).1), uuidFile)

/-! ## Histories -/

/-- What happens to the state directory. -/
inductive Event (A : Type) where
  | start (start : Start A)
  | loseUuidFile

/-- The uuid file, and what became of the starts so far. -/
structure World where
  uuidFile : Option String
  outcomes : List Outcome

/-- The server, from one start to the next. -/
def machine (S : BindingSdk A R) (mStateDir : String) : Machine World (Event A) where
  init := ⟨none, []⟩
  step := fun world event =>
    match event with
    | .start start =>
        let (outcome, uuidFile) := runStart S mStateDir start world.uuidFile
        ⟨uuidFile, world.outcomes ++ [outcome]⟩
    | .loseUuidFile => { world with uuidFile := none }

/-- The servers that came up, in order. -/
def World.lifetimes (world : World) : List Lifetime :=
  world.outcomes.filterMap fun outcome =>
    match outcome with
    | .failed _ => none
    | .up lifetime => some lifetime

/-- The requests of all the starts, in order.  They count as carried out, also
    the one that an interrupted pass has ended with. -/
def World.requests (world : World) : List Request :=
  world.lifetimes.flatMap (fun lifetime => lifetime.state.requests)

/-! ## The registrar -/

/-- What a request is about. -/
def requestEffect (S : BindingSdk A R) : Request → Effect String SipContact
  | .clear aor _ => .prune (S.recordKey aor)
  | .bind aor sipContact _ => .put (S.recordKey aor) sipContact

/-- A registrar that keys the contacts of a record by `+sip.instance`. -/
abbrev Registrar (σ : Type) (S : BindingSdk A R) : Type :=
  Registry σ (requestEffect S) SipContact.param

/-- The address of a binding: its record, and the `gr` parameter of a chat room,
    which is bound with its own call id. -/
def addressOf (S : BindingSdk A R) (aor callId : String) : String × String :=
  (S.recordKey aor, if callId = "dummy-call-id" then S.getParam aor "gr" else "")

/-- The instance that an address is bound with. -/
def addressInstance (S : BindingSdk A R) (uuid : String) (address : String × String) : String :=
  instanceParam S (if address.2.isEmpty then uuid else address.2)

/-- The request binds the address to the contact. -/
def bindsTo (S : BindingSdk A R) (address : String × String) (sipContact : SipContact) :
    Request → Bool
  | .clear _ _ => false
  | .bind aor sipContact' parameter =>
      addressOf S aor parameter.callId = address ∧ sipContact' = sipContact

/-- The contacts of the record of an address that some start has bound it to. -/
def serverContacts (S : BindingSdk A R) (M : Registrar σ S) (registrar : σ)
    (requests : List Request) (address : String × String) : List SipContact :=
  (M.entries registrar address.1).filter fun sipContact =>
    requests.any (bindsTo S address sipContact)

/-- No other address of the server has its record. -/
def OwnRecord (S : BindingSdk A R) (requests : List Request) (address : String × String) : Prop :=
  ∀ aor sipContact parameter, Request.bind aor sipContact parameter ∈ requests →
    S.recordKey aor = address.1 → addressOf S aor parameter.callId = address

/-! ## The uuid of a start -/

theorem firstWord_of_word {s : String} (h : Word s) : firstWord s = s := by
  have hspace : ∀ c ∈ s.toList, isSpace c = false := h.no_space
  have hdrop : s.toList.dropWhile isSpace = s.toList := by
    rw [List.dropWhile_eq_self_iff]
    intro hpos hfirst
    rw [hspace _ (List.getElem_mem hpos)] at hfirst
    cases hfirst
  have htake : s.toList.takeWhile (fun c => !isSpace c) = s.toList := by
    rw [List.takeWhile_eq_self_iff]
    intro c hc
    rw [hspace c hc]
    rfl
  rw [firstWord, hdrop, htake, String.ofList_toList]

/-- What can make a start fail, besides its bindings. -/
def Start.Impeded (start : Start A) : Prop :=
  start.earlier ≠ none ∨ start.status < 0 ∨ start.files.directory.Fails

/-- **What a start can do**: fail, and leave the file as it is; come up with what
    the Core has drawn when there was nothing to read, and write that if it
    can; or come up with what it has read. -/
theorem initUuid_cases (mStateDir : String) (start : Start A) (uuidFile : Option String) :
    (∃ err, initUuid mStateDir start uuidFile = (.error err, uuidFile) ∧
      (∀ message, err ≠ .badConfiguration message) ∧ start.Impeded) ∨
    (readUuid start.files uuidFile = "" ∧
      initUuid mStateDir start uuidFile = (.ok ⟨start.core.uuid "", start.core.uuid ""⟩,
        if start.files.writable then some (start.core.uuid "") else uuidFile)) ∨
    (readUuid start.files uuidFile ≠ "" ∧
      initUuid mStateDir start uuidFile =
        (.ok ⟨readUuid start.files uuidFile, readUuid start.files uuidFile⟩, uuidFile)) := by
  have hempty : "".isEmpty = true := rfl
  cases hearlier : start.earlier with
  | some message =>
      have himpeded : start.Impeded := Or.inl (by rw [hearlier]; exact Option.some_ne_none _)
      refine Or.inl ⟨.earlier message, ?_, (fun _ h => by cases h), himpeded⟩
      simp only [initUuid, hearlier]
  | none =>
      simp only [initUuid, hearlier]
      by_cases hdb : start.status = -2
      · have himpeded : start.Impeded := Or.inr (Or.inl (by omega))
        rw [if_pos hdb]
        exact Or.inl ⟨_, rfl, (fun _ h => by cases h), himpeded⟩
      by_cases hneg : start.status < 0
      · rw [if_neg hdb, if_pos hneg]
        exact Or.inl ⟨_, rfl, (fun _ h => by cases h), Or.inr (Or.inl hneg)⟩
      rw [if_neg hdb, if_neg hneg]
      by_cases hread : readUuid start.files uuidFile = ""
      · rw [hread, if_pos hempty, writeUuid]
        by_cases hdir : start.files.directory.Fails
        · rw [if_pos hdir]
          exact Or.inl ⟨_, rfl, (fun _ h => by cases h), Or.inr (Or.inr hdir)⟩
        · rw [if_neg hdir]
          refine Or.inr (Or.inl ⟨rfl, ?_⟩)
          cases start.files.writable <;> rfl
      · have hne : (readUuid start.files uuidFile).isEmpty = false :=
          String.isEmpty_eq_false_iff.mpr hread
        refine Or.inr (Or.inr ⟨hread, ?_⟩)
        -- the Core keeps the uuid that it is given
        rw [hne, if_neg Bool.false_ne_true, start.core.keeps _ hread,
          if_neg (not_not_intro rfl)]

theorem getUuid_same {uuid : String} : (getUuid ⟨uuid, uuid⟩).1 = uuid := ite_self _

/-- `initUuid_cases`, for the whole start. -/
theorem runStart_cases (S : BindingSdk A R) (mStateDir : String) (start : Start A)
    (uuidFile : Option String) :
    (∃ err, runStart S mStateDir start uuidFile = (.failed err, uuidFile) ∧
      (∀ message, err ≠ .badConfiguration message) ∧ start.Impeded) ∨
    (readUuid start.files uuidFile = "" ∧
      runStart S mStateDir start uuidFile = (.up (lifetime S start (start.core.uuid "")),
        if start.files.writable then some (start.core.uuid "") else uuidFile)) ∨
    (readUuid start.files uuidFile ≠ "" ∧
      runStart S mStateDir start uuidFile =
        (.up (lifetime S start (readUuid start.files uuidFile)), uuidFile)) := by
  rw [runStart]
  rcases initUuid_cases mStateDir start uuidFile with ⟨err, hinit, herr⟩ | ⟨hread, hinit⟩ |
    ⟨hread, hinit⟩
  · rw [hinit]
    exact Or.inl ⟨err, rfl, herr⟩
  · rw [hinit]
    refine Or.inr (Or.inl ⟨hread, ?_⟩)
    show (Outcome.up (lifetime S start (getUuid _).1), _) = _
    rw [getUuid_same]
  · rw [hinit]
    refine Or.inr (Or.inr ⟨hread, ?_⟩)
    show (Outcome.up (lifetime S start (getUuid _).1), _) = _
    rw [getUuid_same]

/-- The state after a start. -/
theorem step_start {S : BindingSdk A R} {mStateDir : String} {start : Start A} {world : World}
    {outcome : Outcome} {uuidFile : Option String}
    (h : runStart S mStateDir start world.uuidFile = (outcome, uuidFile)) :
    (machine S mStateDir).step world (.start start) =
      ⟨uuidFile, world.outcomes ++ [outcome]⟩ := by
  show (⟨(runStart S mStateDir start world.uuidFile).2,
    world.outcomes ++ [(runStart S mStateDir start world.uuidFile).1]⟩ : World) = _
  rw [h]

/-- A server that came up is one more lifetime. -/
theorem lifetimes_up (uuidFile : Option String) (outcomes : List Outcome) (life : Lifetime) :
    World.lifetimes ⟨uuidFile, outcomes ++ [Outcome.up life]⟩ =
      World.lifetimes ⟨uuidFile, outcomes⟩ ++ [life] := by
  simp [World.lifetimes]

theorem lifetimes_failed (uuidFile : Option String) (outcomes : List Outcome) (err : InitError) :
    World.lifetimes ⟨uuidFile, outcomes ++ [Outcome.failed err]⟩ =
      World.lifetimes ⟨uuidFile, outcomes⟩ := by
  simp [World.lifetimes]

/-! ## What the bindings of one server are -/

/-- The request binds an address to the contact of the server with the instance
    of the address. -/
def WithInstance (S : BindingSdk A R) (server : ConferenceServer) (uuid : String) :
    Request → Prop
  | .clear _ _ => True
  | .bind aor sipContact parameter =>
      sipContact = ⟨server.mTransport,
        some (addressInstance S uuid (addressOf S aor parameter.callId))⟩

section Bindings

variable {S : BindingSdk A R} {server : ConferenceServer} {env : Surroundings A}

/-- The contact of a server that has a uuid. -/
theorem sipContact_eq (S : BindingSdk A R) (server : ConferenceServer) {uuid : String}
    (huuid : uuid ≠ "") :
    server.sipContact S uuid = ⟨server.mTransport, some (instanceParam S uuid)⟩ := by
  rw [ConferenceServer.sipContact, String.isEmpty_eq_false_iff.mpr huuid]
  rfl

/-- It is the one of an address without a `gr` parameter of its own. -/
theorem sipContact_withInstance (huuid : env.uuid ≠ "") (aor : String) :
    WithInstance S server env.uuid
      (.bind aor (server.sipContact S env.uuid) (server.parameter "CONFERENCE")) := by
  rw [WithInstance, sipContact_eq S server huuid]
  rfl

/-- **All the bindings of a server carry the instances of their addresses.** -/
theorem bindings_withInstance (huuid : env.uuid ≠ "") {req : Request}
    (hreq : req ∈ bindings S server env) : WithInstance S server env.uuid req := by
  rw [bindings, List.mem_append, List.mem_append] at hreq
  rcases hreq with (hfactory | hfocus) | hroom
  · obtain ⟨uris, -, hin⟩ := List.mem_flatMap.mp hfactory
    rcases List.mem_pair.mp hin with rfl | rfl
    · trivial
    · exact sipContact_withInstance huuid _
  · obtain ⟨account, -, rfl⟩ := List.mem_map.mp hfocus
    exact sipContact_withInstance huuid _
  · split at hroom
    · obtain ⟨peerAddress, -, rfl⟩ := List.mem_map.mp hroom
      rfl
    · cases hroom

end Bindings

/-- What is known of a server that came up with this uuid: each of its requests
    carries the instance of its address, and in the end all its bindings have
    been issued if a pass came to its end. -/
structure Traced (S : BindingSdk A R) (server : ConferenceServer) (uuid : String)
    (st : State) : Prop where
  requests : ∀ req ∈ st.requests, WithInstance S server uuid req
  complete : st.mAddressesBound = true → ∃ pre env, env.uuid = uuid ∧
    st.requests = pre ++ bindings S server env

/-- **Step lemma**: a pass with the uuid of the server. -/
theorem Traced.bindAddresses {S : BindingSdk A R} {server : ConferenceServer} {uuid : String}
    {st : State} (h : Traced S server uuid st) (huuid : uuid ≠ "") (env : Surroundings A) :
    Traced S server uuid (bindAddresses S server (withUuid uuid env) st) := by
  have henv : (withUuid uuid env).uuid ≠ "" := huuid
  have hpass : ∀ req ∈ bindings S server (withUuid uuid env), WithInstance S server uuid req :=
    fun _ hreq => bindings_withInstance henv hreq
  cases hst : st.mAddressesBound with
  | true =>
      rw [bindAddresses_bound S server _ hst]
      exact h
  | false =>
      obtain ⟨hall, hraise⟩ := bindAddresses_spec S server (withUuid uuid env) hst
      by_cases hr : PassRaises S server (withUuid uuid env) st
      · obtain ⟨done, hdone, heq⟩ := hraise hr
        rw [heq]
        refine ⟨fun req hreq => ?_, fun hbound => by cases hbound⟩
        rcases List.mem_append.mp hreq with hin | hin
        · exact h.requests req hin
        · exact hpass req (hdone.subset hin)
      · rw [hall hr]
        refine ⟨fun req hreq => ?_, fun _ => ⟨st.requests, withUuid uuid env, rfl, rfl⟩⟩
        rcases List.mem_append.mp hreq with hin | hin
        · exact h.requests req hin
        · exact hpass req hin

/-- **Run lemma**: a whole lifetime. -/
theorem traced_lifetime (S : BindingSdk A R) (start : Start A) {uuid : String}
    (huuid : uuid ≠ "") : Traced S start.server uuid (lifetime S start uuid).state := by
  have hblank : Traced S start.server uuid ⟨false, []⟩ :=
    ⟨List.forall_mem_nil _, fun h => by cases h⟩
  refine Machine.invariant_reach
    (M := passes S start.server uuid start.isWritable start.env) ?_ ?_ start.notifications
  · show Traced S start.server uuid (initState S start.server start.isWritable _)
    rw [initState]
    split
    · exact hblank.bindAddresses huuid _
    · exact hblank
  · intro st notification h
    show Traced S start.server uuid (onRegistrarDbWritable S start.server st _)
    rw [onRegistrarDbWritable]
    split
    · exact h.bindAddresses huuid _
    · exact h

/-- Some pass of a server comes to its end: the one at its start, or one at a
    notification. -/
def SomePassEnds (S : BindingSdk A R) (start : Start A) (uuid : String) : Prop :=
  (start.isWritable = true ∧
    ¬ PassRaises S start.server (withUuid uuid start.env) ⟨false, []⟩) ∨
  ∃ pre notification post, start.notifications = pre ++ notification :: post ∧
    notification.writable = true ∧
    ¬ PassRaises S start.server (withUuid uuid notification.env)
      ((passes S start.server uuid start.isWritable start.env).reach pre)

/-- **A server has bound its addresses** exactly when some pass came to its end. -/
theorem mAddressesBound_lifetime_iff (S : BindingSdk A R) (start : Start A) (uuid : String) :
    (lifetime S start uuid).state.mAddressesBound = true ↔ SomePassEnds S start uuid := by
  show ((passes S start.server uuid start.isWritable start.env).reach
    start.notifications).mAddressesBound = true ↔ _
  rw [SomePassEnds]
  induction start.notifications using List.reverseRecOn with
  | nil =>
      have hinit := mAddressesBound_step_iff S start.server ⟨false, []⟩
        ⟨start.isWritable, withUuid uuid start.env⟩
      refine hinit.trans ⟨?_, ?_⟩
      · rintro (hbound | hends)
        · cases hbound
        · exact Or.inl hends
      · rintro (hends | ⟨pre, notification, post, hnil, -⟩)
        · exact Or.inr hends
        · simp at hnil
  | append_singleton notifications last ih =>
      rw [Machine.reach_concat]
      refine (mAddressesBound_step_iff S start.server _
        ⟨last.writable, withUuid uuid last.env⟩).trans ?_
      rw [ih, or_assoc]
      refine or_congr_right ⟨?_, ?_⟩
      · rintro (⟨pre, notification, post, rfl, hends⟩ | hends)
        · exact ⟨pre, notification, post ++ [last], by simp, hends⟩
        · exact ⟨notifications, last, [], rfl, hends⟩
      · rintro ⟨pre, notification, post, hsplit, hends⟩
        -- the pass is the last one, or one before
        rcases List.eq_nil_or_concat post with rfl | ⟨post', last', rfl⟩
        · obtain ⟨rfl, rfl⟩ := List.append_singleton_inj.mp hsplit
          exact Or.inr hends
        · rw [List.concat_eq_append, ← List.cons_append, ← List.append_assoc] at hsplit
          obtain ⟨rfl, -⟩ := List.append_singleton_inj.mp hsplit
          exact Or.inl ⟨pre, notification, post', rfl, hends⟩

/-! ## What holds in every history -/

/-- No start ended with the error of an inconsistent uuid, and each server that
    came up had a uuid and bound its addresses with it. -/
structure Served (S : BindingSdk A R) (world : World) : Prop where
  consistent : ∀ message, Outcome.failed (.badConfiguration message) ∉ world.outcomes
  lifetimes : ∀ life ∈ world.lifetimes, life.uuid ≠ "" ∧
    Traced S life.server life.uuid life.state

/-- One more server came up. -/
theorem Served.up {S : BindingSdk A R} {world : World} (h : Served S world) (start : Start A)
    {uuid : String} (huuid : uuid ≠ "") (uuidFile : Option String) :
    Served S ⟨uuidFile, world.outcomes ++ [Outcome.up (lifetime S start uuid)]⟩ := by
  constructor
  · intro message hin
    rcases List.mem_append.mp hin with hin | hin
    · exact h.consistent message hin
    · cases List.mem_singleton.mp hin
  · intro life hin
    rw [lifetimes_up] at hin
    rcases List.mem_append.mp hin with hin | hin
    · exact h.lifetimes life hin
    · rw [List.mem_singleton.mp hin]
      exact ⟨huuid, traced_lifetime S start huuid⟩

/-- **Step lemma**: every event keeps the lifetimes accounted for. -/
theorem served_step (S : BindingSdk A R) (mStateDir : String) (world : World) (event : Event A)
    (h : Served S world) : Served S ((machine S mStateDir).step world event) := by
  cases event with
  | loseUuidFile => exact ⟨h.consistent, h.lifetimes⟩
  | start start =>
      rcases runStart_cases S mStateDir start world.uuidFile with
        ⟨err, hrun, herr, -⟩ | ⟨-, hrun⟩ | ⟨hread, hrun⟩
      · rw [step_start hrun]
        constructor
        · intro message hin
          rcases List.mem_append.mp hin with hin | hin
          · exact h.consistent message hin
          · injection List.mem_singleton.mp hin with heq
            exact herr message heq.symm
        · intro life hin
          rw [lifetimes_failed] at hin
          exact h.lifetimes life hin
      · rw [step_start hrun]
        exact h.up start start.core.draws.ne_empty _
      · rw [step_start hrun]
        exact h.up start hread _

theorem served_reach (S : BindingSdk A R) (mStateDir : String) (events : List (Event A)) :
    Served S ((machine S mStateDir).reach events) := by
  refine Machine.invariant_reach (M := machine S mStateDir) ?_ (served_step S mStateDir) events
  exact ⟨fun _ hin => (List.not_mem_nil hin).elim, fun _ hin => (List.not_mem_nil hin).elim⟩

/-! ## What holds as long as the file is kept -/

/-- A start whose file operations succeed; the file is not lost. -/
def Undisturbed : Event A → Prop
  | .start start => start.files.Succeed
  | .loseUuidFile => False

/-- The file has the uuid of every server that came up, or none came up yet. -/
def Settled (world : World) : Prop :=
  (world.lifetimes = [] ∧ world.uuidFile = none) ∨
  ∃ uuid, Word uuid ∧ world.uuidFile = some uuid ∧ ∀ life ∈ world.lifetimes, life.uuid = uuid

/-- **Step lemma**: the first server writes its uuid, the next ones read it. -/
theorem settled_step (S : BindingSdk A R) (mStateDir : String) (world : World) (event : Event A)
    (hevent : Undisturbed event) (h : Settled world) :
    Settled ((machine S mStateDir).step world event) := by
  cases event with
  | loseUuidFile => exact hevent.elim
  | start start =>
      obtain ⟨hreadable, -, hwritable⟩ := hevent
      rcases runStart_cases S mStateDir start world.uuidFile with
        ⟨err, hrun, -⟩ | ⟨hread, hrun⟩ | ⟨hread, hrun⟩
      · rw [step_start hrun, Settled, lifetimes_failed]
        exact h
      · -- nothing was read, so there is no file yet
        rw [step_start hrun, hwritable, Settled, lifetimes_up]
        rcases h with ⟨hnone, -⟩ | ⟨uuid, hword, hfile, -⟩
        · refine Or.inr ⟨_, start.core.draws, rfl, fun life hin => ?_⟩
          rcases List.mem_append.mp hin with hin | hin
          · have hold : life ∈ world.lifetimes := hin
            rw [hnone] at hold
            cases hold
          · rw [List.mem_singleton.mp hin]
            rfl
        · rw [hfile, readUuid, hreadable] at hread
          exact absurd ((firstWord_of_word hword).symm.trans hread) hword.ne_empty
      · rw [step_start hrun, Settled, lifetimes_up]
        rcases h with ⟨-, hfile⟩ | ⟨uuid, hword, hfile, hall⟩
        · rw [hfile] at hread
          exact absurd rfl hread
        · refine Or.inr ⟨uuid, hword, hfile, fun life hin => ?_⟩
          rcases List.mem_append.mp hin with hin | hin
          · exact hall life hin
          · rw [List.mem_singleton.mp hin, hfile]
            show (if start.files.readable = true then firstWord uuid else "") = uuid
            rw [hreadable, if_pos rfl, firstWord_of_word hword]

/-- Every undisturbed history leads to a settled world. -/
theorem settled_reach (S : BindingSdk A R) (mStateDir : String) {events : List (Event A)}
    (hevents : ∀ event ∈ events, Undisturbed event) :
    Settled ((machine S mStateDir).reach events) :=
  Machine.invariant_run_of_forall (M := machine S mStateDir) (P := Undisturbed)
    (settled_step S mStateDir) events _ hevents (Or.inl ⟨rfl, rfl⟩)

theorem Settled.same_uuid {world : World} (h : Settled world) {life life' : Lifetime}
    (hlife : life ∈ world.lifetimes) (hlife' : life' ∈ world.lifetimes) :
    life.uuid = life'.uuid := by
  rcases h with ⟨hnone, -⟩ | ⟨uuid, -, -, hall⟩
  · rw [hnone] at hlife
    cases hlife
  · rw [hall life hlife, hall life' hlife']

/-! ## What the registrar holds -/

section Registrar

variable {S : BindingSdk A R} {server : ConferenceServer} {env : Surroundings A}
variable {M : Registrar σ S}

/-- A bind is no threat to what the same server has bound with its transport. -/
theorem keeps_of_withInstance {uuid k : String} {sipContact : SipContact}
    (hurl : sipContact.url = server.mTransport) {req : Request}
    (hbind : ∀ aor callId, req ≠ .clear aor callId)
    (hreq : WithInstance S server uuid req) :
    Registry.Keeps (requestEffect S) SipContact.param k sipContact req := by
  cases req with
  | clear aor callId => exact absurd rfl (hbind aor callId)
  | bind aor sipContact' parameter =>
      have hcontact : sipContact' = ⟨server.mTransport, _⟩ := hreq
      rw [hcontact]
      refine Or.inr ⟨⟨_, rfl⟩, fun hparam => ?_⟩
      cases sipContact
      cases hurl
      cases hparam
      rfl

/-- The part of one factory URI in the bindings. -/
def factoryRequests (S : BindingSdk A R) (server : ConferenceServer) (uuid factory : String) :
    List Request :=
  [.clear factory "CONFERENCE",
    .bind factory (server.sipContact S uuid) (server.parameter "CONFERENCE")]

/-- After the bindings of some factory URIs the record of each of them has the
    contact of the server: of two with one record, the later one has bound it
    again. -/
theorem only_factoryRequests {uuid : String} (huuid : uuid ≠ "") (factories : List String) :
    ∀ (registrar : σ) (k : String), (∃ factory ∈ factories, S.recordKey factory = k) →
      M.Only (M.run registrar (factories.flatMap (factoryRequests S server uuid))) k
        (server.sipContact S uuid) := by
  have hparam : (server.sipContact S uuid).param = some (instanceParam S uuid) := by
    rw [sipContact_eq S server huuid]
  induction factories using List.reverseRecOn with
  | nil =>
      rintro registrar k ⟨factory, hin, -⟩
      cases hin
  | append_singleton factories last ih =>
      rintro registrar k ⟨factory, hin, hkey⟩
      rw [List.flatMap_append, List.flatMap_singleton, Registry.run_append]
      by_cases hlast : S.recordKey last = k
      · refine Registry.only_put ?_ hparam
        show Effect.put (S.recordKey last) _ = _
        rw [hlast]
      · have hbefore : factory ∈ factories := by
          rcases List.mem_append.mp hin with hin | hin
          · exact hin
          · rw [List.mem_singleton.mp hin] at hkey
            exact absurd hkey hlast
        refine Registry.Only.run (fun req hreq => ?_) (ih registrar k ⟨factory, hbefore, hkey⟩)
        rcases List.mem_pair.mp hreq with rfl | rfl
        · exact hlast
        · exact Or.inl hlast

/-- **After a whole pass** the record of each address that it has bound has, with
    the instance of the address, the contact of the server alone. -/
theorem only_bindings (huuid : env.uuid ≠ "") {aor : String} {sipContact : SipContact}
    {parameter : BindingParameters}
    (hreq : Request.bind aor sipContact parameter ∈ bindings S server env) (registrar : σ) :
    M.Only (M.run registrar (bindings S server env)) (S.recordKey aor) sipContact := by
  have hcontact : sipContact = ⟨server.mTransport, some _⟩ := bindings_withInstance huuid hreq
  have hurl : sipContact.url = server.mTransport := by rw [hcontact]
  -- behind the factory URIs nothing is cleared any more
  have hbinds : ∀ req ∈ focusBindings S server env ++
      (if server.textEnabled then chatRoomBindings S server env else []),
      Registry.Keeps (requestEffect S) SipContact.param (S.recordKey aor) sipContact req := by
    intro req hin
    have hall : req ∈ bindings S server env := by
      rw [bindings, List.append_assoc]
      exact List.mem_append_right _ hin
    refine keeps_of_withInstance hurl ?_ (bindings_withInstance huuid hall)
    rintro aor' callId rfl
    rcases List.mem_append.mp hin with hfocus | hroom
    · obtain ⟨account, -, heq⟩ := List.mem_map.mp hfocus
      cases heq
    · split at hroom
      · obtain ⟨peerAddress, -, heq⟩ := List.mem_map.mp hroom
        cases heq
      · cases hroom
  rw [bindings, List.append_assoc] at hreq ⊢
  rw [Registry.run_append]
  rcases List.mem_append.mp hreq with hfactory | hrest
  · refine Registry.Only.run hbinds ?_
    have hflat : factoryBindings S server env =
        (server.mConfServerUris.map (fun uris => (S.sipUri uris.1).getD uris.1)).flatMap
          (factoryRequests S server env.uuid) := by
      rw [List.flatMap_map]
      rfl
    rw [hflat] at hfactory ⊢
    obtain ⟨factory, hin, hpair⟩ := List.mem_flatMap.mp hfactory
    rcases List.mem_pair.mp hpair with heq | heq
    · cases heq
    · cases heq
      exact only_factoryRequests huuid _ registrar _ ⟨_, hin, rfl⟩
  · rw [hcontact] at hrest hbinds ⊢
    exact Registry.only_run_of_put (M := M) hrest rfl rfl hbinds _

/-- A request of the history that binds an address. -/
theorem exists_of_bindsTo {world : World} {address : String × String} {sipContact : SipContact}
    (h : world.requests.any (bindsTo S address sipContact) = true) :
    ∃ life ∈ world.lifetimes, ∃ aor parameter,
      Request.bind aor sipContact parameter ∈ life.state.requests ∧
        addressOf S aor parameter.callId = address := by
  obtain ⟨req, hreq, hbinds⟩ := List.any_eq_true.mp h
  obtain ⟨life, hlife, hin⟩ := List.mem_flatMap.mp hreq
  cases req with
  | clear aor callId => cases hbinds
  | bind aor sipContact' parameter =>
      obtain ⟨haddress, rfl⟩ := of_decide_eq_true hbinds
      exact ⟨life, hlife, aor, parameter, hin, haddress⟩

/-- When all that some start has bound an address to has one instance, the
    contact that is alone with it is the only one of the server. -/
theorem serverContacts_of_only {registrar : σ} {world : World} {address : String × String}
    {sipContact : SipContact} (honly : M.Only registrar address.1 sipContact)
    (hbound : world.requests.any (bindsTo S address sipContact) = true)
    (hsame : ∀ sipContact', world.requests.any (bindsTo S address sipContact') = true →
      sipContact'.param = sipContact.param) :
    serverContacts S M registrar world.requests address = [sipContact] := by
  have hsplit : serverContacts S M registrar world.requests address =
      ((M.entries registrar address.1).filter
        (fun sipContact' => sipContact'.param = sipContact.param)).filter
          (fun sipContact' => world.requests.any (bindsTo S address sipContact')) := by
    rw [List.filter_filter, serverContacts]
    refine List.filter_congr (fun sipContact' _ => ?_)
    cases hany : world.requests.any (bindsTo S address sipContact') with
    | false => rfl
    | true => rw [decide_eq_true (hsame sipContact' hany)]; rfl
  rw [hsplit, show _ = [sipContact] from honly, List.filter_cons, if_pos hbound, List.filter_nil]

end Registrar

/-- An address with a `gr` parameter of its own has the same instance whatever the
    uuid. -/
theorem addressInstance_gr (S : BindingSdk A R) {address : String × String}
    (hgr : address.2 ≠ "") (uuid : String) :
    addressInstance S uuid address = instanceParam S address.2 := by
  rw [addressInstance, String.isEmpty_eq_false_iff.mpr hgr]
  rfl

/-- What a server has bound an address to. -/
theorem Served.contact_eq {S : BindingSdk A R} {world : World} (h : Served S world)
    {life : Lifetime} (hlife : life ∈ world.lifetimes) {aor : String} {sipContact : SipContact}
    {parameter : BindingParameters}
    (hreq : Request.bind aor sipContact parameter ∈ life.state.requests) :
    sipContact = ⟨life.server.mTransport,
      some (addressInstance S life.uuid (addressOf S aor parameter.callId))⟩ :=
  (h.lifetimes life hlife).2.requests _ hreq

/-- **Two servers have bound an address with one instance**, when the file was
    kept or the address has a `gr` parameter of its own. -/
theorem same_param (S : BindingSdk A R) (mStateDir : String) {events : List (Event A)}
    {life life' : Lifetime} (hlife : life ∈ ((machine S mStateDir).reach events).lifetimes)
    (hlife' : life' ∈ ((machine S mStateDir).reach events).lifetimes)
    {aor aor' : String} {sipContact sipContact' : SipContact}
    {parameter parameter' : BindingParameters}
    (hreq : Request.bind aor sipContact parameter ∈ life.state.requests)
    (hreq' : Request.bind aor' sipContact' parameter' ∈ life'.state.requests)
    (haddress : addressOf S aor parameter.callId = addressOf S aor' parameter'.callId)
    (hcase : (∀ event ∈ events, Undisturbed event) ∨
      (addressOf S aor parameter.callId).2 ≠ "") : sipContact.param = sipContact'.param := by
  have hserved := served_reach S mStateDir events
  rw [hserved.contact_eq hlife hreq, hserved.contact_eq hlife' hreq', ← haddress]
  rcases hcase with hevents | hgr
  · rw [(settled_reach S mStateDir hevents).same_uuid hlife hlife']
  · rw [addressInstance_gr S hgr, addressInstance_gr S hgr]

/-- A record that held nothing before and that only one address of the server
    has holds the contacts of the server for this address. -/
theorem entries_of_ownRecord (S : BindingSdk A R) (M : Registrar σ S) {registrar : σ}
    {world : World} {address : String × String} (hempty : M.entries registrar address.1 = [])
    (hown : OwnRecord S world.requests address) :
    M.entries (M.run registrar world.requests) address.1 =
      serverContacts S M (M.run registrar world.requests) world.requests address := by
  refine (List.filter_eq_self.mpr (fun sipContact hmem => ?_)).symm
  rcases Registry.mem_run world.requests registrar hmem with hold | ⟨req, hreq, heff⟩
  · rw [hempty] at hold
    cases hold
  · cases req with
    | clear aor callId => cases heff
    | bind aor sipContact' parameter =>
        injection heff with hkey hcontact
        refine List.any_eq_true.mpr ⟨_, hreq, decide_eq_true ⟨?_, hcontact⟩⟩
        exact hown aor sipContact' parameter hreq hkey

/-- **After a start that has bound its addresses** the registrar has for each of
    them the contact of this start. -/
theorem serverContacts_after_pass (S : BindingSdk A R) (mStateDir : String) (M : Registrar σ S)
    (registrar : σ) (events : List (Event A)) {earlier : List Lifetime} {life : Lifetime}
    (hlifetimes : ((machine S mStateDir).reach events).lifetimes = earlier ++ [life])
    (hbound : life.state.mAddressesBound = true) :
    ∃ pre env, life.state.requests = pre ++ bindings S life.server env ∧
      ∀ aor sipContact parameter,
        Request.bind aor sipContact parameter ∈ bindings S life.server env →
        ((∀ event ∈ events, Undisturbed event) ∨ (addressOf S aor parameter.callId).2 ≠ "") →
        serverContacts S M (M.run registrar ((machine S mStateDir).reach events).requests)
            ((machine S mStateDir).reach events).requests (addressOf S aor parameter.callId) =
          [sipContact] ∧
        sipContact.url = life.server.mTransport ∧
        (M.entries registrar (S.recordKey aor) = [] →
          OwnRecord S ((machine S mStateDir).reach events).requests
            (addressOf S aor parameter.callId) →
          M.entries (M.run registrar ((machine S mStateDir).reach events).requests)
            (S.recordKey aor) = [sipContact]) := by
  have hserved := served_reach S mStateDir events
  have hlife : life ∈ ((machine S mStateDir).reach events).lifetimes := by
    rw [hlifetimes]
    exact List.mem_append_right _ (List.mem_singleton_self _)
  obtain ⟨huuid, htraced⟩ := hserved.lifetimes life hlife
  obtain ⟨pre, env, henv, hreqs⟩ := htraced.complete hbound
  refine ⟨pre, env, hreqs, fun aor sipContact parameter hreq hcase => ?_⟩
  have hin : Request.bind aor sipContact parameter ∈ life.state.requests := by
    rw [hreqs]
    exact List.mem_append_right _ hreq
  have hserver : serverContacts S M (M.run registrar ((machine S mStateDir).reach events).requests)
      ((machine S mStateDir).reach events).requests (addressOf S aor parameter.callId) =
      [sipContact] := by
    refine serverContacts_of_only ?_ ?_ ?_
    · -- the bindings of the last pass come last
      have hhistory : ((machine S mStateDir).reach events).requests =
          earlier.flatMap (fun life => life.state.requests) ++ pre ++
            bindings S life.server env := by
        rw [World.requests, hlifetimes, List.flatMap_append, List.flatMap_singleton, hreqs,
          List.append_assoc]
      rw [hhistory, Registry.run_append]
      exact only_bindings (by rw [henv]; exact huuid) hreq _
    · refine List.any_eq_true.mpr ⟨_, List.mem_flatMap.mpr ⟨life, hlife, hin⟩, ?_⟩
      exact decide_eq_true ⟨rfl, rfl⟩
    · intro sipContact' hany
      obtain ⟨life', hlife', aor', parameter', hreq', haddress⟩ := exists_of_bindsTo hany
      exact (same_param S mStateDir hlife hlife' hin hreq' haddress.symm hcase).symm
  refine ⟨hserver, by rw [hserved.contact_eq hlife hin], fun hempty hown => ?_⟩
  rw [← hserver]
  exact entries_of_ownRecord S M hempty hown

/-- **INSTANCES ARE STABLE ACROSS RESTARTS.**  In every history of starts, whatever
    their transports: no start ends with an inconsistent uuid, and one that
    nothing else impedes comes up, and binds its addresses as soon as a pass on a
    writable registrar does not raise; a chat room with a `gr` parameter is bound
    with that, whatever becomes of the uuid file.  When the file operations
    succeed and the file is not lost, all the servers use one uuid, and bind each
    address with one instance.  So after a start that has bound its addresses the
    registrar has, for each of them (after a loss of the file: for each with a
    `gr` parameter), the contact of that start and no other one of the server;
    and nothing else, if the record is its own and was empty before. -/
theorem instances_stable (S : BindingSdk A R) (mStateDir : String) (M : Registrar σ S)
    (registrar : σ) (events : List (Event A)) :
    let world := (machine S mStateDir).reach events
    (∀ message, Outcome.failed (.badConfiguration message) ∉ world.outcomes) ∧
    (∀ start : Start A, ¬ start.Impeded → ∃ life,
      ((machine S mStateDir).step world (.start start)).outcomes =
        world.outcomes ++ [Outcome.up life] ∧ life.server = start.server ∧
      (life.state.mAddressesBound = true ↔ SomePassEnds S start life.uuid)) ∧
    (∀ life ∈ world.lifetimes, ∀ aor sipContact parameter,
      Request.bind aor sipContact parameter ∈ life.state.requests →
      (addressOf S aor parameter.callId).2 ≠ "" →
      sipContact.param = some (instanceParam S (addressOf S aor parameter.callId).2)) ∧
    ((∀ event ∈ events, Undisturbed event) →
      ∀ life ∈ world.lifetimes, ∀ life' ∈ world.lifetimes, life.uuid = life'.uuid ∧
        ∀ aor sipContact parameter aor' sipContact' parameter',
          Request.bind aor sipContact parameter ∈ life.state.requests →
          Request.bind aor' sipContact' parameter' ∈ life'.state.requests →
          addressOf S aor parameter.callId = addressOf S aor' parameter'.callId →
          sipContact.param = sipContact'.param) ∧
    ∀ earlier life, world.lifetimes = earlier ++ [life] → life.state.mAddressesBound = true →
      ∃ pre env, life.state.requests = pre ++ bindings S life.server env ∧
        ∀ aor sipContact parameter,
          Request.bind aor sipContact parameter ∈ bindings S life.server env →
          ((∀ event ∈ events, Undisturbed event) ∨ (addressOf S aor parameter.callId).2 ≠ "") →
          serverContacts S M (M.run registrar world.requests) world.requests
              (addressOf S aor parameter.callId) = [sipContact] ∧
            sipContact.url = life.server.mTransport ∧
            (M.entries registrar (S.recordKey aor) = [] →
              OwnRecord S world.requests (addressOf S aor parameter.callId) →
              M.entries (M.run registrar world.requests) (S.recordKey aor) = [sipContact]) := by
  intro world
  have hserved : Served S world := served_reach S mStateDir events
  refine ⟨hserved.consistent, ?_, ?_, ?_, ?_⟩
  · intro start hfree
    rcases runStart_cases S mStateDir start world.uuidFile with
      ⟨err, -, -, himpeded⟩ | ⟨-, hrun⟩ | ⟨-, hrun⟩
    · exact absurd himpeded hfree
    · rw [step_start hrun]
      exact ⟨_, rfl, rfl, mAddressesBound_lifetime_iff S start _⟩
    · rw [step_start hrun]
      exact ⟨_, rfl, rfl, mAddressesBound_lifetime_iff S start _⟩
  · intro life hlife aor sipContact parameter hreq hgr
    rw [hserved.contact_eq hlife hreq, addressInstance_gr S hgr]
  · intro hevents life hlife life' hlife'
    refine ⟨(settled_reach S mStateDir hevents).same_uuid hlife hlife', ?_⟩
    intro aor sipContact parameter aor' sipContact' parameter' hreq hreq' haddress
    exact same_param S mStateDir hlife hlife' hreq hreq' haddress (Or.inl hevents)
  · intro earlier life hlifetimes hbound
    exact serverContacts_after_pass S mStateDir M registrar events hlifetimes hbound

/-! ## A history -/

/-- A registrar whose `clear` empties the record. -/
def mapRegistrar (S : BindingSdk A R) : Registrar (String → List SipContact) S :=
  Registry.ofMap (requestEffect S) SipContact.param

/-- A Core that draws this uuid. -/
def drawing (uuid : String) (h : Word uuid) : Core where
  uuid given := if given = "" then uuid else given
  keeps _ hgiven := if_neg hgiven
  draws := by
    rw [if_pos rfl]
    exact h

theorem word_u1 : Word "u1" where
  ne_empty := by simp
  no_space := by simp [isSpace]

theorem word_u2 : Word "u2" where
  ne_empty := by simp
  no_space := by simp [isSpace]

/-- A start with one factory, its focus and an old chat room. -/
def sampleStart (transport uuid : String) (h : Word uuid) : Start String where
  server := oneFactory transport
  files := ⟨true, ⟨.found, 0⟩, true⟩
  core := drawing uuid h
  earlier := none
  status := 0
  isWritable := true
  env := twoChatRooms ""
  notifications := []

/-- What an address of the sample server has in the end. -/
def sampleContacts (events : List (Event String)) (address : String × String) : List SipContact :=
  let world := (machine stringBindingSdk "/var/lib/flexisip").reach events
  let registrar := (mapRegistrar stringBindingSdk).run (fun _ => []) world.requests
  serverContacts stringBindingSdk (mapRegistrar stringBindingSdk) registrar world.requests address

/-- Two starts with different transports: the second one finds the uuid of the
    first one, and each address has one contact, that of the second one. -/
theorem instances_stable_sample :
    let events : List (Event String) := [.start (sampleStart "sip:h:1" "u1" word_u1),
      .start (sampleStart "sip:h:2" "u2" word_u2)]
    let contact : SipContact := ⟨"sip:h:2", some "+sip.instance=\"<urn:uuid:u1>\""⟩
    sampleContacts events ("sip:factory@a.org", "") = [contact] ∧
      sampleContacts events ("sip:focus@a.org", "") = [contact] ∧
      sampleContacts events ("sip:chatroom-1@a.org;gr=old", "old") =
        [⟨"sip:h:2", some "+sip.instance=\"<urn:uuid:old>\""⟩] := by
  intro events contact
  have hevents : ∀ event ∈ events, Undisturbed event := by
    intro event hin
    rcases List.mem_pair.mp hin with rfl | rfl
    · exact ⟨rfl, by decide, rfl⟩
    · exact ⟨rfl, by decide, rfl⟩
  have hstable := instances_stable stringBindingSdk "/var/lib/flexisip"
    (mapRegistrar stringBindingSdk) (fun _ => []) events
  obtain ⟨pre, env, hrequests, hcontacts⟩ := hstable.2.2.2.2
    [lifetime stringBindingSdk (sampleStart "sip:h:1" "u1" word_u1) "u1"]
    (lifetime stringBindingSdk (sampleStart "sip:h:2" "u2" word_u2) "u1") (by rfl) (by rfl)
  have hissued : (lifetime stringBindingSdk (sampleStart "sip:h:2" "u2" word_u2)
      "u1").state.requests = oneFactoryRequests "sip:h:2" := by
    decide +kernel
  -- only the first request of the pass clears anything, so there was none before
  obtain rfl : pre = [] := by
    cases pre with
    | nil => rfl
    | cons req pre =>
        have hclear : Request.clear "sip:factory@a.org" "CONFERENCE" ∈
            (oneFactoryRequests "sip:h:2").tail := by
          rw [← hissued, hrequests]
          exact List.mem_append_right _ (List.mem_append_left _ (List.mem_append_left _
            (List.mem_cons_self ..)))
        exact absurd hclear (by decide)
  rw [List.nil_append, hissued] at hrequests
  rw [← hrequests] at hcontacts
  have hfactory := hcontacts "sip:factory@a.org" contact _
    (List.mem_cons_of_mem _ (List.mem_cons_self ..)) (Or.inl hevents)
  have hfocus := hcontacts "sip:focus@a.org" contact _
    (List.mem_cons_of_mem _ (List.mem_cons_of_mem _ (List.mem_cons_self ..))) (Or.inl hevents)
  have hroom := hcontacts "sip:chatroom-1@a.org;gr=old"
    ⟨"sip:h:2", some "+sip.instance=\"<urn:uuid:old>\""⟩
    ((oneFactory "sip:h:2").parameter "dummy-call-id") (by decide) (Or.inl hevents)
  have haddress : addressOf stringBindingSdk "sip:chatroom-1@a.org;gr=old"
      ((oneFactory "sip:h:2").parameter "dummy-call-id").callId =
        ("sip:chatroom-1@a.org;gr=old", "old") := by
    decide
  rw [haddress] at hroom
  exact ⟨hfactory.1, hfocus.1, hroom.1⟩

-- without the file a dead contact of the focus is left over
example : sampleContacts [.start (sampleStart "sip:h:1" "u1" word_u1), .loseUuidFile,
      .start (sampleStart "sip:h:2" "u2" word_u2)] ("sip:focus@a.org", "") =
    [⟨"sip:h:2", some "+sip.instance=\"<urn:uuid:u2>\""⟩,
      ⟨"sip:h:1", some "+sip.instance=\"<urn:uuid:u1>\""⟩] := by
  decide +kernel

end Restarts
