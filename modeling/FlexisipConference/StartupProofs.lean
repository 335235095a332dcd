import FlexisipConference.AccountProofs
import FlexisipConference.CodecProofs
import FlexisipConference.RefinementProofs
import FlexisipConference.RestartProofs
import FlexisipConference.ShutdownProofs
import Mathlib.Data.List.Sort
import Mathlib.Data.String.Basic

/-! # Starting the server

    `_init` reads the section `conference-server` of the configuration, sets the
    Core up, starts it, sees to the uuid and binds the addresses.  Almost every
    value that it reads can be wrong.  It is a `Procedure` whose requests are its
    effects on the outside: on directories and files, the Core and the registrar.

    What `_init` requires is said requirement by requirement (`Violated`).  Before
    it starts the Core it stops with the error of the first one that is violated
    (`init_raises_first`); when none is, it goes through a plan, or the beginning
    of it (`init_follows_plan`).  A server that comes up has its local domains sorted, each
    once, and they alone decide the kind of each subscription that it ever has
    (`kind_decided`). -/

namespace Startup

open Sdks Machines Issuing Procedure Subscriptions Invariants HandlerSteps Refinements
open Accounts (AccountParams Setup accountLoop loadFactoryUris loadFactoryUris_eq mustMatch)
open Bindings (BindingSdk Surroundings BindError bindAll bindings issues_bindAll)
open Codecs (StringUtils enableSelectedCodecs unclaimed)
open Handlers (System Op Subscription SubscriptionId)
open Restarts (FileOperations DirectoryCheck Core appendPath directoryMessage readUuid)
open Servers (Legal legal_step step_cases)

variable {A R P : Type}

/-- What `_init` can raise. -/
inductive StartError where
  | badConfigurationEmpty (parameter : String)
  | badConfigurationValue (parameter : String) (message : Option String)
  | badConfigurationWithHelp (parameter message : String)
  | badConfiguration (message : String)
  | invalidUrl (url : String)
  | flexisip (message : String)
  | exitFailure (message : String)
  | registrar (message : String)
  deriving DecidableEq, Repr

/-- How `_init` can stop half-way: it raises an error, or what follows is not
    defined (a null pointer is dereferenced, or the front of an empty list is
    taken). -/
inductive Stop where
  | raised (err : StartError)
  | undefined
  deriving DecidableEq, Repr

/-- `configuration_utils::MediaEngine`. -/
inductive MediaEngine where
  | audio
  | video
  deriving DecidableEq, Repr

/-- `ChatRoom::HandlingSet`. -/
inductive HandlingSet where
  | all
  | legacyOnly
  | associatedToFocusOnly
  | legacyAndAssociatedToFocus
  deriving DecidableEq, Repr

/-- `ConferenceServer::MediaConfig`. -/
structure MediaConfig where
  audioEnabled : Bool
  videoEnabled : Bool
  textEnabled : Bool
  deriving DecidableEq, Repr

/-- The values of the section `conference-server` that decide how `_init` goes
    on.  `noRtpTimeout` is in milliseconds. -/
structure Config where
  transport : String
  checkCapabilities : Bool
  stateDirectory : String
  supportedMediaTypes : List String
  databaseConnectionString : String
  audioEngineMode : String
  videoEngineMode : String
  noRtpTimeout : Int
  audioPort : Int × Int
  videoPort : Int × Int
  supportedAudioCodecs : List String
  supportedVideoCodec : String
  natAddresses : List String
  conferenceFactoryUris : List String
  conferenceFocusUris : List String
  outboundProxy : String
  localDomains : List String
  handledChatroomCategory : String

/-- What `_init` uses besides: the Core with its payload types and its accounts,
    and utilities of the flexisip library, which may raise. -/
structure Setting (A R P : Type) where
  sdk : BindingSdk A R
  utils : StringUtils
  getMimeType : P → String
  audioPayloadTypes : List P
  videoPayloadTypes : List P
  getAccountList : List (Accounts.Account A) → List (Bindings.Account A)
  getCompleteName : String → String
  configureTransport : String → Option StartError
  configureMediaEngineMode : MediaEngine → String → Option StartError
  setMediaPort : MediaEngine → Int × Int → Option StartError
  configureNatAddresses : List String → Option StartError
  mPath : String

/-- What `_init` meets: the directory of the certificates, the state directory
    with the uuid file, the Core with the chat rooms that it has loaded, and the
    registrar. -/
structure Env (A : Type) where
  dtlsDirectory : DirectoryCheck
  files : FileOperations
  uuidFile : Option String
  core : Core
  status : Int
  chatRooms : List A
  isWritable : Bool
  raises : List Bindings.Request → Bindings.Request → Option BindError

/-- What `_init` does outside. -/
inductive Effect where
  | system (command : String)
  | startCore
  | writeUuid (uuid : String)
  | addStateListener
  | request (req : Bindings.Request)
  deriving DecidableEq, Repr

/-- The server that has come up. -/
structure Server (A : Type) where
  handler : Handlers.ConferenceServer
  binding : Bindings.ConferenceServer
  setup : Setup A
  handlingSet : HandlingSet
  mUuid : String
  mAddressesBound : Bool

/-- The local domains: `sort()`, then `unique()`. -/
def unique {α : Type} [DecidableEq α] : List α → List α
  | [] => []
  | [a] => [a]
  | a :: b :: rest => if a = b then unique (b :: rest) else a :: unique (b :: rest)

def readMediaTypes (mediaTypes : List String) : MediaConfig where
  audioEnabled := decide ("audio" ∈ mediaTypes)
  videoEnabled := decide ("video" ∈ mediaTypes)
  textEnabled := decide ("text" ∈ mediaTypes)

/-- `getChatRoomsHandlingSet`. -/
def getChatRoomsHandlingSet (value : String) : Option HandlingSet :=
  if value = "all" then some .all
  else if value = "legacy" then some .legacyOnly
  else if value = "focus" then some .associatedToFocusOnly
  else if value = "legacy-and-focus" then some .legacyAndAssociatedToFocus
  else none

/-- The error of a binding pass, as `_init` lets it through. -/
def ofBindError : BindError → Stop
  | .badConfiguration message => .raised (.badConfiguration message)
  | .invalidUrl url => .raised (.invalidUrl url)
  | .flexisip message => .raised (.flexisip message)
  | .registrar message => .raised (.registrar message)

/-- `getStateDir`. -/
def getStateDir (conf : Config) (subdir : String) : String := appendPath conf.stateDirectory subdir

/-- The command that `ensureDirectoryCreated` runs. -/
def mkdirCommand (directory : String) : String := "mkdir -p \"" ++ directory ++ "\""

def directoryError (directory : String) : Stop := .raised (.flexisip (directoryMessage directory))

/-- `ensureDirectoryCreated`: the directory is made when `stat` fails with `ENOENT`,
    and only then. -/
def ensureDirectoryCreated (directory : String) (outcome : DirectoryCheck) :
    Procedure Effect Stop Unit :=
  if outcome.stat = .noEntry then
    issue (fun _ _ => if outcome.mkdirFails then some (directoryError directory) else none)
      (.system (mkdirCommand directory))
  else pure ()

section Init

variable (T : Setting A R P) (conf : Config) (env : Env A)

/-- What `enableSelectedCodecs` raises, if anything. -/
def codecError (codecs : List P) (mimeTypes : List String) (parameter : String) : Option Stop :=
  match enableSelectedCodecs T.utils T.getMimeType codecs mimeTypes parameter with
  | .error err => some (.raised (.badConfigurationValue err.config (some err.message)))
  | .ok _ => none

/-- The audio codecs: the first one only in the mode `sfu`. -/
def audioCodecError : Option Stop :=
  if conf.audioEngineMode = "sfu" then
    match conf.supportedAudioCodecs with
    | [] => some .undefined
    | front :: _ => codecError T T.audioPayloadTypes [front] "supported-audio-codecs"
  else codecError T T.audioPayloadTypes conf.supportedAudioCodecs "supported-audio-codecs"

/-- `throw`, under a condition. -/
def throwIf (p : Prop) [Decidable p] (err : StartError) : Option Stop :=
  if p then some (.raised err) else none

/-- `_init` up to the codecs. -/
def configureMedia : Procedure Effect Stop Unit := do
  check (throwIf conf.transport.isEmpty (.badConfigurationEmpty "transport"))
  check ((T.configureTransport conf.transport).map .raised)
  check (throwIf (T.sdk.sipUri conf.transport = none) (.invalidUrl conf.transport))
  let media := readMediaTypes conf.supportedMediaTypes
  check (throwIf (!media.audioEnabled && !media.videoEnabled && !media.textEnabled)
    (.badConfigurationWithHelp "supported-media-types" ("no media types enabled in " ++
      "conference server (at least one media type must be enabled)")))
  check (throwIf (media.textEnabled && conf.databaseConnectionString.isEmpty)
    (.badConfigurationWithHelp "database-connection-string"
      (T.getCompleteName "database-connection-string" ++
        " is not set but is mandatory when 'text' media type is enabled")))
  check ((T.configureMediaEngineMode .audio conf.audioEngineMode).map .raised)
  check ((T.configureMediaEngineMode .video conf.videoEngineMode).map .raised)
  check (throwIf (conf.noRtpTimeout ≤ 0)
    (.badConfigurationValue "no-rtp-timeout" (some "duration must be strictly positive")))
  check ((T.setMediaPort .audio conf.audioPort).map .raised)
  check ((T.setMediaPort .video conf.videoPort).map .raised)
  check (audioCodecError T conf)
  check (throwIf (conf.supportedVideoCodec ≠ "vp8")
    (.badConfigurationValue "supported-video-codec"
      (some "only VP8 is supported as of today for video conferences")))
  check (codecError T T.videoPayloadTypes [conf.supportedVideoCodec] "supported-video-codec")
  pure ()

/-- `_init` from the NAT addresses on, up to the start of the Core: the pairs of
    URIs, the accounts, the local domains and the chat rooms to handle. -/
def configureAccounts : Procedure Effect Stop (List (String × String) × Setup A ×
    HandlingSet) := do
  check ((T.configureNatAddresses conf.natAddresses).map .raised)
  match loadFactoryUris conf.conferenceFactoryUris conf.conferenceFocusUris with
  | .error err => raise (.raised (.badConfiguration err.message))
  | .ok mConfServerUris =>
      match T.sdk.createAddress conf.outboundProxy with
      | none => raise (.raised (.badConfigurationValue "outbound-proxy" none))
      | some outboundProxyAddress =>
          match accountLoop T.sdk.toSdk outboundProxyAddress mConfServerUris ⟨[], none, []⟩ with
          | none => raise .undefined
          | some setup =>
              match getChatRoomsHandlingSet conf.handledChatroomCategory with
              | none => raise (.raised (.badConfigurationValue "handled-chatroom-category"
                  (some "unsupported value")))
              | some handlingSet => pure (mConfServerUris, { setup with
                  mLocalDomains := unique
                    ((setup.mLocalDomains ++ conf.localDomains).insertionSort (· ≤ ·)) },
                  handlingSet)

/-- The start of the Core. -/
def startCore : Procedure Effect Stop Unit :=
  issue (fun _ _ =>
    if env.status = -2 then
      some (.raised (.exitFailure ("the Linphone core could not start because the " ++
        "connection to the database failed")))
    else throwIf (env.status < 0)
      (.exitFailure "the Linphone core failed to start (please check the logs)")) .startCore

/-- The uuid that the Core has once it is started. -/
def coreUuid : String := env.core.uuid (readUuid env.files env.uuidFile)

/-- `writeUuid`. -/
def writeUuid (uuid : String) : Procedure Effect Stop Unit := do
  ensureDirectoryCreated (getStateDir conf "") env.files.directory
  -- a file that cannot be opened is passed over
  if env.files.writable then issue (fun _ _ => none) (.writeUuid uuid) else pure ()

/-- The uuid once the Core is started: it is written when there was none to
    read. -/
def settleUuid : Procedure Effect Stop String :=
  let uuid := readUuid env.files env.uuidFile
  if uuid.isEmpty then do
    writeUuid conf env (coreUuid env)
    pure (coreUuid env)
  else if coreUuid env ≠ uuid then raise (.raised (.badConfiguration "inconsistent uuid"))
  else pure uuid

/-- What the binding pass at the end of `_init` meets; it asks `getUuid`. -/
def surroundings (setup : Setup A) (mUuid : String) : Surroundings A where
  accounts := T.getAccountList setup.accountList
  chatRooms := env.chatRooms
  uuid := if mUuid.isEmpty then coreUuid env else mUuid
  raises := env.raises

/-- The server that `_init` leaves. -/
def server (mConfServerUris : List (String × String)) (setup : Setup A)
    (handlingSet : HandlingSet) (mUuid : String) : Server A where
  handler := ⟨conf.checkCapabilities, setup.mLocalDomains⟩
  binding :=
    { mConfServerUris := mConfServerUris
      textEnabled := (readMediaTypes conf.supportedMediaTypes).textEnabled
      mTransport := (T.sdk.sipUri conf.transport).getD ""
      mPath := T.mPath }
  setup := setup
  handlingSet := handlingSet
  mUuid := mUuid
  mAddressesBound := env.isWritable

/-- `bindAddresses`, at the end of `_init`. -/
def bindAddresses (server : Server A) : Procedure Effect Stop Unit :=
  if env.isWritable then
    (bindAll T.sdk server.binding (surroundings T env server.setup server.mUuid)).embed
      .request ofBindError
  else pure ()

/-- `_init` from the start of the Core on. -/
def bringUp : List (String × String) × Setup A × HandlingSet →
    Procedure Effect Stop (Server A)
  | (mConfServerUris, setup, handlingSet) => do
      startCore env
      let mUuid ← settleUuid conf env
      issue (fun _ _ => none) .addStateListener
      let server := server T conf env mConfServerUris setup handlingSet mUuid
      bindAddresses T env server
      pure server

/-- `_init`. -/
def init : Procedure Effect Stop (Server A) := do
  configureMedia T conf
  ensureDirectoryCreated (getStateDir conf "dtls-srtp") env.dtlsDirectory
  let setup ← configureAccounts T conf
  bringUp T conf env setup

/-! ## What is required -/

end Init

/-- What `_init` requires before it starts the Core. -/
inductive Requirement where
  | transportSet
  | transportAccepted
  | transportUri
  | someMediaType
  | databaseSet
  | audioEngineMode
  | videoEngineMode
  | positiveNoRtpTimeout
  | audioPort
  | videoPort
  | audioCodecs
  | vp8
  | videoPayloadType
  | dtlsDirectory
  | natAddresses
  | focusUris
  | outboundProxy
  | factoryUris
  | chatroomCategory
  deriving DecidableEq, Repr

/-- The requirements up to the codecs, in the order in which they are checked. -/
def mediaRequirements : List Requirement :=
  [.transportSet, .transportAccepted, .transportUri, .someMediaType, .databaseSet,
    .audioEngineMode, .videoEngineMode, .positiveNoRtpTimeout, .audioPort, .videoPort,
    .audioCodecs, .vp8, .videoPayloadType]

/-- The requirements behind the directory of the certificates. -/
def accountRequirements : List Requirement :=
  [.natAddresses, .focusUris, .outboundProxy, .factoryUris, .chatroomCategory]

/-- All of them. -/
def requirements : List Requirement :=
  mediaRequirements ++ .dtlsDirectory :: accountRequirements

section Requirements

variable (T : Setting A R P) (conf : Config) (env : Env A)

/-- The audio codecs that are to be supported. -/
def audioCodecNames : List String :=
  if conf.audioEngineMode = "sfu" then conf.supportedAudioCodecs.take 1
  else conf.supportedAudioCodecs

/-- Some names are the lower case of no payload type's MIME type; what this is
    complained about with. -/
def CodecsUnsupported (codecs : List P) (mimeTypes : List String) (parameter : String)
    (stop : Stop) : Prop :=
  unclaimed T.utils T.getMimeType mimeTypes codecs ≠ [] ∧
    stop = .raised (.badConfigurationValue parameter (some ("unsupported codecs in the list: " ++
      T.utils.join (unclaimed T.utils T.getMimeType mimeTypes codecs))))

/-- **What is wrong with a configuration**: the requirement is violated, and this is
    what `_init` is stopped with on account of it. -/
def Violated : Requirement → Stop → Prop
  | .transportSet, stop =>
      conf.transport = "" ∧ stop = .raised (.badConfigurationEmpty "transport")
  | .transportAccepted, stop =>
      ∃ err, T.configureTransport conf.transport = some err ∧ stop = .raised err
  | .transportUri, stop =>
      T.sdk.sipUri conf.transport = none ∧ stop = .raised (.invalidUrl conf.transport)
  | .someMediaType, stop =>
      (∀ mediaType ∈ ["audio", "video", "text"], mediaType ∉ conf.supportedMediaTypes) ∧
        stop = .raised (.badConfigurationWithHelp "supported-media-types"
          ("no media types enabled in " ++
            "conference server (at least one media type must be enabled)"))
  | .databaseSet, stop =>
      "text" ∈ conf.supportedMediaTypes ∧ conf.databaseConnectionString = "" ∧
        stop = .raised (.badConfigurationWithHelp "database-connection-string"
          (T.getCompleteName "database-connection-string" ++
            " is not set but is mandatory when 'text' media type is enabled"))
  | .audioEngineMode, stop =>
      ∃ err, T.configureMediaEngineMode .audio conf.audioEngineMode = some err ∧
        stop = .raised err
  | .videoEngineMode, stop =>
      ∃ err, T.configureMediaEngineMode .video conf.videoEngineMode = some err ∧
        stop = .raised err
  | .positiveNoRtpTimeout, stop =>
      conf.noRtpTimeout ≤ 0 ∧ stop = .raised
        (.badConfigurationValue "no-rtp-timeout" (some "duration must be strictly positive"))
  | .audioPort, stop => ∃ err, T.setMediaPort .audio conf.audioPort = some err ∧ stop = .raised err
  | .videoPort, stop => ∃ err, T.setMediaPort .video conf.videoPort = some err ∧ stop = .raised err
  | .audioCodecs, stop =>
      -- in the mode `sfu` there must be a first one
      conf.audioEngineMode = "sfu" ∧ conf.supportedAudioCodecs = [] ∧ stop = .undefined ∨
        CodecsUnsupported T T.audioPayloadTypes (audioCodecNames conf) "supported-audio-codecs" stop
  | .vp8, stop =>
      conf.supportedVideoCodec ≠ "vp8" ∧ stop = .raised (.badConfigurationValue
        "supported-video-codec" (some "only VP8 is supported as of today for video conferences"))
  | .videoPayloadType, stop =>
      CodecsUnsupported T T.videoPayloadTypes [conf.supportedVideoCodec]
        "supported-video-codec" stop
  | .dtlsDirectory, stop =>
      env.dtlsDirectory.Fails ∧ stop = directoryError (getStateDir conf "dtls-srtp")
  | .natAddresses, stop =>
      ∃ err, T.configureNatAddresses conf.natAddresses = some err ∧ stop = .raised err
  | .focusUris, stop =>
      conf.conferenceFocusUris.length < conf.conferenceFactoryUris.length ∧
        stop = .raised (.badConfiguration
          (mustMatch conf.conferenceFactoryUris conf.conferenceFocusUris).message)
  | .outboundProxy, stop =>
      T.sdk.createAddress conf.outboundProxy = none ∧
        stop = .raised (.badConfigurationValue "outbound-proxy" none)
  | .factoryUris, stop =>
      (∃ uri ∈ conf.conferenceFactoryUris, T.sdk.createAddress uri = none) ∧ stop = .undefined
  | .chatroomCategory, stop =>
      conf.handledChatroomCategory ∉ ["all", "legacy", "focus", "legacy-and-focus"] ∧
        stop = .raised (.badConfigurationValue "handled-chatroom-category"
          (some "unsupported value"))

/-- Nothing is wrong with a configuration. -/
def NothingWrong : Prop := Met (Violated T conf env) requirements

/-- The domains of the factory URIs. -/
def factoryDomains : List String :=
  conf.conferenceFactoryUris.filterMap
    (fun uri => (T.sdk.createAddress uri).map T.sdk.getDomain)

/-- The pairs of URIs, the accounts, the local domains and the chat rooms to
    handle, as the configuration says. -/
def configured : Option (List (String × String) × Setup A × HandlingSet) := do
  let outboundProxyAddress ← T.sdk.createAddress conf.outboundProxy
  let handlingSet ← getChatRoomsHandlingSet conf.handledChatroomCategory
  let uris := conf.conferenceFactoryUris.zip conf.conferenceFocusUris
  let accountList := uris.map (Accounts.createAccount T.sdk.toSdk outboundProxyAddress)
  pure (uris, { accountList := accountList
                defaultAccount := accountList.head?
                mLocalDomains := unique
                  ((factoryDomains T conf ++ conf.localDomains).insertionSort (· ≤ ·)) },
    handlingSet)

end Requirements

/-! ## What the checks complain about -/

theorem throwIf_eq_some_iff {p : Prop} [Decidable p] {err : StartError} {stop : Stop} :
    throwIf p err = some stop ↔ p ∧ stop = .raised err := by
  rw [throwIf, Option.ite_none_right_eq_some, Option.some_inj, eq_comm (a := Stop.raised err)]

/-- What the library raises is let through. -/
theorem raised_eq_some_iff {complaint : Option StartError} {stop : Stop} :
    complaint.map .raised = some stop ↔ ∃ err, complaint = some err ∧ stop = .raised err := by
  rw [Option.map_eq_some_iff]
  exact exists_congr (fun err => and_congr_right (fun _ => eq_comm))

/-- A codec is unsupported when it is the lower case of no MIME type. -/
theorem codecError_eq_some_iff (T : Setting A R P) {codecs : List P} {mimeTypes : List String}
    {parameter : String} {stop : Stop} :
    codecError T codecs mimeTypes parameter = some stop ↔
      CodecsUnsupported T codecs mimeTypes parameter stop := by
  rw [codecError, CodecsUnsupported, ← Codecs.codecLoop_left, Codecs.enableSelectedCodecs_eq]
  split
  · rename_i err herr
    split at herr
    · cases herr
    · rename_i hleft
      rw [← Except.error.inj herr, and_iff_right hleft, Option.some_inj, eq_comm]
  · rename_i enabled hok
    split at hok
    · rename_i hleft
      exact iff_of_false (Option.some_ne_none _).symm (fun h => h.1 hleft)
    · cases hok

/-- The check of the audio codecs, in its two outcomes: a name of no codec raises,
    and in sfu mode an empty list has no first codec. -/
theorem audioCodecError_eq_some_iff (T : Setting A R P) (conf : Config) (env : Env A)
    {stop : Stop} :
    audioCodecError T conf = some stop ↔ Violated T conf env .audioCodecs stop := by
  rw [audioCodecError, Violated, audioCodecNames]
  by_cases hsfu : conf.audioEngineMode = "sfu"
  · rw [if_pos hsfu, if_pos hsfu]
    cases conf.supportedAudioCodecs with
    | nil => simp [hsfu, CodecsUnsupported, unclaimed, eq_comm]
    | cons front rest =>
        show codecError T _ [front] _ = some stop ↔ _
        rw [codecError_eq_some_iff]
        simp
  · rw [if_neg hsfu, if_neg hsfu, codecError_eq_some_iff]
    simp [hsfu]

/-- No media type is on when none of the three words is in the setting. -/
theorem noMediaType_iff (conf : Config) :
    (!(readMediaTypes conf.supportedMediaTypes).audioEnabled &&
        !(readMediaTypes conf.supportedMediaTypes).videoEnabled &&
        !(readMediaTypes conf.supportedMediaTypes).textEnabled) = true ↔
      ∀ mediaType ∈ ["audio", "video", "text"], mediaType ∉ conf.supportedMediaTypes := by
  simp [readMediaTypes, and_assoc]

theorem noDatabase_iff (conf : Config) :
    ((readMediaTypes conf.supportedMediaTypes).textEnabled &&
        conf.databaseConnectionString.isEmpty) = true ↔
      "text" ∈ conf.supportedMediaTypes ∧ conf.databaseConnectionString = "" := by
  simp [readMediaTypes]

/-- Four words stand for a handling set. -/
theorem getChatRoomsHandlingSet_eq_none_iff (value : String) :
    getChatRoomsHandlingSet value = none ↔
      value ∉ ["all", "legacy", "focus", "legacy-and-focus"] := by
  rw [getChatRoomsHandlingSet]
  split_ifs <;> simp_all

/-- **The media** are checked requirement by requirement. -/
theorem screens_configureMedia (T : Setting A R P) (conf : Config) (env : Env A) :
    Screens (Violated T conf env) mediaRequirements (configureMedia T conf) (fun _ => True) := by
  rw [configureMedia]
  refine .check ?_ <| .check ?_ <| .check ?_ <| .check ?_ <| .check ?_ <| .check ?_ <|
    .check ?_ <| .check ?_ <| .check ?_ <| .check ?_ <| .check ?_ <| .check ?_ <|
    .check ?_ <| .pure trivial
  · intro stop
    rw [throwIf_eq_some_iff, String.isEmpty_iff]
    rfl
  · exact fun stop => raised_eq_some_iff
  · exact fun stop => throwIf_eq_some_iff
  · intro stop
    rw [throwIf_eq_some_iff, noMediaType_iff]
    rfl
  · intro stop
    rw [throwIf_eq_some_iff, noDatabase_iff, and_assoc]
    rfl
  · exact fun stop => raised_eq_some_iff
  · exact fun stop => raised_eq_some_iff
  · exact fun stop => throwIf_eq_some_iff
  · exact fun stop => raised_eq_some_iff
  · exact fun stop => raised_eq_some_iff
  · exact fun stop => audioCodecError_eq_some_iff T conf env
  · exact fun stop => throwIf_eq_some_iff
  · exact fun stop => codecError_eq_some_iff T

/-- A requirement of the server itself is met when it is not violated. -/
theorem never_stops_iff {p : Prop} {stop : Stop} : (∀ stop', ¬ (p ∧ stop' = stop)) ↔ ¬ p :=
  ⟨fun h hp => h stop ⟨hp, rfl⟩, fun h _ hboth => h hboth.1⟩

/-- One of the library is met when it raises nothing. -/
theorem never_raises_iff {complaint : Option StartError} :
    (∀ stop, ¬ ∃ err, complaint = some err ∧ stop = Stop.raised err) ↔ complaint = none := by
  constructor
  · intro h
    refine Option.eq_none_iff_forall_ne_some.mpr ?_
    intro err herr
    exact h _ ⟨err, herr, rfl⟩
  · rintro rfl stop ⟨err, herr, -⟩
    cases herr

/-! ## Up to the start of the Core -/

/-- **The account loop** makes an account for each pair, unless a factory URI is
    no address. -/
theorem accountLoop_run (S : Sdk A R) (outboundProxyAddress : A) (uris : List (String × String)) :
    ∀ setup : Setup A, accountLoop S outboundProxyAddress uris setup =
      if uris.any (fun p => (S.createAddress p.1).isNone) then none
      else some
        { accountList := setup.accountList ++
            uris.map (Accounts.createAccount S outboundProxyAddress)
          defaultAccount := setup.defaultAccount <|>
            (uris.map (Accounts.createAccount S outboundProxyAddress)).head?
          mLocalDomains := setup.mLocalDomains ++
            uris.filterMap (fun p => (S.createAddress p.1).map S.getDomain) } := by
  induction uris with
  | nil =>
      intro setup
      simp [accountLoop]
  | cons p rest ih =>
      intro setup
      rw [accountLoop, List.foldlM_cons, Accounts.accountTurn]
      cases hfactory : S.createAddress p.1 with
      | none => simp [hfactory]
      | some factoryUri =>
          show accountLoop S outboundProxyAddress rest _ = _
          rw [ih]
          simp only [List.any_cons, hfactory, Option.isNone_some, Bool.false_or, List.map_cons,
            List.filterMap_cons, Option.map_some, List.head?_cons]
          split
          · rfl
          · cases setup.defaultAccount <;> simp

/-- The pairs are as many as the factory URIs when none is missing, and are
    looked at through these. -/
theorem any_zip {S : Sdk A R} {factoryUris focusUris : List String}
    (hle : factoryUris.length ≤ focusUris.length) :
    (factoryUris.zip focusUris).any (fun p => (S.createAddress p.1).isNone) =
      factoryUris.any (fun uri => (S.createAddress uri).isNone) := by
  conv_rhs => rw [← List.map_fst_zip hle, List.any_map]
  rfl

/-- Pairing the lists loses no factory URI as long as there are focus URIs for all.
    -/
theorem filterMap_zip {S : Sdk A R} {factoryUris focusUris : List String}
    (hle : factoryUris.length ≤ focusUris.length) :
    (factoryUris.zip focusUris).filterMap (fun p => (S.createAddress p.1).map S.getDomain) =
      factoryUris.filterMap (fun uri => (S.createAddress uri).map S.getDomain) := by
  conv_rhs => rw [← List.map_fst_zip hle, List.filterMap_map]
  rfl

/-- **The accounts** are checked requirement by requirement, and come to what is
    configured. -/
theorem screens_configureAccounts (T : Setting A R P) (conf : Config) (env : Env A) :
    Screens (Violated T conf env) accountRequirements (configureAccounts T conf)
      (fun v => configured T conf = some v) := by
  rw [configureAccounts]
  refine .check (fun stop => raised_eq_some_iff) (.cons ?focusUris fun huris => ?_)
  case focusUris =>
    rintro stop ⟨hlt, rfl⟩ issued
    rw [loadFactoryUris_eq, if_neg (Nat.not_le.mpr hlt)]
    rfl
  have hle : conf.conferenceFactoryUris.length ≤ conf.conferenceFocusUris.length :=
    Nat.not_lt.mp (never_stops_iff.mp huris)
  rw [loadFactoryUris_eq, if_pos hle]
  refine .cons ?outboundProxy fun hproxy => ?_
  case outboundProxy =>
    rintro stop ⟨hnone, rfl⟩ issued
    simp only [hnone]
    rfl
  obtain ⟨outboundProxyAddress, hproxy⟩ :=
    Option.ne_none_iff_exists'.mp (never_stops_iff.mp hproxy)
  simp only [hproxy]
  have hloop := accountLoop_run T.sdk.toSdk outboundProxyAddress
    (conf.conferenceFactoryUris.zip conf.conferenceFocusUris) ⟨[], none, []⟩
  rw [any_zip hle, filterMap_zip hle] at hloop
  have hany : conf.conferenceFactoryUris.any (fun uri => (T.sdk.createAddress uri).isNone) =
      true ↔ ∃ uri ∈ conf.conferenceFactoryUris, T.sdk.createAddress uri = none := by
    simp only [List.any_eq_true, Option.isNone_iff_eq_none]
  refine .cons ?factoryUris fun hfactories => ?_
  case factoryUris =>
    rintro stop ⟨hnone, rfl⟩ issued
    rw [if_pos (hany.mpr hnone)] at hloop
    simp only [hloop]
    rfl
  rw [if_neg (fun h => never_stops_iff.mp hfactories (hany.mp h))] at hloop
  simp only [hloop]
  refine .cons ?category fun hcategory => ?_
  case category =>
    rintro stop ⟨hunknown, rfl⟩ issued
    simp only [(getChatRoomsHandlingSet_eq_none_iff _).mpr hunknown]
    rfl
  obtain ⟨handlingSet, hset⟩ := Option.ne_none_iff_exists'.mp (fun hnone =>
    never_stops_iff.mp hcategory ((getChatRoomsHandlingSet_eq_none_iff _).mp hnone))
  simp only [hset]
  refine .pure ?_
  rw [configured, hproxy, hset]
  rfl

/-! ## The start of the Core and what follows -/

section Plan

variable (T : Setting A R P) (conf : Config) (env : Env A)

/-- What `ensureDirectoryCreated` does outside. -/
def directoryEffects (directory : String) (outcome : DirectoryCheck) : List Effect :=
  if outcome.stat = .noEntry then [.system (mkdirCommand directory)] else []

/-- What is done about the directory of the certificates. -/
def dtlsEffects : List Effect := directoryEffects (getStateDir conf "dtls-srtp") env.dtlsDirectory

/-- What seeing to the uuid does outside. -/
def uuidEffects : List Effect :=
  if (readUuid env.files env.uuidFile).isEmpty then
    directoryEffects (getStateDir conf "") env.files.directory ++
      if env.files.writable then [.writeUuid (coreUuid env)] else []
  else []

/-- The bindings of a server, when the registrar can be written. -/
def bindingEffects (server : Server A) : List Effect :=
  if env.isWritable then
    (bindings T.sdk server.binding (surroundings T env server.setup server.mUuid)).map .request
  else []

/-- All that `_init` has to do outside to bring up a server. -/
def plan (server : Server A) : List Effect :=
  dtlsEffects conf env ++ .startCore ::
    (uuidEffects conf env ++ .addStateListener :: bindingEffects T env server)

end Plan

theorem yields_ensureDirectoryCreated (directory : String) (outcome : DirectoryCheck) :
    Yields (ensureDirectoryCreated directory outcome) () (directoryEffects directory outcome) :=
  (issues_ite _ (fun _ => issues_issue _ _) (fun _ => issues_pure _)).yields

/-- **When a directory stops `_init`**: when `stat` does not find it, and it cannot be
    made. -/
theorem returns_ensureDirectoryCreated_iff (directory : String) (outcome : DirectoryCheck)
    (issued : List Effect) :
    Returns (ensureDirectoryCreated directory outcome) issued ↔ ¬ outcome.Fails := by
  rw [ensureDirectoryCreated, DirectoryCheck.Fails]
  by_cases hstat : outcome.stat = .noEntry
  · rw [if_pos hstat, returns_issue_iff, and_iff_right hstat]
    by_cases hfails : outcome.mkdirFails
    · rw [if_pos hfails]
      exact iff_of_false (Option.some_ne_none _) (not_not_intro hfails)
    · rw [if_neg hfails]
      exact iff_of_true rfl hfails
  · rw [if_neg hstat]
    exact iff_of_true (returns_pure _ _) (fun h => hstat h.1)

/-- A directory that is not there and cannot be made raises its error, after the
    command. -/
theorem ensureDirectoryCreated_of_fails {directory : String} {outcome : DirectoryCheck}
    (h : outcome.Fails) (issued : List Effect) :
    ensureDirectoryCreated directory outcome issued =
      (.error (directoryError directory), issued ++ directoryEffects directory outcome) := by
  rw [ensureDirectoryCreated, directoryEffects, if_pos h.1, if_pos h.1, if_pos h.2]
  rfl

theorem issues_writeUuid (conf : Config) (env : Env A) (uuid : String) :
    Issues (writeUuid conf env uuid)
      (directoryEffects (getStateDir conf "") env.files.directory ++
        if env.files.writable then [.writeUuid uuid] else []) := by
  refine Issues.bind ?_
    (fun _ => issues_ite _ (fun _ => issues_issue _ _) (fun _ => issues_pure _))
  exact issues_ite _ (fun _ => issues_issue _ _) (fun _ => issues_pure _)

/-- The server has a uuid afterwards: the one of the file, or that of the core,
    written to the file. -/
theorem yields_settleUuid (conf : Config) (env : Env A) :
    Yields (settleUuid conf env) (coreUuid env) (uuidEffects conf env) := by
  rw [settleUuid, uuidEffects]
  cases huuid : (readUuid env.files env.uuidFile).isEmpty with
  | true =>
      have hall := (issues_writeUuid conf env (coreUuid env)).yields.bind (f := fun _ => _)
        (yields_pure (coreUuid env))
      rw [List.append_nil] at hall
      exact hall
  | false =>
      -- the Core keeps the uuid that it is given
      have hkeeps : coreUuid env = readUuid env.files env.uuidFile :=
        env.core.keeps _ (String.isEmpty_eq_false_iff.mp huuid)
      rw [if_neg Bool.false_ne_true, if_neg (not_not_intro hkeeps), if_neg Bool.false_ne_true,
        hkeeps]
      exact yields_pure _

theorem issues_bindAddresses (T : Setting A R P) (env : Env A) (server : Server A) :
    Issues (bindAddresses T env server) (bindingEffects T env server) :=
  issues_ite _ (fun _ => (issues_bindAll _ _ _).embed _ _) (fun _ => issues_pure _)

/-- What `_init` meets outside lets it bring up the server. -/
structure Succeeds (T : Setting A R P) (env : Env A) (server : Server A) : Prop where
  status : 0 ≤ env.status
  directory : readUuid env.files env.uuidFile = "" → ¬ env.files.directory.Fails
  bindings : env.isWritable = true →
    Returns (bindAll T.sdk server.binding (surroundings T env server.setup server.mUuid)) []

theorem returns_startCore_iff (env : Env A) (issued : List Effect) :
    Returns (startCore env) issued ↔ 0 ≤ env.status := by
  rw [startCore, returns_issue_iff, throwIf]
  by_cases hdb : env.status = -2
  · rw [if_pos hdb]
    exact iff_of_false (Option.some_ne_none _) (by omega)
  · rw [if_neg hdb]
    by_cases hneg : env.status < 0
    · rw [if_pos hneg]
      exact iff_of_false (Option.some_ne_none _) (by omega)
    · rw [if_neg hneg]
      exact iff_of_true rfl (by omega)

/-- Writing the uuid is stopped by the state directory only: what becomes of the
    file is not looked at. -/
theorem returns_writeUuid_iff (conf : Config) (env : Env A) (uuid : String)
    (issued : List Effect) :
    Returns (writeUuid conf env uuid) issued ↔ ¬ env.files.directory.Fails := by
  rw [writeUuid, (yields_ensureDirectoryCreated _ _).returns_bind_iff,
    returns_ensureDirectoryCreated_iff]
  refine and_iff_left ?_
  cases env.files.writable with
  | false => exact returns_pure _ _
  | true => exact ⟨_, rfl⟩

/-- A uuid that was read need not be written. -/
theorem returns_settleUuid_iff (conf : Config) (env : Env A) (issued : List Effect) :
    Returns (settleUuid conf env) issued ↔
      (readUuid env.files env.uuidFile = "" → ¬ env.files.directory.Fails) := by
  rw [settleUuid]
  by_cases huuid : readUuid env.files env.uuidFile = ""
  · rw [imp_iff_right huuid, ← returns_writeUuid_iff conf env (coreUuid env) issued, huuid]
    show Returns (writeUuid conf env (coreUuid env) >>= fun _ => pure (coreUuid env)) issued ↔ _
    rw [(issues_writeUuid conf env (coreUuid env)).yields.returns_bind_iff]
    exact and_iff_left (returns_pure _ _)
  · have hne : (readUuid env.files env.uuidFile).isEmpty = false :=
      String.isEmpty_eq_false_iff.mpr huuid
    have hkeeps : coreUuid env = readUuid env.files env.uuidFile := env.core.keeps _ huuid
    rw [hne, if_neg Bool.false_ne_true, if_neg (not_not_intro hkeeps)]
    exact iff_of_true (returns_pure _ _) (fun h => absurd h huuid)

/-- Without a writable registrar there is no pass to raise. -/
theorem returns_bindAddresses_iff (T : Setting A R P) (env : Env A) (server : Server A)
    (issued : List Effect) :
    Returns (bindAddresses T env server) issued ↔ (env.isWritable = true →
      Returns
        (bindAll T.sdk server.binding (surroundings T env server.setup server.mUuid)) []) := by
  rw [bindAddresses]
  split
  · rename_i hwritable
    rw [returns_embed_iff, imp_iff_right hwritable]
  · rename_i hwritable
    exact iff_of_true (returns_pure _ _) (fun h => absurd h hwritable)

/-- What `_init` does once the Core is started. -/
def finish (T : Setting A R P) (conf : Config) (env : Env A)
    (v : List (String × String) × Setup A × HandlingSet) :
    Procedure Effect Stop (Server A) :=
  settleUuid conf env >>= fun mUuid => issue (fun _ _ => none) .addStateListener >>= fun _ =>
    bindAddresses T env (server T conf env v.1 v.2.1 v.2.2 mUuid) >>= fun _ =>
      pure (server T conf env v.1 v.2.1 v.2.2 mUuid)

theorem bringUp_finish (T : Setting A R P) (conf : Config) (env : Env A)
    (v : List (String × String) × Setup A × HandlingSet) :
    bringUp T conf env v = startCore env >>= fun _ => finish T conf env v :=
  rfl

section Finish

variable (T : Setting A R P) (conf : Config) (env : Env A)
  (v : List (String × String) × Setup A × HandlingSet)

/-- It yields the server, after its effects in order. -/
theorem yields_finish :
    Yields (finish T conf env v) (server T conf env v.1 v.2.1 v.2.2 (coreUuid env))
      (uuidEffects conf env ++ .addStateListener ::
        bindingEffects T env (server T conf env v.1 v.2.1 v.2.2 (coreUuid env))) := by
  refine (yields_settleUuid conf env).bind ?_
  refine (issues_issue _ Effect.addStateListener).yields.bind ?_
  have hbind := (issues_bindAddresses T env (server T conf env v.1 v.2.1 v.2.2
    (coreUuid env))).yields.bind (f := fun _ => _) (yields_pure (server T conf env v.1 v.2.1 v.2.2
      (coreUuid env)))
  rw [List.append_nil] at hbind
  exact hbind

/-- It returns when the uuid can be kept and the pass does not raise. -/
theorem returns_finish_iff (issued : List Effect) :
    Returns (finish T conf env v) issued ↔
      (readUuid env.files env.uuidFile = "" → ¬ env.files.directory.Fails) ∧
        (env.isWritable = true → Returns (bindAll T.sdk
          (server T conf env v.1 v.2.1 v.2.2 (coreUuid env)).binding
          (surroundings T env v.2.1 (coreUuid env))) []) := by
  rw [finish, (yields_settleUuid conf env).returns_bind_iff, returns_settleUuid_iff,
    (issues_issue _ Effect.addStateListener).yields.returns_bind_iff, returns_issue_iff,
    and_iff_right rfl, (issues_bindAddresses T env _).yields.returns_bind_iff,
    returns_bindAddresses_iff, and_iff_left (returns_pure _ _)]
  rfl

/-- **From the start of the Core on**: the server and the rest of the plan, or the
    beginning of it, when something that is met outside fails. -/
theorem bringUp_run (issued : List Effect) :
    let srv := server T conf env v.1 v.2.1 v.2.2 (coreUuid env)
    let rest := uuidEffects conf env ++ .addStateListener :: bindingEffects T env srv
    (Succeeds T env srv → bringUp T conf env v issued = (.ok srv, issued ++ .startCore :: rest)) ∧
    (¬ Succeeds T env srv → ∃ err done, done <+: rest ∧
      bringUp T conf env v issued = (.error err, issued ++ .startCore :: done)) := by
  intro srv rest
  have hstart : Yields (startCore env) () [.startCore] := (issues_issue _ _).yields
  rw [bringUp_finish]
  by_cases hstatus : 0 ≤ env.status
  · have hrun := hstart.run_of_returns ((returns_startCore_iff env issued).mpr hstatus)
    have hsucceeds : Succeeds T env srv ↔
        Returns (finish T conf env v) (issued ++ [.startCore]) := by
      rw [returns_finish_iff]
      exact ⟨fun h => ⟨h.directory, h.bindings⟩, fun h => ⟨hstatus, h.1, h.2⟩⟩
    rw [hsucceeds, bind_of_ok _ hrun]
    constructor
    · intro hreturns
      rw [(yields_finish T conf env v).run_of_returns hreturns, List.append_assoc]
      rfl
    · intro hnot
      obtain ⟨err, done, hdone, hraise⟩ := (yields_finish T conf env v).run_of_not_returns hnot
      refine ⟨err, done, hdone, ?_⟩
      rw [hraise, List.append_assoc]
      rfl
  · -- the Core does not start
    refine ⟨fun h => absurd h.status hstatus, ?_⟩
    intro _
    have hraise : ∃ err, startCore env issued = (.error err, issued ++ [.startCore]) := by
      have hnot : ¬ Returns (startCore env) issued :=
        fun h => hstatus ((returns_startCore_iff env issued).mp h)
      rw [startCore, returns_issue_iff] at hnot
      obtain ⟨err, herr⟩ := Option.ne_none_iff_exists'.mp hnot
      exact ⟨err, by rw [startCore, issue, herr]⟩
    obtain ⟨err, hrun⟩ := hraise
    exact ⟨err, [], List.nil_prefix, bind_of_error _ hrun⟩

end Finish

/-! ## Configurations with nothing wrong -/

/-- What the server itself asks of a configuration. -/
structure WellSet (conf : Config) : Prop where
  transport : conf.transport ≠ ""
  mediaTypes : ∃ mediaType ∈ ["audio", "video", "text"], mediaType ∈ conf.supportedMediaTypes
  database : "text" ∈ conf.supportedMediaTypes → conf.databaseConnectionString ≠ ""
  noRtpTimeout : 0 < conf.noRtpTimeout
  audioCodecs : conf.audioEngineMode = "sfu" → conf.supportedAudioCodecs ≠ []
  videoCodec : conf.supportedVideoCodec = "vp8"
  uris : conf.conferenceFactoryUris.length ≤ conf.conferenceFocusUris.length
  category : conf.handledChatroomCategory ∈ ["all", "legacy", "focus", "legacy-and-focus"]

/-- What the library and the Core ask of it. -/
structure LibraryAccepts (T : Setting A R P) (conf : Config) : Prop where
  transport : T.configureTransport conf.transport = none
  mTransport : T.sdk.sipUri conf.transport ≠ none
  audioEngineMode : T.configureMediaEngineMode .audio conf.audioEngineMode = none
  videoEngineMode : T.configureMediaEngineMode .video conf.videoEngineMode = none
  audioPort : T.setMediaPort .audio conf.audioPort = none
  videoPort : T.setMediaPort .video conf.videoPort = none
  audioCodecs : ∀ mime ∈ audioCodecNames conf, ∃ codec ∈ T.audioPayloadTypes,
    mime = T.utils.toLower (T.getMimeType codec)
  videoCodec : ∃ codec ∈ T.videoPayloadTypes,
    conf.supportedVideoCodec = T.utils.toLower (T.getMimeType codec)
  natAddresses : T.configureNatAddresses conf.natAddresses = none
  outboundProxy : T.sdk.createAddress conf.outboundProxy ≠ none
  factories : ∀ uri ∈ conf.conferenceFactoryUris, T.sdk.createAddress uri ≠ none

/-- No codec is unsupported when each name of the setting is that of a codec of the
    core. -/
theorem codecs_supported_iff (T : Setting A R P) {codecs : List P} {mimeTypes : List String}
    {parameter : String} : (∀ stop, ¬ CodecsUnsupported T codecs mimeTypes parameter stop) ↔
      ∀ mime ∈ mimeTypes, ∃ codec ∈ codecs, mime = T.utils.toLower (T.getMimeType codec) := by
  simp only [CodecsUnsupported, never_stops_iff, not_not, List.eq_nil_iff_forall_not_mem,
    Codecs.mem_unclaimed]
  push Not
  rfl

/-- **When nothing is wrong.** -/
theorem nothingWrong_iff (T : Setting A R P) (conf : Config) (env : Env A) :
    NothingWrong T conf env ↔
      ¬ env.dtlsDirectory.Fails ∧ WellSet conf ∧ LibraryAccepts T conf := by
  have haudioCodecs : (∀ stop, ¬ Violated T conf env .audioCodecs stop) ↔
      (conf.audioEngineMode = "sfu" → conf.supportedAudioCodecs ≠ []) ∧
        ∀ mime ∈ audioCodecNames conf, ∃ codec ∈ T.audioPayloadTypes,
          mime = T.utils.toLower (T.getMimeType codec) := by
    simp only [Violated, not_or, forall_and, codecs_supported_iff, ← and_assoc, never_stops_iff]
    exact and_congr_left (fun _ => not_and)
  have hvideoCodec : (∀ stop, ¬ Violated T conf env .videoPayloadType stop) ↔
      ∃ codec ∈ T.videoPayloadTypes,
        conf.supportedVideoCodec = T.utils.toLower (T.getMimeType codec) :=
    (codecs_supported_iff T).trans List.forall_mem_singleton
  have hmediaTypes : (∀ stop, ¬ Violated T conf env .someMediaType stop) ↔
      ∃ mediaType ∈ ["audio", "video", "text"], mediaType ∈ conf.supportedMediaTypes := by
    simp only [Violated, never_stops_iff]
    push Not
    rfl
  have hdatabase : (∀ stop, ¬ Violated T conf env .databaseSet stop) ↔
      ("text" ∈ conf.supportedMediaTypes → conf.databaseConnectionString ≠ "") := by
    simp only [Violated, ← and_assoc, never_stops_iff]
    exact not_and
  have hfactories : (∀ stop, ¬ Violated T conf env .factoryUris stop) ↔
      ∀ uri ∈ conf.conferenceFactoryUris, T.sdk.createAddress uri ≠ none := by
    simp only [Violated, never_stops_iff]
    push Not
    rfl
  simp only [NothingWrong, Met, requirements, mediaRequirements, accountRequirements,
    List.forall_mem_append, List.forall_mem_cons, haudioCodecs, hvideoCodec, hmediaTypes, hdatabase,
    hfactories]
  simp only [Violated, never_stops_iff, never_raises_iff]
  constructor
  · rintro ⟨⟨htransport, hconfigure, hsip, htypes, hdatabase, haudioMode, hvideoMode, htimeout,
      haudioPort, hvideoPort, ⟨hsfu, haudio⟩, hvp8, hvideo, -⟩, hdir, hnat, huris, hproxy,
      hfactories, hcategory, -⟩
    exact ⟨hdir, ⟨htransport, htypes, hdatabase, Int.not_le.mp htimeout, hsfu, not_not.mp hvp8,
        Nat.not_lt.mp huris, not_not.mp hcategory⟩,
      ⟨hconfigure, hsip, haudioMode, hvideoMode, haudioPort, hvideoPort, haudio, hvideo, hnat,
        hproxy, hfactories⟩⟩
  · rintro ⟨hdir, hown, hlibrary⟩
    refine ⟨⟨hown.transport, hlibrary.transport, hlibrary.mTransport, hown.mediaTypes,
      hown.database, hlibrary.audioEngineMode, hlibrary.videoEngineMode,
      Int.not_le.mpr hown.noRtpTimeout, hlibrary.audioPort, hlibrary.videoPort,
      ⟨hown.audioCodecs, hlibrary.audioCodecs⟩, not_not_intro hown.videoCodec,
      hlibrary.videoCodec, ?_⟩, hdir, hlibrary.natAddresses, Nat.not_lt.mpr hown.uris,
      hlibrary.outboundProxy, hlibrary.factories, not_not_intro hown.category, ?_⟩
    · exact List.forall_mem_nil _
    · exact List.forall_mem_nil _

/-! ## The default values, and a sample -/

/-- The default values of the section. -/
def defaultConfig : Config where
  transport := "sip:127.0.0.1:6064;transport=tcp"
  checkCapabilities := true
  stateDirectory := "/var/opt/belledonne-communications/flexisip-conference/lib"
  supportedMediaTypes := ["text"]
  databaseConnectionString := "db='mydb' user='myuser' password='mypass' host='myhost.com'"
  audioEngineMode := "mixer"
  videoEngineMode := "semi-sfu"
  noRtpTimeout := 30000
  audioPort := (0, 0)
  videoPort := (0, 0)
  supportedAudioCodecs := ["opus", "speex", "pcmu", "pcma"]
  supportedVideoCodec := "vp8"
  natAddresses := []
  conferenceFactoryUris := []
  conferenceFocusUris := []
  outboundProxy := "sip:127.0.0.1:5060;transport=tcp"
  localDomains := []
  handledChatroomCategory := "all"

/-- **Every default passes its own check.** -/
theorem wellSet_defaultConfig : WellSet defaultConfig where
  transport := by decide
  mediaTypes := by decide
  database := by decide
  noRtpTimeout := by decide
  audioCodecs := by decide
  videoCodec := by decide
  uris := by decide
  category := by decide

/-- A Core with the default codecs, and a library that raises nothing. -/
def sampleSetting : Setting String (BitVec 32) (String × Nat) where
  sdk := Bindings.stringBindingSdk
  utils := Codecs.asciiUtils
  getMimeType := Prod.fst
  audioPayloadTypes := [("opus", 48000), ("speex", 16000), ("PCMU", 8000), ("PCMA", 8000)]
  videoPayloadTypes := [("VP8", 90000), ("H264", 90000)]
  getAccountList accounts := accounts.filterMap fun account =>
    account.params.identityAddress.map fun identityAddress =>
      ⟨identityAddress, account.params.conferenceFactoryAddress.getD ""⟩
  getCompleteName name := "conference-server/" ++ name
  configureTransport _ := none
  configureMediaEngineMode _ _ := none
  setMediaPort _ _ := none
  configureNatAddresses _ := none
  mPath := ""

/-- Two factories in one domain, and two more local domains. -/
def sampleConfig : Config :=
  { defaultConfig with
    conferenceFactoryUris := ["sip:factory-1@b.org", "sip:factory-2@b.org"]
    conferenceFocusUris := ["sip:focus-1@b.org", "sip:focus-2@b.org"]
    localDomains := ["c.org", "a.org", "b.org"] }

/-- A first start, on a registrar that can be written, with an old chat room. -/
def sampleEnv : Env String where
  dtlsDirectory := ⟨.noEntry, 0⟩
  files := ⟨true, ⟨.found, 0⟩, true⟩
  uuidFile := none
  core := Restarts.drawing "u1" Restarts.word_u1
  status := 0
  chatRooms := ["sip:chatroom-1@b.org;gr=old"]
  isWritable := true
  raises _ _ := none

theorem nothingWrong_sample : NothingWrong sampleSetting sampleConfig sampleEnv :=
  (nothingWrong_iff _ _ _).mpr
    ⟨by decide,
      ⟨by decide, by decide, by decide, by decide, by decide, by decide, by decide, by decide⟩,
      ⟨rfl, by decide, rfl, rfl, rfl, rfl, by decide, by decide, rfl, by decide, by decide⟩⟩

/-! ## A whole start -/

section Start

variable (T : Setting A R P) (conf : Config) (env : Env A)

/-- **A start in two halves**: it stops with the first requirement that is
    violated, and nothing but the directory of the certificates has been touched by
    then, or it goes on with what is configured. -/
theorem init_run :
    (∀ stop, FirstViolated (Violated T conf env) requirements stop → ∃ effects,
      effects <+: dtlsEffects conf env ∧ init T conf env [] = (.error stop, effects)) ∧
    (NothingWrong T conf env → ∃ v, configured T conf = some v ∧
      init T conf env [] = bringUp T conf env v (dtlsEffects conf env)) := by
  obtain ⟨hmediaStops, hmediaGoes⟩ := screens_configureMedia T conf env []
  obtain ⟨haccountsStop, haccountsGo⟩ :=
    screens_configureAccounts T conf env (dtlsEffects conf env)
  -- the directory of the certificates stands between the two screens
  have hensure : ¬ env.dtlsDirectory.Fails →
      ensureDirectoryCreated (getStateDir conf "dtls-srtp") env.dtlsDirectory [] =
        (.ok (), dtlsEffects conf env) := by
    intro hdir
    exact (yields_ensureDirectoryCreated _ _).run_of_returns
      ((returns_ensureDirectoryCreated_iff _ _ []).mpr hdir)
  constructor
  · intro stop hfirst
    rcases firstViolated_append_iff.mp hfirst with hmedia | ⟨hmet, hfirst⟩
    · exact ⟨[], List.nil_prefix, bind_of_error _ (hmediaStops stop hmedia)⟩
    · obtain ⟨_, -, hmedia⟩ := hmediaGoes hmet
      refine ⟨dtlsEffects conf env, List.prefix_rfl, (bind_of_ok _ hmedia).trans ?_⟩
      rcases firstViolated_cons_iff.mp hfirst with ⟨hdir, rfl⟩ | ⟨hdir, haccounts⟩
      · exact bind_of_error _ (ensureDirectoryCreated_of_fails hdir [])
      · rw [bind_of_ok _ (hensure (never_stops_iff.mp hdir))]
        exact bind_of_error _ (haccountsStop stop haccounts)
  · intro hmet
    obtain ⟨hmedia, hrest⟩ := List.forall_mem_append.mp hmet
    obtain ⟨hdir, haccounts⟩ := List.forall_mem_cons.mp hrest
    obtain ⟨_, -, hmedia⟩ := hmediaGoes hmedia
    obtain ⟨v, hv, hok⟩ := haccountsGo haccounts
    refine ⟨v, hv, (bind_of_ok _ hmedia).trans ?_⟩
    rw [bind_of_ok _ (hensure (never_stops_iff.mp hdir))]
    exact bind_of_ok _ hok

/-- What a start comes to once it has started the Core. -/
theorem bringUp_effects (v : List (String × String) × Setup A × HandlingSet) :
    ∃ result done, bringUp T conf env v (dtlsEffects conf env) =
      (result, dtlsEffects conf env ++ .startCore :: done) := by
  obtain ⟨hup, hraise⟩ := bringUp_run T conf env v (dtlsEffects conf env)
  by_cases hsucceeds : Succeeds T env (server T conf env v.1 v.2.1 v.2.2 (coreUuid env))
  · exact ⟨_, _, hup hsucceeds⟩
  · obtain ⟨stop, done, -, hrun⟩ := hraise hsucceeds
    exact ⟨_, _, hrun⟩

/-- A start stops before it starts the Core exactly with the first requirement that
    is violated. -/
theorem init_stops_iff (stop : Stop) :
    (∃ effects, effects <+: dtlsEffects conf env ∧ init T conf env [] = (.error stop, effects)) ↔
      FirstViolated (Violated T conf env) requirements stop := by
  obtain ⟨hstops, hgoes⟩ := init_run T conf env
  refine ⟨?_, hstops stop⟩
  rintro ⟨effects, hbefore, hrun⟩
  rcases met_or_firstViolated (Violated T conf env) requirements with hmet | ⟨stop', hfirst⟩
  · -- the Core would have been started
    obtain ⟨v, -, hup⟩ := hgoes hmet
    obtain ⟨result, done, heffects⟩ := bringUp_effects T conf env v
    rw [hrun, heffects] at hup
    rw [(Prod.mk.inj hup).2] at hbefore
    have hle := hbefore.length_le
    simp only [List.length_append, List.length_cons] at hle
    omega
  · obtain ⟨effects', -, hrun'⟩ := hstops stop' hfirst
    rw [hrun'] at hrun
    rw [← Except.error.inj (Prod.mk.inj hrun).1]
    exact hfirst

/-- **THE FIRST COMPLAINT.**  A start raises an error before it starts the Core
    exactly when the first violated requirement, in the order of the checks, is one
    that raises it; it comes to something undefined there exactly when the first
    violated requirement leads to that.  Nothing but the directory of the
    certificates has been touched by then. -/
theorem init_raises_first :
    (∀ err, (∃ effects, effects <+: dtlsEffects conf env ∧
        init T conf env [] = (.error (.raised err), effects)) ↔
      FirstViolated (Violated T conf env) requirements (.raised err)) ∧
    ((∃ effects, effects <+: dtlsEffects conf env ∧
        init T conf env [] = (.error .undefined, effects)) ↔
      FirstViolated (Violated T conf env) requirements .undefined) := by
  constructor
  · intro err
    exact init_stops_iff T conf env (.raised err)
  · exact init_stops_iff T conf env .undefined

/-- **THE PLAN OF A START.**  When there is nothing wrong with the configuration,
    the server that it describes comes up exactly when the Core starts, the state
    directory does not stop it where a new uuid is to be written (`stat` does not
    fail with `ENOENT`, or the directory can be made), and the binding pass does not
    raise.  The plan has then been carried out to the end; otherwise to some
    point behind the start of the Core. -/
theorem init_follows_plan (h : NothingWrong T conf env) :
    ∃ v, configured T conf = some v ∧
      let srv := server T conf env v.1 v.2.1 v.2.2 (coreUuid env)
      (Succeeds T env srv → init T conf env [] = (.ok srv, plan T conf env srv)) ∧
      (¬ Succeeds T env srv → ∃ stop done, .startCore ∈ done ∧ done <+: plan T conf env srv ∧
        init T conf env [] = (.error stop, done)) := by
  obtain ⟨v, hv, hrun⟩ := (init_run T conf env).2 h
  refine ⟨v, hv, ?_⟩
  intro srv
  obtain ⟨hup, hraise⟩ := bringUp_run T conf env v (dtlsEffects conf env)
  rw [hrun]
  refine ⟨fun hsucceeds => hup hsucceeds, ?_⟩
  intro hnot
  obtain ⟨stop, done, hdone, hfail⟩ := hraise hnot
  refine ⟨stop, dtlsEffects conf env ++ .startCore :: done, by simp, ?_, hfail⟩
  exact (List.prefix_append_right_inj _).mpr (List.cons_prefix_cons.mpr ⟨rfl, hdone⟩)

end Start

/-- Nothing stops the sample. -/
theorem succeeds_sample {v : List (String × String) × Setup String × HandlingSet}
    (hv : configured sampleSetting sampleConfig = some v) :
    Succeeds sampleSetting sampleEnv
      (server sampleSetting sampleConfig sampleEnv v.1 v.2.1 v.2.2 (coreUuid sampleEnv)) := by
  obtain rfl := Option.some.inj hv
  exact ⟨Int.le_refl 0, fun _ => by decide, fun _ => ⟨(), rfl⟩⟩

/-- A start that makes the directory of the certificates, writes its uuid and binds
    two factories, their focuses and a chat room. -/
theorem init_follows_plan_sample :
    ∃ srv effects, init sampleSetting sampleConfig sampleEnv [] = (.ok srv, effects) ∧
      effects.take 4 =
        [.system ("mkdir -p \"/var/opt/belledonne-communications/flexisip-conference/lib/" ++
          "dtls-srtp\""), .startCore, .writeUuid "u1", .addStateListener] ∧
      effects.length = 11 := by
  obtain ⟨v, hv, hup, -⟩ :=
    init_follows_plan sampleSetting sampleConfig sampleEnv nothingWrong_sample
  refine ⟨_, _, hup (succeeds_sample hv), ?_⟩
  obtain rfl := Option.some.inj hv
  exact ⟨by decide +kernel, by decide +kernel⟩

/-! ## The local domains, and what they decide -/

theorem mem_unique {α : Type} [DecidableEq α] {a : α} {l : List α} :
    a ∈ unique l ↔ a ∈ l := by
  fun_induction unique l with
  | case1 => exact Iff.rfl
  | case2 b => exact Iff.rfl
  | case3 b rest ih => rw [ih, List.mem_cons, List.mem_cons, List.mem_cons, or_self_left]
  | case4 b c rest hne ih => rw [List.mem_cons, ih, ← List.mem_cons]

/-- On a sorted list equal elements are neighbours, so each is left once. -/
theorem pairwise_lt_unique {α : Type} [LinearOrder α] {l : List α} (h : l.Pairwise (· ≤ ·)) :
    (unique l).Pairwise (· < ·) := by
  fun_induction unique l with
  | case1 => exact List.Pairwise.nil
  | case2 a => exact List.pairwise_singleton _ _
  | case3 a rest ih => exact ih (List.pairwise_cons.mp h).2
  | case4 a b rest hne ih =>
      obtain ⟨hfirst, hrest⟩ := List.pairwise_cons.mp h
      refine List.pairwise_cons.mpr ⟨?_, ih hrest⟩
      intro c hc
      have hlt : a < b := lt_of_le_of_ne (hfirst b (List.mem_cons_self ..)) hne
      rcases List.mem_cons.mp (mem_unique.mp hc) with rfl | hin
      · exact hlt
      · exact hlt.trans_le ((List.pairwise_cons.mp hrest).1 c hin)

/-- The local domains are those of the factory URIs and the configured ones. -/
theorem localDomains_of_configured {T : Setting A R P} {conf : Config}
    {v : List (String × String) × Setup A × HandlingSet} (h : configured T conf = some v) :
    v.2.1.mLocalDomains.Pairwise (· < ·) ∧ ∀ domain, domain ∈ v.2.1.mLocalDomains ↔
      domain ∈ factoryDomains T conf ∨ domain ∈ conf.localDomains := by
  obtain ⟨outboundProxyAddress, -, h⟩ := Option.bind_eq_some_iff.mp h
  obtain ⟨handlingSet, -, h⟩ := Option.bind_eq_some_iff.mp h
  obtain rfl := Option.some.inj h
  refine ⟨pairwise_lt_unique (List.pairwise_insertionSort _ _), ?_⟩
  intro domain
  rw [mem_unique, List.mem_insertionSort, List.mem_append]

/-- The server that is up, from the end of its start on. -/
def Server.machine [DecidableEq R] (T : Setting A R P) (env : Env A) (srv : Server A) :
    Machine (Shutdown.Process A R) (Shutdown.Act A R) :=
  Shutdown.machine T.sdk srv.handler srv.binding env.isWritable
    (surroundings T env srv.setup srv.mUuid)

/-- The server is up with the bindings that its start has issued. -/
theorem initState_of_succeeds {T : Setting A R P} {env : Env A} {srv : Server A}
    (h : Succeeds T env srv) :
    (Bindings.initState T.sdk srv.binding env.isWritable
        (surroundings T env srv.setup srv.mUuid)).mAddressesBound = env.isWritable ∧
      (Bindings.initState T.sdk srv.binding env.isWritable
        (surroundings T env srv.setup srv.mUuid)).requests.map Effect.request =
          bindingEffects T env srv := by
  rw [Bindings.initState, bindingEffects]
  cases hwritable : env.isWritable with
  | false => exact ⟨rfl, rfl⟩
  | true =>
      have hpass : ¬ Bindings.PassRaises T.sdk srv.binding (surroundings T env srv.setup srv.mUuid)
          ⟨false, []⟩ := by
        rintro ⟨err, herr⟩
        obtain ⟨a, ha⟩ := h.bindings hwritable
        have hsame : Except.error err = Except.ok a := herr.symm.trans ha
        cases hsame
      rw [if_pos rfl, (Bindings.bindAddresses_spec T.sdk srv.binding _ rfl).1 hpass]
      exact ⟨rfl, rfl⟩

/-- The start, as a step from one restart to the next. -/
def restart (T : Setting A R P) (env : Env A) (srv : Server A) : Restarts.Start A where
  server := srv.binding
  files := env.files
  core := env.core
  earlier := none
  status := env.status
  isWritable := env.isWritable
  env := surroundings T env srv.setup srv.mUuid
  notifications := []

/-- It has the uuid of the start. -/
theorem initUuid_of_succeeds {T : Setting A R P} {env : Env A} {srv : Server A}
    (h : Succeeds T env srv) (stateDir : String) :
    (Restarts.initUuid stateDir (restart T env srv) env.uuidFile).1 =
      .ok ⟨coreUuid env, coreUuid env⟩ := by
  have hdb : ¬ env.status = -2 := by
    have := h.status
    omega
  have hneg : ¬ env.status < 0 := Int.not_lt.mpr h.status
  simp only [Restarts.initUuid, restart, hdb, hneg, if_false]
  by_cases huuid : readUuid env.files env.uuidFile = ""
  · simp only [huuid, Restarts.writeUuid, h.directory huuid, coreUuid]
    cases env.files.writable <;> rfl
  · have hne : (readUuid env.files env.uuidFile).isEmpty = false :=
      String.isEmpty_eq_false_iff.mpr huuid
    have hkeeps := env.core.keeps _ huuid
    simp [hne, hkeeps, coreUuid]

/-- A server that has come up is the one of its configuration, with the uuid that
    the Core has. -/
theorem server_of_init {T : Setting A R P} {conf : Config} {env : Env A} {srv : Server A}
    {effects : List Effect} (h : init T conf env [] = (.ok srv, effects)) :
    ∃ v, configured T conf = some v ∧ Succeeds T env srv ∧
      srv = server T conf env v.1 v.2.1 v.2.2 (coreUuid env) := by
  obtain ⟨hstops, hgoes⟩ := init_run T conf env
  rcases met_or_firstViolated (Violated T conf env) requirements with hmet | ⟨stop, hfirst⟩
  · obtain ⟨v, hv, hrun⟩ := hgoes hmet
    obtain ⟨hup, hraise⟩ := bringUp_run T conf env v (dtlsEffects conf env)
    rw [hrun] at h
    by_cases hsucceeds : Succeeds T env (server T conf env v.1 v.2.1 v.2.2 (coreUuid env))
    · rw [hup hsucceeds] at h
      cases Except.ok.inj (Prod.mk.inj h).1
      exact ⟨v, hv, hsucceeds, rfl⟩
    · obtain ⟨stop, done, -, hfail⟩ := hraise hsucceeds
      rw [hfail] at h
      cases (Prod.mk.inj h).1
  · obtain ⟨effects', -, hrun⟩ := hstops stop hfirst
    rw [hrun] at h
    cases (Prod.mk.inj h).1

theorem coreUuid_ne_empty (env : Env A) : coreUuid env ≠ "" := by
  rw [coreUuid]
  by_cases huuid : readUuid env.files env.uuidFile = ""
  · rw [huuid]
    exact env.core.draws.ne_empty
  · rw [env.core.keeps _ huuid]
    exact huuid

/-- All the subscriptions that a server has ever made are of the right kind. -/
theorem genuine_server [DecidableEq R] (T : Setting A R P) (env : Env A) (srv : Server A)
    (acts : List (Shutdown.Act A R)) : Genuine T.sdk.toSdk srv.handler
      ((srv.machine T env).reach acts).server.mSubscriptionHandler := by
  have hboth := Machine.invariant_reach (M := srv.machine T env)
    (I := fun p => Sound T.sdk.toSdk p.server.mSubscriptionHandler ∧
      Genuine T.sdk.toSdk srv.handler p.server.mSubscriptionHandler)
    ⟨Sound.init _, genuine_init _ _⟩ (fun p act h => ?_) acts
  · exact hboth.2
  · show Sound _ (p.step T.sdk srv.handler srv.binding act).server.mSubscriptionHandler ∧
      Genuine _ _ (p.step T.sdk srv.handler srv.binding act).server.mSubscriptionHandler
    rcases Shutdown.process_step_cases T.sdk srv.handler srv.binding p act with hsame | ⟨op, hop⟩
    · rw [hsame]
      exact h
    · rw [hop]
      exact ⟨sound_step _ _ _ op h.1, genuine_step _ h.1 h.2 op⟩

/-- Which kind a subscription of the right kind is. -/
theorem own_iff_of_genuine {S : Sdk A R} {server : Handlers.ConferenceServer} {sys : System A R}
    (h : Genuine S server sys) {s : SubscriptionId} {made : Subscription A R}
    (hmade : sys.subs.get? s = some made) :
    (∃ sub, made = .own sub) ↔ S.getDomain made.base.mParticipant ∈ server.localDomains := by
  have hgenuine := h s (fixed made) (by rw [subject, hmade]; rfl)
  cases made with
  | own sub => exact iff_of_true ⟨sub, rfl⟩ hgenuine.2
  | external sub =>
      refine iff_of_false ?_ hgenuine.2
      rintro ⟨_, heq⟩
      cases heq

/-- **THE CONFIGURATION DECIDES THE KIND.**  Whatever happens to a server that has
    come up, each subscription that it ever makes asks the registrar exactly when
    the domain of its participant is the one of a factory URI or one of the
    configured local domains; and the server has these domains in order, each
    once. -/
theorem kind_decided [DecidableEq R] (T : Setting A R P) (conf : Config) (env : Env A)
    {srv : Server A} {effects : List Effect} (h : init T conf env [] = (.ok srv, effects)) :
    srv.handler.localDomains.Pairwise (· < ·) ∧
    ∀ (acts : List (Shutdown.Act A R)) (s : SubscriptionId) (made : Subscription A R),
      ((srv.machine T env).reach acts).server.mSubscriptionHandler.subs.get? s = some made →
      ((∃ sub, made = .own sub) ↔
        T.sdk.getDomain made.base.mParticipant ∈ factoryDomains T conf ∨
          T.sdk.getDomain made.base.mParticipant ∈ conf.localDomains) := by
  obtain ⟨v, hv, -, hsrv⟩ := server_of_init h
  obtain ⟨hsorted, hmem⟩ := localDomains_of_configured hv
  have hdomains : srv.handler.localDomains = v.2.1.mLocalDomains := by
    rw [hsrv]
    rfl
  rw [hdomains]
  refine ⟨hsorted, ?_⟩
  intro acts s made hmade
  rw [own_iff_of_genuine (genuine_server T env srv acts) hmade, hdomains, hmem]

/-- The sample has the local domains a.org, b.org and c.org. -/
theorem kind_decided_sample : ∃ srv effects,
    init sampleSetting sampleConfig sampleEnv [] = (.ok srv, effects) ∧
    srv.handler.localDomains.Pairwise (· < ·) ∧
    ∀ (acts : List (Shutdown.Act String (BitVec 32))) (s : SubscriptionId)
      (made : Subscription String (BitVec 32)),
      ((srv.machine sampleSetting sampleEnv).reach acts).server.mSubscriptionHandler.subs.get? s =
        some made →
      ((∃ sub, made = .own sub) ↔
        stringSdk.getDomain made.base.mParticipant ∈ factoryDomains sampleSetting sampleConfig ∨
          stringSdk.getDomain made.base.mParticipant ∈ sampleConfig.localDomains) := by
  obtain ⟨v, hv, hup, -⟩ :=
    init_follows_plan sampleSetting sampleConfig sampleEnv nothingWrong_sample
  have hinit := hup (succeeds_sample hv)
  exact ⟨_, _, hinit, kind_decided sampleSetting sampleConfig sampleEnv hinit⟩

end Startup
