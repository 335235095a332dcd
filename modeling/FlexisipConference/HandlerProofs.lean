import FlexisipConference.Library.MachineProofs
import FlexisipConference.Library.MultimapProofs
import FlexisipConference.ClientProofs
import FlexisipConference.SubscriptionProofs

/-! # The subscription handler of the conference server

    `System` is the state behind `ParticipantRegistrationSubscriptionHandler`:
    the store of subscriptions, the subscription objects ever made, the clients
    store of the external factory with the use counts of the clients it points
    to weakly, the shared state of the reg-event clients, and the listeners that
    are subscribed to the registrar.

    The operations are those of the source: the three calls of the handler, and
    the messages that reach the subscriptions, a NOTIFY or a state change on an
    event, the result of a fetch or a change of a record.  Nothing calls back
    into the handler.  `log` keeps what the subscriptions were made to do and
    the calls that they made on their chat rooms. -/

namespace Handlers

open Sdks Reginfos Heaps Machines Multimaps Clients Subscriptions

variable {A R : Type}

/-- Identity of a `RegistrationSubscription`; it is also a listener. -/
abbrev SubscriptionId := ListenerId

/-- A registration subscription, of either kind. -/
inductive Subscription (A R : Type) where
  | own (sub : OwnRegistrationSubscription A R)
  | external (sub : ExternalRegistrationSubscription A R)

/-- What both kinds have. -/
def Subscription.base : Subscription A R → RegistrationSubscription A R
  | .own sub => sub.toRegistrationSubscription
  | .external sub => sub.toRegistrationSubscription

/-- What happened to the subscriptions, and what they did. -/
inductive Entry (A R : Type) where
  | started (s : SubscriptionId)
  | stopped (s : SubscriptionId)
  | called (s : SubscriptionId) (chatRoom : R) (call : ChatRoomCall A)
  deriving DecidableEq, Repr

/-- What the handler reads of the configuration of the server. -/
structure ConferenceServer where
  capabilityCheckEnabled : Bool
  localDomains : List String

/-- The state.  `useCount` is the number of shared pointers to a client;
    `mClients` of the clients store holds weak ones. -/
structure System (A R : Type) where
  world : World A
  mClients : String → Option ClientId
  useCount : ClientId → Nat
  subs : Heap (Subscription A R)
  mSubscriptions : Multimap String SubscriptionId
  registrarListeners : List (String × SubscriptionId)
  log : List (Entry A R)

/-- A server that checks capabilities, for one domain. -/
def sampleServer : ConferenceServer := ⟨true, ["example.org"]⟩

namespace System

/-- The server has just started. -/
def init : System A R :=
  ⟨World.init, fun _ => none, fun _ => 0, Heap.empty, [], [], []⟩

/-- The calls that an external subscription makes when its client calls it. -/
def callsOf (S : Sdk A R) (subs : Heap (Subscription A R)) (em : Emission A) :
    List (Entry A R) :=
  match subs.get? em.1 with
  | some (.external sub) => (sub.callback S em.2).map (.called em.1 sub.mChatRoom)
  | _ => []

/-- Carry out the calls of a client on its observers. -/
def deliver (S : Sdk A R) (sys : System A R) (out : List (Emission A)) : System A R :=
  { sys with log := sys.log ++ out.flatMap (callsOf S sys.subs) }

/-- A request of an own subscription to the registrar.  The result of a fetch
    comes later, as a message. -/
def request (sys : System A R) (s : SubscriptionId) : RegistrarRequest → System A R
  | .fetch _ => sys
  | .subscribe key => { sys with registrarListeners := sys.registrarListeners ++ [(key, s)] }
  | .unsubscribe key => { sys with registrarListeners := sys.registrarListeners.erase (key, s) }

/-- Write an own subscription and pass its requests on. -/
def writeOwn (sys : System A R) (s : SubscriptionId)
    (r : OwnRegistrationSubscription A R × List RegistrarRequest) : System A R :=
  r.2.foldl (fun sys req => sys.request s req)
    { sys with subs := sys.subs.modify s (fun _ => .own r.1) }

/-- `RegistrationSubscription::start`. -/
def start (S : Sdk A R) (sys : System A R) (s : SubscriptionId) : System A R :=
  let sys : System A R := { sys with log := sys.log ++ [.started s] }
  match sys.subs.get? s with
  | none => sys
  | some (.own sub) => sys.writeOwn s (sub.start S)
  | some (.external sub) =>
      let (w, out) := (sys.world.addObserver sub.mClient s).subscribe sub.mClient s
      deliver S { sys with world := w } out

/-- `RegistrationSubscription::stop`. -/
def stop (S : Sdk A R) (sys : System A R) (s : SubscriptionId) : System A R :=
  let sys : System A R := { sys with log := sys.log ++ [.stopped s] }
  match sys.subs.get? s with
  | none => sys
  | some (.own sub) => sys.writeOwn s (sub.stop S)
  | some (.external sub) => { sys with world := sys.world.removeObserver sub.mClient s }

/-- One shared pointer to the client is gone; the last one destroys it. -/
def releaseClient (sys : System A R) (c : ClientId) : System A R :=
  let useCount := sys.useCount c - 1
  { sys with
    useCount := Function.update sys.useCount c useCount
    world := if useCount = 0 then sys.world.destroy c else sys.world }

/-- The store drops its pointer to a subscription.  An external one is
    destroyed and gives up its client; an own one may live on in the messages
    addressed to it. -/
def releaseSubscription (sys : System A R) (s : SubscriptionId) : System A R :=
  match sys.subs.get? s with
  | some (.external sub) => sys.releaseClient sub.mClient
  | _ => sys

/-! ## The clients store and the factories -/

/-- `make_shared<Client>`, remembered weakly under the ordered URI. -/
def newClient (S : Sdk A R) (sys : System A R) (address : A) : System A R × ClientId :=
  let c := sys.world.clients.next
  ({ sys with
      world := sys.world.create address
      mClients := Function.update sys.mClients (S.asStringUriOnlyOrdered address) (some c)
      useCount := Function.update sys.useCount c 1 }, c)

/-- `ExternalRegistrationSubscriptionClientsStore::acquireClient`: locking a
    weak pointer succeeds while the use count is not zero. -/
def acquireClient (S : Sdk A R) (sys : System A R) (address : A) : System A R × ClientId :=
  match sys.mClients (S.asStringUriOnlyOrdered address) with
  | none => newClient S sys address
  | some c =>
      -- `lock()`; an expired entry is erased and made anew
      if sys.useCount c ≠ 0 then
        ({ sys with useCount := Function.update sys.useCount c (sys.useCount c + 1) }, c)
      else newClient S sys address

/-- `OwnRegistrationSubscriptionFactory::create`. -/
def createOwn (S : Sdk A R) (server : ConferenceServer) (sys : System A R) (chatRoom : R)
    (address : A) : System A R :=
  { sys with subs := sys.subs.alloc (.own
      (OwnRegistrationSubscription.make S server.capabilityCheckEnabled chatRoom address)) }

/-- `ExternalRegistrationSubscriptionFactory::create`. -/
def createExternal (S : Sdk A R) (server : ConferenceServer) (sys : System A R) (chatRoom : R)
    (address : A) : System A R :=
  let (sys, c) := acquireClient S sys address
  { sys with subs := sys.subs.alloc (.external
      (ExternalRegistrationSubscription.make server.capabilityCheckEnabled chatRoom address c)) }

/-! ## The store -/

/-- `getSubscriptionKey`. -/
def getSubscriptionKey (S : Sdk A R) (address : A) : String :=
  S.getUsername address ++ "@" ++ S.getDomain address

/-- `RegistrationSubscription::getChatRoom` of a subscription in the store. -/
def getChatRoom (sys : System A R) (s : SubscriptionId) : Option R :=
  (sys.subs.get? s).map (fun sub => sub.base.mChatRoom)

/-- `RegistrationSubscriptionStore::addSubscription`. -/
def addSubscription (S : Sdk A R) (sys : System A R) (address : A) (s : SubscriptionId) :
    System A R :=
  { sys with mSubscriptions := sys.mSubscriptions.insert (getSubscriptionKey S address) s }

section Rooms

variable [DecidableEq R]

/-- `RegistrationSubscriptionStore::findSubscription`. -/
def findSubscription (S : Sdk A R) (sys : System A R) (chatRoom : R) (address : A) : Bool :=
  (sys.mSubscriptions.equalRange (getSubscriptionKey S address)).any
    (fun entry => sys.getChatRoom entry.2 = some chatRoom)

/-- The loop of `removeSubscription` over the entries of one participant. -/
def removeLoop (S : Sdk A R) (chatRoom : R) :
    Multimap String SubscriptionId → System A R → System A R
  | [], sys => sys
  | entry :: rest, sys =>
      if sys.getChatRoom entry.2 = some chatRoom then
        let sys := stop S sys entry.2
        let sys := { sys with mSubscriptions := sys.mSubscriptions.erase entry }
        removeLoop S chatRoom rest (sys.releaseSubscription entry.2)
      else removeLoop S chatRoom rest sys

/-- `RegistrationSubscriptionStore::removeSubscription`. -/
def removeSubscription (S : Sdk A R) (sys : System A R) (chatRoom : R) (address : A) :
    System A R :=
  removeLoop S chatRoom (sys.mSubscriptions.equalRange (getSubscriptionKey S address)) sys

/-- `RegistrationSubscriptionStore::removeAllSubscriptions`: stop them all, then
    clear the store. -/
def removeAllSubscriptions (S : Sdk A R) (sys : System A R) : System A R :=
  let ids := sys.mSubscriptions.map Prod.snd
  let stopped := ids.foldl (stop S) sys
  ids.foldl releaseSubscription { stopped with mSubscriptions := [] }

/-! ## The handler -/

/-- `startSubscription`, once the factory has made the subscription. -/
def startSubscription (S : Sdk A R) (sys : System A R) (address : A) (s : SubscriptionId) :
    System A R :=
  start S (addSubscription S sys address s) s

/-- `ParticipantRegistrationSubscriptionHandler::subscribe`. -/
def subscribe (S : Sdk A R) (server : ConferenceServer) (sys : System A R) (chatRoom : R)
    (address : A) : System A R :=
  if findSubscription S sys chatRoom address then sys
  else if S.getDomain address ∈ server.localDomains then
    startSubscription S (createOwn S server sys chatRoom address) address sys.subs.next
  else startSubscription S (createExternal S server sys chatRoom address) address sys.subs.next

/-- `ParticipantRegistrationSubscriptionHandler::unsubscribe`. -/
def unsubscribe (S : Sdk A R) (sys : System A R) (chatRoom : R) (address : A) : System A R :=
  removeSubscription S sys chatRoom address

/-- `ParticipantRegistrationSubscriptionHandler::unsubscribeAll`. -/
def unsubscribeAll (S : Sdk A R) (sys : System A R) : System A R := removeAllSubscriptions S sys

end Rooms

/-! ## Messages to the subscriptions -/

/-- A NOTIFY on an event. -/
def onNotifyReceived (S : Sdk A R) (sys : System A R) (e : EventId) (body : NotifyBody) :
    System A R :=
  let (w, out) := sys.world.onNotifyReceived S e body
  deliver S { sys with world := w } out

/-- A message to an own subscription, whether it is still in the store or
    not. -/
def tellOwn (sys : System A R) (s : SubscriptionId)
    (calls : OwnRegistrationSubscription A R → List (ChatRoomCall A)) : System A R :=
  match sys.subs.get? s with
  | some (.own sub) => { sys with log := sys.log ++ (calls sub).map (.called s sub.mChatRoom) }
  | _ => sys

end System

/-- The calls of the handler and the messages. -/
inductive Op (A R : Type) where
  | subscribe (chatRoom : R) (address : A)
  | unsubscribe (chatRoom : R) (address : A)
  | unsubscribeAll
  | onNotifyReceived (e : EventId) (body : NotifyBody)
  | onSubscriptionStateChanged (e : EventId) (state : SubscriptionState)
  | onRecordFound (s : SubscriptionId) (r : Option Record)
  | onContactRegistered (s : SubscriptionId) (r : Record) (uid : String)

variable [DecidableEq R]

def step (S : Sdk A R) (server : ConferenceServer) (sys : System A R) : Op A R → System A R
  | .subscribe chatRoom address => sys.subscribe S server chatRoom address
  | .unsubscribe chatRoom address => sys.unsubscribe S chatRoom address
  | .unsubscribeAll => sys.unsubscribeAll S
  | .onNotifyReceived e body => sys.onNotifyReceived S e body
  | .onSubscriptionStateChanged e state =>
      { sys with world := sys.world.onSubscriptionStateChanged e state }
  | .onRecordFound s r => sys.tellOwn s (fun sub => sub.onRecordFound S r)
  | .onContactRegistered s r uid => sys.tellOwn s (fun sub => sub.onContactRegistered S r uid)

/-- The machine of the handler. -/
def machine (S : Sdk A R) (server : ConferenceServer) : Machine (System A R) (Op A R) where
  init := System.init
  step := step S server

end Handlers
