import FlexisipConference.Library.HeapProofs
import FlexisipConference.ReginfoProofs

/-! # Reg-event clients, their events and their factory

    `World` is the state that the clients of one `ClientFactory` share: the
    events ever created, the clients alive, and the registration of the factory
    on the Core.  A method of the source is cut where it calls `sendSubscribe()`
    or `terminate()`, because the Core may call back from there: `begin…` is
    what the method does up to that call, `finish` what it does when the call
    has returned.  The method itself, when nothing calls back, is the two in a
    row.

    What would be undefined behaviour in the source (a member function of a
    destroyed client, a null `mSubscribeEvent`) raises the flag `ub`. -/

namespace Clients

open Sdks Reginfos Heaps

variable {A R : Type}

/-- `linphone::Event`; `data` is what `setData` stored under the client's key. -/
structure Event (A : Type) where
  toAddress : A
  data : Option ClientId
  terminated : Bool
  deriving DecidableEq, Repr

/-- `registration_event::Client`, with the observers of its base class. -/
structure Client (A : Type) where
  mTo : A
  mSubscribeEvent : Option EventId
  mParticipantDevices : List (ParticipantDeviceIdentity A)
  observers : List ListenerId
  deriving DecidableEq, Repr

/-- The shared state.  `coreListeners` counts how often the factory is in the
    listener list of the Core. -/
structure World (A : Type) where
  events : Heap (Event A)
  clients : Heap (Client A)
  mUseCount : Int
  coreListeners : Nat
  ub : Bool

/-- A call on one listener. -/
abbrev Emission (A : Type) := ListenerId × ClientCallback A

/-- A method that is inside `sendSubscribe()` or `terminate()`, and what it
    still has to do. -/
inductive Pending where
  | subscribe (c : ClientId) (e : EventId)
  | unsubscribe (c : ClientId) (e : EventId)
  | destructor (c : ClientId) (e : EventId)
  | onSubscriptionStateChanged (c : ClientId) (e : EventId)
  deriving DecidableEq, Repr

/-- The client that a pending method writes when it goes on. -/
def Pending.closes : Pending → Option ClientId
  | .subscribe _ _ => none
  | .unsubscribe c _ => some c
  | .destructor _ _ => none
  | .onSubscriptionStateChanged c _ => some c

/-- The event that a pending method is terminating. -/
def Pending.terminating : Pending → Option EventId
  | .subscribe _ _ => none
  | .unsubscribe _ e => some e
  | .destructor _ e => some e
  | .onSubscriptionStateChanged _ e => some e

namespace World

/-- No client was ever created. -/
def init : World A := ⟨Heap.empty, Heap.empty, 0, 0, false⟩

/-- `ClientFactory::registerClient`. -/
def registerClient (w : World A) : World A :=
  { w with
    coreListeners := if w.mUseCount = 0 then w.coreListeners + 1 else w.coreListeners
    mUseCount := w.mUseCount + 1 }

/-- `ClientFactory::unregisterClient`. -/
def unregisterClient (w : World A) : World A :=
  { w with
    mUseCount := w.mUseCount - 1
    coreListeners := if w.mUseCount - 1 = 0 then w.coreListeners - 1 else w.coreListeners }

/-- `Event::unsetData`, then `Event::terminate`. -/
def terminate (w : World A) (e : EventId) : World A :=
  { w with events := w.events.modify e (fun ev => { ev with data := none, terminated := true }) }

def updateClient (w : World A) (c : ClientId) (f : Client A → Client A) : World A :=
  { w with clients := w.clients.modify c f }

/-- The constructor of `Client`; the new client is `w.clients.next`. -/
def create (w : World A) (address : A) : World A :=
  registerClient { w with clients := w.clients.alloc ⟨address, none, [], []⟩ }

/-- `Observable::addObserver`. -/
def addObserver (w : World A) (c : ClientId) (observer : ListenerId) : World A :=
  w.updateClient c (fun cl => { cl with observers := cl.observers ++ [observer] })

/-- `Observable::removeObserver`. -/
def removeObserver (w : World A) (c : ClientId) (observer : ListenerId) : World A :=
  w.updateClient c (fun cl => { cl with observers := cl.observers.erase observer })

/-- `Client::subscribe`, up to `sendSubscribe()`. -/
def beginSubscribe (w : World A) (c : ClientId) (listener : ListenerId) :
    World A × List (Emission A) × Option Pending :=
  match w.clients.get? c with
  | none => ({ w with ub := true }, [], none)
  | some cl =>
      match cl.mSubscribeEvent with
      | some _ => (w, [(listener, .onNotifyReceived cl.mParticipantDevices)], none)
      | none =>
          -- the new event carries the client before `sendSubscribe()` is called
          let e := w.events.next
          ({ w with
              events := w.events.alloc ⟨cl.mTo, some c, false⟩
              clients := w.clients.modify c (fun cl => { cl with mSubscribeEvent := some e }) },
            [], some (.subscribe c e))

/-- `Client::unsubscribe`, up to `terminate()`. -/
def beginUnsubscribe (w : World A) (c : ClientId) : World A × Option Pending :=
  match w.clients.get? c with
  | none => ({ w with ub := true }, none)
  | some cl =>
      match cl.mSubscribeEvent with
      | none => (w, none)
      | some e => (w.terminate e, some (.unsubscribe c e))

/-- `Client::~Client`, up to `terminate()`: the client is no longer alive once
    its destructor has begun. -/
def beginDestroy (w : World A) (c : ClientId) : World A × Option Pending :=
  match w.clients.get? c with
  | none => ({ w with ub := true }, none)
  | some cl =>
      -- first `unregisterClient`, then `unsubscribe()`
      let w := unregisterClient { w with clients := w.clients.free c }
      match cl.mSubscribeEvent with
      | none => (w, none)
      | some e => (w.terminate e, some (.destructor c e))

/-- `Client::onSubscriptionStateChanged`, up to `terminate()`. -/
def beginClientStateChanged (w : World A) (c : ClientId) (cl : Client A)
    (state : SubscriptionState) : World A × Option Pending :=
  match state with
  | .none | .outgoingProgress | .incomingReceived | .pending | .active | .expiring => (w, none)
  | .terminated | .error =>
      match cl.mSubscribeEvent with
      | none => ({ w with ub := true }, none)
      | some e => (w.terminate e, some (.onSubscriptionStateChanged c e))

/-- What a method does after the call that it was inside of. -/
def finish (w : World A) : Pending → World A
  | .subscribe _ _ => w
  | .unsubscribe c _ => w.updateClient c (fun cl => { cl with mSubscribeEvent := none })
  | .destructor _ _ => w
  | .onSubscriptionStateChanged c _ =>
      w.updateClient c (fun cl => { cl with mSubscribeEvent := none, mParticipantDevices := [] })

/-- The client that the factory finds in the data of an event, if the factory
    is called at all: `none` when it is not on the Core or `getData` raises. -/
def dispatch (w : World A) (e : EventId) : Option ClientId :=
  if w.coreListeners = 0 then none else (w.events.get? e).bind (·.data)

/-- `ClientFactory::onSubscriptionStateChanged`, up to `terminate()`. -/
def beginStateChanged (w : World A) (e : EventId) (state : SubscriptionState) :
    World A × Option Pending :=
  match w.dispatch e with
  | none => (w, none)
  | some c =>
      match w.clients.get? c with
      | none => ({ w with ub := true }, none)
      | some cl => beginClientStateChanged w c cl state

/-- `ClientFactory::onNotifyReceived`: a missing or malformed body makes the
    client raise an exception, which the factory catches. -/
def onNotifyReceived (S : Sdk A R) (w : World A) (e : EventId) (body : NotifyBody) :
    World A × List (Emission A) :=
  match w.dispatch e with
  | none => (w, [])
  | some c =>
      match w.clients.get? c with
      | none => ({ w with ub := true }, [])
      | some cl =>
          match body with
          | .null | .malformed => (w, [])
          | .reginfo ri =>
              let (devices, out) :=
                Client.onNotifyReceived S (S.asStringUriOnly cl.mTo) cl.mParticipantDevices ri
              (w.updateClient c (fun cl => { cl with mParticipantDevices := devices }),
                out.flatMap (fun cb => (S.notifyOrder cl.observers).map (·, cb)))

/-- Finish a method right away. -/
def finish? (r : World A × Option Pending) : World A :=
  match r.2 with
  | none => r.1
  | some p => r.1.finish p

/-- `Client::subscribe` when nothing calls back. -/
def subscribe (w : World A) (c : ClientId) (listener : ListenerId) :
    World A × List (Emission A) :=
  let (w', out, p) := w.beginSubscribe c listener
  (finish? (w', p), out)

/-- `Client::unsubscribe` when nothing calls back. -/
def unsubscribe (w : World A) (c : ClientId) : World A := finish? (w.beginUnsubscribe c)

/-- `Client::~Client` when nothing calls back. -/
def destroy (w : World A) (c : ClientId) : World A := finish? (w.beginDestroy c)

/-- `ClientFactory::onSubscriptionStateChanged` when nothing calls back. -/
def onSubscriptionStateChanged (w : World A) (e : EventId) (state : SubscriptionState) :
    World A :=
  finish? (w.beginStateChanged e state)

end World

/-- A NOTIFY with a document that the factory passes on to a client. -/
theorem notify_dispatched (S : Sdk A R) {w : World A} {e : EventId} {c : ClientId} {cl : Client A}
    (hd : w.dispatch e = some c) (hcl : w.clients.get? c = some cl) (ri : Reginfo) :
    w.onNotifyReceived S e (.reginfo ri) =
      (w.updateClient c (fun cl' => { cl' with mParticipantDevices :=
          (Reginfos.Client.onNotifyReceived S (S.asStringUriOnly cl.mTo)
            cl.mParticipantDevices ri).1 }),
        (Reginfos.Client.onNotifyReceived S (S.asStringUriOnly cl.mTo)
          cl.mParticipantDevices ri).2.flatMap
            (fun cb => (S.notifyOrder cl.observers).map (·, cb))) := by
  simp [World.onNotifyReceived, hd, hcl]

end Clients
