import Mathlib.Data.List.Basic
import Mathlib.Data.List.Perm.Basic
import Mathlib.Data.List.TakeWhile
import Mathlib.Tactic.Common

/-! # The SDK and the registrar, as the conference server uses them

    The server is written against liblinphone and the flexisip library.  What
    it calls there is collected in `Sdk`: addresses are known only through the
    strings that their accessors return, the chat rooms through their
    capabilities, a registrar record through its contacts.  The last fields of
    `Sdk` are the documented behaviour that the server relies on; they are the
    only facts about that code used anywhere in this development.

    `stringSdk` is an instance, in which an address is its URI. -/

namespace Sdks

/-- Identity of a `linphone::Event`. -/
abbrev EventId := Nat

/-- Identity of a `registration_event::Client`. -/
abbrev ClientId := Nat

/-- Identity of a `ClientListener`. -/
abbrev ListenerId := Nat

/-- `linphone::SubscriptionState`. -/
inductive SubscriptionState where
  | none
  | outgoingProgress
  | incomingReceived
  | pending
  | active
  | terminated
  | error
  | expiring
  deriving DecidableEq, Repr

/-- `linphone::ParticipantDeviceIdentity`: the address is absent when it was
    made from a null address. -/
structure ParticipantDeviceIdentity (A : Type) where
  address : Option A
  displayName : String
  capabilityDescriptor : List String
  deriving DecidableEq, Repr

/-- `linphone::ChatRoom::Capabilities`, the enumerators that the server
    names. -/
def Capabilities.conference : BitVec 32 := 1#32 <<< 2
def Capabilities.oneToOne : BitVec 32 := 1#32 <<< 5
def Capabilities.encrypted : BitVec 32 := 1#32 <<< 6
def Capabilities.ephemeral : BitVec 32 := 1#32 <<< 7

/-- A contact of a registrar record; `pubGruu` is the URL that
    `Record::getPubGruu` gives for it. -/
structure ExtendedContact where
  uniqueId : String
  pubGruu : Option String
  orgLinphoneSpecs : String
  deviceName : String
  deriving DecidableEq, Repr

/-- A registrar record. -/
structure Record where
  extendedContacts : List ExtendedContact
  deriving DecidableEq, Repr

/-- What the server uses of the code it is linked with.  `A` stands for the
    addresses and `R` for the chat rooms. -/
structure Sdk (A R : Type) where
  getUsername : A → String
  getDomain : A → String
  asStringUriOnly : A → String
  asStringUriOnlyOrdered : A → String
  /-- `Factory::createAddress`, null on a string that is no address. -/
  createAddress : String → Option A
  getCapabilities : R → BitVec 32
  /-- `ParticipantDeviceIdentity::getCapabilityDescriptor`. -/
  getCapabilityDescriptor : List String → String
  unquote : String → String
  /-- The `SipUri` constructor; no value when it raises `InvalidUrlError`. -/
  sipUri : String → Option String
  /-- `Record::Key` of a URI, for the configured use of the global domain. -/
  recordKey : String → String
  extractContactByUniqueId : Record → String → Option ExtendedContact
  /-- The order in which `Observable::notify` calls the observers. -/
  notifyOrder : List ListenerId → List ListenerId
  domain_no_at : ∀ a, '@' ∉ (getDomain a).toList
  ordered_participant : ∀ a b, asStringUriOnlyOrdered a = asStringUriOnlyOrdered b →
    getUsername a = getUsername b ∧ getDomain a = getDomain b
  descriptor_single : ∀ s, getCapabilityDescriptor [s] = s
  unquote_quoted : ∀ s, unquote ("\"" ++ s ++ "\"") = s
  unquote_plain : ∀ s, (∀ t, s ≠ "\"" ++ t ++ "\"") → unquote s = s
  extract_mem : ∀ r uid ec, extractContactByUniqueId r uid = some ec → ec ∈ r.extendedContacts
  notifyOrder_perm : ∀ l, (notifyOrder l).Perm l

namespace Sdk

variable {A R : Type} (S : Sdk A R)

/-- A participant, as the subscription store tells participants apart. -/
def participant (a : A) : String × String := (S.getUsername a, S.getDomain a)

theorem participant_of_ordered {a b : A}
    (h : S.asStringUriOnlyOrdered a = S.asStringUriOnlyOrdered b) :
    S.participant a = S.participant b :=
  Prod.ext (S.ordered_participant a b h).1 (S.ordered_participant a b h).2

@[simp] theorem mem_notifyOrder {l : List ListenerId} {o : ListenerId} :
    o ∈ S.notifyOrder l ↔ o ∈ l :=
  (S.notifyOrder_perm l).mem_iff

end Sdk

/-! ## An instance whose addresses are their URIs -/

/-- The part of a URI behind the user name. -/
def hostPart (uri : List Char) : List Char := (uri.dropWhile (· ≠ '@')).drop 1

/-- Strip one pair of surrounding quotes. -/
def stripQuotes (s : List Char) : List Char :=
  match s with
  | '"' :: rest => if rest.getLast? = some '"' then rest.dropLast else s
  | _ => s

theorem stripQuotes_quoted (s : List Char) : stripQuotes ('"' :: (s ++ ['"'])) = s := by
  simp [stripQuotes]

theorem stripQuotes_plain (s : List Char) (h : ∀ t, s ≠ '"' :: (t ++ ['"'])) :
    stripQuotes s = s := by
  simp only [stripQuotes]
  split
  · rename_i rest
    by_cases hlast : rest.getLast? = some '"'
    · obtain ⟨t, rfl⟩ := List.getLast?_eq_some_iff.mp hlast
      exact absurd rfl (h t)
    · rw [if_neg hlast]
  · rfl

/-- Addresses are URIs with at most one parameter, chat rooms their own
    capabilities. -/
def stringSdk : Sdk String (BitVec 32) where
  getUsername a := String.ofList (((a.toList.dropWhile (· ≠ ':')).drop 1).takeWhile (· ≠ '@'))
  getDomain a := String.ofList ((hostPart a.toList).takeWhile
    (fun c => c ≠ '@' ∧ c ≠ ':' ∧ c ≠ ';'))
  asStringUriOnly a := a
  asStringUriOnlyOrdered a := a
  createAddress s :=
    match s.toList with
    | '<' :: rest => some (String.ofList rest.dropLast)
    | 's' :: 'i' :: 'p' :: _ => some s
    | _ => none
  getCapabilities r := r
  getCapabilityDescriptor l := ",".intercalate l
  unquote s := String.ofList (stripQuotes s.toList)
  sipUri s :=
    match s.toList with
    | 's' :: 'i' :: 'p' :: _ => some s
    | _ => none
  recordKey u := u
  extractContactByUniqueId r uid := r.extendedContacts.find? (fun ec => ec.uniqueId = uid)
  notifyOrder l := l
  domain_no_at a := by
    intro h
    rw [String.toList_ofList] at h
    have := List.mem_takeWhile_imp h
    simp at this
  ordered_participant a b h := by
    have hab : a = b := h
    rw [hab]
    exact ⟨rfl, rfl⟩
  descriptor_single s := by simp
  unquote_quoted s := by
    have h : ("\"" ++ s ++ "\"").toList = '"' :: (s.toList ++ ['"']) := by
      simp [String.toList_append]
    rw [h, stripQuotes_quoted, String.ofList_toList]
  unquote_plain s hs := by
    rw [stripQuotes_plain, String.ofList_toList]
    intro t ht
    refine hs (String.ofList t) ?_
    rw [← String.toList_inj, ht]
    simp [String.toList_append]
  extract_mem r uid ec h := List.mem_of_find?_eq_some h
  notifyOrder_perm l := List.Perm.refl l

end Sdks
