import FlexisipConference.SdkProofs
import Mathlib.Data.List.Zip

/-! # The factory and focus URIs, and the accounts made for them

    `loadFactoryUris` walks over the factory URIs with an iterator on the focus
    URIs at its side.  It raises when the iterator has come to its end too
    early, and never looks whether it has come to its end at all.

    `paired_one_to_one_iff` says when the URIs are paired as they should be: no
    more focus URIs are configured than factory URIs. -/

namespace Accounts

open Sdks

variable {A R : Type}

/-- `BadConfiguration`. -/
structure BadConfiguration where
  message : String
  deriving DecidableEq, Repr

/-- The error of two lists that do not go together. -/
def mustMatch (conferenceFactoryUris conferenceFocusUris : List String) : BadConfiguration where
  message := "number of factory SIP URIs (" ++ toString conferenceFactoryUris.length ++
    ") must match the number of focus SIP URIs (" ++ toString conferenceFocusUris.length ++ ")"

/-- The loop of `loadFactoryUris`: the factory URIs ahead, what the iterator has
    before it, and the pairs made so far. -/
def pairLoop (mismatch : BadConfiguration) :
    List String → List String → List (String × String) →
      Except BadConfiguration (List (String × String))
  | [], _, mConfServerUris => .ok mConfServerUris
  | _ :: _, [], _ => .error mismatch
  | factoryUri :: rest, focus :: focus_it, mConfServerUris =>
      pairLoop mismatch rest focus_it (mConfServerUris ++ [(factoryUri, focus)])

/-- `loadFactoryUris`: the value of `mConfServerUris`. -/
def loadFactoryUris (conferenceFactoryUris conferenceFocusUris : List String) :
    Except BadConfiguration (List (String × String)) :=
  pairLoop (mustMatch conferenceFactoryUris conferenceFocusUris) conferenceFactoryUris
    conferenceFocusUris []

/-- `linphone::AccountParams`; an address is absent when it was set to null. -/
structure AccountParams (A : Type) where
  identityAddress : Option A
  serverAddress : A
  registerEnabled : Bool
  outboundProxyEnabled : Bool
  conferenceFactoryAddress : Option A
  deriving DecidableEq, Repr

/-- `linphone::Account`. -/
structure Account (A : Type) where
  params : AccountParams A
  contactAddress : Option A
  deriving DecidableEq, Repr

/-- What the account loop of `_init` leaves behind. -/
structure Setup (A : Type) where
  accountList : List (Account A)
  defaultAccount : Option (Account A)
  mLocalDomains : List String
  deriving DecidableEq, Repr

section Loop

variable (S : Sdk A R) (outboundProxyAddress : A)

/-- The account that is made for a pair of URIs. -/
def createAccount (conferenceServerUris : String × String) : Account A :=
  let factoryUri := S.createAddress conferenceServerUris.1
  let accountParams : AccountParams A :=
    { identityAddress :=
        if !conferenceServerUris.2.isEmpty then S.createAddress conferenceServerUris.2
        else factoryUri
      serverAddress := outboundProxyAddress
      registerEnabled := false
      outboundProxyEnabled := true
      conferenceFactoryAddress := factoryUri }
  { params := accountParams, contactAddress := accountParams.identityAddress }

/-- One turn of the account loop.  No value when the factory URI is no address:
    its domain is taken of a null pointer then. -/
def accountTurn (setup : Setup A) (conferenceServerUris : String × String) : Option (Setup A) :=
  let account := createAccount S outboundProxyAddress conferenceServerUris
  (S.createAddress conferenceServerUris.1).map fun factoryUri =>
    { accountList := setup.accountList ++ [account]
      defaultAccount := setup.defaultAccount <|> some account
      mLocalDomains := setup.mLocalDomains ++ [S.getDomain factoryUri] }

/-- The account loop. -/
def accountLoop (mConfServerUris : List (String × String)) (setup : Setup A) : Option (Setup A) :=
  mConfServerUris.foldlM (accountTurn S outboundProxyAddress) setup

/-- A word of the configuration that is a SIP URI. -/
def IsUri (uri : String) : Prop := uri ≠ "" ∧ ∃ address, S.createAddress uri = some address

/-- The two lists are paired one to one: the call raises exactly when their
    lengths differ; otherwise the pairs are the factory URIs and the focus URIs
    position by position, and the account loop makes one account for each pair,
    with the focus URI as its identity. -/
def PairedOneToOne (conferenceFactoryUris conferenceFocusUris : List String) : Prop :=
  ((∃ err, loadFactoryUris conferenceFactoryUris conferenceFocusUris = .error err) ↔
    conferenceFactoryUris.length ≠ conferenceFocusUris.length) ∧
  ∀ mConfServerUris,
    loadFactoryUris conferenceFactoryUris conferenceFocusUris = .ok mConfServerUris →
    mConfServerUris.map Prod.fst = conferenceFactoryUris ∧
    mConfServerUris.map Prod.snd = conferenceFocusUris ∧
    ((∀ uri ∈ conferenceFactoryUris ++ conferenceFocusUris, IsUri S uri) →
      ∃ setup, accountLoop S outboundProxyAddress mConfServerUris ⟨[], none, []⟩ = some setup ∧
        setup.accountList.map (fun account => account.params.conferenceFactoryAddress) =
          conferenceFactoryUris.map S.createAddress ∧
        setup.accountList.map (fun account => account.params.identityAddress) =
          conferenceFocusUris.map S.createAddress)

end Loop

/-! ## The pairs -/

/-- **What the loop gives**: the pairs as far as the shorter list goes, and an
    error when that is the list of the focus URIs. -/
theorem pairLoop_eq (mismatch : BadConfiguration) (factoryUris : List String) :
    ∀ (focus_it : List String) (mConfServerUris : List (String × String)),
      pairLoop mismatch factoryUris focus_it mConfServerUris =
        if factoryUris.length ≤ focus_it.length then
          .ok (mConfServerUris ++ factoryUris.zip focus_it)
        else .error mismatch := by
  induction factoryUris with
  | nil =>
      intro focus_it mConfServerUris
      have hle : ([] : List String).length ≤ focus_it.length := Nat.zero_le _
      rw [if_pos hle, List.zip_nil_left, List.append_nil, pairLoop]
  | cons factoryUri rest ih =>
      intro focus_it mConfServerUris
      cases focus_it with
      | nil => rfl
      | cons focus focus_it =>
          rw [pairLoop, ih, List.zip_cons_cons, List.append_assoc, List.singleton_append]
          simp only [List.length_cons, Nat.add_le_add_iff_right]

theorem loadFactoryUris_eq (conferenceFactoryUris conferenceFocusUris : List String) :
    loadFactoryUris conferenceFactoryUris conferenceFocusUris =
      if conferenceFactoryUris.length ≤ conferenceFocusUris.length then
        .ok (conferenceFactoryUris.zip conferenceFocusUris)
      else .error (mustMatch conferenceFactoryUris conferenceFocusUris) := by
  rw [loadFactoryUris, pairLoop_eq, List.nil_append]

/-- A call raises exactly when there are too few focus URIs. -/
theorem loadFactoryUris_error_iff (conferenceFactoryUris conferenceFocusUris : List String) :
    (∃ err, loadFactoryUris conferenceFactoryUris conferenceFocusUris = .error err) ↔
      conferenceFocusUris.length < conferenceFactoryUris.length := by
  rw [loadFactoryUris_eq]
  split
  · rename_i hle
    refine iff_of_false ?_ (by omega)
    rintro ⟨err, herr⟩
    cases herr
  · rename_i hlt
    exact iff_of_true ⟨_, rfl⟩ (by omega)

/-! ## The accounts -/

section Made

variable {S : Sdk A R} (outboundProxyAddress : A)

/-- On URIs the loop makes one account for each pair, in their order. -/
theorem accountLoop_eq {mConfServerUris : List (String × String)}
    (huris : ∀ uris ∈ mConfServerUris, IsUri S uris.1) :
    ∀ setup : Setup A, ∃ setup',
      accountLoop S outboundProxyAddress mConfServerUris setup = some setup' ∧
        setup'.accountList =
          setup.accountList ++ mConfServerUris.map (createAccount S outboundProxyAddress) := by
  induction mConfServerUris with
  | nil =>
      intro setup
      refine ⟨setup, rfl, ?_⟩
      rw [List.map_nil, List.append_nil]
  | cons uris rest ih =>
      intro setup
      obtain ⟨-, factoryUri, hfactory⟩ := huris uris (List.mem_cons_self ..)
      obtain ⟨setup', hloop, haccounts⟩ :=
        ih (fun uris' hin => huris uris' (List.mem_cons_of_mem _ hin))
          { accountList := setup.accountList ++ [createAccount S outboundProxyAddress uris]
            defaultAccount :=
              setup.defaultAccount <|> some (createAccount S outboundProxyAddress uris)
            mLocalDomains := setup.mLocalDomains ++ [S.getDomain factoryUri] }
      refine ⟨setup', ?_, ?_⟩
      · rw [accountLoop, List.foldlM_cons, accountTurn, hfactory]
        exact hloop
      · rw [haccounts, List.append_assoc, List.singleton_append, List.map_cons]

/-- An account has its focus URI as identity. -/
theorem createAccount_identity {conferenceServerUris : String × String}
    (h : IsUri S conferenceServerUris.2) :
    (createAccount S outboundProxyAddress conferenceServerUris).params.identityAddress =
      S.createAddress conferenceServerUris.2 := by
  have hne : conferenceServerUris.2.isEmpty = false := String.isEmpty_eq_false_iff.mpr h.1
  show (if (!conferenceServerUris.2.isEmpty) = true then _ else _) = _
  rw [hne]
  rfl

/-- The accounts for two lists of URIs of the same length. -/
theorem accounts_of_zip {factoryUris focusUris : List String}
    (hlen : factoryUris.length = focusUris.length)
    (huris : ∀ uri ∈ factoryUris ++ focusUris, IsUri S uri) :
    ∃ setup, accountLoop S outboundProxyAddress (factoryUris.zip focusUris) ⟨[], none, []⟩ =
        some setup ∧
      setup.accountList.map (fun account => account.params.conferenceFactoryAddress) =
        factoryUris.map S.createAddress ∧
      setup.accountList.map (fun account => account.params.identityAddress) =
        focusUris.map S.createAddress := by
  have hfst : (factoryUris.zip focusUris).map Prod.fst = factoryUris :=
    List.map_fst_zip (Nat.le_of_eq hlen)
  have hsnd : (factoryUris.zip focusUris).map Prod.snd = focusUris :=
    List.map_snd_zip (Nat.le_of_eq hlen.symm)
  have hfactory : ∀ uris ∈ factoryUris.zip focusUris, IsUri S uris.1 := by
    intro uris hin
    exact huris _ (List.mem_append_left _ (List.of_mem_zip hin).1)
  have hfocus : ∀ uris ∈ factoryUris.zip focusUris, IsUri S uris.2 := by
    intro uris hin
    exact huris _ (List.mem_append_right _ (List.of_mem_zip hin).2)
  obtain ⟨setup, hloop, haccounts⟩ :=
    accountLoop_eq outboundProxyAddress hfactory ⟨[], none, []⟩
  refine ⟨setup, hloop, ?_, ?_⟩
  · rw [haccounts, List.nil_append, List.map_map]
    conv_rhs => rw [← hfst, List.map_map]
    rfl
  · rw [haccounts, List.nil_append, List.map_map]
    conv_rhs => rw [← hsnd, List.map_map]
    exact List.map_congr_left (fun uris hin =>
      createAccount_identity outboundProxyAddress (hfocus uris hin))

end Made

/-- **WHEN THE URIS ARE PAIRED ONE TO ONE.**  The lists are paired as they should
    be if and only if there are no more focus URIs than factory URIs. -/
theorem paired_one_to_one_iff (S : Sdk A R) (outboundProxyAddress : A)
    (conferenceFactoryUris conferenceFocusUris : List String) :
    PairedOneToOne S outboundProxyAddress conferenceFactoryUris conferenceFocusUris ↔
      conferenceFocusUris.length ≤ conferenceFactoryUris.length := by
  rw [PairedOneToOne, loadFactoryUris_error_iff]
  constructor
  · rintro ⟨hraise, -⟩
    by_contra hlt
    -- no error is raised for the focus URIs that are left over
    have := hraise.mpr (by omega)
    omega
  · intro hle
    refine ⟨⟨fun h => by omega, fun h => by omega⟩, fun mConfServerUris hok => ?_⟩
    rw [loadFactoryUris_eq] at hok
    split at hok
    · rename_i hge
      have hlen : conferenceFactoryUris.length = conferenceFocusUris.length := by omega
      cases hok
      exact ⟨List.map_fst_zip hge, List.map_snd_zip hle,
        accounts_of_zip outboundProxyAddress hlen⟩
    · cases hok

/-- One factory URI and two focus URIs: nothing is raised, and the second focus
    URI is never used. -/
theorem surplus_focus_ignored :
    loadFactoryUris ["sip:factory@a.example.org"]
        ["sip:focus@a.example.org", "sip:focus@b.example.org"] =
      .ok [("sip:factory@a.example.org", "sip:focus@a.example.org")] ∧
    ¬ PairedOneToOne stringSdk "sip:proxy.example.org" ["sip:factory@a.example.org"]
      ["sip:focus@a.example.org", "sip:focus@b.example.org"] := by
  refine ⟨rfl, fun h => ?_⟩
  obtain ⟨err, herr⟩ := h.1.mpr (by decide)
  cases herr

end Accounts
