import FlexisipConference.Library.SubstringProofs
import FlexisipConference.SubscriptionProofs

/-! # Capability specs, token by token

    The specs of a device are a list of tokens joined by commas, each the name
    of a capability and perhaps its version.  `getMaskFromSpecs` does not take
    them apart: it searches the names it knows in the whole text.

    A known name has no comma, so it is found in the text exactly when it is
    found in some token; but there it may be a part of another name, or of a
    version.  `specs_read_by_token_iff` says when that makes a difference. -/

namespace CapabilitySpecs

open Sdks Subscriptions Substrings

variable {A R : Type}

/-- The capabilities that have a name. -/
inductive Capability where
  | groupchat
  | lime
  | ephemeral
  deriving DecidableEq, Repr

namespace Capability

/-- The name that `getMaskFromSpecs` searches. -/
def name : Capability → String
  | groupchat => "groupchat"
  | lime => "lime"
  | ephemeral => "ephemeral"

/-- The capability of a chat room that it stands for. -/
def bit : Capability → BitVec 32
  | groupchat => Capabilities.conference
  | lime => Capabilities.encrypted
  | ephemeral => Capabilities.ephemeral

theorem name_ne_nil (c : Capability) : c.name.toList ≠ [] := by
  cases c <;> decide

theorem comma_not_mem_name (c : Capability) : ',' ∉ c.name.toList := by
  cases c <;> decide

/-- The place of its bit. -/
def place : Capability → Nat
  | groupchat => 2
  | lime => 6
  | ephemeral => 7

theorem getLsbD_bit (c : Capability) (i : Nat) : c.bit.getLsbD i = decide (i = c.place) := by
  have htwoPow : c.bit = BitVec.twoPow 32 c.place := by cases c <;> rfl
  have hlt : c.place < 32 := by cases c <;> decide
  rw [htwoPow, BitVec.getLsbD_twoPow, decide_eq_true hlt, Bool.true_and]
  exact decide_eq_decide.mpr eq_comm

end Capability

/-- A token of the specs.  What it says besides a name is its version. -/
structure Token where
  name : String
  version : Option String
  name_word : ',' ∉ name.toList ∧ '/' ∉ name.toList
  version_word : ∀ v ∈ version, ',' ∉ v.toList

/-- `name` or `name/version`. -/
def Token.text (token : Token) : String :=
  match token.version with
  | none => token.name
  | some version => token.name ++ "/" ++ version

/-- The specs of a device. -/
def specs (tokens : List Token) : String := ",".intercalate (tokens.map Token.text)

/-- The name of the capability is the whole name of some token. -/
def Named (tokens : List Token) (c : Capability) : Prop := ∃ token ∈ tokens, token.name = c.name

/-- The name of the capability is found somewhere in some token. -/
def Mentioned (tokens : List Token) (c : Capability) : Prop :=
  ∃ token ∈ tokens, occurs c.name.toList token.text.toList = true

/-- Every bit of the mask is the one of OneToOne, or of a capability among
    these. -/
def Covers (named : Capability → Prop) (mask : BitVec 32) : Prop :=
  ∀ i, mask.getLsbD i = true →
    Capabilities.oneToOne.getLsbD i = true ∨ ∃ c : Capability, c.bit.getLsbD i = true ∧ named c

/-- The mask has the bit of the capability. -/
def Requires (mask : BitVec 32) (c : Capability) : Prop :=
  ∃ i, mask.getLsbD i = true ∧ c.bit.getLsbD i = true

/-- The specs are not ambiguous for this mask: each capability that it requires
    is the whole name of a token when it is mentioned at all, or the mask has a
    bit that no token mentions, so that there is nothing to decide. -/
def Unambiguous (tokens : List Token) (mask : BitVec 32) : Prop :=
  (∀ c, Requires mask c → Mentioned tokens c → Named tokens c) ∨
  ∃ i, mask.getLsbD i = true ∧ Capabilities.oneToOne.getLsbD i = false ∧
    ∀ c : Capability, c.bit.getLsbD i = true → ¬ Mentioned tokens c

/-! ## What the search decides -/

theorem mentioned_of_named {tokens : List Token} {c : Capability} (h : Named tokens c) :
    Mentioned tokens c := by
  obtain ⟨token, hmem, hname⟩ := h
  have hfound := occurs_iff_infix c.name.toList token.text.toList
  refine ⟨token, hmem, hfound.mpr ?_⟩
  rw [← hname, Token.text]
  cases token.version with
  | none => exact List.infix_rfl
  | some version =>
      simp only [String.toList_append, List.append_assoc]
      exact (List.prefix_append _ _).isInfix

/-- **The name of a capability is found in the specs exactly when it is found in
    some token.** -/
theorem occurs_specs_iff (tokens : List Token) (c : Capability) :
    occurs c.name.toList (specs tokens).toList = true ↔ Mentioned tokens c := by
  have hcomma : ",".toList = [','] := by decide
  rw [specs, occurs_iff_infix, String.toList_intercalate, hcomma,
    infix_intercalate_iff c.name_ne_nil c.comma_not_mem_name]
  simp [Mentioned, occurs_iff_infix]

theorem getLsbD_or_if (b : Bool) (mask bit : BitVec 32) (i : Nat) :
    (if b = true then mask ||| bit else mask).getLsbD i = true ↔
      mask.getLsbD i = true ∨ b = true ∧ bit.getLsbD i = true := by
  cases b <;> simp

/-- The bits of the mask that the specs give. -/
theorem getLsbD_getMaskFromSpecs (s : String) (i : Nat) :
    (getMaskFromSpecs s).getLsbD i = true ↔
      ∃ c : Capability, c.bit.getLsbD i = true ∧ occurs c.name.toList s.toList = true := by
  rw [getMaskFromSpecs, getLsbD_or_if, getLsbD_or_if, getLsbD_or_if, BitVec.getLsbD_zero]
  constructor
  · rintro (((hzero | ⟨hin, hbit⟩) | ⟨hin, hbit⟩) | ⟨hin, hbit⟩)
    · cases hzero
    · exact ⟨.groupchat, hbit, hin⟩
    · exact ⟨.lime, hbit, hin⟩
    · exact ⟨.ephemeral, hbit, hin⟩
  · rintro ⟨c, hbit, hin⟩
    cases c with
    | groupchat => exact Or.inl (Or.inl (Or.inr ⟨hin, hbit⟩))
    | lime => exact Or.inl (Or.inr ⟨hin, hbit⟩)
    | ephemeral => exact Or.inr ⟨hin, hbit⟩

/-- A mask is a part of another when its bits are. -/
theorem and_eq_right_iff (mask mask' : BitVec 32) :
    mask &&& mask' = mask' ↔ ∀ i, mask'.getLsbD i = true → mask.getLsbD i = true := by
  constructor
  · intro h i hi
    rw [← h, BitVec.getLsbD_and, Bool.and_eq_true] at hi
    exact hi.1
  · intro h
    refine BitVec.eq_of_getLsbD_eq (fun i _ => ?_)
    rw [BitVec.getLsbD_and, Bool.and_eq_right_iff_imp]
    exact h i

/-- **What `isContactCompatible` decides**, on specs that are made of tokens. -/
theorem isContactCompatible_iff (S : Sdk A R) (sub : RegistrationSubscription A R)
    (hcheck : sub.mCheckCapabilities = true) (tokens : List Token) :
    sub.isContactCompatible S (specs tokens) = true ↔
      Covers (Mentioned tokens) (S.getCapabilities sub.mChatRoom) := by
  rw [RegistrationSubscription.isContactCompatible, hcheck]
  show ((_ &&& _) == _) = true ↔ _
  rw [beq_iff_eq, and_eq_right_iff]
  refine forall₂_congr (fun i _ => ?_)
  simp only [BitVec.getLsbD_or, Bool.or_eq_true, getLsbD_getMaskFromSpecs, occurs_specs_iff]

/-- More names cover more. -/
theorem Covers.mono {named named' : Capability → Prop} {mask : BitVec 32}
    (h : Covers named mask) (hsub : ∀ c, named c → named' c) : Covers named' mask := by
  intro i hi
  exact (h i hi).imp_right (fun ⟨c, hbit, hc⟩ => ⟨c, hbit, hsub c hc⟩)

/-- What is required and covered is named: no two capabilities share a bit, and
    none has the one of OneToOne. -/
theorem Covers.named_of_requires {named : Capability → Prop} {mask : BitVec 32}
    (h : Covers named mask) {c : Capability} (hreq : Requires mask c) : named c := by
  obtain ⟨i, hi, hbit⟩ := hreq
  have hplace : i = c.place := by simpa [Capability.getLsbD_bit] using hbit
  rcases h i hi with hone | ⟨c', hbit', hnamed⟩
  · rw [hplace] at hone
    cases c <;> exact absurd hone (by decide)
  · have hplace' : i = c'.place := by simpa [Capability.getLsbD_bit] using hbit'
    have hsame : c' = c := by
      rw [hplace] at hplace'
      cases c <;> cases c' <;> first | rfl | exact absurd hplace' (by decide)
    rw [← hsame]
    exact hnamed

/-- The whole names and the mentioned ones cover the same masks exactly when the
    specs are not ambiguous. -/
theorem covers_mentioned_iff (tokens : List Token) (mask : BitVec 32) :
    (Covers (Mentioned tokens) mask ↔ Covers (Named tokens) mask) ↔ Unambiguous tokens mask := by
  constructor
  · intro h
    by_cases hcov : Covers (Mentioned tokens) mask
    · exact Or.inl (fun c hreq _ => (h.mp hcov).named_of_requires hreq)
    · -- some bit is covered by nothing that is mentioned
      rw [Covers] at hcov
      push Not at hcov
      obtain ⟨i, hi, hone, hnone⟩ := hcov
      exact Or.inr ⟨i, hi, Bool.eq_false_iff.mpr hone, hnone⟩
  · intro h
    refine ⟨fun hcov => ?_, fun hcov => hcov.mono (fun c => mentioned_of_named)⟩
    rcases h with hwhole | ⟨i, hi, hone, hnone⟩
    · intro i hi
      refine (hcov i hi).imp_right ?_
      rintro ⟨c, hbit, hmentioned⟩
      exact ⟨c, hbit, hwhole c ⟨i, hi, hbit⟩ hmentioned⟩
    · rcases hcov i hi with hone' | ⟨c, hbit, hmentioned⟩
      · rw [hone] at hone'
        cases hone'
      · exact absurd hmentioned (hnone c hbit)

/-- **WHEN SPECS ARE READ TOKEN BY TOKEN.**  With the check of capabilities on,
    the answer is that every bit of the chat room is OneToOne or is named by a
    whole token, if and only if the specs are not ambiguous for the chat room;
    and two lists of tokens that are not ambiguous and name the same known
    capabilities get the same answer. -/
theorem specs_read_by_token_iff (S : Sdk A R) (sub : RegistrationSubscription A R)
    (hcheck : sub.mCheckCapabilities = true) (tokens : List Token) :
    ((sub.isContactCompatible S (specs tokens) = true ↔
        Covers (Named tokens) (S.getCapabilities sub.mChatRoom)) ↔
      Unambiguous tokens (S.getCapabilities sub.mChatRoom)) ∧
    ∀ tokens' : List Token, (∀ c, Named tokens' c ↔ Named tokens c) →
      Unambiguous tokens (S.getCapabilities sub.mChatRoom) →
      Unambiguous tokens' (S.getCapabilities sub.mChatRoom) →
      sub.isContactCompatible S (specs tokens') = sub.isContactCompatible S (specs tokens) := by
  refine ⟨?_, fun tokens' hsame hplain hplain' => ?_⟩
  · rw [isContactCompatible_iff S sub hcheck]
    exact covers_mentioned_iff tokens _
  · rw [Bool.eq_iff_iff, isContactCompatible_iff S sub hcheck, isContactCompatible_iff S sub hcheck,
      (covers_mentioned_iff tokens' _).mpr hplain', (covers_mentioned_iff tokens _).mpr hplain]
    have hnamed : Named tokens' = Named tokens := funext (fun c => propext (hsame c))
    rw [hnamed]

/-! ## Two devices of an encrypted chat room -/

/-- The chat room takes devices that can encrypt. -/
def encryptedSubscription : RegistrationSubscription String (BitVec 32) where
  mCheckCapabilities := true
  mChatRoom := Capabilities.conference ||| Capabilities.encrypted
  mParticipant := "sip:alice@sip.example.org"

/-- `groupchat/1.2`. -/
def groupchatToken : Token := ⟨"groupchat", some "1.2", by decide, by simp⟩

/-- `lime`. -/
def limeToken : Token := ⟨"lime", none, by decide, by simp⟩

/-- `sublime/1.0`, which the server does not know. -/
def sublimeToken : Token := ⟨"sublime", some "1.0", by decide, by simp⟩

/-- `specs_read_by_token_iff` at work, on a device that can encrypt. -/
theorem specs_read_by_token_lime :
    encryptedSubscription.isContactCompatible stringSdk (specs [groupchatToken, limeToken]) = true ↔
      Covers (Named [groupchatToken, limeToken])
        (Capabilities.conference ||| Capabilities.encrypted) := by
  refine (specs_read_by_token_iff stringSdk encryptedSubscription rfl
    [groupchatToken, limeToken]).1.mpr (Or.inl ?_)
  rintro c - ⟨token, hmem, hin⟩
  cases c with
  | groupchat => exact ⟨groupchatToken, by simp, rfl⟩
  | lime => exact ⟨limeToken, by simp, rfl⟩
  | ephemeral =>
      have hnot : ∀ token ∈ [groupchatToken, limeToken],
          occurs Capability.ephemeral.name.toList token.text.toList = false := by decide
      rw [hnot token hmem] at hin
      cases hin

/-- The unknown token `sublime/1.0` makes the server take the device for one
    that can encrypt. -/
theorem sublime_taken_for_lime :
    encryptedSubscription.isContactCompatible stringSdk (specs [groupchatToken]) = false ∧
      encryptedSubscription.isContactCompatible stringSdk
        (specs [groupchatToken, sublimeToken]) = true ∧
      ¬ (encryptedSubscription.isContactCompatible stringSdk
          (specs [groupchatToken, sublimeToken]) = true ↔
        Covers (Named [groupchatToken, sublimeToken])
          (Capabilities.conference ||| Capabilities.encrypted)) := by
  have htaken : encryptedSubscription.isContactCompatible stringSdk
      (specs [groupchatToken, sublimeToken]) = true := by decide
  refine ⟨by decide, htaken, fun h => ?_⟩
  obtain ⟨token, hmem, hname⟩ := (h.mp htaken).named_of_requires
    (c := .lime) ⟨6, by decide, by decide⟩
  have hnot : ∀ token ∈ [groupchatToken, sublimeToken],
      token.name ≠ Capability.lime.name := by decide
  exact hnot token hmem hname

end CapabilitySpecs
