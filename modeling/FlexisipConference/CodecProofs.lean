import Mathlib.Data.List.Basic
import Mathlib.Data.List.Perm.Basic
import Mathlib.Data.List.Pairwise
import Mathlib.Tactic.Common

/-! # Enabling the configured codecs

    `enableSelectedCodecs` walks over the payload types of the Core and consumes
    the list of configured MIME types while it searches it: the payload type
    that is found takes its name off the list.  A second payload type with that
    MIME type (the same codec at another clock rate) is then searched in vain
    and disabled.

    `configured_enabled_iff` says when this does not happen: no two payload
    types share a configured MIME type.  `exactly_rejected_iff` says when the
    calls that raise are the right ones: the names of supported codecs are
    written in lower case. -/

namespace Codecs

variable {P : Type}

/-- What is used of the string utilities of the flexisip library. -/
structure StringUtils where
  toLower : String → String
  iequals : String → String → Bool
  join : List String → String
  iequals_iff : ∀ a b, iequals a b = true ↔ toLower a = toLower b
  toLower_toLower : ∀ s, toLower (toLower s) = toLower s

/-- `BadConfigurationValue`: the parameter and the message. -/
structure BadConfigurationValue where
  config : String
  message : String
  deriving DecidableEq, Repr

section Walk

variable (U : StringUtils) (getMimeType : P → String)

/-- The loop of `enableSelectedCodecs`: the payload types with what `enable` was
    called with, and the names that are left. -/
def codecLoop : List P → List String → List (P × Bool) × List String
  | [], mimeTypes => ([], mimeTypes)
  | codec :: rest, mimeTypes =>
      if mimeTypes.any (fun mime => U.iequals (getMimeType codec) mime) then
        let left := mimeTypes.filter (· ≠ U.toLower (getMimeType codec))
        ((codec, true) :: (codecLoop rest left).1, (codecLoop rest left).2)
      else ((codec, false) :: (codecLoop rest mimeTypes).1, (codecLoop rest mimeTypes).2)

/-- `enableSelectedCodecs`, on the payload types of one medium. -/
def enableSelectedCodecs (codecs : List P) (mimeTypes : List String) (config : String) :
    Except BadConfigurationValue (List (P × Bool)) :=
  let (enabled, left) := codecLoop U getMimeType codecs mimeTypes
  if left ≠ [] then .error ⟨config, "unsupported codecs in the list: " ++ U.join left⟩
  else .ok enabled

/-- The names that are no payload type's. -/
def unclaimed (mimeTypes : List String) (codecs : List P) : List String :=
  mimeTypes.filter (fun mime => codecs.all (fun codec => mime ≠ U.toLower (getMimeType codec)))

/-- The MIME type of the payload type is one of the names, ignoring case. -/
def Configured (mimeTypes : List String) (codec : P) : Prop :=
  ∃ mime ∈ mimeTypes, U.iequals (getMimeType codec) mime = true

instance (mimeTypes : List String) (codec : P) :
    Decidable (Configured U getMimeType mimeTypes codec) :=
  inferInstanceAs (Decidable (∃ mime ∈ mimeTypes, U.iequals (getMimeType codec) mime = true))

/-- No two payload types share a configured MIME type. -/
def Unshared (codecs : List P) (mimeTypes : List String) : Prop :=
  codecs.Pairwise (fun codec codec' =>
    U.iequals (getMimeType codec) (getMimeType codec') = true →
      ¬ Configured U getMimeType mimeTypes codec)

instance (codecs : List P) (mimeTypes : List String) :
    Decidable (Unshared U getMimeType codecs mimeTypes) :=
  inferInstanceAs (Decidable (codecs.Pairwise (fun codec codec' =>
    U.iequals (getMimeType codec) (getMimeType codec') = true →
      ¬ Configured U getMimeType mimeTypes codec)))

/-- Every payload type is seen to, once; it is enabled exactly when it is
    configured, and neither the order of the payload types nor the order and the
    repetition of the names matter. -/
def ExactlyConfigured (codecs : List P) (mimeTypes : List String) (config : String)
    (enabled : List (P × Bool)) : Prop :=
  enabled.map Prod.fst = codecs ∧
  (∀ entry ∈ enabled, entry.2 = true ↔ Configured U getMimeType mimeTypes entry.1) ∧
  ∀ codecs' mimeTypes', codecs'.Perm codecs → (∀ mime, mime ∈ mimeTypes' ↔ mime ∈ mimeTypes) →
    ∃ enabled', enableSelectedCodecs U getMimeType codecs' mimeTypes' config = .ok enabled' ∧
      enabled'.Perm enabled

end Walk

section Lemmas

variable {U : StringUtils} {getMimeType : P → String}

/-- A payload type that is not found has not its name on the list. -/
theorem not_mem_of_not_found {codec : P} {mimeTypes : List String}
    (h : ¬ mimeTypes.any (fun mime => U.iequals (getMimeType codec) mime) = true) :
    U.toLower (getMimeType codec) ∉ mimeTypes := by
  intro hmem
  refine h (List.any_eq_true.mpr ⟨_, hmem, (U.iequals_iff _ _).mpr ?_⟩)
  rw [U.toLower_toLower]

/-- One turn of the loop, whether the payload type is found or not: its name is
    on the list no more. -/
theorem codecLoop_cons (codec : P) (rest : List P) (mimeTypes : List String) :
    codecLoop U getMimeType (codec :: rest) mimeTypes =
      ((codec, mimeTypes.any (fun mime => U.iequals (getMimeType codec) mime)) ::
          (codecLoop U getMimeType rest
            (mimeTypes.filter (· ≠ U.toLower (getMimeType codec)))).1,
        (codecLoop U getMimeType rest
          (mimeTypes.filter (· ≠ U.toLower (getMimeType codec)))).2) := by
  rw [codecLoop]
  by_cases hfound : mimeTypes.any (fun mime => U.iequals (getMimeType codec) mime) = true
  · rw [if_pos hfound, hfound]
  · have hsame : mimeTypes.filter (· ≠ U.toLower (getMimeType codec)) = mimeTypes := by
      refine List.filter_eq_self.mpr (fun mime hmem => decide_eq_true ?_)
      rintro rfl
      exact not_mem_of_not_found hfound hmem
    rw [if_neg hfound, hsame, Bool.eq_false_iff.mpr hfound]

theorem mem_unclaimed {mimeTypes : List String} {codecs : List P} {mime : String} :
    mime ∈ unclaimed U getMimeType mimeTypes codecs ↔
      mime ∈ mimeTypes ∧ ∀ codec ∈ codecs, mime ≠ U.toLower (getMimeType codec) := by
  simp [unclaimed]

/-- The names that the loop leaves. -/
theorem codecLoop_left (codecs : List P) :
    ∀ mimeTypes : List String,
      (codecLoop U getMimeType codecs mimeTypes).2 = unclaimed U getMimeType mimeTypes codecs := by
  induction codecs with
  | nil =>
      intro mimeTypes
      show mimeTypes = _
      simp [unclaimed]
  | cons codec rest ih =>
      intro mimeTypes
      rw [codecLoop_cons]
      show (codecLoop U getMimeType rest _).2 = _
      rw [ih, unclaimed, List.filter_filter]
      exact List.filter_congr (fun mime _ => Bool.and_comm _ _)

/-- The payload types come out in the order in which they went in. -/
theorem codecLoop_codecs (codecs : List P) :
    ∀ mimeTypes : List String,
      (codecLoop U getMimeType codecs mimeTypes).1.map Prod.fst = codecs := by
  induction codecs with
  | nil => intro mimeTypes; rfl
  | cons codec rest ih =>
      intro mimeTypes
      rw [codecLoop_cons]
      show codec :: _ = _
      rw [ih]

/-- The call raises exactly when the loop leaves names over. -/
theorem enableSelectedCodecs_eq (codecs : List P) (mimeTypes : List String) (config : String) :
    enableSelectedCodecs U getMimeType codecs mimeTypes config =
      if (codecLoop U getMimeType codecs mimeTypes).2 = [] then
        .ok (codecLoop U getMimeType codecs mimeTypes).1
      else .error ⟨config, "unsupported codecs in the list: " ++
        U.join (codecLoop U getMimeType codecs mimeTypes).2⟩ :=
  ite_not _ _ _

/-- Whether a call raises does not depend on any order. -/
theorem enableSelectedCodecs_ok_iff {codecs : List P} {mimeTypes : List String} {config : String}
    {enabled : List (P × Bool)} :
    enableSelectedCodecs U getMimeType codecs mimeTypes config = .ok enabled ↔
      (∀ mime ∈ mimeTypes, ∃ codec ∈ codecs, mime = U.toLower (getMimeType codec)) ∧
        (codecLoop U getMimeType codecs mimeTypes).1 = enabled := by
  have hleft : (codecLoop U getMimeType codecs mimeTypes).2 = [] ↔
      ∀ mime ∈ mimeTypes, ∃ codec ∈ codecs, mime = U.toLower (getMimeType codec) := by
    rw [codecLoop_left, List.eq_nil_iff_forall_not_mem]
    simp [mem_unclaimed]
  rw [← hleft, enableSelectedCodecs_eq]
  by_cases h : (codecLoop U getMimeType codecs mimeTypes).2 = []
  · rw [if_pos h]
    simp [h]
  · rw [if_neg h]
    simp [h]

/-- When no call is raised the names are in lower case, and a payload type is
    configured exactly when its own name is on the list. -/
theorem configured_iff {codecs : List P} {mimeTypes : List String}
    (h : ∀ mime ∈ mimeTypes, ∃ codec ∈ codecs, mime = U.toLower (getMimeType codec)) (codec : P) :
    Configured U getMimeType mimeTypes codec ↔ U.toLower (getMimeType codec) ∈ mimeTypes := by
  constructor
  · rintro ⟨mime, hmem, heq⟩
    obtain ⟨codec', -, hmime⟩ := h mime hmem
    have hlower : U.toLower mime = mime := by rw [hmime, U.toLower_toLower]
    rw [U.iequals_iff, hlower] at heq
    rw [heq]
    exact hmem
  · intro hmem
    refine ⟨_, hmem, (U.iequals_iff _ _).mpr ?_⟩
    rw [U.toLower_toLower]

/-- Two payload types do not have one name that is configured. -/
def Apart (U : StringUtils) (getMimeType : P → String) (mimeTypes : List String)
    (codec codec' : P) : Prop :=
  U.toLower (getMimeType codec) = U.toLower (getMimeType codec') →
    U.toLower (getMimeType codec) ∉ mimeTypes

theorem Apart.symm {mimeTypes : List String} {codec codec' : P}
    (h : Apart U getMimeType mimeTypes codec codec') :
    Apart U getMimeType mimeTypes codec' codec := by
  intro heq
  rw [heq]
  exact h heq.symm

/-- The payload type is found among the names that no earlier one has taken. -/
theorem found_iff {mimeTypes : List String} (hlower : ∀ mime ∈ mimeTypes, U.toLower mime = mime)
    (seen : List P) (codec : P) :
    (unclaimed U getMimeType mimeTypes seen).any
        (fun mime => U.iequals (getMimeType codec) mime) = true ↔
      U.toLower (getMimeType codec) ∈ mimeTypes ∧
        ∀ codec' ∈ seen, U.toLower (getMimeType codec) ≠ U.toLower (getMimeType codec') := by
  rw [List.any_eq_true]
  constructor
  · rintro ⟨mime, hmem, heq⟩
    obtain ⟨hmem, hfree⟩ := mem_unclaimed.mp hmem
    rw [U.iequals_iff, hlower mime hmem] at heq
    rw [heq]
    exact ⟨hmem, hfree⟩
  · rintro hboth
    refine ⟨_, mem_unclaimed.mpr hboth, ?_⟩
    rw [U.iequals_iff, U.toLower_toLower]

/-- **What the loop enables**, after it has passed the payload types `seen`:
    those whose name is configured, exactly when none of them shares it with an
    earlier one. -/
theorem codecLoop_enabled_iff {mimeTypes : List String}
    (hlower : ∀ mime ∈ mimeTypes, U.toLower mime = mime) (codecs : List P) :
    ∀ seen : List P,
      (∀ entry ∈ (codecLoop U getMimeType codecs (unclaimed U getMimeType mimeTypes seen)).1,
        entry.2 = true ↔ U.toLower (getMimeType entry.1) ∈ mimeTypes) ↔
      (∀ codec ∈ codecs, ∀ codec' ∈ seen, Apart U getMimeType mimeTypes codec codec') ∧
        codecs.Pairwise (Apart U getMimeType mimeTypes) := by
  induction codecs with
  | nil =>
      intro seen
      exact iff_of_true (List.forall_mem_nil _) ⟨List.forall_mem_nil _, List.Pairwise.nil⟩
  | cons codec rest ih =>
      intro seen
      have hleft : (unclaimed U getMimeType mimeTypes seen).filter
            (· ≠ U.toLower (getMimeType codec)) =
          unclaimed U getMimeType mimeTypes (codec :: seen) :=
        List.filter_filter
      -- the first payload type is enabled as it should be, unless its name was taken
      have hhead : ((unclaimed U getMimeType mimeTypes seen).any
            (fun mime => U.iequals (getMimeType codec) mime) = true ↔
              U.toLower (getMimeType codec) ∈ mimeTypes) ↔
          ∀ codec' ∈ seen, Apart U getMimeType mimeTypes codec codec' := by
        rw [found_iff hlower]
        constructor
        · intro h codec' hseen heq hmem
          exact (h.mpr hmem).2 codec' hseen heq
        · intro h
          exact ⟨fun hboth => hboth.1, fun hmem =>
            ⟨hmem, fun codec' hseen heq => h codec' hseen heq hmem⟩⟩
      rw [codecLoop_cons]
      show (∀ entry ∈ _ :: (codecLoop U getMimeType rest _).1, _) ↔ _
      rw [List.forall_mem_cons, hleft, ih (codec :: seen), hhead]
      simp only [List.forall_mem_cons, List.pairwise_cons]
      constructor
      · rintro ⟨hseen, hrest, hpair⟩
        exact ⟨⟨hseen, fun codec' hin => (hrest codec' hin).2⟩,
          fun codec' hin => ((hrest codec' hin).1).symm, hpair⟩
      · rintro ⟨⟨hseen, hrest⟩, hhd, hpair⟩
        exact ⟨hseen, fun codec' hin => ⟨(hhd codec' hin).symm, hrest codec' hin⟩, hpair⟩

/-- When no name is shared the loop enables what is configured, in any order. -/
theorem codecLoop_of_apart {mimeTypes : List String}
    (hlower : ∀ mime ∈ mimeTypes, U.toLower mime = mime) {codecs : List P}
    (h : codecs.Pairwise (Apart U getMimeType mimeTypes)) :
    (codecLoop U getMimeType codecs mimeTypes).1 =
      codecs.map (fun codec => (codec, decide (U.toLower (getMimeType codec) ∈ mimeTypes))) := by
  have hnone : unclaimed U getMimeType mimeTypes [] = mimeTypes := by simp [unclaimed]
  have hall := (codecLoop_enabled_iff hlower codecs []).mpr
    ⟨fun _ _ => List.forall_mem_nil _, h⟩
  rw [hnone] at hall
  have hcodecs : (codecLoop U getMimeType codecs mimeTypes).1.map Prod.fst = codecs :=
    codecLoop_codecs codecs mimeTypes
  conv_rhs => rw [← hcodecs, List.map_map]
  refine (List.map_id _).symm.trans (List.map_congr_left (fun entry hin => ?_))
  exact Prod.ext rfl (Bool.eq_iff_iff.mpr ((hall entry hin).trans decide_eq_true_iff.symm))

/-- **When exactly the configured codecs are enabled.**  A call that does not
    raise enables exactly the payload types that are configured, whatever the
    order of its arguments, exactly when no two payload types share a configured
    MIME type. -/
theorem configured_enabled_iff (U : StringUtils) (getMimeType : P → String) (codecs : List P)
    (mimeTypes : List String) (config : String) (enabled : List (P × Bool))
    (hok : enableSelectedCodecs U getMimeType codecs mimeTypes config = .ok enabled) :
    ExactlyConfigured U getMimeType codecs mimeTypes config enabled ↔
      Unshared U getMimeType codecs mimeTypes := by
  obtain ⟨hclaimed, rfl⟩ := enableSelectedCodecs_ok_iff.mp hok
  have hlower : ∀ mime ∈ mimeTypes, U.toLower mime = mime := by
    intro mime hmem
    obtain ⟨codec, -, rfl⟩ := hclaimed mime hmem
    exact U.toLower_toLower _
  have hconfigured := configured_iff hclaimed
  have hunshared : Unshared U getMimeType codecs mimeTypes ↔
      codecs.Pairwise (Apart U getMimeType mimeTypes) := by
    simp only [Unshared, U.iequals_iff, hconfigured]
    exact Iff.rfl
  have hnone : unclaimed U getMimeType mimeTypes [] = mimeTypes := by simp [unclaimed]
  rw [hunshared]
  constructor
  · rintro ⟨-, hall, -⟩
    refine ((codecLoop_enabled_iff hlower codecs []).mp ?_).2
    rw [hnone]
    intro entry hin
    rw [← hconfigured]
    exact hall entry hin
  · intro hapart
    refine ⟨codecLoop_codecs codecs mimeTypes, fun entry hin => ?_,
      fun codecs' mimeTypes' hperm hsame => ?_⟩
    · rw [codecLoop_of_apart hlower hapart] at hin
      obtain ⟨codec, -, rfl⟩ := List.mem_map.mp hin
      rw [hconfigured]
      exact decide_eq_true_iff
    · -- the condition speaks neither of an order nor of a repetition
      have hlower' : ∀ mime ∈ mimeTypes', U.toLower mime = mime :=
        fun mime hmem => hlower mime ((hsame mime).mp hmem)
      have hapart' : codecs'.Pairwise (Apart U getMimeType mimeTypes') := by
        refine (hperm.symm.pairwise hapart Apart.symm).imp (fun h heq hmem => ?_)
        exact h heq ((hsame _).mp hmem)
      refine ⟨_, enableSelectedCodecs_ok_iff.mpr ⟨fun mime hmem => ?_, rfl⟩, ?_⟩
      · obtain ⟨codec, hin, heq⟩ := hclaimed mime ((hsame mime).mp hmem)
        exact ⟨codec, hperm.mem_iff.mpr hin, heq⟩
      · rw [codecLoop_of_apart hlower hapart, codecLoop_of_apart hlower' hapart']
        simp only [hsame]
        exact hperm.map _

end Lemmas

/-! ## Which configurations are rejected

    The loop finds a payload type ignoring case, but takes only the lower-case
    spelling of its MIME type off the list: a name written with a capital is
    found, its payload type is enabled, and the name is left. -/

section Rejection

variable (U : StringUtils) (getMimeType : P → String)

/-- The name equals the MIME type of no payload type, ignoring case. -/
def unsupported (codecs : List P) (mime : String) : Bool :=
  codecs.all (fun codec => !U.iequals (getMimeType codec) mime)

/-- The names that a call reports: those that its loop leaves. -/
def reportedNames (codecs : List P) (mimeTypes : List String) : List String :=
  (codecLoop U getMimeType codecs mimeTypes).2

/-- A call raises exactly when some name is unsupported, and the names that its
    error reports are exactly those. -/
def ExactlyRejected (codecs : List P) (mimeTypes : List String) (config : String) : Prop :=
  ((∃ err, enableSelectedCodecs U getMimeType codecs mimeTypes config = .error err) ↔
    ∃ mime ∈ mimeTypes, unsupported U getMimeType codecs mime = true) ∧
  ∀ err, enableSelectedCodecs U getMimeType codecs mimeTypes config = .error err →
    err = ⟨config, "unsupported codecs in the list: " ++
        U.join (reportedNames U getMimeType codecs mimeTypes)⟩ ∧
      reportedNames U getMimeType codecs mimeTypes =
        mimeTypes.filter (unsupported U getMimeType codecs)

end Rejection

section RejectionLemmas

variable {U : StringUtils} {getMimeType : P → String}

/-- A call raises when names are left, and reports them. -/
theorem enableSelectedCodecs_error_iff {codecs : List P} {mimeTypes : List String}
    {config : String} {err : BadConfigurationValue} :
    enableSelectedCodecs U getMimeType codecs mimeTypes config = .error err ↔
      reportedNames U getMimeType codecs mimeTypes ≠ [] ∧
        ⟨config, "unsupported codecs in the list: " ++
          U.join (reportedNames U getMimeType codecs mimeTypes)⟩ = err := by
  rw [reportedNames, enableSelectedCodecs_eq]
  by_cases h : (codecLoop U getMimeType codecs mimeTypes).2 = []
  · rw [if_pos h]
    simp [h]
  · rw [if_neg h]
    simp [h]

theorem unsupported_iff {codecs : List P} {mime : String} :
    unsupported U getMimeType codecs mime = true ↔
      ∀ codec ∈ codecs, U.toLower (getMimeType codec) ≠ U.toLower mime := by
  rw [unsupported, List.all_eq_true]
  refine forall₂_congr (fun codec _ => ?_)
  rw [Bool.not_eq_true', ← Bool.not_eq_true, U.iequals_iff]

/-- An unsupported name is left. -/
theorem mem_reportedNames_of_unsupported {codecs : List P} {mimeTypes : List String}
    {mime : String} (hmem : mime ∈ mimeTypes)
    (h : unsupported U getMimeType codecs mime = true) :
    mime ∈ reportedNames U getMimeType codecs mimeTypes := by
  rw [reportedNames, codecLoop_left, mem_unclaimed]
  refine ⟨hmem, ?_⟩
  rintro codec hin rfl
  exact unsupported_iff.mp h codec hin (U.toLower_toLower _).symm

/-- A supported name is taken off the list exactly when it is in lower case. -/
theorem mem_reportedNames_of_supported {codecs : List P} {mimeTypes : List String}
    {mime : String} (hmem : mime ∈ mimeTypes)
    (h : unsupported U getMimeType codecs mime = false) :
    mime ∈ reportedNames U getMimeType codecs mimeTypes ↔ U.toLower mime ≠ mime := by
  rw [reportedNames, codecLoop_left, mem_unclaimed]
  constructor
  · rintro ⟨-, hfree⟩ hlower
    -- in lower case the name is its payload type's
    rw [← Bool.not_eq_true, unsupported_iff] at h
    push Not at h
    obtain ⟨codec, hin, heq⟩ := h
    exact hfree codec hin (heq.trans hlower).symm
  · intro hlower
    refine ⟨hmem, ?_⟩
    rintro codec - rfl
    exact hlower (U.toLower_toLower _)

/-- The names that are left are the unsupported ones exactly when every
    supported name is in lower case. -/
theorem reportedNames_eq_iff {codecs : List P} {mimeTypes : List String} :
    reportedNames U getMimeType codecs mimeTypes =
        mimeTypes.filter (unsupported U getMimeType codecs) ↔
      ∀ mime ∈ mimeTypes, unsupported U getMimeType codecs mime = false →
        U.toLower mime = mime := by
  constructor
  · intro heq mime hmem hsupported
    by_contra hlower
    have hleft := (mem_reportedNames_of_supported hmem hsupported).mpr hlower
    rw [heq, List.mem_filter, hsupported] at hleft
    cases hleft.2
  · intro hlower
    have hkeep : ∀ mime ∈ mimeTypes,
        (codecs.all (fun codec => mime ≠ U.toLower (getMimeType codec))) =
          unsupported U getMimeType codecs mime := by
      intro mime hmem
      have hleft : mime ∈ reportedNames U getMimeType codecs mimeTypes ↔
          codecs.all (fun codec => mime ≠ U.toLower (getMimeType codec)) = true := by
        rw [reportedNames, codecLoop_left, unclaimed, List.mem_filter]
        exact and_iff_right hmem
      rw [Bool.eq_iff_iff, ← hleft]
      cases hsupported : unsupported U getMimeType codecs mime with
      | false =>
          rw [mem_reportedNames_of_supported hmem hsupported]
          exact iff_of_false (not_not_intro (hlower mime hmem hsupported)) (Bool.false_ne_true)
      | true => exact iff_of_true (mem_reportedNames_of_unsupported hmem hsupported) rfl
    rw [reportedNames, codecLoop_left]
    exact List.filter_congr hkeep

/-- **WHICH CONFIGURATIONS ARE REJECTED AS THEY SHOULD BE.**  A call raises
    exactly when some name is unsupported, and reports exactly those, if and
    only if every configured name that a payload type supports is written in
    lower case. -/
theorem exactly_rejected_iff (U : StringUtils) (getMimeType : P → String) (codecs : List P)
    (mimeTypes : List String) (config : String) :
    ExactlyRejected U getMimeType codecs mimeTypes config ↔
      ∀ mime ∈ mimeTypes, unsupported U getMimeType codecs mime = false →
        U.toLower mime = mime := by
  rw [← reportedNames_eq_iff]
  constructor
  · rintro ⟨-, hreport⟩
    by_cases hleft : reportedNames U getMimeType codecs mimeTypes = []
    · -- nothing is left, so nothing is unsupported
      rw [hleft, eq_comm, List.filter_eq_nil_iff]
      intro mime hmem hun
      have := mem_reportedNames_of_unsupported hmem hun
      rw [hleft] at this
      cases this
    · exact (hreport _ (enableSelectedCodecs_error_iff.mpr ⟨hleft, rfl⟩)).2
  · intro heq
    refine ⟨?_, fun err herr => ⟨((enableSelectedCodecs_error_iff.mp herr).2).symm, heq⟩⟩
    simp only [enableSelectedCodecs_error_iff, exists_and_left, exists_eq', and_true]
    rw [heq, ne_eq, List.filter_eq_nil_iff]
    push Not
    exact Iff.rfl

end RejectionLemmas

/-- A letter in lower case is not changed again. -/
theorem char_toLower_toLower (c : Char) : c.toLower.toLower = c.toLower := by
  by_cases h : c.val ≥ 'A'.val ∧ c.val ≤ 'Z'.val
  · have hupper : c.toLower = _ := dif_pos h
    have hval : c.toLower.val = c.val + 32 := by
      rw [hupper]
      rfl
    have hnot : ¬ (c.toLower.val ≥ 'A'.val ∧ c.toLower.val ≤ 'Z'.val) := by
      have hA : 'A'.val = 65 := rfl
      have hZ : 'Z'.val = 90 := rfl
      rw [hval]
      rw [hA, hZ] at *
      grind
    exact dif_neg hnot
  · have hsame : c.toLower = c := dif_neg h
    rw [hsame, hsame]

/-- String utilities on ASCII strings. -/
def asciiUtils : StringUtils where
  toLower s := String.ofList (s.toList.map Char.toLower)
  iequals a b := String.ofList (a.toList.map Char.toLower) =
    String.ofList (b.toList.map Char.toLower)
  join l := " ".intercalate l
  iequals_iff a b := decide_eq_true_iff
  toLower_toLower s := by
    rw [String.toList_ofList, List.map_map]
    exact congrArg String.ofList
      (List.map_congr_left (fun c _ => char_toLower_toLower c))

/-- `configured_enabled_iff` at work: two codecs, each with one payload type. -/
theorem configured_enabled_iff_two :
    ExactlyConfigured asciiUtils Prod.fst [("opus", 48000), ("PCMU", 8000), ("PCMA", 8000)]
      ["pcmu", "opus"] "supported-audio-codecs"
      [(("opus", 48000), true), (("PCMU", 8000), true), (("PCMA", 8000), false)] := by
  exact (configured_enabled_iff asciiUtils Prod.fst [("opus", 48000), ("PCMU", 8000),
    ("PCMA", 8000)] ["pcmu", "opus"] "supported-audio-codecs" _ (by decide)).mpr (by decide)

/-- A codec with two clock rates: the second payload type is disabled although
    it is configured. -/
theorem second_clock_rate_disabled :
    enableSelectedCodecs asciiUtils Prod.fst [("speex", 16000), ("speex", 8000)] ["speex"]
        "supported-audio-codecs" = .ok [(("speex", 16000), true), (("speex", 8000), false)] ∧
      Configured asciiUtils Prod.fst ["speex"] ("speex", 8000) ∧
      ¬ ExactlyConfigured asciiUtils Prod.fst [("speex", 16000), ("speex", 8000)] ["speex"]
        "supported-audio-codecs" [(("speex", 16000), true), (("speex", 8000), false)] := by
  refine ⟨by decide, ⟨"speex", List.mem_singleton_self _, by decide⟩, fun h => ?_⟩
  have hspeex := (h.2.1 (("speex", 8000), false) (by simp)).mpr
    ⟨"speex", List.mem_singleton_self _, by decide⟩
  cases hspeex

/-- A codec written with a capital: its payload type is enabled, and the call
    raises because of its name. -/
theorem capital_rejected :
    codecLoop asciiUtils Prod.fst [("opus", 48000)] ["Opus"] =
        ([(("opus", 48000), true)], ["Opus"]) ∧
      enableSelectedCodecs asciiUtils Prod.fst [("opus", 48000)] ["Opus"]
        "supported-audio-codecs" =
          .error ⟨"supported-audio-codecs", "unsupported codecs in the list: Opus"⟩ ∧
      unsupported asciiUtils Prod.fst [("opus", 48000)] "Opus" = false ∧
      ¬ ExactlyRejected asciiUtils Prod.fst [("opus", 48000)] ["Opus"]
        "supported-audio-codecs" := by
  refine ⟨by decide, by decide, by decide, fun h => ?_⟩
  obtain ⟨mime, hmem, hun⟩ := h.1.mp ⟨_, rfl⟩
  rw [List.mem_singleton.mp hmem] at hun
  revert hun
  decide

end Codecs
