import FlexisipConference.Library.SubstringProofs
import Mathlib.Data.List.Nodup
import Mathlib.Data.String.Basic
import Mathlib.Logic.Function.Basic

/-! # Listing the settings and overriding them

    `--list-overrides` prints the path of each setting in the tree of the
    configuration; `--set path=value` overrides the setting with that path.  The
    paths are built on the way down, with a slash between two names; the argument
    is split at its first equals sign.

    The name of the root does not show in a path, and neither would that of a
    section called the same.  In a tree without such a section, whose names are
    neither empty nor contain these two signs, and in which siblings have different
    names, the paths tell the settings apart (`nodup_depthFirstSearch`), and any
    choice of values can be passed. -/

namespace Overrides

open Substrings

/-- An entry of the configuration: a `GenericStruct`, a `ConfigValue`, or one that
    is neither. -/
inductive ConfigEntry where
  | struct (name : String) (children : List ConfigEntry)
  | value (name : String)
  | other (name : String)

/-- `getName`. -/
def ConfigEntry.getName : ConfigEntry → String
  | .struct name _ => name
  | .value name => name
  | .other name => name

/-- What stands before a name, below a path. -/
def before (path : String) : String := if path.isEmpty then "" else path ++ "/"

mutual

/-- `depthFirstSearch`: what it adds to `allCompletions`. -/
def depthFirstSearch (path : String) : ConfigEntry → List String
  | .struct name children =>
      let newpath := before path ++ if name ≠ "flexisip" then name else ""
      depthFirstSearchAll newpath children
  | .value name => [before path ++ name]
  | .other _ => []

/-- The loop over the children. -/
def depthFirstSearchAll (path : String) : List ConfigEntry → List String
  | [] => []
  | entry :: rest => depthFirstSearch path entry ++ depthFirstSearchAll path rest

end

/-- What `--list-overrides` prints: nothing without a filter. -/
def listOverrides (root : ConfigEntry) (filter : String) : List String :=
  let allCompletions := "nosnmp" :: depthFirstSearch "" root
  if filter.isEmpty then []
  else if filter = "all" then allCompletions
  else allCompletions.filter (fun completion => filter.toList <+: completion.toList)

/-- The split of `key=value` at the first equals sign. -/
def splitAtEqual (kv : String) : Option (String × String) :=
  match kv.toList.dropWhile (· ≠ '=') with
  | [] => none
  | _ :: value => some (String.ofList (kv.toList.takeWhile (· ≠ '=')), String.ofList value)

/-- One `--set` argument; one without an equals sign is passed over. -/
def setOverride (oset : String → Option String) (kv : String) : String → Option String :=
  match splitAtEqual kv with
  | none => oset
  | some (key, value) => Function.update oset key (some value)

/-- The override map, from the `--set` arguments. -/
def overrideMap (overrideConfig : List String) : String → Option String :=
  overrideConfig.foldl setOverride (fun _ => none)

/-! ## The paths of a tree -/

mutual

/-- The names from an entry down to each setting in it. -/
def settings : ConfigEntry → List (List String)
  | .struct name children => (settingsAll children).map (name :: ·)
  | .value name => [[name]]
  | .other _ => []

def settingsAll : List ConfigEntry → List (List String)
  | [] => []
  | entry :: rest => settings entry ++ settingsAll rest

end

/-- Names with a slash between any two. -/
def pathOf : List String → String
  | [] => ""
  | [name] => name
  | name :: name' :: rest => name ++ "/" ++ pathOf (name' :: rest)

/-- Neither empty nor with a sign that means something in an argument. -/
structure GoodName (name : String) : Prop where
  ne_empty : name ≠ ""
  no_slash : '/' ∉ name.toList
  no_equal : '=' ∉ name.toList

mutual

/-- The names of an entry and below are good, those of siblings are different, and
    no section but the root has the name of the root. -/
def WellNamed : ConfigEntry → Prop
  | .struct name children => GoodName name ∧ name ≠ "flexisip" ∧ WellNamedAll children
  | .value name => GoodName name
  | .other _ => True

def WellNamedAll : List ConfigEntry → Prop
  | [] => True
  | entry :: rest =>
      WellNamed entry ∧ (∀ entry' ∈ rest, entry'.getName ≠ entry.getName) ∧ WellNamedAll rest

end

/-- Induction over a configuration. -/
theorem ConfigEntry.induction {P : ConfigEntry → Prop}
    (struct : ∀ name children, (∀ entry ∈ children, P entry) → P (.struct name children))
    (value : ∀ name, P (.value name)) (other : ∀ name, P (.other name)) (entry : ConfigEntry) :
    P entry := by
  refine @ConfigEntry.rec P (fun children => ∀ entry ∈ children, P entry) struct value other
    ?_ ?_ entry
  · intro entry hmem
    cases hmem
  · intro entry rest hentry hrest entry' hmem
    rcases List.mem_cons.mp hmem with rfl | hmem
    · exact hentry
    · exact hrest entry' hmem

theorem settingsAll_eq (entries : List ConfigEntry) :
    settingsAll entries = entries.flatMap settings := by
  induction entries with
  | nil => rfl
  | cons entry rest ih => rw [settingsAll, ih, List.flatMap_cons]

theorem depthFirstSearchAll_eq (path : String) (entries : List ConfigEntry) :
    depthFirstSearchAll path entries = entries.flatMap (depthFirstSearch path) := by
  induction entries with
  | nil => rfl
  | cons entry rest ih => rw [depthFirstSearchAll, ih, List.flatMap_cons]

/-- Well named are entries that are so each, with a name of their own among their
    siblings. -/
theorem wellNamedAll_iff (entries : List ConfigEntry) :
    WellNamedAll entries ↔ (∀ entry ∈ entries, WellNamed entry) ∧
      entries.Pairwise (fun entry entry' => entry'.getName ≠ entry.getName) := by
  induction entries with
  | nil => simp [WellNamedAll]
  | cons entry rest ih =>
      rw [WellNamedAll, ih, List.forall_mem_cons, List.pairwise_cons]
      tauto

/-- A setting is reached through the name of its entry, and only through good
    names. -/
theorem good_of_settings (entry : ConfigEntry) :
    WellNamed entry → ∀ names ∈ settings entry,
      names.head? = some entry.getName ∧ ∀ name ∈ names, GoodName name := by
  induction entry using ConfigEntry.induction with
  | struct name children ih =>
      intro hwell names hmem
      obtain ⟨hname, -, hchildren⟩ := hwell
      rw [settings, List.mem_map] at hmem
      obtain ⟨below, hbelow, rfl⟩ := hmem
      rw [settingsAll_eq, List.mem_flatMap] at hbelow
      obtain ⟨child, hchild, hbelow⟩ := hbelow
      have hgood := ih child hchild (((wellNamedAll_iff children).mp hchildren).1 child hchild)
        below hbelow
      exact ⟨rfl, List.forall_mem_cons.mpr ⟨hname, hgood.2⟩⟩
  | value name =>
      intro hwell names hmem
      rw [List.mem_singleton.mp hmem]
      exact ⟨rfl, List.forall_mem_singleton.mpr hwell⟩
  | other name =>
      intro hwell names hmem
      cases hmem

/-- The names on the way to a setting are good ones, and there is one at least. -/
theorem good_of_settingsAll {entries : List ConfigEntry} (hwell : WellNamedAll entries)
    {names : List String} (hmem : names ∈ settingsAll entries) :
    names ≠ [] ∧ ∀ name ∈ names, GoodName name := by
  rw [settingsAll_eq, List.mem_flatMap] at hmem
  obtain ⟨entry, hentry, hmem⟩ := hmem
  have hgood := good_of_settings entry (((wellNamedAll_iff entries).mp hwell).1 entry hentry)
    names hmem
  refine ⟨?_, hgood.2⟩
  intro hnil
  rw [hnil] at hgood
  cases hgood.1

/-- Siblings with different names share no setting. -/
theorem nodup_settingsAll {entries : List ConfigEntry} (hwell : WellNamedAll entries)
    (hnodup : ∀ entry ∈ entries, (settings entry).Nodup) : (settingsAll entries).Nodup := by
  obtain ⟨hall, hpair⟩ := (wellNamedAll_iff entries).mp hwell
  rw [settingsAll_eq]
  refine List.nodup_flatMap.mpr ⟨hnodup, hpair.imp_of_mem ?_⟩
  intro entry entry' hentry hentry' hne names hmem hmem'
  have hhead := (good_of_settings entry (hall entry hentry) names hmem).1
  have hhead' := (good_of_settings entry' (hall entry' hentry') names hmem').1
  exact hne (Option.some.inj (hhead'.symm.trans hhead))

/-- No setting of a well named entry is met twice. -/
theorem nodup_settings (entry : ConfigEntry) : WellNamed entry → (settings entry).Nodup := by
  induction entry using ConfigEntry.induction with
  | struct name children ih =>
      intro hwell
      obtain ⟨-, -, hchildren⟩ := hwell
      refine List.Nodup.map (fun _ _ => List.tail_eq_of_cons_eq) (nodup_settingsAll hchildren ?_)
      intro child hchild
      exact ih child hchild (((wellNamedAll_iff children).mp hchildren).1 child hchild)
  | value name =>
      intro hwell
      exact List.nodup_singleton _
  | other name =>
      intro hwell
      exact List.nodup_nil

/-! ## Paths and names -/

/-- Below the root a path is followed by a slash. -/
theorem before_of_ne {path : String} (hne : path ≠ "") : before path = path ++ "/" := by
  refine if_neg ?_
  rw [String.isEmpty_iff]
  exact hne

theorem append_ne_empty (path : String) {name : String} (hne : name ≠ "") :
    path ++ name ≠ "" := by
  intro h
  refine hne (String.toList_injective ?_)
  have hlist := congrArg String.toList h
  rw [String.toList_append] at hlist
  exact (List.append_eq_nil_iff.mp hlist).2

theorem pathOf_cons (name : String) {names : List String} (hne : names ≠ []) :
    pathOf (name :: names) = name ++ "/" ++ pathOf names := by
  cases names with
  | nil => exact absurd rfl hne
  | cons name' rest => rfl

/-- The search joins the names on the way down to each setting. -/
theorem depthFirstSearch_eq (entry : ConfigEntry) :
    ∀ path, WellNamed entry →
      depthFirstSearch path entry =
        (settings entry).map (fun names => before path ++ pathOf names) := by
  induction entry using ConfigEntry.induction with
  | struct name children ih =>
      intro path hwell
      obtain ⟨hname, hroot, hchildren⟩ := hwell
      have hbefore : before (before path ++ name) = before path ++ (name ++ "/") := by
        rw [before_of_ne (append_ne_empty _ hname.ne_empty), String.append_assoc]
      rw [depthFirstSearch, if_pos hroot, depthFirstSearchAll_eq, settings, settingsAll_eq,
        List.map_map, List.map_flatMap]
      refine List.flatMap_congr ?_
      intro child hchild
      have hwell := ((wellNamedAll_iff children).mp hchildren).1 child hchild
      rw [ih child hchild _ hwell, hbefore]
      refine List.map_congr_left ?_
      intro names hmem
      have hne : names ≠ [] := by
        rintro rfl
        cases (good_of_settings child hwell _ hmem).1
      rw [Function.comp_apply, pathOf_cons name hne, String.append_assoc]
  | value name =>
      intro path hwell
      rfl
  | other name =>
      intro path hwell
      rfl

/-- What is listed of a configuration, whose root does not show. -/
theorem depthFirstSearch_root {children : List ConfigEntry} (hwell : WellNamedAll children) :
    depthFirstSearch "" (.struct "flexisip" children) = (settingsAll children).map pathOf := by
  have hbefore : before "" = "" := rfl
  rw [depthFirstSearch, if_neg (not_not_intro rfl), depthFirstSearchAll_eq, settingsAll_eq,
    List.map_flatMap, hbefore, String.empty_append]
  refine List.flatMap_congr ?_
  intro child hchild
  rw [depthFirstSearch_eq child "" (((wellNamedAll_iff children).mp hwell).1 child hchild), hbefore]
  simp only [String.empty_append]

theorem toList_pathOf (name : String) (names : List String) :
    (pathOf (name :: names)).toList
      = name.toList ++ if names = [] then [] else '/' :: (pathOf names).toList := by
  by_cases hne : names = []
  · rw [if_pos hne, hne, List.append_nil]
    rfl
  · rw [if_neg hne, pathOf_cons name hne, String.toList_append, String.toList_append,
      List.append_assoc]
    rfl

/-- The first name of a path ends at the first slash. -/
theorem span_pathOf {name : String} (names : List String) (hname : GoodName name) :
    (pathOf (name :: names)).toList.takeWhile (· ≠ '/') = name.toList ∧
      (pathOf (name :: names)).toList.dropWhile (· ≠ '/')
        = if names = [] then [] else '/' :: (pathOf names).toList := by
  rw [toList_pathOf]
  split
  · rw [List.append_nil]
    exact span_of_not_mem hname.no_slash
  · exact span_append_cons hname.no_slash

/-- A path has only the names it is made of. -/
theorem pathOf_injective : ∀ {names names' : List String}, names ≠ [] → names' ≠ [] →
    (∀ name ∈ names, GoodName name) → (∀ name ∈ names', GoodName name) →
    pathOf names = pathOf names' → names = names' := by
  intro names
  induction names with
  | nil =>
      intro names' hne
      exact absurd rfl hne
  | cons name rest ih =>
      intro names' _ hne' hgood hgood' heq
      obtain ⟨name', rest', rfl⟩ := List.exists_cons_of_ne_nil hne'
      obtain ⟨hname, hrest⟩ := List.forall_mem_cons.mp hgood
      obtain ⟨hname', hrest'⟩ := List.forall_mem_cons.mp hgood'
      obtain ⟨hfirst, hafter⟩ := span_pathOf rest hname
      obtain ⟨hfirst', hafter'⟩ := span_pathOf rest' hname'
      rw [heq, hfirst', String.toList_inj] at hfirst
      rw [heq, hafter'] at hafter
      refine List.cons_eq_cons.mpr ⟨hfirst.symm, ?_⟩
      by_cases hnil : rest = []
      · by_cases hnil' : rest' = []
        · rw [hnil, hnil']
        · rw [if_pos hnil, if_neg hnil'] at hafter
          cases hafter
      · by_cases hnil' : rest' = []
        · rw [if_neg hnil, if_pos hnil'] at hafter
          cases hafter
        · rw [if_neg hnil, if_neg hnil'] at hafter
          exact ih hnil hnil' hrest hrest' (String.toList_injective (List.cons.inj hafter).2.symm)

/-- There is no equal sign in a path of good names. -/
theorem no_equal_pathOf (names : List String) :
    (∀ name ∈ names, GoodName name) → '=' ∉ (pathOf names).toList := by
  induction names with
  | nil =>
      intro _
      exact List.not_mem_nil
  | cons name rest ih =>
      intro hgood
      obtain ⟨hname, hrest⟩ := List.forall_mem_cons.mp hgood
      rw [toList_pathOf, List.mem_append, not_or]
      refine ⟨hname.no_equal, ?_⟩
      split
      · exact List.not_mem_nil
      · rw [List.mem_cons, not_or]
        exact ⟨by decide, ih hrest⟩

/-- The listed paths tell the settings apart. -/
theorem nodup_depthFirstSearch {children : List ConfigEntry} (hwell : WellNamedAll children) :
    (depthFirstSearch "" (.struct "flexisip" children)).Nodup := by
  have hnodup := nodup_settingsAll hwell (fun entry hentry =>
    nodup_settings entry (((wellNamedAll_iff children).mp hwell).1 entry hentry))
  rw [depthFirstSearch_root hwell]
  refine hnodup.map_on ?_
  intro names hmem names' hmem' heq
  obtain ⟨hne, hgood⟩ := good_of_settingsAll hwell hmem
  obtain ⟨hne', hgood'⟩ := good_of_settingsAll hwell hmem'
  exact pathOf_injective hne hne' hgood hgood' heq

/-! ## The arguments -/

/-- A listed path followed by a value is split into the two. -/
theorem splitAtEqual_append {key : String} (value : String) (hkey : '=' ∉ key.toList) :
    splitAtEqual (key ++ "=" ++ value) = some (key, value) := by
  have hlist : (key ++ "=" ++ value).toList = key.toList ++ '=' :: value.toList := by
    rw [String.toList_append, String.toList_append, List.append_assoc]
    rfl
  obtain ⟨htake, hdrop⟩ := span_append_cons (y := value.toList) hkey
  rw [splitAtEqual, hlist, hdrop, htake]
  simp only [String.ofList_toList]

/-- The argument that sets a path to a value. -/
def argument (pair : String × String) : String := pair.1 ++ "=" ++ pair.2

/-- An argument made of a pair sets that pair, since the first equal sign is the one
    put there. -/
theorem setOverride_argument (oset : String → Option String) {pair : String × String}
    (hkey : '=' ∉ pair.1.toList) :
    setOverride oset (argument pair) = Function.update oset pair.1 (some pair.2) := by
  rw [setOverride, argument, splitAtEqual_append _ hkey]

/-- The arguments leave every other path as it was. -/
theorem foldl_setOverride_of_not_mem (pairs : List (String × String)) :
    ∀ oset key, (∀ pair ∈ pairs, '=' ∉ pair.1.toList) → key ∉ pairs.map Prod.fst →
      (pairs.map argument).foldl setOverride oset key = oset key := by
  induction pairs with
  | nil =>
      intro oset key _ _
      rfl
  | cons pair pairs ih =>
      intro oset key hkeys hkey
      obtain ⟨hpair, hpairs⟩ := List.forall_mem_cons.mp hkeys
      rw [List.map_cons, List.mem_cons, not_or] at hkey
      rw [List.map_cons, List.foldl_cons, setOverride_argument _ hpair, ih _ _ hpairs hkey.2,
        Function.update_of_ne hkey.1]

/-- A path that is set once gets its value, wherever its argument stands. -/
theorem foldl_setOverride_of_mem (pairs : List (String × String)) :
    ∀ oset, (∀ pair ∈ pairs, '=' ∉ pair.1.toList) → (pairs.map Prod.fst).Nodup →
      ∀ pair ∈ pairs, (pairs.map argument).foldl setOverride oset pair.1 = some pair.2 := by
  induction pairs with
  | nil =>
      intro oset _ _ pair hmem
      cases hmem
  | cons pair' pairs ih =>
      intro oset hkeys hnodup pair hmem
      obtain ⟨hpair, hpairs⟩ := List.forall_mem_cons.mp hkeys
      obtain ⟨hfresh, hnodup⟩ := List.nodup_cons.mp hnodup
      rw [List.map_cons, List.foldl_cons, setOverride_argument _ hpair]
      rcases List.mem_cons.mp hmem with rfl | hmem
      · rw [foldl_setOverride_of_not_mem pairs _ _ hpairs hfresh, Function.update_self]
      · exact ih _ hpairs hnodup pair hmem

/-- The values chosen for some of the settings, by path. -/
def chosenPairs (children : List ConfigEntry) (chosen : List String → Option String) :
    List (String × String) :=
  (settingsAll children).filterMap (fun names => (chosen names).map (Prod.mk (pathOf names)))

theorem mem_chosenPairs {children : List ConfigEntry} {chosen : List String → Option String}
    {pair : String × String} :
    pair ∈ chosenPairs children chosen ↔
      ∃ names ∈ settingsAll children, pathOf names = pair.1 ∧ chosen names = some pair.2 := by
  rw [chosenPairs, List.mem_filterMap]
  refine exists_congr (fun names => and_congr_right (fun _ => ?_))
  rw [Option.map_eq_some_iff]
  constructor
  · rintro ⟨value, hvalue, rfl⟩
    exact ⟨rfl, hvalue⟩
  · rintro ⟨hpath, hvalue⟩
    exact ⟨pair.2, hvalue, Prod.ext hpath rfl⟩

/-- The paths that are set are some of those listed, in their order. -/
theorem sublist_chosenPairs {children : List ConfigEntry} (chosen : List String → Option String)
    (hwell : WellNamedAll children) :
    ((chosenPairs children chosen).map Prod.fst).Sublist
      (depthFirstSearch "" (.struct "flexisip" children)) := by
  rw [depthFirstSearch_root hwell, chosenPairs]
  induction settingsAll children with
  | nil => exact List.Sublist.refl _
  | cons names rest ih =>
      rw [List.filterMap_cons, List.map_cons]
      cases chosen names with
      | none => exact ih.cons _
      | some value => exact ih.cons_cons _

/-- **Any choice of values can be passed.**  In a configuration whose names are
    neither empty nor contain a slash or an equals sign, whose siblings have
    different names, and in which no nested section has the name of the root, every
    setting is listed under a path of its own.  Passing that path with an equals
    sign and a value, for some of the settings and in any order, overrides each of
    these with its value and nothing else. -/
theorem overrides_round_trip {children : List ConfigEntry} (hwell : WellNamedAll children)
    (chosen : List String → Option String) {pairs : List (String × String)}
    (hpairs : pairs.Perm (chosenPairs children chosen)) :
    listOverrides (.struct "flexisip" children) "all"
        = "nosnmp" :: (settingsAll children).map pathOf ∧
      ((settingsAll children).map pathOf).Nodup ∧
      (∀ names ∈ settingsAll children,
        overrideMap (pairs.map argument) (pathOf names) = chosen names) ∧
      ∀ key ∉ (settingsAll children).map pathOf,
        overrideMap (pairs.map argument) key = none := by
  have hlisted := depthFirstSearch_root hwell
  have hsub := sublist_chosenPairs chosen hwell
  have hnodup : (pairs.map Prod.fst).Nodup :=
    (hpairs.map Prod.fst).nodup_iff.mpr (hsub.nodup (nodup_depthFirstSearch hwell))
  have hkeys : ∀ pair ∈ pairs, '=' ∉ pair.1.toList := by
    intro pair hmem
    obtain ⟨names, hnames, hpath, -⟩ := mem_chosenPairs.mp (hpairs.mem_iff.mp hmem)
    rw [← hpath]
    exact no_equal_pathOf names (good_of_settingsAll hwell hnames).2
  refine ⟨?_, hlisted ▸ nodup_depthFirstSearch hwell, ?_, ?_⟩
  · rw [listOverrides, if_neg (by decide), if_pos rfl, hlisted]
  · intro names hnames
    cases hchosen : chosen names with
    | some value =>
        have hmem : (pathOf names, value) ∈ chosenPairs children chosen :=
          mem_chosenPairs.mpr ⟨names, hnames, rfl, hchosen⟩
        exact foldl_setOverride_of_mem pairs _ hkeys hnodup _ (hpairs.mem_iff.mpr hmem)
    | none =>
        refine foldl_setOverride_of_not_mem pairs _ _ hkeys ?_
        intro hmem
        obtain ⟨pair, hpair, hfst⟩ := List.mem_map.mp hmem
        obtain ⟨names', hnames', hpath, hvalue⟩ := mem_chosenPairs.mp (hpairs.mem_iff.mp hpair)
        obtain ⟨hne, hgood⟩ := good_of_settingsAll hwell hnames
        obtain ⟨hne', hgood'⟩ := good_of_settingsAll hwell hnames'
        rw [pathOf_injective hne' hne hgood' hgood (hpath.trans hfst), hchosen] at hvalue
        cases hvalue
  · intro key hkey
    refine foldl_setOverride_of_not_mem pairs _ _ hkeys ?_
    intro hmem
    rw [← hlisted] at hkey
    exact hkey (hsub.subset ((hpairs.map Prod.fst).mem_iff.mp hmem))

/-- Two sections, with a setting of the same name in each. -/
def sampleChildren : List ConfigEntry :=
  [.struct "global" [.value "enabled"],
   .struct "conference-server" [.value "enabled", .value "database-type"]]

theorem wellNamed_sampleChildren : WellNamedAll sampleChildren := by
  have hglobal : GoodName "global" := ⟨by decide, by decide, by decide⟩
  have hserver : GoodName "conference-server" := ⟨by decide, by decide, by decide⟩
  have henabled : GoodName "enabled" := ⟨by decide, by decide, by decide⟩
  have htype : GoodName "database-type" := ⟨by decide, by decide, by decide⟩
  rw [wellNamedAll_iff, sampleChildren, List.forall_mem_cons, List.forall_mem_singleton]
  refine ⟨⟨⟨hglobal, by decide, ?_⟩, hserver, by decide, ?_⟩, by decide⟩
  · exact (wellNamedAll_iff _).mpr ⟨List.forall_mem_singleton.mpr henabled, by decide⟩
  · refine (wellNamedAll_iff _).mpr ⟨?_, by decide⟩
    exact List.forall_mem_cons.mpr ⟨henabled, List.forall_mem_singleton.mpr htype⟩

/-- Only the type of the database is set. -/
def sampleChosen (names : List String) : Option String :=
  if names = ["conference-server", "database-type"] then some "sqlite3" else none

/-- `overrides_round_trip` at work: one setting of a section is given, and only that
    one is overridden. -/
theorem overrides_round_trip_sample :
    overrideMap ["conference-server/database-type=sqlite3"] "conference-server/database-type"
        = some "sqlite3" ∧
      overrideMap ["conference-server/database-type=sqlite3"] "global/enabled" = none := by
  have hpairs : [("conference-server/database-type", "sqlite3")].Perm
      (chosenPairs sampleChildren sampleChosen) := by decide
  have h := (overrides_round_trip wellNamed_sampleChildren sampleChosen hpairs).2.2.1
  exact ⟨h ["conference-server", "database-type"] (by decide), h ["global", "enabled"] (by decide)⟩

end Overrides
