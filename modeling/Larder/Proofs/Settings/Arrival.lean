import Larder.Proofs.Dict
import Larder.Proofs.Number.Digits
import Larder.Proofs.Settings.Texts

/-!
What arrives of the value of an environment variable.

A variable is read as a truth value or a number where its value looks like one, and a setting that
is a text gets the text of what was read.  So the value arrives as it is if it is no such thing or
is written the way the program writes it, and only then: a password of digits loses the zeros in
front (`password_of_digits_changes`).  Everything else in the settings is as it would be with
another value in the variable.
-/

namespace Larder.Settings

/-! ## Values -/

namespace Variables

/-- The text that a setting gets from a variable. -/
def arrival (value : String) : String :=
  match treeOf value with
  | .bool b => if b then "true" else "false"
  | .integer n => toString n
  | .number x => x.text
  | _ => value

/-- A value that is read as what it says: a truth value in small letters, an integer without a plus
sign and without zeros in front, another number as it is printed, or anything that is none of
these. -/
def Arrives (value : String) : Prop :=
  match treeOf value with
  | .bool _ => value = "true" ∨ value = "false"
  | .integer _ => Extended.IsPlainInteger value.toList
  | .number x => x.text = value
  | _ => True

theorem treeOf_cases (value : String) :
    (∃ b, treeOf value = .bool b ∧ Text.lower value = if b then "true" else "false") ∨
      (∃ n, treeOf value = .integer n ∧ Extended.signed64? value.toList = some n) ∨
      (∃ x, treeOf value = .number x) ∨ treeOf value = .text value := by
  unfold treeOf
  dsimp only
  split
  · next h => exact Or.inl ⟨true, rfl, h⟩
  · split
    · next h => exact Or.inl ⟨false, rfl, h⟩
    · split
      · next n h => exact Or.inr (Or.inl ⟨n, rfl, h⟩)
      · split
        · next x h => exact Or.inr (Or.inr (Or.inl ⟨x, rfl⟩))
        · exact Or.inr (Or.inr (Or.inr rfl))

theorem isScalar_treeOf (value : String) : (treeOf value).IsScalar := by
  rcases treeOf_cases value with ⟨b, h, -⟩ | ⟨n, h, -⟩ | ⟨x, h⟩ | h
  all_goals rw [h]; exact trivial

theorem asText?_treeOf (value : String) : (treeOf value).asText? = some (arrival value) := by
  rw [arrival]
  rcases treeOf_cases value with ⟨b, h, -⟩ | ⟨n, h, -⟩ | ⟨x, h⟩ | h
  all_goals rw [h]; rfl

theorem arrival_eq_iff (value : String) : arrival value = value ↔ Arrives value := by
  rw [arrival, Arrives]
  rcases treeOf_cases value with ⟨b, h, hword⟩ | ⟨n, h, hread⟩ | ⟨x, h⟩ | h
  · rw [h]
    dsimp only
    constructor
    · rintro hsame
      cases b with
      | true => exact Or.inl hsame.symm
      | false => exact Or.inr hsame.symm
    · rintro (rfl | rfl)
      · cases b with
        | true => rfl
        | false => exact absurd hword (by decide +kernel)
      · cases b with
        | true => exact absurd hword (by decide +kernel)
        | false => rfl
  · rw [h]
    exact Extended.toString_signed64?_iff hread
  · rw [h]
  · rw [h]
    exact iff_of_true rfl trivial

end Variables

/-! ## Variables and files -/

theorem DotEnv.sorted_loadFrom (fuel : Nat) (vars assigned : Variables) (cs : List Char)
    (hsorted : Dict.Sorted vars) :
    Dict.Sorted (DotEnv.loadFrom fuel vars assigned cs) := by
  induction fuel generalizing vars assigned cs with
  | zero => exact hsorted
  | succ fuel ih =>
    unfold DotEnv.loadFrom
    split
    · exact hsorted
    · next line rest hline =>
      dsimp only
      split
      · exact hsorted
      · exact ih vars assigned rest hsorted
      · next key value hassignment =>
        -- A variable that is set is not set again.
        split
        · exact ih vars _ rest hsorted
        · exact ih (Dict.insert vars key value) (Dict.insert assigned key value) rest
            (hsorted.insert key value)

theorem Surroundings.sorted_loaded {s : Surroundings} (hsorted : Dict.Sorted s.vars) :
    Dict.Sorted s.loaded := by
  unfold loaded
  split
  · exact DotEnv.sorted_loadFrom _ _ _ _ hsorted
  · exact hsorted

namespace Loader

/-- What the files say, laid over one another. -/
def ofFiles? (l : Loader) (s : Surroundings) : Option (List (String × Tree)) := do
  let files ← (l.fileNames.filterMap fun name => s.file? (l.pathOf name)).mapM fun text =>
    Toml.read? (text.dropPrefix "\ufeff").toString
  return files.foldl (fun lower upper => Tree.layer upper lower) []

/-- The settings that are read of the files with the given variables on top. -/
def settingsWith? (l : Loader) (s : Surroundings) (vars : Variables) : Option Settings :=
  (l.ofFiles? s).bind fun lower => ofEntries? (Tree.layer vars.settings lower)

theorem entries?_bind (l : Loader) (s : Surroundings) :
    (l.entries? s).bind ofEntries? = l.settingsWith? s s.loaded := by
  unfold entries? settingsWith? ofFiles?
  simp only [Option.bind_eq_bind, Option.pure_def, Option.bind_assoc, Option.bind_some,
    List.foldl_append, List.foldl_cons, List.foldl_nil]

theorem load_of_settingsWith? {l : Loader} {s : Surroundings} {settings : Settings}
    (h : l.settingsWith? s s.loaded = some settings) :
    l.load s = (do settings.validate; return settings) := by
  rw [load, entries?_bind, h]

end Loader

/-! ## A variable for a text -/

/-- The variable of this name stands for the setting, for something in it or for its whole
section. -/
def TextSetting.ConcernedBy (setting : TextSetting) (name : String) : Prop :=
  ∃ path ∈ Variables.path? name, Tree.Touches setting.part setting.field (Tree.pathOf path)

instance (setting : TextSetting) (name : String) : Decidable (setting.ConcernedBy name) :=
  inferInstanceAs (Decidable (∃ path ∈ Variables.path? name,
    List.map Text.lower (Tree.pathOf path) = [setting.part] ∨
      [setting.part, setting.field] <+: List.map Text.lower (Tree.pathOf path)))

theorem settings_append (setting : TextSetting) (before after : Variables) (value : String) :
    Variables.settings (before ++ (setting.variableName, value) :: after) =
      Variables.settings before ++ (setting.part ++ "." ++ setting.field, Variables.treeOf value) ::
        Variables.settings after := by
  rw [Variables.settings, List.filterMap_append, List.filterMap_cons]
  simp only [setting.path?_variableName, Option.map_some]
  rfl

/-- Two values of the variable for a text make a difference in this text alone. -/
theorem differ_variables (setting : TextSetting) {before after : Variables} (v w : String)
    (hsole : ∀ e ∈ after, ¬ setting.ConcernedBy e.1) (lower : List (String × Tree)) :
    Tree.Differ setting.part setting.field (Variables.treeOf v) (Variables.treeOf w)
      (Tree.layer (Variables.settings (before ++ (setting.variableName, v) :: after)) lower)
      (Tree.layer (Variables.settings (before ++ (setting.variableName, w) :: after)) lower) := by
  have hlayer : ∀ value,
      Tree.layer (Variables.settings (before ++ (setting.variableName, value) :: after)) lower =
      Tree.layer (Variables.settings after)
        (Tree.assign [setting.part, setting.field] (Variables.treeOf value)
          (Tree.layer (Variables.settings before) lower)) := by
    intro value
    unfold Tree.layer
    rw [settings_append, List.foldl_append, List.foldl_cons, setting.pathOf_part_field]
  rw [hlayer, hlayer]
  have hplaced :=
    Tree.differ_assign setting.lower_part setting.lower_field (Variables.isScalar_treeOf v)
    (Variables.isScalar_treeOf w) (Tree.layer (Variables.settings before) lower)
  refine hplaced.layer fun e he => ?_
  obtain ⟨⟨name, value⟩, hmem, hentry⟩ := List.mem_filterMap.1 he
  obtain ⟨path, hpath, rfl⟩ := Option.map_eq_some_iff.1 hentry
  exact fun htouches => hsole _ hmem ⟨path, hpath, htouches⟩

/-- Where the other settings can be read, a variable for a text leads to the settings with what
arrives of its value, and these are validated.  The text is the value if and only if the value says
what it is read as. -/
theorem variable_arrives_iff (l : Loader) (s : Surroundings) (setting : TextSetting) {v w : String}
    {base : Settings} (hsorted : Dict.Sorted s.vars)
    (hvar : Dict.get? s.loaded setting.variableName = some v)
    (hsole : ∀ e ∈ s.loaded, e.1 ≠ setting.variableName → ¬ setting.ConcernedBy e.1)
    (hothers : l.settingsWith? s (Dict.insert s.loaded setting.variableName w) = some base) :
    ∃ settings, settings = setting.set base (Variables.arrival v) ∧
    l.settingsWith? s s.loaded = some settings ∧
      l.load s = (do settings.validate; return settings) ∧
      (setting.get settings = some v ↔ Variables.Arrives v) := by
  obtain ⟨before, after, hloaded, hinsert, hothersNames⟩ :=
    (Surroundings.sorted_loaded hsorted).insert_split hvar w
  have hafter : ∀ e ∈ after, ¬ setting.ConcernedBy e.1 := fun e he =>
    hsole e (by rw [hloaded]; exact List.mem_append_right _ (List.mem_cons_of_mem _ he))
      (hothersNames e (List.mem_append_right _ he))
  obtain ⟨lower, hlower, hbase⟩ := Option.bind_eq_some_iff.1 hothers
  rw [hinsert] at hbase
  have hread : l.settingsWith? s s.loaded = some (setting.set base (Variables.arrival v)) := by
    rw [Loader.settingsWith?, hlower, Option.bind_some, hloaded]
    exact TextSetting.ofEntries?_differ (differ_variables setting v w hafter lower)
      (Variables.asText?_treeOf v) hbase
  refine ⟨_, rfl, hread, Loader.load_of_settingsWith? hread, ?_⟩
  rw [setting.get_set, Option.some.injEq, Variables.arrival_eq_iff]

/-- Variables with a password of digits for the cache. -/
def digitPassword : Surroundings where
  files := []
  vars := Dict.ofList [("KEYSTONE__CACHE__HOST", "h"), ("KEYSTONE__CACHE__NAMESPACE", "n"),
    ("KEYSTONE__CACHE__PASSWORD", "007"), ("KEYSTONE__CACHE__PORT", "1"),
    ("KEYSTONE__CACHE__USER", "u"), ("KEYSTONE__PERSISTENCE__DSN", "mysql://d:1")]

theorem variable_arrives_where_password_is_digits :
    ∃ base settings, (Loader.mk "./config" "development").settingsWith? digitPassword
        (Dict.insert digitPassword.loaded TextSetting.cachePassword.variableName "secret")
          = some base ∧
      settings = TextSetting.cachePassword.set base "7" ∧
      (Loader.mk "./config" "development").load digitPassword
        = (do settings.validate; return settings) ∧
      (settings.cache.password = some "007" ↔ Variables.Arrives "007") := by
  have hothers : ((Loader.mk "./config" "development").settingsWith? digitPassword
      (Dict.insert digitPassword.loaded TextSetting.cachePassword.variableName "secret")).isSome
        = true := by
    decide +kernel
  obtain ⟨base, hbase⟩ := Option.isSome_iff_exists.1 hothers
  obtain ⟨settings, hset, -, hload, harrives⟩ :=
    variable_arrives_iff ⟨"./config", "development"⟩ digitPassword .cachePassword
    (v := "007") (w := "secret") (Dict.sorted_ofList _) (by decide +kernel)
      (by decide +kernel) hbase
  have harrival : Variables.arrival "007" = "7" := by decide +kernel
  rw [harrival] at hset
  exact ⟨base, settings, hbase, hset, hload, harrives⟩

/-- The program takes another password than the one in the variable. -/
theorem password_of_digits_changes :
    Dict.get? digitPassword.vars "KEYSTONE__CACHE__PASSWORD" = some "007" ∧
      ((Loader.mk "./config" "development").load digitPassword).map (·.cache.password)
        = .ok (some "7") ∧
      (Toml.read? "[cache]\npassword = \"007\"").bind ofEntries? =
        some { cache := { password := some "007" } } := by
  refine ⟨?_, ?_, ?_⟩
  all_goals decide +kernel

end Larder.Settings
