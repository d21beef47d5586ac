import Registrar.Proofs.Json.Members
import Registrar.Settings.Basic

/-!
# Where settings come from

A setting can be given in a document and in the environment. What a document gives has to have the
type of the setting, and is then taken as it is. What it does not give is filled in section by
section, and there are two routes to a value that is filled in: a section that is missing is filled
as a whole, one that is there is filled setting by setting. The two routes agree on every setting
but one. The origins are filled with the usual ones if the whole section is missing, and with none,
which allows all, if the section is there without them.

The statements speak of settings one by one, by the values that documents write for them, so that
one statement covers all settings whatever their types.

## Main definitions

* `Setting` — the settings one by one; `Setting.value` reads one off.
* `Setting.given?` — what a document gives to a setting.
* `Setting.SetBy` — what the environment gives to a setting.

## Main results

* `Settings.value_of_ofToml?` — where the value of a setting comes from.
* `Settings.value_override` — what the environment changes.
* `Settings.load_settles` — the two, for the text of a file.
-/

namespace Registrar

/-! ### Settings one by one -/

/-- The settings, one by one. -/
inductive Setting where
  | dataDirectory
  | reviewsFile
  | host
  | port
  | origins
  | maxBodySize
  | maxResults
  | logLevel
  | logFormat
deriving DecidableEq, Repr

namespace Setting

/-- The section of a document that a setting stands in. -/
def sectionName : Setting → String
  | dataDirectory | reviewsFile => "storage"
  | host | port | origins | maxBodySize => "api"
  | maxResults => "query"
  | logLevel | logFormat => "logging"

/-- The name of a setting in its section. -/
def name : Setting → String
  | dataDirectory => "data_dir"
  | reviewsFile => "reviews_file"
  | host => "host"
  | port => "port"
  | origins => "cors_origins"
  | maxBodySize => "max_body_size"
  | maxResults => "max_results"
  | logLevel => "level"
  | logFormat => "format"

/-- The place of a setting in its section, if that is an array. -/
def position : Setting → Nat
  | dataDirectory | host | maxResults | logLevel => 0
  | reviewsFile | port | logFormat => 1
  | origins => 2
  | maxBodySize => 3

/-- The settings, section by section, in their usual order. -/
def all : List Setting :=
  [dataDirectory, reviewsFile, host, port, origins, maxBodySize, maxResults, logLevel, logFormat]

/-- The names of the settings of a section, in their usual order. -/
def namesIn (sectionName : String) : List String :=
  (all.filter fun setting => setting.sectionName = sectionName).map name

theorem nodup_namesIn (setting : Setting) : (namesIn setting.sectionName).Nodup := by
  cases setting <;> decide

theorem sectionName_mem (setting : Setting) :
    setting.sectionName ∈ ["storage", "api", "query", "logging"] := by
  cases setting <;> decide

theorem getElem?_namesIn (setting : Setting) :
    (namesIn setting.sectionName)[setting.position]? = some setting.name := by
  cases setting <;> decide

/-- The value that a document gives to a setting. -/
def given? (setting : Setting) (document : Toml) : Option Toml :=
  match document.member? setting.sectionName with
  | some (.table members) => members.lookup setting.name
  | some (.array items) => items[setting.position]?
  | _ => none

/-- The value of a setting, as documents write it. -/
def value (setting : Setting) (settings : Settings) : Toml :=
  match setting with
  | dataDirectory => .string settings.dataDirectory
  | reviewsFile => .string settings.reviewsFile
  | host => .string settings.api.host
  | port => .integer settings.api.port
  | origins => .array (settings.api.origins.map .string)
  | maxBodySize => .integer settings.api.maxBodySize
  | maxResults => .integer settings.maxResults
  | logLevel => .string settings.logLevel
  | logFormat => .string settings.logFormat

/-- The value of a setting in a section that does not give it. -/
def fallback (environment : Environment) : Setting → Toml
  | origins => .array []
  | setting => setting.value (Settings.usual environment)

/-- The two routes to a value that is filled in agree on all settings but the origins. -/
theorem fallback_eq {environment : Environment} {setting : Setting} (h : setting ≠ origins) :
    setting.fallback environment = setting.value (Settings.usual environment) := by
  cases setting with
  | origins => exact absurd rfl h
  | _ => rfl

end Setting

namespace Settings

/-! ### Reading values -/

/-- What is read as a value is the value that would be written for the result. -/
def ReadsBack {α : Type} (read : Toml → Option α) (write : α → Toml) : Prop :=
  ∀ {written a}, read written = some a → written = write a

theorem readText?_readsBack : ReadsBack readText? .string := by
  intro written a h
  cases written with
  | string text =>
    cases h
    rfl
  | _ => cases h

theorem readNat?_readsBack (bound : Nat) :
    ReadsBack (readNat? bound) fun n : Nat => .integer n := by
  intro written a h
  cases written with
  | integer n =>
    rw [readNat?] at h
    split at h
    · next hbounds =>
      cases h
      exact congrArg Toml.integer (Int.toNat_of_nonneg hbounds.1).symm
    · cases h
  | _ => cases h

theorem readTexts?_readsBack : ReadsBack readTexts? fun texts => .array (texts.map .string) := by
  intro written a h
  cases written with
  | array items =>
    refine congrArg Toml.array ?_
    have hitems : items.mapM readText? = some a := h
    induction items generalizing a with
    | nil =>
      cases hitems
      rfl
    | cons item items ih =>
      rw [List.mapM_cons] at hitems
      obtain ⟨text, htext, hitems⟩ := Option.bind_eq_some_iff.mp hitems
      obtain ⟨texts, htexts, hitems⟩ := Option.bind_eq_some_iff.mp hitems
      cases hitems
      rw [List.map_cons, readText?_readsBack htext, ih htexts htexts]
  | _ => cases h

/-- A setting of a section has the value that is given, or the one it is filled with. -/
theorem written_of_setting? {α : Type} {read : Toml → Option α} {write : α → Toml}
    (hread : ReadsBack read write) {usual a : α} {name : String}
    {members : List (String × Toml)} (h : setting? read usual name members = some a) :
    write a = (members.lookup name).getD (write usual) := by
  rw [setting?] at h
  cases hlookup : members.lookup name with
  | none =>
    rw [hlookup] at h
    cases h
    rfl
  | some written =>
    rw [hlookup] at h
    exact (hread h).symm

/-! ### Reading sections -/

variable {environment : Environment} {settings settings' : Settings}
  {members : List (String × Toml)}

/-- A reader of a section settles the settings of the section and no others. -/
def Settles (environment : Environment) (name : String) (members : List (String × Toml))
    (settings settings' : Settings) : Prop :=
  ∀ setting : Setting, setting.value settings' =
    if setting.sectionName = name then
      (members.lookup setting.name).getD (setting.fallback environment)
    else setting.value settings

theorem settles_of_readStorage? (h : readStorage? environment settings members = some settings') :
    Settles environment "storage" members settings settings' := by
  obtain ⟨directory, hdirectory, h⟩ := Option.bind_eq_some_iff.mp h
  obtain ⟨file, hfile, h⟩ := Option.bind_eq_some_iff.mp h
  cases h
  intro setting
  cases setting with
  | dataDirectory => exact written_of_setting? readText?_readsBack hdirectory
  | reviewsFile => exact written_of_setting? readText?_readsBack hfile
  | _ => rfl

theorem settles_of_readApi? (environment : Environment)
    (h : readApi? settings members = some settings') :
    Settles environment "api" members settings settings' := by
  obtain ⟨host, hhost, h⟩ := Option.bind_eq_some_iff.mp h
  obtain ⟨port, hport, h⟩ := Option.bind_eq_some_iff.mp h
  obtain ⟨origins, horigins, h⟩ := Option.bind_eq_some_iff.mp h
  obtain ⟨size, hsize, h⟩ := Option.bind_eq_some_iff.mp h
  cases h
  intro setting
  cases setting with
  | host => exact written_of_setting? readText?_readsBack hhost
  | port => exact written_of_setting? (readNat?_readsBack _) hport
  | origins => exact written_of_setting? readTexts?_readsBack horigins
  | maxBodySize => exact written_of_setting? (readNat?_readsBack _) hsize
  | _ => rfl

theorem settles_of_readQuery? (environment : Environment)
    (h : readQuery? settings members = some settings') :
    Settles environment "query" members settings settings' := by
  obtain ⟨rows, hrows, h⟩ := Option.bind_eq_some_iff.mp h
  cases h
  intro setting
  cases setting with
  | maxResults => exact written_of_setting? (readNat?_readsBack _) hrows
  | _ => rfl

theorem settles_of_readLogging? (environment : Environment)
    (h : readLogging? settings members = some settings') :
    Settles environment "logging" members settings settings' := by
  obtain ⟨level, hlevel, h⟩ := Option.bind_eq_some_iff.mp h
  obtain ⟨format, hformat, h⟩ := Option.bind_eq_some_iff.mp h
  cases h
  intro setting
  cases setting with
  | logLevel => exact written_of_setting? readText?_readsBack hlevel
  | logFormat => exact written_of_setting? readText?_readsBack hformat
  | _ => rfl

/-- In an array the values of a section stand in the order of their names. -/
theorem lookup_zip {names : List String} {name : String} {items : List Toml} {i : Nat}
    (hnames : names.Nodup) (hname : names[i]? = some name) :
    (names.zip items).lookup name = items[i]? := by
  induction names generalizing i items with
  | nil => cases hname
  | cons first names ih =>
    obtain ⟨hfirst, hnames⟩ := List.nodup_cons.mp hnames
    cases items with
    | nil => rfl
    | cons item items =>
      rw [List.zip_cons_cons, lookup_cons_eq_ite]
      cases i with
      | zero =>
        cases hname
        exact if_pos rfl
      | succ i =>
        rw [List.getElem?_cons_succ] at hname
        rw [if_neg, ih hnames hname, List.getElem?_cons_succ]
        rintro rfl
        exact hfirst (List.mem_of_getElem? hname)

/-- What a section says about its settings is what the document gives to them. -/
theorem lookup_sectionMembers? {document found : Toml} {setting : Setting}
    (hfound : document.member? setting.sectionName = some found)
    (hmembers : sectionMembers? (Setting.namesIn setting.sectionName) found = some members) :
    members.lookup setting.name = setting.given? document := by
  rw [Setting.given?, hfound]
  cases found with
  | table written =>
    cases hmembers
    rfl
  | array items =>
    cases hmembers
    exact lookup_zip setting.nodup_namesIn setting.getElem?_namesIn
  | _ => cases hmembers

/-- The value of a setting when one more section of a document has been read. -/
theorem value_of_withSection? {document : Toml} {name : String}
    {read : List (String × Toml) → Option Settings}
    (hread : ∀ {members settings'}, read members = some settings' →
      Settles environment name members settings settings')
    (h : withSection? document name (Setting.namesIn name) read settings = some settings')
    (setting : Setting) :
    setting.value settings' =
      if setting.sectionName = name ∧ (document.member? name).isSome then
        (setting.given? document).getD (setting.fallback environment)
      else setting.value settings := by
  rw [withSection?] at h
  split at h
  · next hmissing =>
    cases h
    rw [hmissing, if_neg fun h => nomatch h.2]
  · next found hfound =>
    obtain ⟨members, hmembers, hmade⟩ := Option.bind_eq_some_iff.mp h
    rw [hread hmade setting, hfound]
    by_cases hown : setting.sectionName = name
    · subst hown
      rw [if_pos rfl, if_pos ⟨rfl, rfl⟩, lookup_sectionMembers? hfound hmembers]
    · rw [if_neg hown, if_neg fun h => hown h.1]

/-- **Where the value of a setting comes from**: from the document, or else from the section if it
is there, or else from the usual settings. -/
theorem value_of_ofToml? {document : Toml} (h : ofToml? environment document = some settings)
    (setting : Setting) :
    setting.value settings = (setting.given? document).getD
      (if (document.member? setting.sectionName).isSome then setting.fallback environment
        else setting.value (usual environment)) := by
  obtain ⟨first, hstorage, h⟩ := Option.bind_eq_some_iff.mp h
  obtain ⟨second, hapi, h⟩ := Option.bind_eq_some_iff.mp h
  obtain ⟨third, hquery, hlogging⟩ := Option.bind_eq_some_iff.mp h
  have hstorage := value_of_withSection? settles_of_readStorage? hstorage setting
  have hapi := value_of_withSection? (settles_of_readApi? environment) hapi setting
  have hquery := value_of_withSection? (settles_of_readQuery? environment) hquery setting
  have hlogging := value_of_withSection? (settles_of_readLogging? environment) hlogging setting
  -- Only the reader of its own section can have changed the setting.
  rw [hlogging, hquery, hapi, hstorage]
  have hsections := setting.sectionName_mem
  simp only [List.mem_cons, List.not_mem_nil, or_false] at hsections
  cases hpresent : document.member? setting.sectionName with
  | some found =>
    obtain hname | hname | hname | hname := hsections <;> rw [hname] at hpresent <;>
      simp [hname, hpresent]
  | none =>
    rw [Setting.given?, hpresent]
    obtain hname | hname | hname | hname := hsections <;> rw [hname] at hpresent <;>
      simp [hname, hpresent]

end Settings

/-! ### The environment -/

/-- A text stands for a number below a bound: it has digits, at least one, after an optional plus
sign. -/
def StandsFor (bound : Nat) (text : String) (n : Nat) : Prop :=
  ∃ digits, (text.toList = digits ∨ text.toList = '+' :: digits) ∧ digits ≠ [] ∧
    (∀ c ∈ digits, isDigit c = true) ∧ natOfDigits digits = n ∧ n < bound

theorem natOfText?_eq_some_iff {digits : List Char} {n : Nat} :
    natOfText? digits = some n ↔
      digits ≠ [] ∧ (∀ c ∈ digits, isDigit c = true) ∧ natOfDigits digits = n := by
  rw [natOfText?, ← and_assoc]
  have hread : (digits.isEmpty || !digits.all isDigit) = true ↔
      ¬(digits ≠ [] ∧ ∀ c ∈ digits, isDigit c = true) := by
    rw [Bool.or_eq_true, Bool.not_eq_true', List.isEmpty_iff, not_and_or, not_not,
      ← List.all_eq_true, Bool.not_eq_true]
  split
  · next h => simp [hread.mp h]
  · next h =>
    rw [Option.some_inj, iff_and_self]
    exact fun _ => not_not.mp (mt hread.mpr h)

theorem boundedNat?_eq_some_iff {bound : Nat} {text : String} {n : Nat} :
    boundedNat? bound text = some n ↔ StandsFor bound text n := by
  have hplus : ∀ digits : List Char, (∀ c ∈ digits, isDigit c = true) →
      digits.head? ≠ some '+' := by
    rintro (_ | ⟨c, digits⟩) hall h
    · cases h
    · cases h
      exact absurd (hall '+' List.mem_cons_self) (by decide)
  rw [boundedNat?, Option.filter_eq_some_iff, decide_eq_true_eq]
  split
  · next rest htext =>
    rw [natOfText?_eq_some_iff]
    constructor
    · rintro ⟨⟨hne, hall, rfl⟩, hbound⟩
      exact ⟨rest, .inr htext, hne, hall, rfl, hbound⟩
    · rintro ⟨digits, hdigits | hdigits, hne, hall, hn, hbound⟩
      · rw [htext] at hdigits
        exact absurd (hdigits ▸ rfl) (hplus digits hall)
      · rw [htext] at hdigits
        cases hdigits
        exact ⟨⟨hne, hall, hn⟩, hbound⟩
  · next hplain =>
    rw [natOfText?_eq_some_iff]
    constructor
    · rintro ⟨⟨hne, hall, rfl⟩, hbound⟩
      exact ⟨_, .inl rfl, hne, hall, rfl, hbound⟩
    · rintro ⟨digits, hdigits | hdigits, hne, hall, hn, hbound⟩
      · subst hdigits
        exact ⟨⟨hne, hall, hn⟩, hbound⟩
      · exact absurd hdigits (hplain digits)

namespace Setting

/-- The variable that gives a value to a setting. -/
def variableName? : Setting → Option String
  | dataDirectory => some "INSIGHT_DATA_DIR"
  | host => some "INSIGHT_API_HOST"
  | port => some "INSIGHT_API_PORT"
  | maxResults => some "INSIGHT_MAX_RESULTS"
  | logLevel => some "INSIGHT_LOG_LEVEL"
  | logFormat => some "INSIGHT_LOG_FORMAT"
  | reviewsFile | origins | maxBodySize => none

/-- The value that the text of a variable stands for. -/
def Means (setting : Setting) (text : String) (value : Toml) : Prop :=
  match setting with
  | port => ∃ n : Nat, StandsFor (twoPow 16) text n ∧ value = .integer n
  | maxResults => ∃ n : Nat, StandsFor (twoPow 64) text n ∧ value = .integer n
  | _ => value = .string text

/-- The environment gives a value to a setting: its variable is set, to a text with a meaning. -/
def SetBy (environment : Environment) (setting : Setting) (value : Toml) : Prop :=
  ∃ name ∈ setting.variableName?, ∃ text ∈ environment.get? name, setting.Means text value

/-- The value that the text of a variable stands for, if it can be read. -/
def read? (setting : Setting) (text : String) : Option Toml :=
  match setting with
  | port => (boundedNat? (twoPow 16) text).map fun n : Nat => .integer n
  | maxResults => (boundedNat? (twoPow 64) text).map fun n : Nat => .integer n
  | _ => some (.string text)

theorem read?_eq_some_iff {setting : Setting} {text : String} {value : Toml} :
    setting.read? text = some value ↔ setting.Means text value := by
  cases setting with
  | port | maxResults =>
    simp only [read?, Option.map_eq_some_iff, boundedNat?_eq_some_iff, Means,
      @eq_comm _ value]
  | _ => simp only [read?, Option.some_inj, Means, @eq_comm _ value]

theorem setBy_iff {environment : Environment} {setting : Setting} {value : Toml} :
    setting.SetBy environment value ↔
      (setting.variableName?.bind environment.get?).bind setting.read? = some value := by
  simp only [SetBy, Option.bind_eq_some_iff, Option.mem_def, read?_eq_some_iff]
  constructor
  · rintro ⟨name, hname, text, htext, hmeans⟩
    exact ⟨text, ⟨name, hname, htext⟩, hmeans⟩
  · rintro ⟨text, ⟨name, hname, htext⟩, hmeans⟩
    exact ⟨name, hname, text, htext, hmeans⟩

end Setting

namespace Settings

theorem string_getD (text? : Option String) (kept : String) :
    Toml.string (text?.getD kept) =
      (text?.bind fun text => some (.string text)).getD (.string kept) := by
  cases text? <;> rfl

theorem integer_getD (bound : Nat) (text? : Option String) (kept : Nat) :
    Toml.integer ((text?.bind (boundedNat? bound)).getD kept : Nat) =
      (text?.bind fun text => (boundedNat? bound text).map fun n : Nat => .integer n).getD
        (.integer kept) := by
  cases text? with
  | none => rfl
  | some text =>
    rw [Option.bind_some, Option.bind_some]
    cases boundedNat? bound text <;> rfl

/-- **What the environment changes**: the settings that it gives a value to, and no others. -/
theorem value_override (environment : Environment) (settings : Settings) (setting : Setting) :
    setting.value (settings.override environment) =
      ((setting.variableName?.bind environment.get?).bind setting.read?).getD
        (setting.value settings) := by
  cases setting with
  | reviewsFile | origins | maxBodySize => rfl
  | port | maxResults => exact integer_getD _ _ _
  | dataDirectory | host | logLevel | logFormat => exact string_getD _ _

/-! ### Files -/

theorem load_eq_ok_iff {environment : Environment} {text : String} {settings : Settings} :
    load environment (some text) = .ok settings ↔
      ∃ document, Toml.parse? text = some document ∧
        ofToml? environment document = some settings := by
  rw [load]
  split
  · next found hfound =>
    rw [Except.ok.injEq, ← Option.bind_eq_some_iff, hfound, Option.some_inj]
  · next hnone =>
    rw [← Option.bind_eq_some_iff, hnone]
    simp

theorem eq_ok_of_toOption {ε α : Type} {result : Except ε α} {a : α}
    (h : result.toOption = some a) : result = .ok a := by
  cases result with
  | ok found => exact congrArg Except.ok (Option.some.inj h)
  | error fault => cases h

/-- **A setting that a file leaves out has its usual value.** A setting that the file gives has the
given value. One that it does not give has its usual value; only for the origins this takes that
their whole section is left out. The environment changes the settings that it gives a value to, and
no others. -/
theorem load_settles {environment : Environment} {text : String} {settings : Settings}
    (h : load environment (some text) = .ok settings) :
    (∃ document, Toml.parse? text = some document ∧ ∀ setting : Setting,
      (∀ value, setting.given? document = some value → setting.value settings = value) ∧
      (setting.given? document = none →
        (setting = .origins → document.member? setting.sectionName = none) →
          setting.value settings = setting.value (usual environment))) ∧
    ∃ overridden, loadWithEnvironment environment (some text) = .ok overridden ∧
      ∀ setting : Setting,
        (∀ value, setting.SetBy environment value → setting.value overridden = value) ∧
        ((¬∃ value, setting.SetBy environment value) →
          setting.value overridden = setting.value settings) := by
  constructor
  · obtain ⟨document, hdocument, hsettings⟩ := load_eq_ok_iff.mp h
    refine ⟨document, hdocument, fun setting => ⟨fun value hvalue => ?_, fun hnone horigins => ?_⟩⟩
    · rw [value_of_ofToml? hsettings, hvalue, Option.getD_some]
    · rw [value_of_ofToml? hsettings, hnone, Option.getD_none]
      by_cases hsetting : setting = .origins
      · rw [horigins hsetting]
        rfl
      · rw [Setting.fallback_eq hsetting, ite_self]
  · refine ⟨settings.override environment, by rw [loadWithEnvironment, h]; rfl, fun setting => ?_⟩
    rw [value_override]
    constructor
    · intro value hvalue
      rw [Setting.setBy_iff.mp hvalue, Option.getD_some]
    · intro hnone
      rw [Option.eq_none_iff_forall_ne_some.mpr fun value hvalue =>
        hnone ⟨value, Setting.setBy_iff.mpr hvalue⟩, Option.getD_none]

/-- A file that gives two settings, and an environment with a port and with a limit that cannot be
read. -/
theorem load_settles_partial :
    let environment : Environment := ⟨[("HOME", "/home/u"), ("INSIGHT_API_PORT", "+08080"),
      ("INSIGHT_MAX_RESULTS", "many")], none⟩
    let text := "[api]\nport = 9000\n\n[query]\nmax_results = 10\n"
    let settings : Settings := { usual environment with
      api := ⟨"0.0.0.0", 9000, [], 67108864⟩, maxResults := 10 }
    load environment (some text) = .ok settings ∧
      (∃ document, Toml.parse? text = some document ∧ Setting.host.given? document = none ∧
        Setting.host.value settings = Setting.host.value (usual environment)) ∧
      ∃ overridden, loadWithEnvironment environment (some text) = .ok overridden ∧
        Setting.port.value overridden = .integer 8080 ∧
        Setting.maxResults.value overridden = Setting.maxResults.value settings := by
  intro environment text settings
  have hload : load environment (some text) = .ok settings :=
    eq_ok_of_toOption (by decide +kernel)
  obtain ⟨⟨document, hdocument, hsettings⟩, overridden, hoverridden, hchanged⟩ :=
    load_settles hload
  have hhost : (Toml.parse? text).any fun document => (Setting.host.given? document).isNone := by
    decide +kernel
  rw [hdocument, Option.any_some, Option.isNone_iff_eq_none] at hhost
  have hport : Setting.port.SetBy environment (.integer 8080) :=
    ⟨_, rfl, "+08080", rfl, 8080, boundedNat?_eq_some_iff.mp (by decide), rfl⟩
  have hlimit : ¬∃ value, Setting.maxResults.SetBy environment value := by
    have hread : (Setting.maxResults.variableName?.bind environment.get?).bind
        Setting.maxResults.read? = none := by rfl
    rintro ⟨value, hvalue⟩
    rw [Setting.setBy_iff, hread] at hvalue
    cases hvalue
  exact ⟨hload, ⟨document, hdocument, hhost, (hsettings .host).2 hhost (fun h => nomatch h)⟩,
    overridden, hoverridden, (hchanged .port).1 _ hport, (hchanged .maxResults).2 hlimit⟩

/-- **A section about the service that leaves out the origins does not have the usual ones.** -/
theorem load_origins_left_out :
    ∃ environment text document settings, Toml.parse? text = some document ∧
      load environment (some text) = .ok settings ∧ Setting.origins.given? document = none ∧
      Setting.origins.value settings ≠ Setting.origins.value (usual environment) := by
  let environment : Environment := ⟨[("HOME", "/home/u")], none⟩
  let text := "[api]\nport = 9000\n"
  let settings : Settings := { usual environment with api := ⟨"0.0.0.0", 9000, [], 67108864⟩ }
  have hload : load environment (some text) = .ok settings :=
    eq_ok_of_toOption (by decide +kernel)
  have horigins : (Toml.parse? text).any fun document =>
      (Setting.origins.given? document).isNone := by decide +kernel
  obtain ⟨document, hdocument, -⟩ := load_eq_ok_iff.mp hload
  rw [hdocument, Option.any_some, Option.isNone_iff_eq_none] at horigins
  refine ⟨environment, text, document, settings, hdocument, hload, horigins, fun h => ?_⟩
  simp [settings, Setting.value, usual, usualOrigins] at h

end Settings

end Registrar
