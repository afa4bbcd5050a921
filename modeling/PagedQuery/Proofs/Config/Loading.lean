import PagedQuery.Config.Loading
import PagedQuery.Proofs.Config.Variables
import PagedQuery.Proofs.Page.Bounds

/-! Loading a file and the environment: each setting comes from the last layer that has it, whatever
else the layers hold, and what comes out is validated as a whole. -/

namespace PagedQuery.ServiceConfig

open Setting (TableIfAny)

/-- The paths of the settings that are read. -/
def leaves : List (List String) :=
  [["database", "url"], ["database", "max_connections"], ["database", "acquire_timeout_seconds"],
    ["pagination", "default_page_size"], ["pagination", "max_page_size"]]

/-- A text setting as it was chosen, or its default. -/
def textOr? (default : String) : Option Setting → Option String
  | none => some default
  | some s => s.asText?

/-- A number setting as it was chosen, or its default. -/
def natOr? (limit default : Nat) : Option Setting → Option Nat
  | none => some default
  | some s => s.asNat? limit

/-- A configuration has every setting as it was chosen, and the default of each that was not. -/
structure HasChosen (c : ServiceConfig) (chosen : String → String → Option Setting) : Prop where
  url : textOr? "postgresql://localhost/folio_development" (chosen "database" "url") =
    some c.database.url
  maxConnections : natOr? (UInt32.size - 1) 10 (chosen "database" "max_connections") =
    some c.database.maxConnections.toNat
  acquireTimeoutSeconds : natOr? (UInt64.size - 1) 30 (chosen "database" "acquire_timeout_seconds") =
    some c.database.acquireTimeoutSeconds.toNat
  defaultSize : natOr? (UInt32.size - 1) 20 (chosen "pagination" "default_page_size") =
    some c.pagination.defaultSize.toNat
  maxSize : natOr? (UInt32.size - 1) 100 (chosen "pagination" "max_page_size") =
    some c.pagination.maxSize.toNat

theorem HasChosen.congr {c : ServiceConfig} {chosen other : String → String → Option Setting}
    (hc : c.HasChosen chosen)
    (h : ∀ name key, [name, key] ∈ leaves → chosen name key = other name key) :
    c.HasChosen other where
  url := by rw [← h _ _ (by decide), hc.url]
  maxConnections := by rw [← h _ _ (by decide), hc.maxConnections]
  acquireTimeoutSeconds := by rw [← h _ _ (by decide), hc.acquireTimeoutSeconds]
  defaultSize := by rw [← h _ _ (by decide), hc.defaultSize]
  maxSize := by rw [← h _ _ (by decide), hc.maxSize]

theorem isName_leaves : ∀ leaf ∈ leaves, ∀ n ∈ leaf, KeyStep.IsName n.toList := by
  unfold KeyStep.IsName
  decide

theorem natOr?_lt {size default n : Nat} {s : Option Setting} (hdefault : default < size)
    (h : natOr? (size - 1) default s = some n) : n < size := by
  cases s with
  | none =>
    obtain rfl := Option.some.inj h
    exact hdefault
  | some s =>
    obtain ⟨-, hle⟩ := Option.filter_eq_some_iff.mp h
    have hle : n ≤ size - 1 := of_decide_eq_true hle
    omega

/-- What was chosen, or the complaint about a value of another type. -/
def orBad (key : String) : Option α → Except ConfigError α
  | some a => .ok a
  | none => .error (.unreadable (.badValue key))

theorem ok_bind (a : α) (f : α → Except ConfigError β) : (.ok a >>= f) = f a := rfl

theorem readText_eq (fields : Setting) (place : Nat) (key default : String) :
    readText fields place key default = orBad key (textOr? default (fields.field? place key)) := by
  unfold readText
  cases fields.field? place key with
  | none => rfl
  | some s => cases hs : s.asText? <;> simp [textOr?, orBad, hs]

theorem readNat_eq (fields : Setting) (place : Nat) (key : String) (limit default : Nat) :
    readNat fields place key limit default =
      orBad key (natOr? limit default (fields.field? place key)) := by
  unfold readNat
  cases fields.field? place key with
  | none => rfl
  | some s => cases hs : s.asNat? limit <;> simp [natOr?, orBad, hs]

theorem readSection_eq {root : Setting} {name : String} (h : TableIfAny (root.get? name)) :
    ∃ fields, readSection root name = .ok fields ∧
      ∀ place key, fields.field? place key = root.at? [name, key] := by
  simp only [Setting.at?_pair, readSection]
  cases hroot : root.get? name with
  | none => exact ⟨.empty, rfl, fun _ _ => rfl⟩
  | some s =>
    obtain ⟨es, rfl⟩ := h s hroot
    exact ⟨.table es, rfl, fun _ _ => rfl⟩

section Reading

variable {root : Setting} (hdatabase : TableIfAny (root.get? "database"))
  (hpagination : TableIfAny (root.get? "pagination"))
include hdatabase hpagination

theorem ofSettings_eq : ofSettings root = do
    let url ← orBad "url" (textOr? "postgresql://localhost/folio_development"
      (root.at? ["database", "url"]))
    let connections ← orBad "max_connections" (natOr? (UInt32.size - 1) 10
      (root.at? ["database", "max_connections"]))
    let timeout ← orBad "acquire_timeout_seconds" (natOr? (UInt64.size - 1) 30
      (root.at? ["database", "acquire_timeout_seconds"]))
    let pageSize ← orBad "default_page_size" (natOr? (UInt32.size - 1) 20
      (root.at? ["pagination", "default_page_size"]))
    let maxSize ← orBad "max_page_size" (natOr? (UInt32.size - 1) 100
      (root.at? ["pagination", "max_page_size"]))
    return ⟨⟨url, .ofNat connections, .ofNat timeout⟩, ⟨.ofNat pageSize, .ofNat maxSize⟩⟩ := by
  obtain ⟨database, hread, hfields⟩ := readSection_eq hdatabase
  obtain ⟨pagination, hread', hfields'⟩ := readSection_eq hpagination
  unfold ofSettings
  simp only [readText_eq, readNat_eq, hread, hread', ok_bind, hfields, hfields']
  rfl

theorem ofSettings_of_chosen {c : ServiceConfig}
    (h : c.HasChosen fun name key => root.at? [name, key]) : ofSettings root = .ok c := by
  rw [ofSettings_eq hdatabase hpagination, h.url, h.maxConnections, h.acquireTimeoutSeconds,
    h.defaultSize, h.maxSize]
  simp only [orBad, ok_bind, UInt32.ofNat_toNat, UInt64.ofNat_toNat]
  rfl

/-- Without such a configuration one of the values does not fit the type of its setting. -/
theorem ofSettings_of_not_chosen
    (h : ¬∃ c : ServiceConfig, c.HasChosen fun name key => root.at? [name, key]) :
    ∃ setting, ofSettings root = .error (.unreadable (.badValue setting)) := by
  rw [ofSettings_eq hdatabase hpagination]
  cases hurl : textOr? "postgresql://localhost/folio_development" (root.at? ["database", "url"]) with
  | none => exact ⟨_, rfl⟩
  | some url =>
  cases hconnections : natOr? (UInt32.size - 1) 10 (root.at? ["database", "max_connections"]) with
  | none => exact ⟨_, rfl⟩
  | some connections =>
  cases htimeout : natOr? (UInt64.size - 1) 30 (root.at? ["database", "acquire_timeout_seconds"]) with
  | none => exact ⟨_, rfl⟩
  | some timeout =>
  cases hpageSize : natOr? (UInt32.size - 1) 20 (root.at? ["pagination", "default_page_size"]) with
  | none => exact ⟨_, rfl⟩
  | some pageSize =>
  cases hmaxSize : natOr? (UInt32.size - 1) 100 (root.at? ["pagination", "max_page_size"]) with
  | none => exact ⟨_, rfl⟩
  | some maxSize =>
    -- All five values fit, and so do the numbers that are made of them.
    refine absurd ⟨⟨⟨url, .ofNat connections, .ofNat timeout⟩, ⟨.ofNat pageSize, .ofNat maxSize⟩⟩,
      hurl, ?_, ?_, ?_, ?_⟩ h
    · rw [hconnections, UInt32.toNat_ofNat_of_lt' (natOr?_lt (by decide) hconnections)]
    · rw [htimeout, UInt64.toNat_ofNat_of_lt' (natOr?_lt (by decide) htimeout)]
    · rw [hpageSize, UInt32.toNat_ofNat_of_lt' (natOr?_lt (by decide) hpageSize)]
    · rw [hmaxSize, UInt32.toNat_ofNat_of_lt' (natOr?_lt (by decide) hmaxSize)]

end Reading

theorem check_database_eq_ok_iff (c : DatabaseConfig) :
    c.check = .ok () ↔ c.url ≠ "" ∧ 0 < c.maxConnections := by
  unfold DatabaseConfig.check
  split
  · simp_all
  · split <;> simp_all [UInt32.pos_iff_ne_zero]

/-- A configuration is valid when the address is not empty, connections and page sizes are at least
one, and the default size is at most the greatest. -/
theorem check_eq_ok_iff (c : ServiceConfig) : c.check = .ok () ↔ c.database.url ≠ "" ∧
    0 < c.database.maxConnections ∧ 0 < c.pagination.defaultSize ∧
    c.pagination.defaultSize ≤ c.pagination.maxSize := by
  have hbind : c.check = c.database.check.bind fun _ => c.pagination.check := rfl
  rw [hbind, ← and_assoc, ← check_database_eq_ok_iff, ← PageBounds.check_eq_ok_iff]
  cases c.database.check with
  | error e => simp [Except.bind]
  | ok _ => simp [Except.bind]

theorem ofSources_file {path text : String} {es : List (String × Setting)}
    (hfile : fileSettings ⟨path, some text, true⟩ = .ok es) (env : Environment) :
    ofSources [⟨path, some text, true⟩] env =
      (ofSettings ((Setting.layer .empty es).layer env.settings)).bind fun c =>
        c.check.map fun _ => c := by
  have hlayered : layered [⟨path, some text, true⟩] env =
      .ok ((Setting.layer .empty es).layer env.settings) := by
    rw [layered, List.mapM_cons, hfile]
    rfl
  rw [ofSources, hlayered, ok_bind]
  cases ofSettings ((Setting.layer .empty es).layer env.settings) with
  | error e => rfl
  | ok c =>
    rw [ok_bind, Except.bind]
    cases c.check <;> rfl

/-- What a file and the environment make of the settings. Each of the five has the value of the
variable that denotes its path, or else the value that the file has there, or else its default,
whatever stands under any other key. A chosen value of another type makes loading fail, and otherwise
the configuration as a whole is validated: it is loaded just when it is valid. In a file whose keys
are names that differ in more than their case, the value of a setting is the entry under its name in
the table of its section. -/
theorem loadFile_layers {path text : String} {env : Environment} {es : List (String × Setting)}
    (hfile : fileSettings ⟨path, some text, true⟩ = .ok es)
    (htables : ∀ name ∈ ["database", "pagination"], TableIfAny ((Setting.layer .empty es).get? name))
    (henv : env.Clear leaves) :
    let file := Setting.layer .empty es
    let chosen := fun name key => (env.valueAt? [name, key]).or (file.at? [name, key])
    let result := (loadFile path (some text) env).result
    (∀ c : ServiceConfig, c.HasChosen chosen → result = c.check.map fun _ => c) ∧
    ((¬∃ c : ServiceConfig, c.HasChosen chosen) →
      ∃ setting, result = .error (.unreadable (.badValue setting))) ∧
    (∀ c : ServiceConfig, result = .ok c ↔ c.HasChosen chosen ∧ c.database.url ≠ "" ∧
      0 < c.database.maxConnections ∧ 0 < c.pagination.defaultSize ∧
      c.pagination.defaultSize ≤ c.pagination.maxSize) ∧
    (Setting.PlainKeys es → ∀ name key, file.at? [name, key] =
      (Setting.lookup? es name).bind fun inner =>
        (Setting.lookup? inner.entries key).map (Setting.overlay none)) := by
  intro file chosen result
  let root := file.layer env.settings
  have hroot : ∀ name key, [name, key] ∈ leaves → root.at? [name, key] = chosen name key :=
    fun name key hleaf => henv.at?_layer hleaf (List.cons_ne_nil _ _) (isName_leaves _ hleaf) file
  have hurl : ["database", "url"] ∈ leaves := by decide
  have hdatabase : TableIfAny (root.get? "database") :=
    henv.tableIfAny hurl (isName_leaves _ hurl) (htables _ (by simp))
  have hmaxSize : ["pagination", "max_page_size"] ∈ leaves := by decide
  have hpagination : TableIfAny (root.get? "pagination") :=
    henv.tableIfAny hmaxSize (isName_leaves _ hmaxSize) (htables _ (by simp))
  have hresult : result = (ofSettings root).bind fun c => c.check.map fun _ => c :=
    ofSources_file hfile env
  have hfits : ∀ c : ServiceConfig, c.HasChosen chosen → result = c.check.map fun _ => c := by
    intro c hc
    have hread : ofSettings root = .ok c := ofSettings_of_chosen hdatabase hpagination
      (hc.congr fun name key hleaf => (hroot name key hleaf).symm)
    rw [hresult, hread]
    rfl
  have hbad : (¬∃ c : ServiceConfig, c.HasChosen chosen) →
      ∃ setting, result = .error (.unreadable (.badValue setting)) := by
    intro hnone
    obtain ⟨setting, hread⟩ := ofSettings_of_not_chosen hdatabase hpagination
      fun ⟨c, hc⟩ => hnone ⟨c, hc.congr hroot⟩
    exact ⟨setting, by rw [hresult, hread]; rfl⟩
  refine ⟨hfits, hbad, fun c => ?_, fun hplain => hplain.at?_layer⟩
  rw [← check_eq_ok_iff]
  constructor
  · intro hok
    by_cases hany : ∃ c : ServiceConfig, c.HasChosen chosen
    · obtain ⟨d, hd⟩ := hany
      have hvalid := (hfits d hd).symm.trans hok
      cases hcheck : d.check with
      | error e =>
        rw [hcheck] at hvalid
        cases hvalid
      | ok _ =>
        rw [hcheck] at hvalid
        cases hvalid
        exact ⟨hd, hcheck⟩
    · obtain ⟨setting, herror⟩ := hbad hany
      rw [hok] at herror
      cases herror
  · rintro ⟨hc, hcheck⟩
    rw [hfits c hc, hcheck]
    rfl

/-- A file that sets the page size, and an environment that sets the greatest one and the address,
among variables for other things. -/
theorem loadFile_layers_overridden :
    let text := "pagination.default_page_size = 5"
    let env : Environment := [("FOLIO__PAGINATION__MAX_PAGE_SIZE", "50"),
      ("folio__Database__Url", "postgresql://db/app"), ("FOLIO__PAGINATION__COLOR", "blue"),
      ("PATH", "/bin")]
    env.Clear leaves ∧ (loadFile "folio.toml" (some text) env).result =
      .ok ⟨{ url := "postgresql://db/app" }, ⟨5, 50⟩⟩ := by
  intro text env
  let es : List (String × Setting) := [("pagination", .table [("default_page_size", .int 5)])]
  have hfile : fileSettings ⟨"folio.toml", some text, true⟩ = .ok es := by
    -- The characters are written out, or every step of the reader would decode the text again.
    have hchars : text.toList = ['p', 'a', 'g', 'i', 'n', 'a', 't', 'i', 'o', 'n', '.', 'd', 'e',
        'f', 'a', 'u', 'l', 't', '_', 'p', 'a', 'g', 'e', '_', 's', 'i', 'z', 'e', ' ', '=', ' ',
        '5'] := by decide
    have hread : Toml.parse? text = some es := by
      rw [Toml.parse?, hchars]
      rfl
    have hformat : ConfigFormat.ofName? "folio.toml" = some .toml := by decide
    simp only [fileSettings, hformat, Option.bind_some, ConfigFormat.parse?, hread]
  have hplain : Setting.PlainKeys es := ⟨by decide, by simp [es], by simp [es, Setting.entries]⟩
  have hsection : "pagination".toLower = "pagination" := by
    rw [Environment.toLower_eq]
    decide
  have hkey : "default_page_size".toLower = "default_page_size" := by
    rw [Environment.toLower_eq]
    decide
  have htables : ∀ name ∈ ["database", "pagination"],
      TableIfAny ((Setting.layer .empty es).get? name) := by
    simp [hplain.get?_layer, Setting.lookup?, es, hsection, TableIfAny, Setting.overlay,
      Setting.overlayEntries, Setting.put]
  have henv : env.Clear leaves := ⟨by decide, by decide, by decide⟩
  have hpaths : env.map (fun e => Environment.path? e.1) = [some ["pagination", "max_page_size"],
      some ["database", "url"], some ["pagination", "color"], none] := by decide
  simp only [env, List.map_cons, List.cons.injEq] at hpaths
  have hsize : Environment.value "50" = .int 50 := by
    simp only [Environment.value, Environment.toLower_eq]
    rfl
  have haddress : Environment.value "postgresql://db/app" = .text "postgresql://db/app" := by
    simp only [Environment.value, Environment.toLower_eq]
    rfl
  obtain ⟨hfits, -, -, hentries⟩ := loadFile_layers hfile htables henv
  refine ⟨henv, (hfits ⟨{ url := "postgresql://db/app" }, ⟨5, 50⟩⟩ ⟨?_, ?_, ?_, ?_, ?_⟩).trans rfl⟩
  · simp [env, Environment.valueAt?_cons, hpaths, haddress, textOr?, Setting.asText?]
  · simp [env, Environment.valueAt?, hpaths, hentries hplain, Setting.lookup?, es, hsection, natOr?]
  · simp [env, Environment.valueAt?, hpaths, hentries hplain, Setting.lookup?, es, hsection, natOr?]
  · simp [env, Environment.valueAt?, hpaths, hentries hplain, Setting.lookup?, es, hsection, hkey,
      natOr?, Setting.asNat?, Setting.entries, Setting.overlay]
  · simp [env, Environment.valueAt?_cons, hpaths, hsize, natOr?, Setting.asNat?]

end PagedQuery.ServiceConfig
