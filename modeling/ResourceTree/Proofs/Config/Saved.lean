import ResourceTree.Command.Run
import ResourceTree.Proofs.Config.RoundTrip
import ResourceTree.Proofs.Files.Written

/-!
# Saved configurations

To set a key, a command loads the settings of all layers, changes one of them and writes all of them to the
configuration file. What variables override so comes into the file, and the settings that the file had are
kept only where the variables agree with them.
-/

namespace ResourceTree
set_option autoImplicit false

variable {env : Environment} {c c' d wanted saved old : Config} {s : Setting} {key value text : String}

/-! ## Variables over settings -/

/-- The variable that overrides a setting. -/
def Setting.variable? : Setting → Option String
  | apiUrl => some "FLUXTREE_API_URL"
  | fluxNamespace => some "FLUXTREE_FLUX_NAMESPACE"
  | direction => some "FLUXTREE_LAYOUT_DIRECTION"
  | _ => none

/-- The variables without the one that overrides a setting. -/
def Environment.without (env : Environment) (s : Setting) : Environment :=
  fun name => if s.variable? = some name then none else env name

namespace Config

/-- Variables of the environment put no number out of its range. -/
theorem InRange.override (range : c.InRange) (env : Environment) : (c.override env).InRange := { range with }

theorem set_eq_ok : c.set key value = .ok c' ↔ c.edit key value = (.ok (), c') := by
  rw [set]
  split
  · next c' done => simp [done]
  · next f c' refused => simp [refused]

/-- A set that is done is an edit of the setting with the key. -/
theorem exists_setting (done : c.set key value = .ok c') :
    ∃ s : Setting, s.key = key ∧ (s.assign value).run.run c = (.ok (), c') := by
  rw [set_eq_ok] at done
  by_cases known : key ∈ keys
  · obtain ⟨s, found⟩ := mem_keys_iff.1 known
    rw [edit_of_setting found] at done
    exact ⟨s, (setting_eq_ok found).symm, done⟩
  · obtain ⟨f, refused⟩ := edit_of_unknown known c value
    rw [refused] at done
    exact nomatch done

theorem set_of_assign (done : (s.assign value).run.run c = (.ok (), c')) : c.set s.key value = .ok c' := by
  rw [set_eq_ok, edit_of_setting (setting_key s)]
  exact done

/-- A text that a setting takes in one configuration it takes in all, and over the variables as without them:
then only the variables of the other settings count. -/
theorem assign_override (done : (s.assign value).run.run (c.override env) = (.ok (), saved)) :
    ∃ wanted, (s.assign value).run.run c = (.ok (), wanted) ∧ saved = wanted.override (env.without s) := by
  cases s <;> obtain ⟨x, read, rfl⟩ := Edit.read_of_done done <;>
    exact ⟨_, Edit.run_of_read read c, rfl⟩

/-- A setting keeps its value if its own variable is left out. -/
theorem get_override_without (c : Config) (env : Environment) (s : Setting) :
    s.get (c.override (env.without s)) = s.get c := by
  cases s <;> rfl

/-- Variables that leave the texts of the settings leave the configuration. -/
theorem override_eq_self (same : ∀ s : Setting, s.get (c.override env) = s.get c) : c.override env = c := by
  have name_inj (d e : Direction) (same : d.name = e.name) : d = e := by
    cases d <;> cases e <;> first | rfl | exact absurd same (by decide)
  have url : (c.override env).apiUrl = c.apiUrl := same .apiUrl
  have namespace' : (c.override env).fluxNamespace = c.fluxNamespace := same .fluxNamespace
  have direction := name_inj _ _ (same .direction)
  change ({ c with
    apiUrl := (c.override env).apiUrl
    fluxNamespace := (c.override env).fluxNamespace
    layout := { c.layout with direction := (c.override env).layout.direction } } : Config) = c
  rw [url, namespace', direction]

/-- An edit under variables gives what it gives without them just if the variables leave the other settings. -/
theorem assign_override_eq_iff (done : (s.assign value).run.run (old.override env) = (.ok (), saved))
    (done' : (s.assign value).run.run old = (.ok (), wanted)) :
    saved = wanted ↔ ∀ other, other ≠ s → other.get (old.override env) = other.get old := by
  obtain ⟨wanted', again, rfl⟩ := assign_override done
  obtain rfl : wanted = wanted' := congrArg Prod.snd (done'.symm.trans again)
  constructor
  · intro same other ne
    rw [← Setting.get_of_assign done ne, ← Setting.get_of_assign done' ne, same]
  · intro left
    refine override_eq_self fun other => ?_
    by_cases here : other = s
    · exact here ▸ get_override_without wanted env s
    · rw [Setting.get_of_assign done here, left other here, Setting.get_of_assign done' here]

/-! ## From one file to the next -/

variable {place : Place} {path : String}

theorem inRange_of_ofPlace (read : ofPlace path place = .ok c) : c.InRange := by
  rw [ofPlace] at read
  split at read
  · obtain ⟨text, -, read⟩ := bind_eq_ok.1 read
    exact inRange_of_ofText (mapError_eq_ok.1 read)
  · exact Except.ok.inj read ▸ inRange_defaults

theorem loadOrDefaults_of_ofPlace (read : ofPlace env.configPath place = .ok c) :
    loadOrDefaults env place = c.override env := by
  rw [loadOrDefaults, load, read]
  rfl

theorem ofPlace_file (path text : String) : ofPlace path (.file text) = ofFile path text := rfl

/-- What is saved is read back. -/
theorem ofPlace_toText (range : c.InRange) (path : String) : ofPlace path (.file c.toText) = .ok c := by
  rw [ofPlace_file, ofFile, ofText_toText range]
  rfl

end Config

namespace Command

variable {find : String → Place}

/-- The text that is saved is that of the configuration with its overrides, after the edit. -/
theorem changed_eq_ok (read : Config.ofPlace env.configPath (find env.configPath) = .ok old) :
    changed env find key value = .ok text ↔ ∃ c, (old.override env).set key value = .ok c ∧ c.toText = text := by
  rw [changed, mapError_eq_ok, Config.loadOrDefaults_of_ofPlace read]
  exact map_eq_ok

end Command

section

variable {files files' : Files} {report : Report} {debug : Bool}

theorem Request.apply_set (env : Environment) (files : Files) (debug : Bool) (key value : String) :
    (Request.run debug (.config (.set key value))).apply env files =
      Effect.apply files (match Command.changed env files.find key value with
        | .ok text => .save env.configPath text
        | .error f => .fail f) := rfl

/-- A text that can be written is written, and the command says so. -/
theorem Request.apply_of_changed (debug : Bool) (changed : Command.changed env files.find key value = .ok text)
    (written : files.write env.configPath text = .ok files') :
    (Request.run debug (.config (.set key value))).apply env files =
      ({ code := 0, output := "Configuration saved\n" }, files') := by
  rw [Request.apply_set, changed, Effect.apply, written]
  rfl

/-- A key that has been set is in a file that has been written. -/
theorem Request.saved_of_set (run : (Request.run debug (.config (.set key value))).apply env files = (report, files'))
    (accepted : report.code = 0) :
    ∃ text, Command.changed env files.find key value = .ok text ∧ files.write env.configPath text = .ok files' := by
  rw [Request.apply_set] at run
  split at run
  · next text changed =>
    rw [Effect.apply] at run
    split at run
    · next files'' written =>
      obtain ⟨-, rfl⟩ := Prod.mk.inj run
      exact ⟨text, changed, written⟩
    · next fault _ =>
      obtain ⟨rfl, -⟩ := Prod.mk.inj run
      cases fault <;> exact nomatch accepted
  · obtain ⟨rfl, -⟩ := Prod.mk.inj run
    exact nomatch accepted

/-- After a key has been set, the file is read back as the wanted configuration, which is the one of the file
before with that key set, under the variables of the other keys. So it is read back as wanted just if no variable
changes the value of another key. -/
theorem Config.set_saves_iff (read : Config.ofPlace env.configPath (files.find env.configPath) = .ok old)
    (run : (Request.run debug (.config (.set key value))).apply env files = (report, files'))
    (accepted : report.code = 0) :
    ∃ (s : Setting) (wanted saved : Config), s.key = key ∧ old.set key value = .ok wanted ∧
      Config.ofPlace env.configPath (files'.find env.configPath) = .ok saved ∧
      saved = wanted.override (env.without s) ∧
      (saved = wanted ↔ ∀ other : Setting, other ≠ s → other.get (old.override env) = other.get old) := by
  obtain ⟨text, changed, written⟩ := Request.saved_of_set run accepted
  obtain ⟨saved, set, rfl⟩ := (Command.changed_eq_ok read).1 changed
  obtain ⟨s, rfl, done⟩ := Config.exists_setting set
  obtain ⟨wanted, done', eq⟩ := Config.assign_override done
  have range := Setting.inRange_of_assign ((Config.inRange_of_ofPlace read).override env) done
  refine ⟨s, wanted, saved, rfl, Config.set_of_assign done', ?_, eq, Config.assign_override_eq_iff done done'⟩
  rw [Files.find_of_write written]
  exact Config.ofPlace_toText range env.configPath

/-- A namespace that is set is saved, whatever the variable says. -/
theorem Config.set_saves_iff_namespace :
    let env : Environment := ([("FLUXTREE_CONFIG_DIR", "cfg"), ("FLUXTREE_FLUX_NAMESPACE", "infra")].lookup ·)
    let files := Files.ofList [("cfg/config.yaml", "logs:\n  buffer: 7\n")]
    ∃ (old wanted : Config) (report : Report) (files' : Files),
      Config.ofPlace env.configPath (files.find env.configPath) = .ok old ∧
      (Request.run false (.config (.set "fluxNamespace" "flux"))).apply env files = (report, files') ∧
      report.code = 0 ∧ old.set "fluxNamespace" "flux" = .ok wanted ∧
      Config.ofPlace env.configPath (files'.find env.configPath) = .ok wanted := by
  intro env files
  have path : env.configPath = "cfg/config.yaml" := by decide +kernel
  have read : Config.ofPlace env.configPath (files.find env.configPath) = .ok { logBuffer := 7 } := by
    rw [path]
    rfl
  obtain ⟨files', written⟩ : ∃ files', files.write env.configPath
      (Config.toText { fluxNamespace := "flux", logBuffer := 7 }) = .ok files' := by
    rw [path]
    exact ⟨_, rfl⟩
  have done : (Config.override env { logBuffer := 7 }).set "fluxNamespace" "flux" =
    .ok { fluxNamespace := "flux", logBuffer := 7 } := rfl
  have run := Request.apply_of_changed false ((Command.changed_eq_ok read).2 ⟨_, done, rfl⟩) written
  obtain ⟨s, wanted, saved, key, set, again, -, same⟩ := Config.set_saves_iff read run rfl
  obtain rfl : Setting.fluxNamespace = s := by
    have found := Config.setting_key s
    rw [key] at found
    exact Except.ok.inj found
  obtain rfl := same.2 fun other ne => by
    cases other <;> first | rfl | exact absurd rfl ne
  exact ⟨_, _, _, files', read, run, rfl, set, again⟩

/-- The buffer of the logs is set while a variable gives the address of the server, and the file has that address
from then on. -/
theorem Config.address_saved :
    let env : Environment := ([("FLUXTREE_CONFIG_DIR", "cfg"), ("FLUXTREE_API_URL", "http://[::1]:8080")].lookup ·)
    let files := Files.ofList [("cfg/config.yaml", "logs:\n  buffer: 7\n")]
    ∃ (old wanted saved : Config) (report : Report) (files' : Files),
      Config.ofPlace env.configPath (files.find env.configPath) = .ok old ∧
      (Request.run false (.config (.set "logs.buffer" "42"))).apply env files = (report, files') ∧
      report.code = 0 ∧ old.set "logs.buffer" "42" = .ok wanted ∧
      Config.ofPlace env.configPath (files'.find env.configPath) = .ok saved ∧
      wanted.apiUrl = "http://localhost:8080" ∧ saved.apiUrl = "http://[::1]:8080" := by
  intro env files
  have path : env.configPath = "cfg/config.yaml" := by decide +kernel
  have read : Config.ofPlace env.configPath (files.find env.configPath) = .ok { logBuffer := 7 } := by
    rw [path]
    rfl
  obtain ⟨saved, address, range, done⟩ : ∃ saved : Config,
      saved.apiUrl = "http://[::1]:8080" ∧ saved.InRange ∧
      (Config.override env { logBuffer := 7 }).set "logs.buffer" "42" = .ok saved :=
    ⟨{ apiUrl := "http://[::1]:8080", logBuffer := 42 }, rfl,
      { Config.inRange_defaults with logBuffer := (by decide : 42 < 2 ^ 64) }, rfl⟩
  obtain ⟨files', written⟩ : ∃ files', files.write env.configPath saved.toText = .ok files' := by
    rw [path]
    exact ⟨_, rfl⟩
  refine ⟨_, { logBuffer := 42 }, saved, _, files', read,
    Request.apply_of_changed false ((Command.changed_eq_ok read).2 ⟨saved, done, rfl⟩) written, rfl, rfl, ?_, rfl,
    address⟩
  rw [Files.find_of_write written]
  exact Config.ofPlace_toText range env.configPath

end

end ResourceTree
