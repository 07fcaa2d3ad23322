import BindingRegions.CommandLine.Execution
import BindingRegions.Proofs.Run.Quiet

/-! What `--check` does to a command line. It changes nothing else about the options
(`readArguments_checked`), and its exit code tells exactly whether the same command
without it would end well and replace no region (`execute_check_code_eq_zero_iff`). -/

namespace BindingRegions.CommandLine

/-! ### Arguments -/

def Options.checked (options : Options) : Options := { options with check := true }

namespace Given

variable {given next : Given} {options : Options} {path : String} {paths : List String}

def checked (given : Given) : Given := { given with check := true }

theorem command_checked (h : given.command = .generate options) :
    options.check = given.check ∧ given.checked.command = .generate options.checked := by
  unfold command at h
  split at h
  · rename_i hpaths
    cases h
    refine ⟨rfl, ?_⟩
    rw [command, checked, hpaths]
    rfl
  · cases h

theorem addPath?_checked (h : given.addPath? path = some next) :
    next.check = given.check ∧ given.checked.addPath? path = some next.checked := by
  unfold addPath? at h ⊢
  split at h
  · cases h
  · rename_i hfits
    cases h
    exact ⟨rfl, if_neg hfits⟩

theorem setConfig?_checked (h : given.setConfig? path = some next) :
    next.check = given.check ∧ given.checked.setConfig? path = some next.checked := by
  unfold setConfig? at h ⊢
  split at h
  · cases h
  · rename_i hfits
    cases h
    exact ⟨rfl, if_neg hfits⟩

theorem foldlM_checked (h : paths.foldlM addPath? given = some next) :
    next.check = given.check ∧ paths.foldlM addPath? given.checked = some next.checked := by
  induction paths generalizing given with
  | nil =>
    cases h
    exact ⟨rfl, rfl⟩
  | cons path paths ih =>
    rw [List.foldlM_cons, Option.bind_eq_bind, Option.bind_eq_some_iff] at h
    obtain ⟨first, hfirst, h⟩ := h
    obtain ⟨hcheck, hadd⟩ := addPath?_checked hfirst
    obtain ⟨hcheck', hrest⟩ := ih h
    refine ⟨hcheck'.trans hcheck, ?_⟩
    rw [List.foldlM_cons, hadd]
    exact hrest

theorem addPaths_checked (h : given.addPaths paths = .generate options) :
    options.check = given.check ∧ given.checked.addPaths paths = .generate options.checked := by
  unfold addPaths at h
  split at h
  · rename_i added hadded
    obtain ⟨hcheck, hfold⟩ := foldlM_checked hadded
    obtain ⟨hcheck', hcommand⟩ := command_checked h
    refine ⟨hcheck'.trans hcheck, ?_⟩
    rw [addPaths, hfold]
    exact hcommand
  · cases h

end Given

/-- Arguments without `--check` are read in the same way once it has been given. -/
theorem readArguments_checked {given : Given} {arguments : List String} {options : Options}
    (h : readArguments given arguments = .generate options) (hc : options.check = false) :
    given.check = false ∧ readArguments given.checked arguments = .generate options.checked := by
  fun_induction readArguments given arguments with
  | case1 given =>
    obtain ⟨hcheck, hcommand⟩ := given.command_checked h
    exact ⟨hcheck ▸ hc, hcommand⟩
  | case2 given paths =>
    obtain ⟨hcheck, hcommand⟩ := given.addPaths_checked h
    refine ⟨hcheck ▸ hc, ?_⟩
    unfold readArguments
    exact hcommand
  | case6 given rest hno _ _ _ ih =>
    cases (ih h).1
  | case8 given rest hno h1 h2 h3 h4 ih =>
    obtain ⟨hcheck, hrest⟩ := ih h
    have hno' : ¬ given.checked.strictMarkers = true := hno
    refine ⟨hcheck, ?_⟩
    unfold readArguments
    simp only [if_neg h1, if_neg h2, if_neg h3, if_neg h4, if_pos, if_neg hno']
    exact hrest
  | case11 given path rest hopt next hset h1 h2 h3 h4 h5 ih =>
    obtain ⟨hcheck, hrest⟩ := ih h
    obtain ⟨hcheck', hset'⟩ := Given.setConfig?_checked hset
    refine ⟨hcheck' ▸ hcheck, ?_⟩
    unfold readArguments
    simp only [if_neg h1, if_neg h2, if_neg h3, if_neg h4, if_neg h5, if_pos, if_neg hopt, hset',
      hrest]
  | case13 given argument rest h1 h2 h3 h4 h5 h6 path hbehind next hset ih =>
    obtain ⟨hcheck, hrest⟩ := ih h
    obtain ⟨hcheck', hset'⟩ := Given.setConfig?_checked hset
    refine ⟨hcheck' ▸ hcheck, ?_⟩
    unfold readArguments
    simp only [if_neg h1, if_neg h2, if_neg h3, if_neg h4, if_neg h5, if_neg h6, hbehind, hset',
      hrest]
  | case18 given argument rest h1 h2 h3 h4 h5 h6 hbehind hopt next hadd ih =>
    obtain ⟨hcheck, hrest⟩ := ih h
    obtain ⟨hcheck', hadd'⟩ := Given.addPath?_checked hadd
    refine ⟨hcheck' ▸ hcheck, ?_⟩
    unfold readArguments
    simp only [if_neg h1, if_neg h2, if_neg h3, if_neg h4, if_neg h5, if_neg h6, hbehind,
      if_neg hopt, hadd', hrest]
  | _ => cases h

/-- Every command line without `--check` has one with it. -/
theorem ofArguments_check_cons {arguments : List String} {options : Options}
    (h : Command.ofArguments arguments = .generate options) (hc : options.check = false) :
    Command.ofArguments ("--check" :: arguments) = .generate options.checked := by
  unfold Command.ofArguments readArguments
  exact (readArguments_checked h hc).2

/-! ### Exit codes -/

namespace Options

variable {options : Options} {files : FileSystem} {config : Config}

/-- The command tells of a region that it replaced. -/
def Replaces (options : Options) (files : FileSystem) : Prop :=
  ∃ config region, options.loadConfig files = .ok config ∧
    .region region ∈ (generate files options.request config).progress ∧
    region.outcome = .replaced

/-- The command sets out to write some file. -/
def Writes (options : Options) (files : FileSystem) : Prop :=
  ∃ config path, options.loadConfig files = .ok config ∧
    .replacing path ∈ generateLog files options.request config

/-- What the command sets out to write is what its run goes to. -/
theorem writes_iff : options.Writes files ↔ ∃ config path,
    options.loadConfig files = .ok config ∧ GenerateWrites files options.request config path := by
  simp only [Writes, replacing_mem_generateLog_iff]

theorem execute_of_config (h : options.loadConfig files = .ok config) :
    (options.execute files).files = (generate files options.request config).files ∧
      ((options.execute files).code = 0 ↔
        ∃ report, (generate files options.request config).result = .ok report ∧
          (options.check = true → Quiet report.regions)) := by
  cases hr : (generate files options.request config).result with
  | error e => simp [execute, h, hr]
  | ok report => simp [execute, h, hr, ← Report.staleRegions_eq_nil_iff]

theorem execute_of_config_error {e : Error} (h : options.loadConfig files = .error e) :
    (options.execute files).files = files ∧ (options.execute files).code = 1 := by
  simp [execute, h]

theorem execute_check_files (h : options.check = true) (files : FileSystem) :
    (options.execute files).files = files := by
  cases hconfig : options.loadConfig files with
  | error e => exact (execute_of_config_error hconfig).1
  | ok config =>
    rw [(execute_of_config hconfig).1]
    exact generate_check_files _ _ _ (by simp [request, h])

/-- A run that ends well and in which no region is replaced. -/
def EndsQuiet (options : Options) (files : FileSystem) : Prop :=
  ∃ config report, options.loadConfig files = .ok config ∧
    (generate files options.request config).result = .ok report ∧ Quiet report.regions

theorem endsQuiet_of_code (hc : options.check = true) :
    (options.execute files).code = 0 ↔ options.EndsQuiet files := by
  cases hconfig : options.loadConfig files with
  | error e => simp [EndsQuiet, hconfig, execute_of_config_error hconfig]
  | ok config =>
    rw [(execute_of_config hconfig).2]
    simp [EndsQuiet, hconfig, hc]

theorem endsQuiet_of_code_of_not_replaces (hc : options.check = false) :
    (options.execute files).code = 0 ∧ ¬ options.Replaces files ↔ options.EndsQuiet files := by
  cases hconfig : options.loadConfig files with
  | error e => simp [EndsQuiet, hconfig, execute_of_config_error hconfig]
  | ok config =>
    rw [(execute_of_config hconfig).2]
    constructor
    · rintro ⟨⟨report, hreport, -⟩, hno⟩
      refine ⟨config, report, hconfig, hreport, (quiet_iff_progress hreport).2 ?_⟩
      exact fun region hregion ho => hno ⟨config, region, hconfig, hregion, ho⟩
    · rintro ⟨config', report, hconfig', hreport, hquiet⟩
      obtain rfl : config = config' := Except.ok.inj (hconfig.symm.trans hconfig')
      refine ⟨⟨report, hreport, by simp [hc]⟩, ?_⟩
      rintro ⟨config', region, hconfig'', hregion, ho⟩
      obtain rfl : config = config' := Except.ok.inj (hconfig.symm.trans hconfig'')
      exact (quiet_iff_progress hreport).1 hquiet region hregion ho

/-- It makes no difference to a quiet end whether the command only checks, and a command
that ends so writes nothing. -/
theorem EndsQuiet.of_mode (h : options.EndsQuiet files) (other : Options)
    (hconfig : other.loadConfig files = options.loadConfig files)
    (hrequest : other.request = { options.request with mode := other.request.mode }) :
    other.EndsQuiet files ∧ (other.execute files).files = files ∧ ¬ other.Writes files := by
  obtain ⟨config, report, hload, hresult, hquiet⟩ := h
  obtain ⟨hresult', hno⟩ := generate_of_quiet hresult hquiet other.request.mode
  rw [← hrequest] at hresult' hno
  have hload' : other.loadConfig files = .ok config := hconfig.trans hload
  refine ⟨⟨config, report, hload', hresult', hquiet⟩, ?_, fun hwrites => ?_⟩
  · rw [(execute_of_config hload').1]
    exact generate_files_of_not_writes hno
  · obtain ⟨config', path, hload'', hpath⟩ := writes_iff.1 hwrites
    obtain rfl : config = config' := Except.ok.inj (hload'.symm.trans hload'')
    exact hno path hpath

theorem endsQuiet_checked_iff : options.checked.EndsQuiet files ↔ options.EndsQuiet files :=
  ⟨fun h => (h.of_mode options rfl rfl).1, fun h => (h.of_mode options.checked rfl rfl).1⟩

end Options

/-- The exit code with `--check` is zero just if the command without it ends well and
replaces no region; then neither writes anything. With `--check` no file changes in any
case. -/
theorem execute_check_code_eq_zero_iff {plain checked : List String} {options : Options}
    (hplain : Command.ofArguments plain = .generate options) (hcheck : options.check = false)
    (hchecked : Command.ofArguments checked = .generate { options with check := true })
    (files : FileSystem) :
    let plainly := (Command.ofArguments plain).execute files
    let checking := (Command.ofArguments checked).execute files
    (checking.code = 0 ↔ plainly.code = 0 ∧ ¬ options.Replaces files) ∧
      (checking.code = 0 → plainly.files = files ∧ ¬ options.Writes files ∧
        ¬ Options.Writes { options with check := true } files) ∧
      checking.files = files := by
  intro plainly checking
  have hplainly : plainly = options.execute files := by simp only [plainly, hplain, Command.execute]
  have hchecking : checking = options.checked.execute files := by
    simp only [checking, hchecked, Command.execute, Options.checked]
  rw [hplainly, hchecking]
  refine ⟨?_, fun hcode => ?_, Options.execute_check_files rfl files⟩
  · rw [Options.endsQuiet_of_code rfl, Options.endsQuiet_of_code_of_not_replaces hcheck,
      Options.endsQuiet_checked_iff]
  · have hquiet := (Options.endsQuiet_of_code rfl).1 hcode
    obtain ⟨-, hfiles, hwrites⟩ := hquiet.of_mode options rfl rfl
    obtain ⟨-, -, hwrites'⟩ := hquiet.of_mode options.checked rfl rfl
    exact ⟨hfiles, hwrites, hwrites'⟩

/-! ### A stale region -/

def staleFiles : FileSystem :=
  ((FileSystem.blank "w").put ["d.json", "w"] (some (.file (.text "[]") true))).put ["t", "w"]
    (some (.file (.text "/* Autogen Body -- Start */\n") true))

def staleOptions : Options := { declarations := ⟨"d.json"⟩, source := ⟨"t"⟩, header := ⟨"./t"⟩ }

theorem execute_check_stale :
    let plainly := (Command.ofArguments ["d.json", "t", "./t"]).execute staleFiles
    let checking := (Command.ofArguments ["--check", "d.json", "t", "./t"]).execute staleFiles
    (checking.code = 0 ↔ plainly.code = 0 ∧ ¬ staleOptions.Replaces staleFiles) ∧
      (checking.code = 0 → plainly.files = staleFiles ∧ ¬ staleOptions.Writes staleFiles ∧
        ¬ Options.Writes { staleOptions with check := true } staleFiles) ∧
      checking.files = staleFiles := by
  have hplain : Command.ofArguments ["d.json", "t", "./t"] = .generate staleOptions := by
    decide +kernel
  exact execute_check_code_eq_zero_iff hplain rfl (ofArguments_check_cons hplain rfl) staleFiles

end BindingRegions.CommandLine
