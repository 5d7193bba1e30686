import BlobDepot.Command.Run
import BlobDepot.Proofs.Configs

set_option autoImplicit false

namespace BlobDepot

/-- What no option of a command line says. -/
def ConfigDraft.unnamed (draft : ConfigDraft) : ConfigDraft :=
  { draft with bucket := "", basePath := "", endpointUrl := none }

def Event.putSettings? : Event -> Option UploadSettings
  | .called (.request (.putObject _ _ _ _ settings)) => some settings
  | _ => none

namespace Command

namespace Settings

theorem changes_unique (settings : Settings) : (settings.changes.map Prod.fst).Nodup := by
  rw [changes]
  cases nonEmpty settings.bucket <;> cases settings.basePath <;>
    cases nonEmpty settings.endpointUrl <;>
      simp only [List.map_append, List.map_cons, List.map_nil] <;> decide

theorem lookup_changes (settings : Settings) (name : String) :
    Table.lookup name settings.changes =
      ((if "bucket" = name then (nonEmpty settings.bucket).map .text else none).or
        (if "base_path" = name then settings.basePath.map .text else none)).or
          (if "endpoint_url" = name then (nonEmpty settings.endpointUrl).map .text else none) := by
  rw [changes, Table.lookup_append, Table.lookup_append]
  cases nonEmpty settings.bucket <;> cases settings.basePath <;>
    cases nonEmpty settings.endpointUrl <;> simp [Table.lookup]

theorem override_changes
    {config : Config}
    (settings : Settings)
    (trimmed : Text.trim (· == '/') config.basePath = config.basePath) :
    config.override settings.changes = .ok { config with
      bucket := (nonEmpty settings.bucket).getD config.bucket
      basePath := (settings.basePath.map (Text.trim (· == '/'))).getD config.basePath
      endpointUrl := (nonEmpty settings.endpointUrl).or config.endpointUrl } := by
  apply Config.override_texts trimmed settings.changes_unique
  · simp [lookup_changes]
  · simp [lookup_changes]
  · simp [lookup_changes]
  · intro name other
    simp only [List.mem_cons, List.not_mem_nil, or_false, not_or] at other
    rw [lookup_changes, if_neg (Ne.symm other.1), if_neg (Ne.symm other.2.1),
      if_neg (Ne.symm other.2.2)]
    rfl

theorem unset_of_changes
    {settings : Settings}
    (unchanged : settings.changes.isEmpty = true) :
    nonEmpty settings.bucket = none ∧ settings.basePath = none ∧
      nonEmpty settings.endpointUrl = none := by
  revert unchanged
  rw [changes]
  cases nonEmpty settings.bucket <;> cases settings.basePath <;>
    cases nonEmpty settings.endpointUrl <;> simp

theorem config_of_base
    {settings : Settings}
    {surroundings : Surroundings}
    {folder : Folder}
    {base : Config}
    (isBase : settings.base surroundings folder = .ok base)
    (trimmed : Text.trim (· == '/') base.basePath = base.basePath) :
    settings.config surroundings folder = .ok { base with
      bucket := (nonEmpty settings.bucket).getD base.bucket
      basePath := (settings.basePath.map (Text.trim (· == '/'))).getD base.basePath
      endpointUrl := (nonEmpty settings.endpointUrl).or base.endpointUrl } := by
  rw [config, isBase]
  change (if settings.changes.isEmpty = true then .ok base else base.override settings.changes) = _
  by_cases unchanged : settings.changes.isEmpty = true
  next =>
    obtain ⟨noBucket, noPath, noUrl⟩ := unset_of_changes unchanged
    simp only [unchanged, if_true, noBucket, noPath, noUrl, Option.getD_none, Option.map_none,
      Option.none_or]
  next =>
    rw [if_neg unchanged]
    exact settings.override_changes trimmed

theorem nonEmpty_some (text : String) :
    nonEmpty (some text) = if text = "" then none else some text := by
  by_cases empty : text = "" <;> simp [nonEmpty, empty]

theorem nonEmpty_variable (environment : Table String) (name : String) :
    nonEmpty (Config.nonEmpty environment name) = Config.nonEmpty environment name := by
  simp [nonEmpty, Config.nonEmpty, Option.filter_filter]

theorem value_given
    (environment : Table String)
    (words : Words)
    (option variableName : String) :
    value ⟨environment, true⟩ words option variableName =
      (words.values.get? option).or
        (Config.nonEmpty environment ("BLOBSTORE_" ++ variableName)) := by
  rw [value]
  cases words.values.get? option <;> rfl

theorem trimmed_variable
    {environment : Table String}
    {name fallback : String}
    (isFallback : fallback = "" ∨
      fallback = Text.trim (· == '/') ((environment.get? name).getD "")) :
    ((Config.nonEmpty environment name).map (Text.trim (· == '/'))).getD fallback =
      Text.trim (· == '/') ((environment.get? name).getD "") := by
  have variableIs : Config.nonEmpty environment name = nonEmpty (environment.get? name) := rfl
  rw [variableIs]
  cases given : environment.get? name with
  | none =>
    rw [given] at isFallback
    rcases isFallback with rfl | rfl
    next => rfl
    next => rfl
  | some text =>
    rw [given] at isFallback
    by_cases empty : text = ""
    next =>
      subst empty
      rcases isFallback with rfl | rfl
      next => rfl
      next => rfl
    next =>
      rw [nonEmpty_some, if_neg empty]
      rfl

section

variable
  {environment : Table String}
  {known : Config}
  {words : Words}
  (configured : Config.ofEnvironment environment = .ok known)

include configured

theorem bucket_of_environment :
    nonEmpty (ofWords ⟨environment, true⟩ words).bucket =
      if words.values.get? "--bucket" = some "" then none
      else some ((nonEmpty (words.values.get? "--bucket")).getD known.bucket) := by
  have isBucket := (Config.ofEnvironment_texts configured).1
  have bucket : (ofWords ⟨environment, true⟩ words).bucket =
      (words.values.get? "--bucket").or (some known.bucket) :=
    (value_given environment words "--bucket" "BUCKET").trans (congrArg _ isBucket)
  rw [bucket]
  cases words.values.get? "--bucket" with
  | none =>
    rw [Option.none_or, <- isBucket, nonEmpty_variable, isBucket]
    rfl
  | some text =>
    rw [Option.some_or, nonEmpty_some]
    by_cases empty : text = "" <;> simp [empty]

theorem base_of_environment
    (undocumented : nonEmpty (ofWords ⟨environment, true⟩ words).document = none)
    (folder : Folder) :
    (ofWords ⟨environment, true⟩ words).base ⟨environment, true⟩ folder =
      .ok (if words.values.get? "--bucket" = some "" then known
        else .plain ((nonEmpty (words.values.get? "--bucket")).getD known.bucket)) := by
  rw [base, undocumented, bucket_of_environment configured]
  by_cases empty : words.values.get? "--bucket" = some ""
  next =>
    simp only [if_pos empty]
    exact configured
  next =>
    simp only [if_neg empty]
    exact Config.ofFields_bucket _

theorem basePath_of_environment
    {start : String}
    (isStart : start = "" ∨ start = known.basePath) :
    ((ofWords ⟨environment, true⟩ words).basePath.map (Text.trim (· == '/'))).getD start =
      ((words.values.get? "--base-path").map (Text.trim (· == '/'))).getD known.basePath := by
  have isPath := (Config.ofEnvironment_texts configured).2.1
  have basePath : (ofWords ⟨environment, true⟩ words).basePath =
      (words.values.get? "--base-path").or (Config.nonEmpty environment "BLOBSTORE_BASE_PATH") :=
    value_given environment words "--base-path" "BASE_PATH"
  rw [basePath]
  cases words.values.get? "--base-path" with
  | some text => rfl
  | none =>
    rw [isPath] at isStart ⊢
    exact trimmed_variable isStart

theorem endpointUrl_of_environment
    {start : Option String}
    (isStart : start = none ∨ start = known.endpointUrl) :
    (nonEmpty (ofWords ⟨environment, true⟩ words).endpointUrl).or start =
      match words.values.get? "--endpoint-url" with
      | none => known.endpointUrl
      | some "" => start
      | some url => some url := by
  have isUrl := (Config.ofEnvironment_texts configured).2.2
  have endpointUrl : (ofWords ⟨environment, true⟩ words).endpointUrl =
      (words.values.get? "--endpoint-url").or known.endpointUrl :=
    (value_given environment words "--endpoint-url" "ENDPOINT_URL").trans
      (congrArg _ isUrl.symm)
  rw [endpointUrl]
  cases words.values.get? "--endpoint-url" with
  | none =>
    rw [Option.none_or, isUrl, nonEmpty_variable, <- isUrl]
    rcases isStart with rfl | rfl
    next => rw [Option.or_none]
    next => rw [Option.or_self]
  | some text =>
    rw [Option.some_or, nonEmpty_some]
    by_cases empty : text = ""
    next =>
      subst empty
      rfl
    next =>
      rw [if_neg empty]
      split
      next isNone => cases isNone
      next isEmpty => exact absurd (Option.some.inj isEmpty) empty
      next other _ isOther => exact isOther

theorem config_of_environment
    (undocumented : nonEmpty (ofWords ⟨environment, true⟩ words).document = none)
    (folder : Folder) :
    exists config,
      (ofWords ⟨environment, true⟩ words).config ⟨environment, true⟩ folder = .ok config ∧
      config.bucket = (nonEmpty (words.values.get? "--bucket")).getD known.bucket ∧
      config.basePath = ((words.values.get? "--base-path").map (Text.trim (· == '/'))).getD
        known.basePath ∧
      config.endpointUrl = (match words.values.get? "--endpoint-url" with
        | none => known.endpointUrl
        | some "" => if words.values.get? "--bucket" = some "" then known.endpointUrl else none
        | some url => some url) ∧
      config.toConfigDraft.unnamed =
        if words.values.get? "--bucket" = some "" then known.toConfigDraft.unnamed
        else { bucket := "" } := by
  have isBase := base_of_environment configured undocumented folder
  have isBucket := @bucket_of_environment environment known words configured
  by_cases empty : words.values.get? "--bucket" = some ""
  next =>
    simp only [if_pos empty] at isBase isBucket ⊢
    have trimmed : Text.trim (· == '/') known.basePath = known.basePath := by
      rw [(Config.ofEnvironment_texts configured).2.1, Text.trim_trim]
    have bucket : (nonEmpty (ofWords ⟨environment, true⟩ words).bucket).getD known.bucket =
        (nonEmpty (words.values.get? "--bucket")).getD known.bucket := by
      rw [isBucket, empty]
      rfl
    exact ⟨_, config_of_base isBase trimmed, bucket,
      basePath_of_environment configured (.inr rfl),
      endpointUrl_of_environment configured (.inr rfl), rfl⟩
  next =>
    simp only [if_neg empty] at isBase isBucket ⊢
    have bucket : forall start, (nonEmpty (ofWords ⟨environment, true⟩ words).bucket).getD start =
        (nonEmpty (words.values.get? "--bucket")).getD known.bucket := by
      intro start
      rw [isBucket]
      rfl
    exact ⟨_, config_of_base isBase rfl, bucket _,
      basePath_of_environment configured (.inl rfl),
      endpointUrl_of_environment configured (.inl rfl), rfl⟩

end

end Settings

theorem Step.bind_ok
    {α β : Type}
    {first : Step α}
    {next : α -> Step β}
    {shell middle : Shell}
    {result : α}
    (ran : first shell = (.ok result, middle)) :
    (first >>= next) shell = next result middle := by
  change ExceptT.bindCont next (first shell).1 (first shell).2 = _
  rw [ran]
  rfl

theorem readSettings_undocumented
    {surroundings : Surroundings}
    {arguments : List String}
    {words : Words}
    (read : readWords Settings.forms false {} arguments = .ok words)
    (unhelped : words.help = false)
    (undocumented : (Settings.ofWords surroundings words).document = none)
    (shell : Shell) :
    readSettings surroundings arguments shell =
      (.ok (Settings.ofWords surroundings words, words.others), shell) := by
  have reads : Step.orRefuse (readWords Settings.forms false {} arguments) shell =
      (.ok words, shell) := by
    rw [read]
    rfl
  rw [readSettings, Step.bind_ok reads]
  simp only [unhelped, undocumented]
  rfl

theorem readVerb_name
    (surroundings : Surroundings)
    (verb : Verb)
    (rest : List String)
    (shell : Shell) :
    readVerb surroundings (verb.name :: rest) shell = (.ok (verb, rest), shell) := by
  have named : Verb.ofName? verb.name = some verb := by
    cases verb <;> rfl
  rw [readVerb, named]
  rfl

theorem readConfig_eq
    {surroundings : Surroundings}
    {settings : Settings}
    {shell : Shell}
    {level : Int}
    (leveled : Log.readLevelName settings.logLevel = .ok level) :
    readConfig surroundings settings shell =
      match settings.config surroundings shell.folder with
      | .ok config => (.ok config, shell)
      | .error failure =>
          (.error (if failure.isA .runtime || failure.isA .value then
              .refused (.configuration failure.message)
            else .failed failure), shell) := by
  have levels : Step.orFail (Log.readLevelName settings.logLevel) shell = (.ok level, shell) := by
    rw [leveled]
    rfl
  have looks : (get : Step Shell) shell = (.ok shell, shell) := rfl
  rw [readConfig, Step.bind_ok levels, Step.bind_ok looks]
  cases settings.config surroundings shell.folder with
  | ok config => rfl
  | error failure =>
    simp only
    split <;> rfl

theorem readConfig_of_config
    {surroundings : Surroundings}
    {settings : Settings}
    {shell : Shell}
    {level : Int}
    {config : Config}
    (leveled : Log.readLevelName settings.logLevel = .ok level)
    (isConfig : settings.config surroundings shell.folder = .ok config) :
    readConfig surroundings settings shell = (.ok config, shell) := by
  rw [readConfig_eq leveled, isConfig]

/-- What becomes of the configuration that the environment has when a command line without a
document is run, the environment standing in for options.  The texts that there are options for
come from the options or, where these are not given, from the environment.  All else is as
it would be without an environment, unless an empty bucket is given. -/
theorem runLine_configured
    (environment : Table String)
    (known : Config)
    (arguments : List String)
    (words : Words)
    (verb : Verb)
    (rest : List String)
    (level : Int)
    (shell : Shell)
    (configured : Config.ofEnvironment environment = .ok known)
    (unset : Config.nonEmpty environment "BLOBSTORE_CONFIG_FILE" = none)
    (read : readWords Settings.forms false {} arguments = .ok words)
    (undocumented : words.values.get? "--config" = none)
    (unhelped : words.help = false)
    (asked : words.others = verb.name :: rest)
    (leveled : Log.readLevelName (Settings.ofWords ⟨environment, true⟩ words).logLevel =
      .ok level) :
    exists config : Config,
      runLine ⟨environment, true⟩ arguments shell =
        withStore config (fun container => runVerb container verb rest) shell ∧
      config.bucket = (Settings.nonEmpty (words.values.get? "--bucket")).getD known.bucket ∧
      config.basePath = ((words.values.get? "--base-path").map (Text.trim (· == '/'))).getD
        known.basePath ∧
      config.endpointUrl = (match words.values.get? "--endpoint-url" with
        | none => known.endpointUrl
        | some "" => if words.values.get? "--bucket" = some "" then known.endpointUrl else none
        | some url => some url) ∧
      config.toConfigDraft.unnamed =
        if words.values.get? "--bucket" = some "" then known.toConfigDraft.unnamed
        else { bucket := "" } := by
  have noDocument : (Settings.ofWords ⟨environment, true⟩ words).document = none := by
    have given := Settings.value_given environment words "--config" "CONFIG_FILE"
    rw [undocumented, Option.none_or] at given
    exact given.trans unset
  have noFile : Settings.nonEmpty (Settings.ofWords ⟨environment, true⟩ words).document = none := by
    rw [noDocument]
    rfl
  obtain ⟨config, isConfig, agrees⟩ :=
    Settings.config_of_environment configured noFile shell.folder
  refine ⟨config, ?_, agrees⟩
  have some : arguments.isEmpty = false := by
    cases arguments with
    | nil =>
      cases read
      cases asked
    | cons _ _ => rfl
  have reads := readSettings_undocumented read unhelped noDocument shell
  rw [asked] at reads
  rw [runLine]
  simp only [some]
  change (readSettings _ _ >>= _) shell = _
  rw [Step.bind_ok reads, Step.bind_ok (readVerb_name _ verb rest shell),
    Step.bind_ok (readConfig_of_config leveled isConfig)]

theorem runLine_configured_encrypted :
    let environment : Table String := .ofList [("BLOBSTORE_BUCKET", "b"),
      ("BLOBSTORE_BASE_PATH", "q"), ("BLOBSTORE_ENDPOINT_URL", "http://e"),
      ("BLOBSTORE_STORAGE_CLASS", "STANDARD_IA"), ("BLOBSTORE_SERVER_SIDE_ENCRYPTION", "true")]
    let known : Config := { Config.plain "b" with
      basePath := "q"
      endpointUrl := some "http://e"
      storageClass := .standardInfrequent
      serverSideEncryption := true }
    let arguments := ["--base-path", "/p/", "put", "x", "f"]
    let words : Words := { values := .ofList [("--base-path", "/p/")], others := ["put", "x", "f"] }
    Config.ofEnvironment environment = .ok known ∧
      Config.nonEmpty environment "BLOBSTORE_CONFIG_FILE" = none ∧
      readWords Settings.forms false {} arguments = .ok words ∧
      words.values.get? "--config" = none ∧ words.help = false ∧
      words.others = Verb.put.name :: ["x", "f"] ∧
      Log.readLevelName (Settings.ofWords ⟨environment, true⟩ words).logLevel = .ok 30 ∧
      exists config : Config,
        runLine ⟨environment, true⟩ arguments {} =
          withStore config (fun container => runVerb container .put ["x", "f"]) {} ∧
        config.bucket = "b" ∧ config.basePath = "p" ∧ config.endpointUrl = some "http://e" ∧
        config.toConfigDraft.unnamed = { bucket := "" } := by
  intro environment known arguments words
  have configured : Config.ofEnvironment environment = .ok known := by
    have isKnown : (Config.ofEnvironment environment).toOption = some known := by decide +kernel
    cases found : Config.ofEnvironment environment with
    | error failure =>
      rw [found] at isKnown
      cases isKnown
    | ok config =>
      rw [found] at isKnown
      exact congrArg Except.ok (Option.some.inj isKnown)
  have unset : Config.nonEmpty environment "BLOBSTORE_CONFIG_FILE" = none := by decide +kernel
  have read : readWords Settings.forms false {} arguments = .ok words := by rfl
  have leveled : Log.readLevelName (Settings.ofWords ⟨environment, true⟩ words).logLevel =
      .ok 30 := by
    have isWarning : (Settings.ofWords ⟨environment, true⟩ words).logLevel = "WARNING" := by
      decide +kernel
    rw [isWarning]
    rfl
  have runs := runLine_configured environment known arguments words .put ["x", "f"] 30 {}
    configured unset read rfl rfl rfl leveled
  obtain ⟨config, ran, bucket, basePath, endpointUrl, others⟩ := runs
  have trimmed : Text.trim (· == '/') "/p/" = "p" := by decide +kernel
  exact ⟨configured, unset, read, rfl, rfl, rfl, leveled, config, ran, bucket,
    basePath.trans trimmed, endpointUrl, others⟩

/-- The environment asks for uploads of another storage class that are encrypted and can be read
by everybody, and the upload of a command line that gives no options is none of that. -/
theorem environment_settings_dropped :
    let environment : Table String := .ofList [("BLOBSTORE_BUCKET", "b"),
      ("BLOBSTORE_STORAGE_CLASS", "STANDARD_IA"), ("BLOBSTORE_CANNED_ACL", "public-read"),
      ("BLOBSTORE_SERVER_SIDE_ENCRYPTION", "true")]
    let folder : Folder := ⟨.ofList [("f", .file (.bytes [1, 2, 3]))]⟩
    let ran := run ⟨environment, true⟩ ["put", "x", "f"] { folder := folder }
    (Config.ofEnvironment environment).toOption.map Config.uploadSettings = some
        { storageClass := some "STANDARD_IA", cannedAcl := some "public-read", encrypted := true } ∧
      ran.1.exitCode = 0 ∧
      ran.2.depot.journal.history.filterMap Event.putSettings? =
        [{ storageClass := some "STANDARD", cannedAcl := some "private", encrypted := false }] := by
  decide +kernel

end Command

end BlobDepot
