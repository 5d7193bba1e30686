import BlobDepot.Config.Environment
import Mathlib.Data.List.DropRight

set_option autoImplicit false

namespace BlobDepot

namespace Table

variable {α : Type}

theorem lookup_append (name : String) (pairs others : List (String × α)) :
    lookup name (pairs ++ others) = (lookup name pairs).or (lookup name others) := by
  induction pairs with
  | nil => rfl
  | cons pair rest ih =>
    obtain ⟨key, value⟩ := pair
    by_cases hit : key = name
    next => simp [lookup, hit]
    next => simp [lookup, hit, ih]

theorem lookup_eq_none {name : String} {pairs : List (String × α)} :
    lookup name pairs = none <-> name ∉ pairs.map Prod.fst := by
  induction pairs with
  | nil => simp [lookup]
  | cons pair rest ih =>
    obtain ⟨key, value⟩ := pair
    by_cases hit : key = name
    next => simp [lookup, hit]
    next => simp [lookup, hit, Ne.symm hit, ih]

theorem get?_foldl_set (pairs : List (String × α)) (table : Table α) (name : String) :
    (pairs.foldl (fun table pair => table.set pair.1 pair.2) table).get? name =
      (lookup name pairs.reverse).or (table.get? name) := by
  induction pairs generalizing table with
  | nil => rfl
  | cons pair rest ih =>
    obtain ⟨key, value⟩ := pair
    rw [List.foldl_cons, ih, get?_set, List.reverse_cons, lookup_append, Option.or_assoc]
    by_cases hit : key = name
    next => simp [lookup, hit]
    next => simp [lookup, hit]

theorem lookup_reverse
    {pairs : List (String × α)}
    (unique : (pairs.map Prod.fst).Nodup)
    (name : String) :
    lookup name pairs.reverse = lookup name pairs := by
  induction pairs with
  | nil => rfl
  | cons pair rest ih =>
    obtain ⟨key, value⟩ := pair
    rw [List.map_cons, List.nodup_cons] at unique
    rw [List.reverse_cons, lookup_append, ih unique.2]
    by_cases hit : key = name
    next =>
      subst hit
      simp [lookup, lookup_eq_none.mpr unique.1]
    next => simp [lookup, hit]

theorem get?_ofList
    {pairs : List (String × α)}
    (unique : (pairs.map Prod.fst).Nodup)
    (name : String) :
    (ofList pairs).get? name = lookup name pairs := by
  rw [ofList, get?_foldl_set, lookup_reverse unique, get?_empty, Option.or_none]

theorem mem_names_replace
    {name other : String}
    {value : α}
    {pairs : List (String × α)}
    (listed : other ∈ (replace name value pairs).map Prod.fst) :
    other = name ∨ other ∈ pairs.map Prod.fst := by
  induction pairs with
  | nil => simpa [replace] using listed
  | cons pair rest ih =>
    obtain ⟨key, old⟩ := pair
    by_cases hit : key = name
    next =>
      simp only [replace, hit, if_true, List.map_cons, List.mem_cons] at listed ⊢
      tauto
    next =>
      simp only [replace, hit, if_false, List.map_cons, List.mem_cons] at listed ⊢
      tauto

theorem nodup_replace
    {pairs : List (String × α)}
    (unique : (pairs.map Prod.fst).Nodup)
    (name : String)
    (value : α) :
    ((replace name value pairs).map Prod.fst).Nodup := by
  induction pairs with
  | nil => simp [replace]
  | cons pair rest ih =>
    obtain ⟨key, old⟩ := pair
    rw [List.map_cons, List.nodup_cons] at unique
    by_cases hit : key = name
    next =>
      subst hit
      rw [replace, if_pos rfl, List.map_cons, List.nodup_cons]
      exact unique
    next =>
      rw [replace, if_neg hit, List.map_cons, List.nodup_cons]
      refine ⟨fun listed => ?_, ih unique.2⟩
      rcases mem_names_replace listed with same | later
      next => exact hit same
      next => exact unique.1 later

theorem nodup_ofList (pairs : List (String × α)) : (ofList pairs).names.Nodup := by
  suffices keeps : forall table : Table α, table.names.Nodup ->
      (pairs.foldl (fun table pair => table.set pair.1 pair.2) table).names.Nodup from
    keeps .empty List.nodup_nil
  induction pairs with
  | nil => exact fun _ unique => unique
  | cons pair rest ih => exact fun table unique => ih _ (nodup_replace unique pair.1 pair.2)

theorem get?_update (table : Table α) (pairs : List (String × α)) (name : String) :
    (table.update (ofList pairs)).get? name = ((ofList pairs).get? name).or (table.get? name) := by
  rw [update, get?_foldl_set, lookup_reverse (nodup_ofList pairs)]
  rfl

end Table

namespace Text

theorem trimChars_trimChars (drop : Char -> Bool) (chars : List Char) :
    trimChars drop (trimChars drop chars) = trimChars drop chars := by
  have trims : forall text, trimChars drop text = (text.dropWhile drop).rdropWhile drop :=
    fun _ => rfl
  rw [trims (trimChars drop chars), List.dropWhile_eq_self_iff.mpr, trims,
    List.rdropWhile_idempotent]
  intro some
  -- What is left begins as it did before its end was dropped.
  have whole : trimChars drop chars <+: chars.dropWhile drop := List.rdropWhile_prefix drop _
  rw [whole.getElem]
  exact List.dropWhile_get_zero_not drop chars _

theorem trim_trim (drop : Char -> Bool) (text : String) :
    trim drop (trim drop text) = trim drop text := by
  rw [trim, trim, String.toList_ofList, trimChars_trimChars]

end Text

structure ConfigDraft.GoTogether (draft : ConfigDraft) : Prop where
  least : draft.minMultipartSize <= draft.bufferSize
  most : draft.bufferSize <= draft.maxFileSize

namespace Config

theorem readOptionalText_ofText? (name : String) (text : Option String) :
    readOptionalText name (Value.ofText? text) = .ok text := by
  cases text <;> rfl

theorem readAddressingStyle_name (name : String) (style : AddressingStyle) :
    readAddressingStyle name (.text style.name) = .ok style := by
  cases style <;> rfl

theorem readStorageClass_name (name : String) (storageClass : StorageClass) :
    readStorageClass name (.text storageClass.name) = .ok storageClass := by
  cases storageClass <;> rfl

theorem readCannedAcl_name (name : String) (acl : CannedAcl) :
    readCannedAcl name (.text acl.name) = .ok acl := by
  cases acl <;> rfl

theorem readSize_int (name : String) {size : Nat} (positive : 0 < size) :
    readSize name (.int size) = .ok ⟨size, positive⟩ := by
  simp [readSize, Size.ofValue, sizeNumber, positive]

def fieldOr
    {α : Type}
    (fields : Table Value)
    (name : String)
    (fallback : α)
    (read : String -> Value -> FieldReading α) : FieldReading α :=
  match fields.get? name with
  | some value => read name value
  | none => .ok fallback

theorem fieldOr_of_some
    {α : Type}
    {fields : Table Value}
    {name : String}
    {value : Value}
    (found : fields.get? name = some value)
    (fallback : α)
    (read : String -> Value -> FieldReading α) :
    fieldOr fields name fallback read = read name value := by
  rw [fieldOr, found]

structure ReadAs (fields : Table Value) (draft : ConfigDraft) : Prop where
  bucket : fields.get? "bucket" = some (.text draft.bucket)
  basePath : fieldOr fields "base_path" "" readBasePath = .ok draft.basePath
  endpointUrl : fieldOr fields "endpoint_url" none readOptionalText = .ok draft.endpointUrl
  region : fieldOr fields "region" none readOptionalText = .ok draft.region
  addressingStyle :
    fieldOr fields "addressing_style" .path readAddressingStyle = .ok draft.addressingStyle
  bufferSize :
    fieldOr fields "buffer_size" ⟨Limits.defaultBufferSize, by decide⟩ readSize =
      .ok ⟨draft.bufferSize, draft.bufferSize_pos⟩
  maxFileSize :
    fieldOr fields "max_file_size" ⟨Limits.maxFileSize, by decide⟩ readSize =
      .ok ⟨draft.maxFileSize, draft.maxFileSize_pos⟩
  maxMultipartSize :
    fieldOr fields "max_multipart_size" ⟨Limits.maxMultipartSize, by decide⟩ readSize =
      .ok ⟨draft.maxMultipartSize, draft.maxMultipartSize_pos⟩
  minMultipartSize :
    fieldOr fields "min_multipart_size" ⟨Limits.minPartSize, by decide⟩ readSize =
      .ok ⟨draft.minMultipartSize, draft.minMultipartSize_pos⟩
  storageClass : fieldOr fields "storage_class" .standard readStorageClass = .ok draft.storageClass
  cannedAcl : fieldOr fields "canned_acl" .onlyOwner readCannedAcl = .ok draft.cannedAcl
  serverSideEncryption :
    fieldOr fields "server_side_encryption" false readFlag = .ok draft.serverSideEncryption

theorem Reading.required_of
    {fields : Table Value}
    {name text : String}
    (given : fields.get? name = some (.text text)) :
    Reading.required fields name readText = Reading.take (.ok text) := by
  rw [Reading.required, given]
  rfl

theorem Reading.optional_eq_take
    {α : Type}
    (fields : Table Value)
    (name : String)
    (fallback : α)
    (read : String -> Value -> FieldReading α) :
    Reading.optional fields name fallback read =
      Reading.take (fieldOr fields name fallback read) := by
  rw [Reading.optional, fieldOr]
  cases fields.get? name <;> rfl

theorem Reading.optional_of
    {α : Type}
    {fields : Table Value}
    {name : String}
    {fallback result : α}
    {read : String -> Value -> FieldReading α}
    (given : fieldOr fields name fallback read = .ok result) :
    Reading.optional fields name fallback read = Reading.take (.ok result) := by
  rw [Reading.optional_eq_take, given]

theorem ofDraft_toConfigDraft (config : Config) : ofDraft config.toConfigDraft = .ok config := by
  rw [ofDraft, dif_pos ⟨config.minMultipartSize_le, config.bufferSize_le⟩]

theorem ReadAs.ofFields
    {fields : Table Value}
    {config : Config}
    (reads : ReadAs fields config.toConfigDraft) :
    ofFields fields = .ok config := by
  have drafted : (readDraft fields).run [] = .ok (some config.toConfigDraft, []) := by
    rw [readDraft, Reading.required_of reads.bucket, Reading.optional_of reads.basePath,
      Reading.optional_of reads.endpointUrl, Reading.optional_of reads.region,
      Reading.optional_of reads.addressingStyle, Reading.optional_of reads.bufferSize,
      Reading.optional_of reads.maxFileSize, Reading.optional_of reads.maxMultipartSize,
      Reading.optional_of reads.minMultipartSize, Reading.optional_of reads.storageClass,
      Reading.optional_of reads.cannedAcl, Reading.optional_of reads.serverSideEncryption]
    rfl
  rw [Config.ofFields, drafted]
  change (ofDraft config.toConfigDraft).mapError _ = .ok config
  rw [ofDraft_toConfigDraft]
  rfl

theorem Reading.bind_ok
    {α β : Type}
    {first : Reading α}
    {next : α -> Reading β}
    {issues : List Issue}
    {result : β × List Issue}
    (ran : (first >>= next) issues = .ok result) :
    exists value later, first issues = .ok (value, later) ∧ next value later = .ok result := by
  cases given : first issues with
  | error failure =>
    change (first issues >>= _) = _ at ran
    rw [given] at ran
    cases ran
  | ok read =>
    change (first issues >>= _) = _ at ran
    rw [given] at ran
    exact ⟨read.1, read.2, rfl, ran⟩

theorem toConfigDraft_of_ofDraft
    {draft : ConfigDraft}
    {config : Config}
    (made : ofDraft draft = .ok config) :
    config.toConfigDraft = draft := by
  rw [ofDraft] at made
  split at made
  next =>
    cases made
    rfl
  next => cases made

theorem readDraft_of_ofFields
    {fields : Table Value}
    {config : Config}
    (read : ofFields fields = .ok config) :
    (readDraft fields).run [] = .ok (some config.toConfigDraft, []) := by
  rw [ofFields] at read
  cases ran : (readDraft fields).run [] with
  | error failure =>
    rw [ran] at read
    cases read
  | ok outcome =>
    rw [ran] at read
    obtain ⟨draft, issues⟩ := outcome
    cases draft with
    | none => cases read
    | some draft =>
      cases issues with
      | cons issue rest => cases read
      | nil =>
        cases made : ofDraft draft with
        | error issue =>
          change (ofDraft draft).mapError _ = _ at read
          rw [made] at read
          cases read
        | ok result =>
          change (ofDraft draft).mapError _ = _ at read
          rw [made] at read
          cases read
          rw [toConfigDraft_of_ofDraft made]

theorem Reading.take_some
    {α : Type}
    {outcome : FieldReading α}
    {value : α}
    {issues later : List Issue}
    (ran : Reading.take outcome issues = .ok (some value, later)) :
    outcome = .ok value := by
  cases outcome with
  | ok result =>
    cases ran
    rfl
  | error obstacle => cases obstacle <;> cases ran

theorem Reading.optional_some
    {α : Type}
    {fields : Table Value}
    {name : String}
    {fallback value : α}
    {read : String -> Value -> FieldReading α}
    {issues later : List Issue}
    (ran : Reading.optional fields name fallback read issues = .ok (some value, later)) :
    fieldOr fields name fallback read = .ok value := by
  rw [Reading.optional_eq_take] at ran
  exact Reading.take_some ran

theorem Reading.required_some
    {α : Type}
    {fields : Table Value}
    {name : String}
    {value : α}
    {read : String -> Value -> FieldReading α}
    {issues later : List Issue}
    (ran : Reading.required fields name read issues = .ok (some value, later)) :
    exists given, fields.get? name = some given ∧ read name given = .ok value := by
  rw [Reading.required] at ran
  cases found : fields.get? name with
  | none =>
    rw [found] at ran
    cases Reading.take_some ran
  | some given =>
    rw [found] at ran
    exact ⟨given, rfl, Reading.take_some ran⟩

/-- Every field is read as a draft has it, and the bucket need not be given as a text. -/
structure Reads (fields : Table Value) (draft : ConfigDraft) : Prop where
  bucket : exists value, fields.get? "bucket" = some value ∧
    readText "bucket" value = .ok draft.bucket
  named : ReadAs (fields.set "bucket" (.text draft.bucket)) draft

theorem fieldOr_congr
    {α : Type}
    {fields others : Table Value}
    {name : String}
    (same : fields.get? name = others.get? name)
    (fallback : α)
    (read : String -> Value -> FieldReading α) :
    fieldOr fields name fallback read = fieldOr others name fallback read := by
  rw [fieldOr, same, fieldOr]

theorem get?_set_bucket
    {name : String}
    (other : name ≠ "bucket")
    (fields : Table Value)
    (bucket : Value) :
    (fields.set "bucket" bucket).get? name = fields.get? name := by
  rw [Table.get?_set, if_neg (Ne.symm other)]

theorem reads_of_ofFields
    {fields : Table Value}
    {config : Config}
    (read : ofFields fields = .ok config) :
    Reads fields config.toConfigDraft := by
  have ran := readDraft_of_ofFields read
  rw [readDraft] at ran
  obtain ⟨_, _, bucket, ran⟩ := Reading.bind_ok ran
  obtain ⟨_, _, basePath, ran⟩ := Reading.bind_ok ran
  obtain ⟨_, _, endpointUrl, ran⟩ := Reading.bind_ok ran
  obtain ⟨_, _, region, ran⟩ := Reading.bind_ok ran
  obtain ⟨_, _, addressingStyle, ran⟩ := Reading.bind_ok ran
  obtain ⟨_, _, bufferSize, ran⟩ := Reading.bind_ok ran
  obtain ⟨_, _, maxFileSize, ran⟩ := Reading.bind_ok ran
  obtain ⟨_, _, maxMultipartSize, ran⟩ := Reading.bind_ok ran
  obtain ⟨_, _, minMultipartSize, ran⟩ := Reading.bind_ok ran
  obtain ⟨_, _, storageClass, ran⟩ := Reading.bind_ok ran
  obtain ⟨_, _, cannedAcl, ran⟩ := Reading.bind_ok ran
  obtain ⟨_, _, serverSideEncryption, ran⟩ := Reading.bind_ok ran
  have drafted := (Prod.mk.inj (Except.ok.inj ran)).1
  simp only [bind, Option.bind_eq_some_iff] at drafted
  obtain ⟨_, rfl, _, rfl, _, rfl, _, rfl, _, rfl, _, rfl, _, rfl, _, rfl, _, rfl, _, rfl, _, rfl,
    _, rfl, isDraft⟩ := drafted
  have same := Option.some.inj isDraft
  rw [<- same]
  have kept {α : Type} {name : String} {fallback value : α}
      {read : String -> Value -> FieldReading α} {issues later : List Issue} {text : String}
      (other : name ≠ "bucket")
      (ran : Reading.optional fields name fallback read issues = .ok (some value, later)) :
      fieldOr (fields.set "bucket" (.text text)) name fallback read = .ok value :=
    (fieldOr_congr (get?_set_bucket other fields _) fallback read).trans (Reading.optional_some ran)
  exact {
    bucket := Reading.required_some bucket
    named := {
      bucket := by rw [Table.get?_set, if_pos rfl]
      basePath := kept (by decide) basePath
      endpointUrl := kept (by decide) endpointUrl
      region := kept (by decide) region
      addressingStyle := kept (by decide) addressingStyle
      bufferSize := kept (by decide) bufferSize
      maxFileSize := kept (by decide) maxFileSize
      maxMultipartSize := kept (by decide) maxMultipartSize
      minMultipartSize := kept (by decide) minMultipartSize
      storageClass := kept (by decide) storageClass
      cannedAcl := kept (by decide) cannedAcl
      serverSideEncryption := kept (by decide) serverSideEncryption } }

theorem Reads.ofFields
    {fields : Table Value}
    {config : Config}
    (reads : Reads fields config.toConfigDraft) :
    ofFields fields = .ok config := by
  obtain ⟨⟨value, found, given⟩, named⟩ := reads
  have bucket : Reading.required (fields.set "bucket" (.text config.bucket)) "bucket" readText =
      Reading.required fields "bucket" readText := by
    rw [Reading.required_of named.bucket, Reading.required, found]
    simp only [given]
  have others {α : Type} {name : String} (other : name ≠ "bucket") (fallback : α)
      (read : String -> Value -> FieldReading α) :
      Reading.optional (fields.set "bucket" (.text config.bucket)) name fallback read =
        Reading.optional fields name fallback read := by
    rw [Reading.optional, get?_set_bucket other, Reading.optional]
  have drafts : readDraft (fields.set "bucket" (.text config.bucket)) = readDraft fields := by
    simp only [readDraft, bucket, others, ne_eq, String.reduceEq, not_false_eq_true]
  have read := named.ofFields
  rwa [Config.ofFields, drafts] at read

theorem exists_ofFields_iff {fields : Table Value} {draft : ConfigDraft} :
    (exists config, config.toConfigDraft = draft ∧ ofFields fields = .ok config) <->
      Reads fields draft ∧ draft.GoTogether := by
  constructor
  · rintro ⟨config, rfl, read⟩
    exact ⟨reads_of_ofFields read, config.minMultipartSize_le, config.bufferSize_le⟩
  · rintro ⟨reads, together⟩
    exact ⟨⟨draft, together.least, together.most⟩, rfl, Reads.ofFields reads⟩

def plain (bucket : String) : Config where
  bucket := bucket
  minMultipartSize_le := by decide
  bufferSize_le := by decide

theorem ofFields_bucket (bucket : String) :
    ofFields (.ofList [("bucket", .text bucket)]) = .ok (plain bucket) := by
  apply ReadAs.ofFields
  constructor <;> rfl

theorem ofFields_fields
    {config : Config}
    (trimmed : Text.trim (· == '/') config.basePath = config.basePath) :
    ofFields (.ofList config.fields) = .ok config := by
  have unique : (config.fields.map Prod.fst).Nodup := by
    simp only [fields, List.map_cons, List.map_nil]
    decide
  have kept {α : Type} {name : String} {value : Value} {result : α} (fallback : α)
      (read : String -> Value -> FieldReading α)
      (found : Table.lookup name config.fields = some value)
      (given : read name value = .ok result) :
      fieldOr (Table.ofList config.fields) name fallback read = .ok result := by
    rw [fieldOr_of_some ((Table.get?_ofList unique name).trans found), given]
  apply ReadAs.ofFields
  exact {
    bucket := Table.get?_ofList unique "bucket"
    basePath := kept _ _ rfl (congrArg Except.ok trimmed)
    endpointUrl := kept _ _ rfl (readOptionalText_ofText? _ _)
    region := kept _ _ rfl (readOptionalText_ofText? _ _)
    addressingStyle := kept _ _ rfl (readAddressingStyle_name _ _)
    bufferSize := kept _ _ rfl (readSize_int _ config.bufferSize_pos)
    maxFileSize := kept _ _ rfl (readSize_int _ config.maxFileSize_pos)
    maxMultipartSize := kept _ _ rfl (readSize_int _ config.maxMultipartSize_pos)
    minMultipartSize := kept _ _ rfl (readSize_int _ config.minMultipartSize_pos)
    storageClass := kept _ _ rfl (readStorageClass_name _ _)
    cannedAcl := kept _ _ rfl (readCannedAcl_name _ _)
    serverSideEncryption := kept _ _ rfl rfl }

theorem ofFields_update
    {fields : Table Value}
    {config : Config}
    {changes : List (String × Value)}
    {bucket basePath endpointUrl : Option String}
    (read : ofFields fields = .ok config)
    (isBucket : (Table.ofList changes).get? "bucket" = bucket.map .text)
    (isBasePath : (Table.ofList changes).get? "base_path" = basePath.map .text)
    (isEndpointUrl : (Table.ofList changes).get? "endpoint_url" = endpointUrl.map .text)
    (others : forall name, name ∉ ["bucket", "base_path", "endpoint_url"] ->
      (Table.ofList changes).get? name = none) :
    ofFields (fields.update (.ofList changes)) = .ok { config with
      bucket := bucket.getD config.bucket
      basePath := (basePath.map (Text.trim (· == '/'))).getD config.basePath
      endpointUrl := endpointUrl.or config.endpointUrl } := by
  obtain ⟨⟨value, found, given⟩, named⟩ := reads_of_ofFields read
  have get := Table.get?_update fields changes
  -- A field other than the bucket is read as before, unless it is changed.
  have kept {α : Type} {name : String} {result : α} {fallback : α}
      {read : String -> Value -> FieldReading α} {text : String}
      (unchanged : (Table.ofList changes).get? name = none)
      (other : name ≠ "bucket")
      (was : fieldOr (fields.set "bucket" (.text config.bucket)) name fallback read = .ok result) :
      fieldOr ((fields.update (.ofList changes)).set "bucket" (.text text)) name fallback read =
        .ok result := by
    rw [<- was]
    refine fieldOr_congr ?_ fallback read
    rw [get?_set_bucket other, get?_set_bucket other, get, unchanged, Option.none_or]
  have changed {α : Type} {name content : String} {result : α} {fallback : α}
      {read : String -> Value -> FieldReading α} {text : String}
      (set : (Table.ofList changes).get? name = some (.text content))
      (other : name ≠ "bucket")
      (reads : read name (.text content) = .ok result) :
      fieldOr ((fields.update (.ofList changes)).set "bucket" (.text text)) name fallback read =
        .ok result := by
    rw [fieldOr_of_some _ fallback read, reads]
    rw [get?_set_bucket other, get, set, Option.some_or]
  apply Reads.ofFields
  exact {
    bucket := by
      cases bucket with
      | none => exact ⟨value, by rw [get, isBucket, found]; rfl, given⟩
      | some text => exact ⟨.text text, by rw [get, isBucket]; rfl, rfl⟩
    named := {
      bucket := by rw [Table.get?_set, if_pos rfl]
      basePath := by
        cases basePath with
        | none => exact kept isBasePath (by decide) named.basePath
        | some text => exact changed isBasePath (by decide) rfl
      endpointUrl := by
        cases endpointUrl with
        | none => exact kept isEndpointUrl (by decide) named.endpointUrl
        | some text => exact changed isEndpointUrl (by decide) rfl
      region := kept (others _ (by decide)) (by decide) named.region
      addressingStyle := kept (others _ (by decide)) (by decide) named.addressingStyle
      bufferSize := kept (others _ (by decide)) (by decide) named.bufferSize
      maxFileSize := kept (others _ (by decide)) (by decide) named.maxFileSize
      maxMultipartSize := kept (others _ (by decide)) (by decide) named.maxMultipartSize
      minMultipartSize := kept (others _ (by decide)) (by decide) named.minMultipartSize
      storageClass := kept (others _ (by decide)) (by decide) named.storageClass
      cannedAcl := kept (others _ (by decide)) (by decide) named.cannedAcl
      serverSideEncryption :=
        kept (others _ (by decide)) (by decide) named.serverSideEncryption } }

theorem override_texts
    {config : Config}
    {changes : List (String × Value)}
    {bucket basePath endpointUrl : Option String}
    (trimmed : Text.trim (· == '/') config.basePath = config.basePath)
    (unique : (changes.map Prod.fst).Nodup)
    (isBucket : Table.lookup "bucket" changes = bucket.map .text)
    (isBasePath : Table.lookup "base_path" changes = basePath.map .text)
    (isEndpointUrl : Table.lookup "endpoint_url" changes = endpointUrl.map .text)
    (others : forall name, name ∉ ["bucket", "base_path", "endpoint_url"] ->
      Table.lookup name changes = none) :
    config.override changes = .ok { config with
      bucket := bucket.getD config.bucket
      basePath := (basePath.map (Text.trim (· == '/'))).getD config.basePath
      endpointUrl := endpointUrl.or config.endpointUrl } := by
  have get := Table.get?_ofList unique
  exact ofFields_update (ofFields_fields trimmed) ((get _).trans isBucket)
    ((get _).trans isBasePath) ((get _).trans isEndpointUrl)
    (fun name other => (get name).trans (others name other))

theorem ofEnvironment_texts
    {environment : Table String}
    {config : Config}
    (configured : ofEnvironment environment = .ok config) :
    nonEmpty environment "BLOBSTORE_BUCKET" = some config.bucket ∧
      config.basePath =
        Text.trim (· == '/') ((environment.get? "BLOBSTORE_BASE_PATH").getD "") ∧
      config.endpointUrl = nonEmpty environment "BLOBSTORE_ENDPOINT_URL" := by
  rw [ofEnvironment] at configured
  cases isBucket : nonEmpty environment "BLOBSTORE_BUCKET" with
  | none =>
    rw [isBucket] at configured
    cases configured
  | some bucket =>
    rw [isBucket] at configured
    have unique : ((environmentFields environment bucket).map Prod.fst).Nodup := by
      rw [environmentFields]
      cases nonEmpty environment "BLOBSTORE_BUFFER_SIZE" <;>
        simp only [List.map_append, List.map_cons, List.map_nil] <;> decide
    have get := Table.get?_ofList unique
    obtain ⟨⟨value, found, given⟩, named⟩ := reads_of_ofFields configured
    have isText := found.symm.trans (get "bucket")
    cases isText
    cases given
    refine ⟨rfl, ?_, ?_⟩
    · have basePath := named.basePath
      rw [fieldOr_of_some ((get?_set_bucket (by decide) _ _).trans (get "base_path"))] at basePath
      exact (Except.ok.inj basePath).symm
    · have endpointUrl := named.endpointUrl
      rw [fieldOr_of_some ((get?_set_bucket (by decide) _ _).trans (get "endpoint_url"))]
        at endpointUrl
      exact Except.ok.inj (endpointUrl.symm.trans (readOptionalText_ofText? _ _))

end Config

end BlobDepot
