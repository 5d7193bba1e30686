import BlobDepot.Proofs.Configs
import BlobDepot.Proofs.Paths

set_option autoImplicit false

namespace BlobDepot

namespace Text

theorem head?_trimChars (drop : Char -> Bool) (chars : List Char) :
    forall c, (trimChars drop chars).head? = some c -> drop c = false := by
  intro c first
  have begins := List.head?_dropWhile_not drop chars
  -- What is left begins as it did before its end was dropped.
  have whole : trimChars drop chars <+: chars.dropWhile drop := List.rdropWhile_prefix drop _
  obtain ⟨rest, isWhole⟩ := whole
  rw [<- isWhole, List.head?_append, first] at begins
  exact begins

theorem getLast?_trimChars (drop : Char -> Bool) (chars : List Char) :
    forall c, (trimChars drop chars).getLast? = some c -> drop c = false := by
  intro c last
  have begins := List.head?_dropWhile_not drop (chars.dropWhile drop).reverse
  rw [trimChars, List.getLast?_reverse] at last
  rw [last] at begins
  exact begins

def filledPieces (mark : Char) (chars : List Char) : List (List Char) :=
  (pieces mark chars).filter (fun piece => !piece.isEmpty)

theorem filledPieces_dropWhile (mark : Char) (chars : List Char) :
    filledPieces mark (chars.dropWhile (· == mark)) = filledPieces mark chars := by
  induction chars with
  | nil => rfl
  | cons c rest ih =>
    by_cases marked : c = mark
    next =>
      rw [List.dropWhile_cons_of_pos (by simp [marked]), ih]
      simp [filledPieces, pieces, marked]
    next => rw [List.dropWhile_cons_of_neg (by simp [marked])]

theorem pieces_append_mark (mark : Char) (chars : List Char) :
    pieces mark (chars ++ [mark]) = pieces mark chars ++ [[]] := by
  induction chars with
  | nil => simp [pieces]
  | cons c rest ih =>
    by_cases marked : c = mark
    next => simp [pieces, marked, ih]
    next =>
      cases split : pieces mark rest with
      | nil => exact absurd split (pieces_ne_nil mark rest)
      | cons first others => simp [pieces, marked, ih, split]

theorem filledPieces_rdropWhile (mark : Char) (chars : List Char) :
    filledPieces mark (chars.rdropWhile (· == mark)) = filledPieces mark chars := by
  induction chars using List.reverseRecOn with
  | nil => rfl
  | append_singleton rest c ih =>
    by_cases marked : c = mark
    next =>
      rw [List.rdropWhile_concat_pos _ _ _ (by simp [marked]), ih, marked]
      simp [filledPieces, pieces_append_mark]
    next => rw [List.rdropWhile_concat_neg _ _ _ (by simp [marked])]

theorem filledPieces_trimChars (mark : Char) (chars : List Char) :
    filledPieces mark (trimChars (· == mark) chars) = filledPieces mark chars := by
  have trims : trimChars (· == mark) chars =
      (chars.dropWhile (· == mark)).rdropWhile (· == mark) := rfl
  rw [trims, filledPieces_rdropWhile, filledPieces_dropWhile]

end Text

theorem BlobPath.ofText_trim (text : String) :
    ofText (Text.trim (· == '/') text) = ofText text := by
  have segments (chars : List Char) :
      (Text.pieces '/' chars).filter (fun piece => !piece.isEmpty) = Text.filledPieces '/' chars :=
    rfl
  rw [ofText, Text.trim, String.toList_ofList, segments, Text.filledPieces_trimChars, ofText,
    segments]

namespace Config

theorem basePath_of_ofFields
    {fields : Table Value}
    {config : Config}
    (read : ofFields fields = .ok config) :
    exists raw, fieldOr fields "base_path" "" readText = .ok raw ∧
      config.basePath = Text.trim (· == '/') raw := by
  have trimmed := (reads_of_ofFields read).named.basePath
  rw [fieldOr_congr (get?_set_bucket (by decide) fields _)] at trimmed
  rw [fieldOr] at trimmed ⊢
  cases given : fields.get? "base_path" with
  | none =>
    rw [given] at trimmed
    exact ⟨"", rfl, (Except.ok.inj trimmed).symm⟩
  | some value =>
    simp only [given, readBasePath] at trimmed ⊢
    cases isText : readText "base_path" value with
    | error obstacle =>
      rw [isText] at trimmed
      cases trimmed
    | ok raw =>
      rw [isText] at trimmed
      exact ⟨raw, rfl, (Except.ok.inj trimmed).symm⟩

theorem keyPath_of_ofFields
    {fields : Table Value}
    {config : Config}
    {raw : String}
    (read : ofFields fields = .ok config)
    (given : fieldOr fields "base_path" "" readText = .ok raw)
    (source : ClientSource) :
    (Container.ofStore ⟨config, source⟩ none).keyPath = (BlobPath.ofText raw).toText := by
  obtain ⟨text, isText, trimmed⟩ := basePath_of_ofFields read
  cases given.symm.trans isText
  change (BlobPath.ofText config.basePath).toText = _
  rw [trimmed, BlobPath.ofText_trim]

def textFields (texts : List (String × String)) : List (String × Value) :=
  texts.map (fun field => (field.1, .text field.2))

theorem get?_textFields (texts : List (String × String)) (name : String) :
    (Table.ofList (textFields texts)).get? name =
      ((Table.ofList texts).get? name).map .text := by
  have reversed (pairs : List (String × String)) :
      Table.lookup name (textFields pairs) = (Table.lookup name pairs).map Value.text := by
    induction pairs with
    | nil => rfl
    | cons pair rest ih =>
      obtain ⟨key, text⟩ := pair
      by_cases hit : key = name
      next => simp [textFields, Table.lookup, hit]
      next =>
        rw [textFields, List.map_cons, Table.lookup, if_neg hit, Table.lookup, if_neg hit]
        exact ih
  rw [Table.ofList, Table.get?_foldl_set, Table.ofList, Table.get?_foldl_set, Table.get?_empty,
    Table.get?_empty, Option.or_none, Option.or_none, <- reversed, textFields, textFields,
    List.map_reverse]

/-- A configuration is read back from its fields, where only names stand that are supported.  So
it comes to the same whether texts are changed after the configuration was read or before, and the
container at the base path is the one that the given base path names. -/
theorem ofFields_stable
    (fields : Table Value)
    (config : Config)
    (texts : List (String × String))
    (accepted : ofFields fields = .ok config)
    (named : forall name, name ∈ texts.map Prod.fst ->
      name ∈ ["bucket", "base_path", "endpoint_url"]) :
    ofFields (.ofList config.fields) = .ok config ∧
      config.storageClass.name ∈ Limits.supportedStorageClasses ∧
      config.cannedAcl.name ∈ Limits.cannedAcls ∧
      config.addressingStyle.name ∈ ["path", "virtual"] ∧
      config.basePath.toList.head? ≠ some '/' ∧
      config.basePath.toList.getLast? ≠ some '/' ∧
      exists changed raw,
        config.override (textFields texts) = .ok changed ∧
        ofFields (fields.update (.ofList (textFields texts))) = .ok changed ∧
        fieldOr (fields.update (.ofList (textFields texts))) "base_path" "" readText = .ok raw ∧
        forall source,
          (Container.ofStore ⟨changed, source⟩ none).keyPath = (BlobPath.ofText raw).toText := by
  obtain ⟨_, _, isTrimmed⟩ := basePath_of_ofFields accepted
  have trimmed : Text.trim (· == '/') config.basePath = config.basePath := by
    rw [isTrimmed, Text.trim_trim]
  have again := ofFields_fields trimmed
  have get := get?_textFields texts
  have others : forall name, name ∉ ["bucket", "base_path", "endpoint_url"] ->
      (Table.ofList (textFields texts)).get? name = none := by
    intro name other
    have absent : Table.lookup name texts.reverse = none := by
      refine Table.lookup_eq_none.mpr (fun listed => other (named name ?_))
      rwa [List.map_reverse, List.mem_reverse] at listed
    rw [get, Table.ofList, Table.get?_foldl_set, absent]
    rfl
  have changes {known : Table Value} (read : ofFields known = .ok config) :=
    ofFields_update read (get "bucket") (get "base_path") (get "endpoint_url") others
  -- What was read and what is read again give the same texts, so both changes come to the same.
  obtain ⟨raw, given, _⟩ := basePath_of_ofFields (changes accepted)
  refine ⟨again, ?_, ?_, ?_, ?_, ?_, _, raw, changes again, changes accepted, given,
    keyPath_of_ofFields (changes accepted) given⟩
  · cases config.storageClass <;> decide
  · cases config.cannedAcl <;> decide
  · cases config.addressingStyle <;> decide
  · intro first
    rw [isTrimmed, Text.trim, String.toList_ofList] at first
    exact absurd (Text.head?_trimChars _ _ _ first) (by decide)
  · intro last
    rw [isTrimmed, Text.trim, String.toList_ofList] at last
    exact absurd (Text.getLast?_trimChars _ _ _ last) (by decide)

theorem ofFields_stable_changed :
    let fields : Table Value := .ofList [("bucket", .text "b"), ("base_path", .text "//a//b/"),
      ("addressing_style", .text "Virtual "), ("buffer_size", .text " 6 MB"),
      ("min_multipart_size", .bool true), ("storage_class", .text "standard_ia\n")]
    let config : Config := {
      bucket := "b"
      basePath := "a//b"
      addressingStyle := .virtual
      bufferSize := 6 * Limits.megabyte
      minMultipartSize := 1
      storageClass := .standardInfrequent
      minMultipartSize_le := by decide
      bufferSize_le := by decide }
    let texts := [("base_path", "/c//d/"), ("bucket", "other")]
    ofFields fields = .ok config ∧
      (forall name, name ∈ texts.map Prod.fst ->
        name ∈ ["bucket", "base_path", "endpoint_url"]) ∧
      ofFields (.ofList config.fields) = .ok config ∧
      exists changed,
        config.override (textFields texts) = .ok changed ∧
        ofFields (fields.update (.ofList (textFields texts))) = .ok changed ∧
        (Container.ofStore ⟨changed, .connection⟩ none).keyPath = "c/d/" := by
  intro fields config texts
  have accepted : ofFields fields = .ok config := by
    -- Failures cannot be compared, so the configuration is compared without them.
    have isConfig : (ofFields fields).toOption = some config := by decide +kernel
    cases read : ofFields fields with
    | error failure =>
      rw [read] at isConfig
      cases isConfig
    | ok other =>
      rw [read] at isConfig
      exact congrArg Except.ok (Option.some.inj isConfig)
  have named : forall name, name ∈ texts.map Prod.fst ->
      name ∈ ["bucket", "base_path", "endpoint_url"] := by decide
  obtain ⟨again, _, _, _, _, _, changed, raw, overridden, updated, given, isPath⟩ :=
    ofFields_stable fields config texts accepted named
  have isRaw : fieldOr (fields.update (.ofList (textFields texts))) "base_path" "" readText =
      .ok "/c//d/" := rfl
  cases given.symm.trans isRaw
  have path : (BlobPath.ofText "/c//d/").toText = "c/d/" := by decide +kernel
  exact ⟨accepted, named, again, changed, overridden, updated, (isPath .connection).trans path⟩

end Config

end BlobDepot
