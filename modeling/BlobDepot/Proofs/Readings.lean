import BlobDepot.Proofs.HalfCharacters
import BlobDepot.Proofs.Settings

set_option autoImplicit false

namespace BlobDepot

namespace Config

def textOf? : Value -> Option String
  | .text content => some content
  | .bytes content => String.fromUTF8? ⟨content.toArray⟩
  | _ => none

def isSized : Value -> Bool
  | .int _ | .bool _ | .text _ => true
  | _ => false

def unencodable? (error : ArgumentError) : Option Failure :=
  (Text.firstHalves? error.message).map (fun halves =>
    .of (.unencodable (Text.halvesMessage error.message halves.1 halves.2)))

def sizeFailure? (value : Value) : Option Failure :=
  if isSized value then none
  else some (.of (.wrongType (Size.Refusal.notText value.kindName).message))

def nameFailure? (refusal : String -> ArgumentError) (value : Value) : Option Failure :=
  (textOf? value).bind (fun text => unencodable? (refusal text))

/-- The fields whose values may end a reading, in the order in which they are read. -/
def endings : List (String × (Value -> Option Failure)) :=
  [("addressing_style", nameFailure? .addressingStyle),
    ("buffer_size", sizeFailure?),
    ("max_file_size", sizeFailure?),
    ("max_multipart_size", sizeFailure?),
    ("min_multipart_size", sizeFailure?),
    ("storage_class", nameFailure? .unknownStorageClass),
    ("canned_acl", nameFailure? .unknownCannedAcl)]

def firstFailure? (fields : Table Value) : Option Failure :=
  endings.findSome? (fun ending => (fields.get? ending.1).bind ending.2)

/-- Sizes are given by numbers, flags and texts, and names are without half characters.  The
characters which are reserved for those are no part of a name. -/
structure Fit (fields : Table Value) : Prop where
  sizes : forall name value,
    name ∈ ["buffer_size", "max_file_size", "max_multipart_size", "min_multipart_size"] ->
    fields.get? name = some value -> isSized value = true
  names : forall name value text, name ∈ ["addressing_style", "storage_class", "canned_acl"] ->
    fields.get? name = some value -> textOf? value = some text ->
    Text.isWhole text.toList = true

theorem unencodable?_eq_none {error : ArgumentError} :
    unencodable? error = none <-> Text.isWhole error.message.toList = true := by
  rw [unencodable?, Option.map_eq_none_iff, Text.firstHalves?_eq_none]

theorem unencodable?_quoting
    {error : ArgumentError}
    {start text : String}
    (words : error.message = start ++ text)
    (whole : Text.isWhole start.toList = true) :
    unencodable? error = none <-> Text.isWhole text.toList = true := by
  rw [unencodable?_eq_none, words, String.toList_append, Text.isWhole_append, whole,
    Bool.true_and]

theorem unencodable?_addressingStyle (text : String) :
    unencodable? (.addressingStyle text) = none <-> Text.isWhole text.toList = true :=
  unencodable?_quoting rfl (by decide +kernel)

theorem unencodable?_unknownStorageClass (text : String) :
    unencodable? (.unknownStorageClass text) = none <-> Text.isWhole text.toList = true :=
  unencodable?_quoting rfl (by decide +kernel)

theorem unencodable?_unknownCannedAcl (text : String) :
    unencodable? (.unknownCannedAcl text) = none <-> Text.isWhole text.toList = true :=
  unencodable?_quoting rfl (by decide +kernel)

theorem sizeFailure?_eq_none (value : Value) :
    sizeFailure? value = none <-> isSized value = true := by
  rw [sizeFailure?]
  split <;> simp_all

theorem fit_iff {fields : Table Value} : Fit fields <-> firstFailure? fields = none := by
  simp only [firstFailure?, endings, nameFailure?, List.findSome?_eq_none_iff,
    List.forall_mem_cons, List.not_mem_nil, false_imp_iff, forall_const, and_true,
    Option.bind_eq_none_iff, sizeFailure?_eq_none, unencodable?_addressingStyle,
    unencodable?_unknownStorageClass, unencodable?_unknownCannedAcl]
  -- Both sides tell of seven fields, once by two rules and once field by field.
  constructor
  · rintro ⟨sizes, names⟩
    exact ⟨fun value given text => names _ value text (by simp) given,
      fun value => sizes _ value (by simp), fun value => sizes _ value (by simp),
      fun value => sizes _ value (by simp), fun value => sizes _ value (by simp),
      fun value given text => names _ value text (by simp) given,
      fun value given text => names _ value text (by simp) given⟩
  · rintro ⟨style, buffer, single, multipart, least, storage, acl⟩
    constructor
    · simp only [List.mem_cons, List.not_mem_nil, or_false]
      rintro name value (rfl | rfl | rfl | rfl)
      · exact buffer value
      · exact single value
      · exact multipart value
      · exact least value
    · simp only [List.mem_cons, List.not_mem_nil, or_false]
      rintro name value text (rfl | rfl | rfl) given
      · exact style value given text
      · exact storage value given text
      · exact acl value given text

def failureOf {α : Type} : FieldReading α -> Option Failure
  | .error (.failure failure) => some failure
  | _ => none

theorem failureOf_refusal {α : Type} (name : String) (error : ArgumentError) :
    failureOf (.error (.refusal name error) : FieldReading α) = unencodable? error := by
  rw [Obstacle.refusal, unencodable?]
  cases Text.firstHalves? error.message <;> rfl

theorem readText_cases (name : String) (value : Value) :
    (exists text, textOf? value = some text ∧ readText name value = .ok text) ∨
      textOf? value = none ∧ exists issue, readText name value = complain issue := by
  cases value with
  | text content => exact .inl ⟨content, rfl, rfl⟩
  | bytes content =>
    cases decoded : String.fromUTF8? ⟨content.toArray⟩ with
    | some text => exact .inl ⟨text, decoded, by rw [readText, decoded]⟩
    | none => exact .inr ⟨decoded, _, by rw [readText, decoded]⟩
  | _ => exact .inr ⟨rfl, _, rfl⟩

theorem failureOf_readText (name : String) (value : Value) :
    failureOf (readText name value) = none := by
  obtain ⟨text, _, read⟩ | ⟨_, issue, read⟩ := readText_cases name value <;> rw [read] <;> rfl

theorem failureOf_readText_bind
    {α : Type}
    (name : String)
    (value : Value)
    (next : String -> FieldReading α) :
    failureOf (readText name value >>= next) =
      (textOf? value).bind (fun text => failureOf (next text)) := by
  obtain ⟨text, isText, read⟩ | ⟨noText, issue, read⟩ := readText_cases name value
  · rw [read, isText]
    rfl
  · rw [read, noText]
    rfl

theorem failureOf_readBasePath (name : String) (value : Value) :
    failureOf (readBasePath name value) = none := by
  rw [readBasePath, failureOf_readText_bind]
  cases textOf? value <;> rfl

theorem failureOf_readOptionalText (name : String) (value : Value) :
    failureOf (readOptionalText name value) = none := by
  have given : failureOf ((readText name value).map some) = none := by
    obtain ⟨text, _, read⟩ | ⟨_, issue, read⟩ := readText_cases name value <;> rw [read] <;> rfl
  cases value with
  | null => rfl
  | _ => exact given

theorem failureOf_readFlag (name : String) (value : Value) :
    failureOf (readFlag name value) = none := by
  have number (inRange : Bool) (whole : Int) :
      failureOf (flagOfNumber name inRange whole) = none := by
    rw [flagOfNumber]
    repeat' split
    all_goals rfl
  cases value with
  | int whole => exact number _ whole
  | real rounded =>
    simp only [readFlag]
    split
    next => exact number _ _
    next => rfl
  | text content =>
    simp only [readFlag]
    repeat' split
    all_goals rfl
  | bytes content =>
    simp only [readFlag]
    split <;> rfl
  | _ => rfl

theorem isWhole_of_find?
    {α : Type}
    {nameOf : α -> String}
    {all : List α}
    {text : String}
    {item : α}
    (found : all.find? (fun other => nameOf other == text) = some item)
    (whole : Text.isWhole (nameOf item).toList = true) :
    Text.isWhole text.toList = true := by
  have named := List.find?_some found
  rw [beq_iff_eq] at named
  rwa [named] at whole

theorem failureOf_readAddressingStyle (name : String) (value : Value) :
    failureOf (readAddressingStyle name value) = nameFailure? .addressingStyle value := by
  rw [readAddressingStyle, failureOf_readText_bind, nameFailure?]
  refine congrArg _ (funext (fun text => ?_))
  cases known : AddressingStyle.ofName? (Text.lower (Text.strip text)) with
  | none => exact failureOf_refusal name _
  | some style =>
    have whole := isWhole_of_find? known (by cases style <;> decide +kernel)
    refine ((unencodable?_addressingStyle text).mpr (Text.isWhole_of_mem ?_ whole)).symm
    exact fun c listed half => Text.mem_lower (Text.mem_strip listed half) half

theorem mem_nameOr
    {text : String}
    {c : Char}
    (listed : c ∈ text.toList)
    (half : Text.isStandIn c = true)
    (fallback : String) :
    c ∈ (nameOr fallback text).toList := by
  have filled : (text == "") = false := by
    rw [beq_eq_false_iff_ne]
    rintro rfl
    cases listed
  rw [nameOr, filled]
  exact Text.mem_strip listed half

theorem failureOf_readStorageClass (name : String) (value : Value) :
    failureOf (readStorageClass name value) = nameFailure? .unknownStorageClass value := by
  rw [readStorageClass, failureOf_readText_bind, nameFailure?]
  refine congrArg _ (funext (fun text => ?_))
  -- Half characters survive what a name is looked up by, so where that is whole no wording fails.
  have kept : Text.isWhole (Text.upper (nameOr StorageClass.standard.name text)).toList = true ->
      none = unencodable? (.unknownStorageClass text) := by
    intro whole
    refine ((unencodable?_unknownStorageClass text).mpr (Text.isWhole_of_mem ?_ whole)).symm
    exact fun c listed half => Text.mem_upper (mem_nameOr listed half _) half
  generalize Text.upper (nameOr StorageClass.standard.name text) = wanted at kept
  by_cases unsupported : Limits.unsupportedStorageClasses.contains wanted
  next =>
    have names : forall name, name ∈ Limits.unsupportedStorageClasses ->
        Text.isWhole name.toList = true := by decide +kernel
    have whole := names wanted (List.contains_iff_mem.mp unsupported)
    have ends {next : PUnit -> FieldReading StorageClass} (error : ArgumentError) :
        failureOf ((throw (.refusal name error) : FieldReading PUnit) >>= next) =
          unencodable? error := failureOf_refusal name error
    have words : (ArgumentError.unsupportedStorageClass wanted).message =
        "Storage class " ++ wanted ++ " is not supported" := rfl
    rw [if_pos unsupported, <- kept whole, ends, unencodable?_eq_none, words]
    simp only [String.toList_append, Text.isWhole_append, whole, Bool.and_true]
    decide +kernel
  next =>
    rw [if_neg unsupported]
    cases known : StorageClass.ofName? wanted with
    | none => exact failureOf_refusal name _
    | some storageClass =>
      exact kept (isWhole_of_find? known (by cases storageClass <;> decide +kernel))

theorem failureOf_readCannedAcl (name : String) (value : Value) :
    failureOf (readCannedAcl name value) = nameFailure? .unknownCannedAcl value := by
  rw [readCannedAcl, failureOf_readText_bind, nameFailure?]
  refine congrArg _ (funext (fun text => ?_))
  cases known : CannedAcl.ofName? (Text.lower (nameOr CannedAcl.onlyOwner.name text)) with
  | none => exact failureOf_refusal name _
  | some acl =>
    have whole := isWhole_of_find? known (by cases acl <;> decide +kernel)
    refine ((unencodable?_unknownCannedAcl text).mpr (Text.isWhole_of_mem ?_ whole)).symm
    exact fun c listed half => Text.mem_lower (mem_nameOr listed half _) half

theorem failureOf_readSize (name : String) (value : Value) :
    failureOf (readSize name value) = sizeFailure? value := by
  have unrefused {size : Value} (sized : isSized value = true)
      (read : Size.ofValue value = .ok size) :
      failureOf (readSize name value) = sizeFailure? value := by
    rw [(sizeFailure?_eq_none value).mpr sized, readSize, read]
    simp only
    split
    next => rfl
    next =>
      rw [failureOf_refusal, unencodable?_eq_none]
      decide +kernel
  cases value with
  | int number => exact unrefused rfl rfl
  | bool flag => exact unrefused rfl rfl
  | text text =>
    have told := Size.told_ofValue text
    cases read : Size.ofValue (.text text) with
    | ok size => exact unrefused rfl read
    | error refusal =>
      rw [read] at told
      simp only [readSize, read]
      -- Either wording of a text that is no size is whole, since the text is quoted by escapes.
      have unended {error : ArgumentError} (whole : Text.isWhole error.message.toList = true) :
          failureOf (.error (.refusal name error) : FieldReading { size : Nat // 0 < size }) =
            sizeFailure? (.text text) := by
        rw [failureOf_refusal, unencodable?_eq_none.mpr whole]
        rfl
      cases told with
      | tooLong spelling spells long =>
        have words : (ArgumentError.literal (.tooLong spelling.digits.length)).message =
            "Exceeds the limit (" ++ toString Number.digitLimit
              ++ " digits) for integer string conversion: value has "
              ++ toString spelling.digits.length
              ++ " digits; use sys.set_int_max_str_digits() to increase the limit" := rfl
        refine unended ?_
        simp only [words, String.toList_append, Text.isWhole_append, Text.isWhole_toString,
          Bool.and_true]
        decide +kernel
      | unspelled never =>
        have words : (ArgumentError.byteSize text).message =
            "Invalid byte size: " ++ Text.quote text := rfl
        refine unended ?_
        simp only [words, String.toList_append, Text.isWhole_append, Text.isWhole_quote,
          Bool.and_true]
        decide +kernel
  | _ => rfl

def EndedBy {α : Type} (reading : Reading α) : Option Failure -> Prop
  | none => forall issues, exists value later, reading issues = .ok (value, later)
  | some failure => forall issues, reading issues = .error failure

namespace EndedBy

variable {α β : Type}

theorem pure (value : α) : EndedBy (Pure.pure value : Reading α) none :=
  fun issues => ⟨value, issues, rfl⟩

theorem bind
    {first : Reading α}
    {next : α -> Reading β}
    {failure? later? : Option Failure}
    (starts : EndedBy first failure?)
    (goesOn : forall value, EndedBy (next value) later?) :
    EndedBy (first >>= next) (failure?.or later?) := by
  cases failure? with
  | some failure =>
    intro issues
    change (first issues >>= _) = _
    rw [starts issues]
    rfl
  | none =>
    have passes : forall issues, exists value middle,
        (first >>= next) issues = next value middle := by
      intro issues
      obtain ⟨value, middle, ran⟩ := starts issues
      refine ⟨value, middle, ?_⟩
      change (first issues >>= _) = _
      rw [ran]
      rfl
    rw [Option.none_or]
    cases later? with
    | some failure =>
      intro issues
      obtain ⟨value, middle, ran⟩ := passes issues
      exact ran.trans (goesOn value middle)
    | none =>
      intro issues
      obtain ⟨value, middle, ran⟩ := passes issues
      obtain ⟨result, later, rest⟩ := goesOn value middle
      exact ⟨result, later, ran.trans rest⟩

theorem take (outcome : FieldReading α) : EndedBy (Reading.take outcome) (failureOf outcome) := by
  cases outcome with
  | ok value => exact fun issues => ⟨some value, issues, rfl⟩
  | error obstacle =>
    cases obstacle with
    | complaint issue => exact fun issues => ⟨none, issues ++ [issue], rfl⟩
    | failure failure => exact fun issues => rfl

theorem after
    {first : Reading α}
    {next : α -> Reading β}
    {later? : Option Failure}
    (starts : EndedBy first none)
    (goesOn : forall value, EndedBy (next value) later?) :
    EndedBy (first >>= next) later? :=
  starts.bind goesOn

variable
  {name : String}
  {read : String -> Value -> FieldReading α}
  {fields : Table Value}

theorem optional
    {failure? : Value -> Option Failure}
    (fails : forall value, failureOf (read name value) = failure? value)
    (fallback : α) :
    EndedBy (Reading.optional fields name fallback read)
      ((fields.get? name).bind failure?) := by
  rw [Reading.optional]
  cases fields.get? name with
  | none => exact take (.ok fallback)
  | some value =>
    rw [Option.bind_some, <- fails]
    exact take (read name value)

theorem unfailing
    (passes : forall value, failureOf (read name value) = none)
    (fallback : α) :
    EndedBy (Reading.optional fields name fallback read) none := by
  have ends : EndedBy (Reading.optional fields name fallback read)
      ((fields.get? name).bind (fun _ => none)) := optional passes fallback
  rwa [Option.bind_fun_none] at ends

theorem required (passes : forall value, failureOf (read name value) = none) :
    EndedBy (Reading.required fields name read) none := by
  rw [Reading.required]
  cases fields.get? name with
  | none => exact take (complain (missing name))
  | some value => exact passes value ▸ take (read name value)

end EndedBy

theorem firstFailure?_eq (fields : Table Value) :
    firstFailure? fields = endings.foldr
      (fun ending later? => ((fields.get? ending.1).bind ending.2).or later?) none := by
  rw [firstFailure?]
  induction endings with
  | nil => rfl
  | cons ending rest ih =>
    rw [List.findSome?_cons, List.foldr_cons, <- ih]
    cases (fields.get? ending.1).bind ending.2 <;> rfl

theorem endedBy_readDraft (fields : Table Value) :
    EndedBy (readDraft fields) (firstFailure? fields) := by
  rw [firstFailure?_eq, readDraft]
  -- The fields that cannot end the reading are passed, and the others are met in their order.
  simp only [endings, List.foldr_cons, List.foldr_nil]
  refine .after (.required (failureOf_readText _)) fun bucket => ?_
  refine .after (.unfailing (failureOf_readBasePath _) _) fun basePath => ?_
  refine .after (.unfailing (failureOf_readOptionalText _) _) fun endpointUrl => ?_
  refine .after (.unfailing (failureOf_readOptionalText _) _) fun region => ?_
  refine .bind (.optional (failureOf_readAddressingStyle _) _) fun addressingStyle => ?_
  refine .bind (.optional (failureOf_readSize _) _) fun bufferSize => ?_
  refine .bind (.optional (failureOf_readSize _) _) fun maxFileSize => ?_
  refine .bind (.optional (failureOf_readSize _) _) fun maxMultipartSize => ?_
  refine .bind (.optional (failureOf_readSize _) _) fun minMultipartSize => ?_
  refine .bind (.optional (failureOf_readStorageClass _) _) fun storageClass => ?_
  refine .bind (.optional (failureOf_readCannedAcl _) _) fun cannedAcl => ?_
  refine .after (.unfailing (failureOf_readFlag _) _) fun serverSideEncryption => ?_
  exact .pure _

theorem ofFields_of_fit {fields : Table Value} (fit : Fit fields) :
    (exists config, ofFields fields = .ok config) ∨
      exists issues, ofFields fields = .error (.of (.invalid issues)) := by
  have ended := endedBy_readDraft fields
  rw [fit_iff.mp fit] at ended
  obtain ⟨draft?, issues, ran⟩ := ended []
  have drafted : (readDraft fields).run [] = .ok (draft?, issues) := ran
  rw [ofFields, drafted]
  cases draft? with
  | none => exact .inr ⟨issues, rfl⟩
  | some draft =>
    cases issues with
    | cons issue rest => exact .inr ⟨issue :: rest, rfl⟩
    | nil =>
      cases made : ofDraft draft with
      | ok config =>
        refine .inl ⟨config, ?_⟩
        change (ofDraft draft).mapError _ = _
        rw [made]
        rfl
      | error issue =>
        refine .inr ⟨[issue], ?_⟩
        change (ofDraft draft).mapError _ = _
        rw [made]
        rfl

theorem ofFields_of_failure
    {fields : Table Value}
    {failure : Failure}
    (ends : firstFailure? fields = some failure) :
    ofFields fields = .error failure := by
  have ended := endedBy_readDraft fields
  rw [ends] at ended
  have ran : (readDraft fields).run [] = .error failure := ended []
  rw [ofFields, ran]
  rfl

theorem kind_of_firstFailure?
    {fields : Table Value}
    {failure : Failure}
    (ends : firstFailure? fields = some failure) :
    failure.kind = .type ∨ failure.kind = .unencodable := by
  have unencodable {error : ArgumentError} (fails : unencodable? error = some failure) :
      failure.kind = .unencodable := by
    obtain ⟨_, _, rfl⟩ := Option.map_eq_some_iff.mp fails
    rfl
  have named {refusal : String -> ArgumentError} {value : Value}
      (fails : nameFailure? refusal value = some failure) :
      failure.kind = .type ∨ failure.kind = .unencodable := by
    obtain ⟨text, _, fails⟩ := Option.bind_eq_some_iff.mp fails
    exact .inr (unencodable fails)
  have sized {value : Value} (fails : sizeFailure? value = some failure) :
      failure.kind = .type ∨ failure.kind = .unencodable := by
    rw [sizeFailure?] at fails
    split at fails
    next => cases fails
    next =>
      cases fails
      exact .inl rfl
  obtain ⟨ending, listed, fails⟩ := List.exists_of_findSome?_eq_some ends
  obtain ⟨value, _, fails⟩ := Option.bind_eq_some_iff.mp fails
  simp only [endings, List.mem_cons, List.not_mem_nil, or_false] at listed
  rcases listed with rfl | rfl | rfl | rfl | rfl | rfl | rfl
  · exact named fails
  · exact sized fails
  · exact sized fails
  · exact sized fails
  · exact sized fails
  · exact named fails
  · exact named fails

end Config

namespace Command

theorem readConfig_of_failed
    {surroundings : Surroundings}
    {settings : Settings}
    {shell : Shell}
    {level : Int}
    {failure : Failure}
    (leveled : Log.readLevelName settings.logLevel = .ok level)
    (failed : settings.base surroundings shell.folder = .error failure) :
    (readConfig surroundings settings shell).1 =
      .error (if failure.isA .runtime || failure.isA .value then
          .refused (.configuration failure.message)
        else .failed failure) := by
  have unconfigured : settings.config surroundings shell.folder = .error failure := by
    rw [Settings.config, failed]
    rfl
  rw [readConfig_eq leveled, unconfigured]

end Command

namespace Config

/-- A reading of fields comes to a configuration or to complaints exactly if all values are such
as complaints are made of.  Otherwise the first value that is none of them ends it.  A command line
takes complaints for the user's mistake, and half characters too, but not sizes of a wrong kind.
In all of this a character of `U+FD800` to `U+FDFFF` is the half character it is reserved for. -/
theorem ofFields_ends (fields : Table Value) :
    (Fit fields <->
      (exists config, ofFields fields = .ok config) ∨
        exists issues, ofFields fields = .error (.of (.invalid issues))) ∧
    (forall failure, firstFailure? fields = some failure ->
      ofFields fields = .error failure ∧ (failure.kind = .type ∨ failure.kind = .unencodable)) ∧
    forall (surroundings : Command.Surroundings) (settings : Command.Settings)
      (shell : Command.Shell) (level : Int) (failure : Failure),
      Log.readLevelName settings.logLevel = .ok level ->
      settings.base surroundings shell.folder = ofFields fields ->
      ofFields fields = .error failure ->
      (Command.readConfig surroundings settings shell).1 =
        .error (if failure.kind = .type then .failed failure
          else .refused (.configuration failure.message)) := by
  have ends : forall failure, firstFailure? fields = some failure ->
      ofFields fields = .error failure ∧ (failure.kind = .type ∨ failure.kind = .unencodable) :=
    fun failure first => ⟨ofFields_of_failure first, kind_of_firstFailure? first⟩
  refine ⟨⟨ofFields_of_fit, fun whole => ?_⟩, ends, ?_⟩
  · rw [fit_iff]
    cases first : firstFailure? fields with
    | none => rfl
    | some failure =>
      obtain ⟨ended, kinds⟩ := ends failure first
      rw [ended] at whole
      obtain ⟨config, made⟩ | ⟨issues, refused⟩ := whole
      · cases made
      · cases refused
        rcases kinds with isType | isUnencodable
        · cases isType
        · cases isUnencodable
  · intro surroundings settings shell level failure leveled isBase failed
    rw [Command.readConfig_of_failed leveled (isBase.trans failed)]
    -- Complaints are the user's mistake as well, so one check of the kind tells the ends apart.
    have kinds : failure.kind = .validation ∨ failure.kind = .type ∨
        failure.kind = .unencodable := by
      cases first : firstFailure? fields with
      | some earlier =>
        obtain ⟨ended, kinds⟩ := ends earlier first
        cases ended.symm.trans failed
        exact .inr kinds
      | none =>
        obtain ⟨config, made⟩ | ⟨issues, refused⟩ := ofFields_of_fit (fit_iff.mpr first)
        · cases made.symm.trans failed
        · cases refused.symm.trans failed
          exact .inl rfl
    rw [Failure.isA, Failure.isA]
    rcases kinds with isKind | isKind | isKind <;> rw [isKind] <;> rfl

theorem ofFields_ends_halves :
    let environment : Table String := .ofList [("BLOBSTORE_BUCKET", "b"),
      ("BLOBSTORE_STORAGE_CLASS", String.ofList [Text.ofCodePoint 0xdc80])]
    let fields : Table Value := .ofList (environmentFields environment "b")
    let settings : Command.Settings := {}
    Log.readLevelName settings.logLevel = .ok 30 ∧
      settings.base ⟨environment, false⟩ {} = ofFields fields ∧ ¬ Fit fields ∧
      exists failure, firstFailure? fields = some failure ∧ ofFields fields = .error failure ∧
        failure.kind = .unencodable ∧
        (Command.readConfig ⟨environment, false⟩ settings {}).1 =
          .error (.refused (.configuration failure.message)) := by
  intro environment fields settings
  have leveled : Log.readLevelName "WARNING" = .ok 30 := by rfl
  have isBase : settings.base ⟨environment, false⟩ {} = ofFields fields := rfl
  have isKind : (firstFailure? fields).map Failure.kind = some .unencodable := by decide +kernel
  obtain ⟨failure, first, kind⟩ := Option.map_eq_some_iff.mp isKind
  obtain ⟨fits, ends, runs⟩ := ofFields_ends fields
  have failed := (ends failure first).1
  have refused := runs ⟨environment, false⟩ settings {} 30 failure leveled isBase failed
  rw [kind, if_neg (by decide)] at refused
  have unfit : ¬ Fit fields := fun fit => by
    rw [fit_iff.mp fit] at first
    cases first
  exact ⟨leveled, isBase, unfit, failure, first, failed, kind, refused⟩

end Config

/-- A size with a fraction is none, and the storage class that is half a character is unknown, but
neither is complained of.  The command line of a document with the size ends as for a mistake in
the program. -/
theorem Command.unfit_values_unreported :
    let sized : Table Value :=
      .ofList [("bucket", .text "b"), ("buffer_size", .real (.finite false 3 (-1)))]
    let named : Table Value := .ofList [("bucket", .text "b"),
      ("storage_class", .text (String.ofList [Text.ofCodePoint 0xd800]))]
    let folder : Folder :=
      ⟨.ofList [("c", .file (.bytes (Text.encode "bucket: b\nbuffer_size: 1.5\n")))]⟩
    (match Config.ofFields sized with
      | .ok _ => none
      | .error failure => some (failure.kind, failure.message)) =
        some (.type, "expected string or bytes-like object, got 'float'") ∧
      (match Config.ofFields named with
        | .ok _ => none
        | .error failure => some failure.kind) = some .unencodable ∧
      (match (run {} ["--config", "c", "ls"] { folder := folder }).1 with
        | .failed failure => some failure.kind
        | _ => none) = some .type := by
  decide +kernel

end BlobDepot
