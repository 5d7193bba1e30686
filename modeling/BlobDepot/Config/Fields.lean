import BlobDepot.Config
import BlobDepot.Failure
import BlobDepot.Size
import BlobDepot.Table
import BlobDepot.Text.Encoding

/-!
# Reading configurations

`Config.ofFields` reads a configuration from named values.  Every field is read by itself, in a
fixed order, and all complaints are collected; whether the sizes go together is looked at only
when there is none.  Not everything that is wrong with a field can be a complaint: a size of a
kind that no text pattern can be matched with ends the reading at once, and so does a complaint
that has no encoding.
-/

set_option autoImplicit false

namespace BlobDepot

namespace Config

def missing (name : String) : Issue :=
  ⟨"missing", [name], "Field required"⟩

def notText (name : String) : Issue :=
  ⟨"string_type", [name], "Input should be a valid string"⟩

def notUnicode (name : String) : Issue :=
  ⟨"string_unicode", [name],
    "Input should be a valid string, unable to parse raw data as a unicode string"⟩

def unknownFlag (name : String) : Issue :=
  ⟨"bool_parsing", [name], "Input should be a valid boolean, unable to interpret input"⟩

def notFlag (name : String) : Issue :=
  ⟨"bool_type", [name], "Input should be a valid boolean"⟩

/-- What keeps a field from being read: a complaint, or a failure that ends the reading. -/
inductive Obstacle where
  | complaint (issue : Issue)
  | failure (failure : Failure)

def refused (place : List String) (reason : String) : Issue :=
  ⟨"value_error", place, "Value error, " ++ reason⟩

def Obstacle.refusal (name : String) (error : ArgumentError) : Obstacle :=
  match Text.firstHalves? error.message with
  | none => .complaint (refused [name] error.message)
  | some (place, count) =>
      .failure (.of (.unencodable (Text.halvesMessage error.message place count)))

abbrev FieldReading (α : Type) : Type :=
  Except Obstacle α

def complain {α : Type} (issue : Issue) : FieldReading α :=
  .error (.complaint issue)

def readText (name : String) : Value -> FieldReading String
  | .text content => .ok content
  | .bytes content =>
      match String.fromUTF8? ⟨content.toArray⟩ with
      | some text => .ok text
      | none => complain (notUnicode name)
  | _ => complain (notText name)

def readOptionalText (name : String) : Value -> FieldReading (Option String)
  | .null => .ok none
  | value => (readText name value).map some

def nameOr (fallback text : String) : String :=
  Text.strip (if text == "" then fallback else text)

def readBasePath (name : String) (value : Value) : FieldReading String := do
  return Text.trim (· == '/') (<- readText name value)

def readAddressingStyle (name : String) (value : Value) : FieldReading AddressingStyle := do
  let text <- readText name value
  match AddressingStyle.ofName? (Text.lower (Text.strip text)) with
  | some style => return style
  | none => throw (.refusal name (.addressingStyle text))

def readStorageClass (name : String) (value : Value) : FieldReading StorageClass := do
  let text <- readText name value
  let wanted := Text.upper (nameOr StorageClass.standard.name text)
  if Limits.unsupportedStorageClasses.contains wanted then
    throw (.refusal name (.unsupportedStorageClass wanted))
  match StorageClass.ofName? wanted with
  | some storageClass => return storageClass
  | none => throw (.refusal name (.unknownStorageClass text))

def readCannedAcl (name : String) (value : Value) : FieldReading CannedAcl := do
  let text <- readText name value
  match CannedAcl.ofName? (Text.lower (nameOr CannedAcl.onlyOwner.name text)) with
  | some acl => return acl
  | none => throw (.refusal name (.unknownCannedAcl text))

def flagWord? (text : String) : Option Bool :=
  let word := Text.lowerBasic text
  if ["0", "off", "f", "false", "n", "no"].contains word then some false
  else if ["1", "on", "t", "true", "y", "yes"].contains word then some true
  else none

def flagOfNumber (name : String) (inRange : Bool) (number : Int) : FieldReading Bool :=
  if !inRange then complain (notFlag name)
  else if number = 0 then .ok false
  else if number = 1 then .ok true
  else complain (unknownFlag name)

def wordEnd : Int :=
  Nat.pow 2 63

/-- Read a flag.  Whole numbers have to be signed 64-bit words; of floating point numbers the
least such word is not one of them. -/
def readFlag (name : String) : Value -> FieldReading Bool
  | .bool flag => .ok flag
  | .int number => flagOfNumber name (-wordEnd <= number && number < wordEnd) number
  | .real number =>
      match number.whole? with
      | some whole => flagOfNumber name (-wordEnd < whole && whole < wordEnd) whole
      | none => complain (notFlag name)
  | .text content =>
      if (Text.firstHalves? content).isSome then
        complain (notUnicode name)
      else
        match flagWord? content with
        | some flag => .ok flag
        | none => complain (unknownFlag name)
  | .bytes content =>
      match (String.fromUTF8? ⟨content.toArray⟩).bind flagWord? with
      | some flag => .ok flag
      | none => complain (unknownFlag name)
  | _ => complain (notFlag name)

def sizeNumber : Value -> Int
  | .int number => number
  | .bool true => 1
  | _ => 0

def readSize (name : String) (value : Value) : FieldReading { size : Nat // 0 < size } :=
  match Size.ofValue value with
  | .error (.argument error) => .error (.refusal name error)
  | .error refusal => .error (.failure (.of (.wrongType refusal.message)))
  | .ok size =>
      let number := sizeNumber size
      if positive : 0 < number then .ok ⟨number.toNat, Int.pos_iff_toNat_pos.mp positive⟩
      else .error (.refusal name .sizeNotPositive)

abbrev Reading (α : Type) : Type :=
  StateT (List Issue) (Except Failure) α

namespace Reading

def take {α : Type} (outcome : FieldReading α) : Reading (Option α) :=
  fun issues =>
    match outcome with
    | .ok value => .ok (some value, issues)
    | .error (.complaint issue) => .ok (none, issues ++ [issue])
    | .error (.failure failure) => .error failure

def required {α : Type}
    (fields : Table Value)
    (name : String)
    (read : String -> Value -> FieldReading α) : Reading (Option α) :=
  match fields.get? name with
  | some value => take (read name value)
  | none => take (complain (missing name))

def optional {α : Type}
    (fields : Table Value)
    (name : String)
    (fallback : α)
    (read : String -> Value -> FieldReading α) : Reading (Option α) :=
  match fields.get? name with
  | some value => take (read name value)
  | none => take (.ok fallback)

end Reading

def readDraft (fields : Table Value) : Reading (Option ConfigDraft) := do
  let bucket <- Reading.required fields "bucket" readText
  let basePath <- Reading.optional fields "base_path" "" readBasePath
  let endpointUrl <- Reading.optional fields "endpoint_url" none readOptionalText
  let region <- Reading.optional fields "region" none readOptionalText
  let addressingStyle <- Reading.optional fields "addressing_style" .path readAddressingStyle
  let bufferSize <- Reading.optional fields "buffer_size"
    ⟨Limits.defaultBufferSize, Limits.defaultBufferSize_pos⟩ readSize
  let maxFileSize <- Reading.optional fields "max_file_size"
    ⟨Limits.maxFileSize, Limits.maxFileSize_pos⟩ readSize
  let maxMultipartSize <- Reading.optional fields "max_multipart_size"
    ⟨Limits.maxMultipartSize, Limits.maxMultipartSize_pos⟩ readSize
  let minMultipartSize <- Reading.optional fields "min_multipart_size"
    ⟨Limits.minPartSize, Limits.minPartSize_pos⟩ readSize
  let storageClass <- Reading.optional fields "storage_class" .standard readStorageClass
  let cannedAcl <- Reading.optional fields "canned_acl" .onlyOwner readCannedAcl
  let serverSideEncryption <- Reading.optional fields "server_side_encryption" false readFlag
  return do
    let bufferSize <- bufferSize
    let maxFileSize <- maxFileSize
    let maxMultipartSize <- maxMultipartSize
    let minMultipartSize <- minMultipartSize
    return {
      bucket := <- bucket
      basePath := <- basePath
      endpointUrl := <- endpointUrl
      region := <- region
      addressingStyle := <- addressingStyle
      bufferSize := bufferSize.val
      maxFileSize := maxFileSize.val
      maxMultipartSize := maxMultipartSize.val
      minMultipartSize := minMultipartSize.val
      storageClass := <- storageClass
      cannedAcl := <- cannedAcl
      serverSideEncryption := <- serverSideEncryption
      bufferSize_pos := bufferSize.property
      maxFileSize_pos := maxFileSize.property
      maxMultipartSize_pos := maxMultipartSize.property
      minMultipartSize_pos := minMultipartSize.property }

/-- The complaint that the sizes do not go together.  It quotes them, which is refused for
numbers beyond the digit limit. -/
def rangeIssue (draft : ConfigDraft) : Issue :=
  let sizes := [draft.bufferSize, draft.minMultipartSize, draft.maxFileSize]
  match sizes.mapM (fun size : Nat => Number.writeInteger size) with
  | .ok _ =>
      refused []
        (ArgumentError.bufferRange draft.bufferSize draft.minMultipartSize
          draft.maxFileSize).message
  | .error error => refused [] error.message

def ofDraft (draft : ConfigDraft) : Except Issue Config :=
  if ordered : draft.minMultipartSize <= draft.bufferSize
      ∧ draft.bufferSize <= draft.maxFileSize then
    .ok { draft with
      minMultipartSize_le := ordered.1
      bufferSize_le := ordered.2 }
  else
    .error (rangeIssue draft)

def ofFields (fields : Table Value) : Except Failure Config := do
  match <- (readDraft fields).run [] with
  | (some draft, []) => (ofDraft draft).mapError (fun issue => .of (.invalid [issue]))
  | (_, issues) => throw (.of (.invalid issues))

def override (config : Config) (changes : List (String × Value)) : Except Failure Config :=
  ofFields ((Table.ofList config.fields).update (Table.ofList changes))

end Config

end BlobDepot
