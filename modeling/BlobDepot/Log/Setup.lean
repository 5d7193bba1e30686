import BlobDepot.Log.Entry
import BlobDepot.Text.Pieces

set_option autoImplicit false

namespace BlobDepot.Log

def backendLoggers : List String :=
  ["botocore", "boto3", "urllib3", "s3transfer"]

def release : String :=
  "0.1.0"

def defaultServiceName : String :=
  "blobstore"

inductive Format where
  | bare
  | console
  | record
  deriving Repr, DecidableEq

structure Setup where
  rootLevel : Int := warningLevel
  backendLevel : Int := 0
  format : Format := .bare
  deriving Repr, DecidableEq

def isBackend (logger : String) : Bool :=
  match Text.pieces '.' logger.toList with
  | first :: _ => backendLoggers.contains (String.ofList first)
  | [] => false

namespace Setup

def parameters : List String :=
  ["level", "json_output", "quiet_backend"]

/-- Set logging up by name.  The loggers of the backend keep their level unless they are to be
quiet. -/
def configure (setup : Setup) (given : Table Value) : Except Failure Setup := do
  match given.names.find? (fun name => !parameters.contains name) with
  | some name =>
      throw (.of (.wrongType
        ("configure_logging() got an unexpected keyword argument '" ++ name ++ "'")))
  | none =>
      let isSet (name : String) : Bool := (given.get? name).all Value.isTruthy
      let level <- readLevel ((given.get? "level").getD (.text "INFO"))
      return {
        rootLevel := level
        backendLevel :=
          if isSet "quiet_backend" then max level warningLevel else setup.backendLevel
        format := if isSet "json_output" then .record else .console }

def levelOf (setup : Setup) (logger : String) : Int :=
  if isBackend logger && setup.backendLevel != 0 then setup.backendLevel else setup.rootLevel

def admits (setup : Setup) (entry : Entry) : Bool :=
  let level := entry.level.number
  decide (0 < level) && decide (setup.levelOf entry.logger <= level)
    && !(setup.format == .bare && (isBackend entry.logger || level < warningLevel))

def lines (setup : Setup) (entry : Entry) (bare : List Line) : List Line :=
  if !setup.admits entry then []
  else
    match setup.format with
    | .record => [.record entry.said.entries]
    | .console => Line.ofText entry.text
    | .bare => bare

def bareLines (word : Word) (entry : Entry) : List Line :=
  .text (Value.ofFields entry.said.entries).quoted
    :: (if word = .exception then [.text "NoneType: None"] else [])

def reservedField? (word : Word) (fields : Table Value) : Option Problem :=
  let complaint (method name : String) : Problem :=
    .wrongType
      ("BoundLogger." ++ method ++ "() got multiple values for argument '" ++ name ++ "'")
  match fields.names.find? ["self", "event"].contains with
  | some name => some (complaint word.name name)
  | none =>
      if fields.contains "method_name" then some (complaint "_proxy_to_logger" "method_name")
      else none

def directives : List String :=
  ["positional_args", "exc_info", "stack_info"]

def wrappings : List String :=
  ["_record", "_from_structlog"]

def filledEvent (event : Value) (kind : String) (supply : Template.Supply) : Except Problem Value :=
  match event with
  | .text template =>
      match Template.fillFrom template supply with
      | .ok filled => .ok (.text filled)
      | .error error => .error (.template error)
  | .null => .error (.shape (.missingKey "event"))
  | other =>
      .error (.wrongType
        ("unsupported operand type(s) for %=: '" ++ other.kindName ++ "' and '" ++ kind ++ "'"))

def eventOf (event : Value) (arguments : List Value) (fields : Table Value) :
    Except Problem Value :=
  match arguments, fields.get? "positional_args" with
  | [.map (first :: rest)], _ => filledEvent event "dict" (.ofArguments [.map (first :: rest)])
  | argument :: others, _ => filledEvent event "tuple" (.ofArguments (argument :: others))
  | [], some given =>
      if given.isTruthy then
        match Template.Supply.ofSequence given with
        | .ok supply => filledEvent event given.kindName supply
        | .error error => .error (.template error)
      else .ok event
  | [], none => .ok event

/-- Log an event of one's own.  Its fields win over those of the service and these over those of
the context.  The event is a template for the arguments, which is filled in any case. -/
def emit
    (setup : Setup)
    (serviceName : String)
    (context : Table Value)
    (word : Word)
    (entry : Entry)
    (arguments : List Value) : Except Failure (List Line) := do
  match reservedField? word entry.fields with
  | some problem => throw (.of problem)
  | none =>
      let service := Table.ofList [("service_name", .text serviceName), ("version", .text release)]
      let fields := (context.update service).update entry.fields
      match fields.get? "_record" with
      | none | some .null =>
          let event <- (eventOf entry.event arguments fields).mapError Failure.of
          let entry :=
            { entry with
              event := event
              level := word.level
              fields := fields.eraseAll (directives ++ wrappings) }
          return setup.lines entry (bareLines word entry)
      | some other => throw (.of (.shape (.noMember other.kindName "name")))

def foreign
    (setup : Setup)
    (context : Table Value)
    (entry : Entry)
    (arguments : List Value) : List Line :=
  match Template.fill entry.event.plain arguments with
  | .ok event =>
      let entry :=
        { entry with event := .text event, fields := context.eraseAll wrappings }
      setup.lines entry (Line.ofText event)
  | .error _ => []

end Setup

end BlobDepot.Log
