import BlobDepot.Failure
import BlobDepot.Text.LetterCase

set_option autoImplicit false

namespace BlobDepot.Log

/-- The names of levels; of two names for one level the first is the one that is shown. -/
def levelNames : List (String × Int) :=
  [("CRITICAL", 50), ("FATAL", 50), ("ERROR", 40), ("WARNING", 30), ("WARN", 30), ("INFO", 20),
    ("DEBUG", 10), ("NOTSET", 0)]

def warningLevel : Int :=
  30

def levelOfName? (name : String) : Option Int :=
  (levelNames.find? (fun entry => entry.1 == Text.upper name)).map Prod.snd

def readLevelName (name : String) : Except Failure Int :=
  match levelOfName? name with
  | some level => .ok level
  | none => .error (.of (.argument (.logLevel name)))

def readLevel : Value -> Except Failure Int
  | .text name => readLevelName name
  | value => value.toInteger.mapError (fun error => .of (.shape error))

structure Level where
  number : Int
  shown : String
  deriving Repr, DecidableEq

namespace Level

def ofNumber (number : Int) (written : String) : Level :=
  match levelNames.find? (fun entry => entry.2 == number) with
  | some (name, _) => ⟨number, Text.lower name⟩
  | none => ⟨number, "level " ++ Text.lower written⟩

def ofValue : Value -> Except Failure Level
  | .int number => .ok (ofNumber number (toString number))
  | .bool flag => .ok (ofNumber (if flag then 1 else 0) (Value.bool flag).quoted)
  | _ => .error (.of (.wrongType "level must be an integer"))

end Level

inductive Word where
  | debug
  | info
  | warning
  | error
  | exception
  | critical
  | fatal
  deriving Repr, DecidableEq

namespace Word

def name : Word -> String
  | .debug => "debug"
  | .info => "info"
  | .warning => "warning"
  | .error => "error"
  | .exception => "exception"
  | .critical => "critical"
  | .fatal => "fatal"

def all : List Word :=
  [debug, info, warning, error, exception, critical, fatal]

def ofName (name : String) : Except Failure Word :=
  match all.find? (fun word => word.name == if name = "warn" then "warning" else name) with
  | some word => .ok word
  | none => .error (.of (.shape (.noMember "BoundLogger" name)))

def level (word : Word) : Level :=
  let number : Int :=
    match word with
    | .debug => 10
    | .info => 20
    | .warning => 30
    | .error | .exception => 40
    | .critical | .fatal => 50
  .ofNumber number (toString number)

end Word

end BlobDepot.Log
