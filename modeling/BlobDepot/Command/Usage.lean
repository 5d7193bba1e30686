import BlobDepot.Text.Quoted
import BlobDepot.Text.Similar

set_option autoImplicit false

namespace BlobDepot.Command

inductive UsageError where
  | commandMissing
  | unknownCommand (name : String) (similar : List String)
  | unknownOption (name : String) (similar : List String)
  | valueMissing (option : String)
  | valueUnwanted (option : String)
  | argumentMissing (parameter : String)
  | argumentsLeft (arguments : List String)
  | fileMissing (parameter path : String)
  | fileIsDirectory (parameter path : String)
  | configuration (reason : String)
  deriving Repr, DecidableEq

def suggestion : List String -> String
  | [] => ""
  | [word] => " Did you mean " ++ Text.quote word ++ "?"
  | words => " (Did you mean one of: " ++ ", ".intercalate (words.map Text.quote) ++ "?)"

def UsageError.message : UsageError -> String
  | .commandMissing => "Missing command."
  | .unknownCommand name similar =>
      "No such command " ++ Text.quote name ++ "." ++ suggestion similar
  | .unknownOption name similar =>
      "No such option " ++ Text.quote name ++ "." ++ suggestion similar
  | .valueMissing option => "Option " ++ Text.quote option ++ " requires an argument."
  | .valueUnwanted option => "Option " ++ Text.quote option ++ " does not take a value."
  | .argumentMissing parameter => "Missing argument '" ++ parameter ++ "'."
  | .argumentsLeft arguments =>
      "Got unexpected extra argument" ++ (if arguments.length = 1 then "" else "s") ++ " ("
        ++ " ".intercalate arguments ++ ")"
  | .fileMissing parameter path =>
      "Invalid value for '" ++ parameter ++ "': File " ++ Text.quote path ++ " does not exist."
  | .fileIsDirectory parameter path =>
      "Invalid value for '" ++ parameter ++ "': File " ++ Text.quote path ++ " is a directory."
  | .configuration reason => reason

end BlobDepot.Command
