import BlobDepot.Command.Usage
import BlobDepot.Table
import BlobDepot.Text.Pieces

set_option autoImplicit false

namespace BlobDepot.Command

structure OptionForm where
  name : String
  takesValue : Bool
  deriving Repr, DecidableEq

def helpOption : OptionForm :=
  ⟨"--help", false⟩

structure Words where
  values : Table String := .empty
  help : Bool := false
  others : List String := []
  deriving Repr

namespace Words

def append (words : Words) (others : List String) : Words :=
  { words with others := words.others ++ others }

def set (words : Words) (name value : String) : Words :=
  { words with values := words.values.set name value }

end Words

def isOption (word : String) : Bool :=
  match word.toList with
  | '-' :: _ :: _ => true
  | _ => false

def splitOption (word : String) : String × Option String :=
  match Text.pieces '=' word.toList with
  | first :: second :: rest =>
      (String.ofList first, some (String.ofList (List.intercalate ['='] (second :: rest))))
  | _ => (word, none)

/-- The complaint that an option is not known.  One with a single dash is named by its first
letter only. -/
def unknownOption (forms : List OptionForm) (word : String) : UsageError :=
  match word.toList with
  | '-' :: '-' :: _ =>
      let name := (splitOption word).1
      .unknownOption name (Text.similarWords name (forms.map OptionForm.name))
  | chars => .unknownOption (String.ofList (chars.take 2)) []

def readWords
    (forms : List OptionForm)
    (mixed : Bool) : Words -> List String -> Except UsageError Words
  | done, [] => .ok done
  | done, word :: rest =>
      if word = "--" then .ok (done.append rest)
      else if isOption word then
        let (name, attached) := splitOption word
        match forms.find? (fun form => form.name == name) with
        | none => .error (unknownOption forms word)
        | some form =>
            if form.takesValue then
              match attached, rest with
              | some value, rest => readWords forms mixed (done.set name value) rest
              | none, value :: rest => readWords forms mixed (done.set name value) rest
              | none, [] => .error (.valueMissing name)
            else if attached.isSome then .error (.valueUnwanted name)
            else readWords forms mixed { done with help := true } rest
      else if mixed then readWords forms mixed (done.append [word]) rest
      else .ok (done.append (word :: rest))

end BlobDepot.Command
