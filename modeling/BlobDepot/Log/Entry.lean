import BlobDepot.Log.Level
import BlobDepot.Table
import BlobDepot.Text.Lines

set_option autoImplicit false

namespace BlobDepot.Log

inductive Line where
  | record (fields : List (String × Value))
  | text (content : String)
  deriving Repr

def Line.ofText (content : String) : List Line :=
  (Text.lines (content ++ "\n")).map .text

structure Entry where
  logger : String
  level : Level
  event : Value
  fields : Table Value := .empty
  deriving Repr

namespace Entry

def said (entry : Entry) : Table Value :=
  let about :=
    Table.ofList
      [("event", entry.event),
        ("level", .text entry.level.shown),
        ("logger", .text (if entry.logger = "" then "root" else entry.logger))]
  let named := (entry.fields.erase "timestamp").update about
  ⟨named.entries.filter (fun field => !field.2.isNull)⟩

def needsQuotes (text : String) : Bool :=
  let special := [' ', '\t', '\r', '\n', '=', Text.doubleQuote, Text.apostrophe]
  text.toList.any special.contains

def shownValue : Value -> String
  | .text text => if needsQuotes text then Text.quote text else text
  | value => value.quoted

def part (text : String) : String :=
  text ++ "\x1b[0m"

def leading : List String :=
  ["level", "event", "logger", "logger_name"]

def trailing : List String :=
  ["stack", "exception", "exc_info"]

def text (entry : Entry) : String :=
  let said := entry.said
  let plainOf (name : String) : String := ((said.get? name).map Value.plain).getD ""
  let others := (said.eraseAll (leading ++ trailing)).entries
  let parts :=
    (leading.filter said.contains).map (fun name => part (plainOf name))
      ++ others.map (fun field => part field.1 ++ "=" ++ part (shownValue field.2))
  let failed := said.contains "exception" || ((said.get? "exc_info").any Value.isTruthy)
  let stack :=
    if said.contains "stack" then
      "\n" ++ plainOf "stack"
        ++ (if failed then "\n\n" ++ String.ofList (List.replicate 79 '=') ++ "\n" else "")
    else ""
  let failure := if said.contains "exception" then "\n" ++ plainOf "exception" else ""
  " ".intercalate parts ++ stack ++ failure

end Entry

end BlobDepot.Log
