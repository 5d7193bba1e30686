import BlobDepot.Failure

set_option autoImplicit false

namespace BlobDepot.Document

structure Cursor where
  rest : List Char
  index : Nat := 0
  line : Nat := 0
  column : Nat := 0

abbrev Parsed (α : Type) : Type :=
  Except Problem α

def malformed {α : Type} : Parsed α :=
  .error .malformedDocument

def finish : Char :=
  Char.ofNat 0

def isBreak (c : Char) : Bool :=
  c == '\n' || c == '\r' || c == '\u0085' || c == '\u2028' || c == '\u2029'

def endsLine (c : Char) : Bool :=
  c == finish || isBreak c

def endsWord (c : Char) : Bool :=
  c == ' ' || endsLine c

def isSpacing (c : Char) : Bool :=
  c == '\t' || endsWord c

def isNameChar (c : Char) : Bool :=
  (c.isAlphanum && c.toNat < 128) || c == '-' || c == '_'

namespace Cursor

def look (cursor : Cursor) (distance : Nat) : Char :=
  (cursor.rest.drop distance).headD finish

def peek (cursor : Cursor) : Char :=
  cursor.look 0

/-- Go over one character.  A byte order mark takes no column. -/
def step (cursor : Cursor) : Cursor :=
  match cursor.rest with
  | [] => cursor
  | c :: rest =>
      let next := { cursor with rest := rest, index := cursor.index + 1 }
      if isBreak c && !(c == '\r' && rest.head? == some '\n') then
        { next with line := cursor.line + 1, column := 0 }
      else if c == '\ufeff' then
        next
      else
        { next with column := cursor.column + 1 }

def advance : Nat -> Cursor -> Cursor
  | 0, cursor => cursor
  | count + 1, cursor => advance count cursor.step

def takeWhile (cursor : Cursor) (wanted : Char -> Bool) : List Char × Cursor :=
  let run := cursor.rest.takeWhile wanted
  (run, cursor.advance run.length)

def skipWhile (cursor : Cursor) (wanted : Char -> Bool) : Cursor :=
  (cursor.takeWhile wanted).2

def skipSpaces (cursor : Cursor) : Cursor :=
  cursor.skipWhile (· == ' ')

def skipComment (cursor : Cursor) : Cursor :=
  if cursor.peek == '#' then cursor.skipWhile (fun c => !endsLine c) else cursor

/-- Take the end of a line, which counts as one line feed unless it is a separator. -/
def lineBreak (cursor : Cursor) : List Char × Cursor :=
  let c := cursor.peek
  if c == '\r' && cursor.look 1 == '\n' then (['\n'], cursor.advance 2)
  else if c == '\u2028' || c == '\u2029' then ([c], cursor.step)
  else if isBreak c then (['\n'], cursor.step)
  else ([], cursor)

def atMarker (cursor : Cursor) (mark : Char) : Bool :=
  cursor.rest.take 3 == [mark, mark, mark] && isSpacing (cursor.look 3)

def atSeparator (cursor : Cursor) : Bool :=
  cursor.atMarker '-' || cursor.atMarker '.'

def skipRestOfLine (cursor : Cursor) : Parsed Cursor :=
  let cursor := cursor.skipSpaces.skipComment
  if endsLine cursor.peek then .ok cursor.lineBreak.2 else malformed

end Cursor

end BlobDepot.Document
