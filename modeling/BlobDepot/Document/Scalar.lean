import BlobDepot.Document.Cursor

set_option autoImplicit false

namespace BlobDepot.Document

def readBreaks (indent : Nat) : Nat -> Cursor -> List Char × Cursor
  | 0, cursor => ([], cursor)
  | limit + 1, cursor =>
      let spaces := cursor.rest.takeWhile (· == ' ')
      let cursor := cursor.advance (min spaces.length (indent - cursor.column))
      if isBreak cursor.peek then
        let (first, cursor) := cursor.lineBreak
        let (others, cursor) := readBreaks indent limit cursor
        (first ++ others, cursor)
      else
        ([], cursor)

def readIndentation (deepest : Nat) : Nat -> Cursor -> List Char × Nat × Cursor
  | 0, cursor => ([], deepest, cursor)
  | limit + 1, cursor =>
      if cursor.peek == ' ' then
        let cursor := cursor.step
        readIndentation (max deepest cursor.column) limit cursor
      else if isBreak cursor.peek then
        let (first, cursor) := cursor.lineBreak
        let (others, deepest, cursor) := readIndentation deepest limit cursor
        (first ++ others, deepest, cursor)
      else
        ([], deepest, cursor)

inductive Chomping where
  | keep
  | clip
  | strip
  deriving Repr, DecidableEq

def chomping? (c : Char) : Option Chomping :=
  if c == '+' then some .keep else if c == '-' then some .strip else none

def readIncrement (cursor : Cursor) : Parsed (Option Nat × Cursor) :=
  let c := cursor.peek
  if Text.isBasicDigit c then
    if c == '0' then malformed else .ok (some (c.toNat - 48), cursor.step)
  else
    .ok (none, cursor)

def readBlockHeader (cursor : Cursor) : Parsed (Chomping × Option Nat × Cursor) := do
  let (chomping, increment, cursor) <-
    match chomping? cursor.peek with
    | some chomping => do
        let (increment, cursor) <- readIncrement cursor.step
        pure (chomping, increment, cursor)
    | none => do
        let (increment, cursor) <- readIncrement cursor
        match increment, chomping? cursor.peek with
        | some _, some chomping => pure (chomping, increment, cursor.step)
        | _, _ => pure (.clip, increment, cursor)
  if endsWord cursor.peek then
    return (chomping, increment, <- cursor.skipRestOfLine)
  else
    malformed

def foldedBreak (lineBreak breaks : List Char) : List Char :=
  if lineBreak == ['\n'] then (if breaks.isEmpty then [' '] else []) else lineBreak

/-- Read the lines of a block.  The breaks are those in front of the next line; lines that begin
with a space or a tab are not folded. -/
def readBlockLines
    (folded : Bool)
    (chomping : Chomping)
    (indent : Nat) : Nat -> List Char -> Cursor -> List Char × Cursor
  | 0, _, cursor => ([], cursor)
  | limit + 1, breaks, cursor =>
      let (line, cursor) := cursor.takeWhile (fun c => !endsLine c)
      let (lineBreak, cursor) := cursor.lineBreak
      let (later, cursor) := readBreaks indent (cursor.rest.length + 1) cursor
      if cursor.column == indent && cursor.peek != finish then
        let spaced (c : Char) : Bool := c == ' ' || c == '\t'
        let joint :=
          if folded && !line.head?.any spaced && !spaced cursor.peek then
            foldedBreak lineBreak later
          else lineBreak
        let (others, cursor) := readBlockLines folded chomping indent limit later cursor
        (breaks ++ line ++ joint ++ others, cursor)
      else
        let tail :=
          match chomping with
          | .keep => lineBreak ++ later
          | .clip => lineBreak
          | .strip => []
        (breaks ++ line ++ tail, cursor)

def readBlock (folded : Bool) (outer : Int) (cursor : Cursor) : Parsed (String × Cursor) := do
  let (chomping, increment, cursor) <- readBlockHeader cursor.step
  let least := max 1 (outer + 1).toNat
  let limit := cursor.rest.length + 1
  let (indent, breaks, cursor) :=
    match increment with
    | none =>
        let (breaks, deepest, cursor) := readIndentation 0 limit cursor
        (max least deepest, breaks, cursor)
    | some increment =>
        let indent := least + increment - 1
        let (breaks, cursor) := readBreaks indent limit cursor
        (indent, breaks, cursor)
  if cursor.column == indent && cursor.peek != finish then
    let (text, cursor) := readBlockLines folded chomping indent limit breaks cursor
    return (String.ofList text, cursor)
  else
    return (String.ofList (if chomping = .keep then breaks else []), cursor)

def escaped? (c : Char) : Option Char :=
  match c with
  | '0' => some finish
  | 'a' => some '\x07'
  | 'b' => some '\x08'
  | 't' => some '\t'
  | '\t' => some '\t'
  | 'n' => some '\n'
  | 'v' => some '\x0b'
  | 'f' => some '\x0c'
  | 'r' => some '\r'
  | 'e' => some '\x1b'
  | 'N' => some '\u0085'
  | '_' => some '\u00a0'
  | 'L' => some '\u2028'
  | 'P' => some '\u2029'
  | c => if [' ', '/', Text.doubleQuote, Text.backslash].contains c then some c else none

def escapeWidth? (c : Char) : Option Nat :=
  match c with
  | 'x' => some 2
  | 'u' => some 4
  | 'U' => some 8
  | _ => none

def hexValue? (c : Char) : Option Nat :=
  if Text.isBasicDigit c then some (c.toNat - 48)
  else if 'a' <= c && c <= 'f' then some (c.toNat - 87)
  else if 'A' <= c && c <= 'F' then some (c.toNat - 55)
  else none

def hexNumber? (digits : List Char) : Option Nat :=
  (digits.mapM hexValue?).map (fun values => values.foldl (fun number value =>
    16 * number + value) 0)

def readCodePoint (width : Nat) (cursor : Cursor) : Parsed (Char × Cursor) :=
  let digits := cursor.rest.take width
  match hexNumber? digits with
  | none => malformed
  | some code =>
      if digits.length < width then malformed
      else if code < 0x110000 then .ok (Text.ofCodePoint code, cursor.advance width)
      else if code < Nat.pow 2 31 then .error (.argument .codePoint)
      else .error (.template (.countTooLarge "int"))

def readQuotedBreaks : Nat -> Cursor -> Parsed (List Char × Cursor)
  | 0, cursor => .ok ([], cursor)
  | limit + 1, cursor =>
      if cursor.atSeparator then
        malformed
      else do
        let cursor := cursor.skipWhile (fun c => c == ' ' || c == '\t')
        if isBreak cursor.peek then
          let (first, cursor) := cursor.lineBreak
          let (others, cursor) <- readQuotedBreaks limit cursor
          return (first ++ others, cursor)
        else
          return ([], cursor)

def fold (lineBreak breaks : List Char) : List Char :=
  if lineBreak == ['\n'] then (if breaks.isEmpty then [' '] else breaks)
  else lineBreak ++ breaks

def readQuotedBlanks (cursor : Cursor) : Parsed (List Char × Cursor) := do
  let (blanks, cursor) := cursor.takeWhile (fun c => c == ' ' || c == '\t')
  if cursor.peek == finish then
    malformed
  else if isBreak cursor.peek then
    let (lineBreak, cursor) := cursor.lineBreak
    let (breaks, cursor) <- readQuotedBreaks (cursor.rest.length + 1) cursor
    return (fold lineBreak breaks, cursor)
  else
    return (blanks, cursor)

def readEscape (cursor : Cursor) : Parsed (List Char × Cursor) := do
  let c := cursor.peek
  match escaped? c, escapeWidth? c with
  | some meant, _ => return ([meant], cursor.step)
  | none, some width =>
      let (meant, cursor) <- readCodePoint width cursor.step
      return ([meant], cursor)
  | none, none =>
      if isBreak c then
        readQuotedBreaks (cursor.rest.length + 1) cursor.lineBreak.2
      else
        malformed

def readQuotedText (double : Bool) : Nat -> Cursor -> Parsed (List Char × Cursor)
  | 0, _ => malformed
  | limit + 1, cursor => do
      let c := cursor.peek
      let quote := if double then Text.doubleQuote else Text.apostrophe
      if !double && c == quote && cursor.look 1 == quote then
        let (others, cursor) <- readQuotedText double limit (cursor.advance 2)
        return (quote :: others, cursor)
      else if c == quote then
        return ([], cursor.step)
      else if double && c == Text.backslash then
        let (meant, cursor) <- readEscape cursor.step
        let (others, cursor) <- readQuotedText double limit cursor
        return (meant ++ others, cursor)
      else if isSpacing c then
        let (blanks, cursor) <- readQuotedBlanks cursor
        let (others, cursor) <- readQuotedText double limit cursor
        return (blanks ++ others, cursor)
      else
        let (others, cursor) <- readQuotedText double limit cursor.step
        return (c :: others, cursor)

def readQuoted (double : Bool) (cursor : Cursor) : Parsed (String × Cursor) := do
  let (text, cursor) <- readQuotedText double (cursor.rest.length + 1) cursor.step
  return (String.ofList text, cursor)

/-- The first characters of a plain text: those before a blank, a value indicator or, inside
brackets, an indicator of a collection. -/
def plainRun (inFlow : Bool) : List Char -> List Char
  | [] => []
  | c :: rest =>
      let next := rest.headD finish
      let ends :=
        isSpacing c
          || (c == ':' && (isSpacing next
              || (inFlow && [',', '[', ']', '\x7b', '\x7d'].contains next)))
          || (inFlow && [',', '?', '[', ']', '\x7b', '\x7d'].contains c)
      if ends then [] else c :: plainRun inFlow rest

def readPlainBreaks : Nat -> Cursor -> Option (List Char) × Cursor
  | 0, cursor => (some [], cursor)
  | limit + 1, cursor =>
      if cursor.peek == ' ' then
        readPlainBreaks limit cursor.step
      else if isBreak cursor.peek then
        let (first, cursor) := cursor.lineBreak
        if cursor.atSeparator then
          (none, cursor)
        else
          let (others, cursor) := readPlainBreaks limit cursor
          (others.map (first ++ ·), cursor)
      else
        (some [], cursor)

structure PlainGap where
  text : Option (List Char)
  broken : Bool

def readPlainGap (cursor : Cursor) : PlainGap × Cursor :=
  let (blanks, cursor) := cursor.takeWhile (· == ' ')
  if isBreak cursor.peek then
    let (lineBreak, cursor) := cursor.lineBreak
    if cursor.atSeparator then
      (⟨none, true⟩, cursor)
    else
      let (breaks, cursor) := readPlainBreaks (cursor.rest.length + 1) cursor
      (⟨breaks.map (fold lineBreak), true⟩, cursor)
  else
    (⟨if blanks.isEmpty then none else some blanks, false⟩, cursor)

/-- Read a plain text within an indentation.  It is also told whether the last piece was followed
by a line break. -/
def readPlainText
    (inFlow : Bool)
    (indent : Int) : Nat -> Cursor -> List Char × Bool × Cursor
  | 0, cursor => ([], false, cursor)
  | limit + 1, cursor =>
      let piece := plainRun inFlow cursor.rest
      let cursor := cursor.advance piece.length
      let (gap, next) := readPlainGap cursor
      match gap.text with
      | none => (piece, gap.broken, next)
      | some between =>
          let outdented := !inFlow && (next.column : Int) < indent
          if next.peek == '#' || outdented || (plainRun inFlow next.rest).isEmpty then
            (piece, gap.broken, next)
          else
            let (others, broken, cursor) := readPlainText inFlow indent limit next
            (piece ++ between ++ others, broken, cursor)

def readPlain (inFlow : Bool) (indent : Int) (cursor : Cursor) : String × Bool × Cursor :=
  let (text, broken, cursor) :=
    readPlainText inFlow indent (cursor.rest.length + 1) cursor
  (String.ofList text, broken, cursor)

end BlobDepot.Document
