import BlobDepot.Document.Scalar
import BlobDepot.Document.Token

set_option autoImplicit false

namespace BlobDepot.Document

/-- A place where a key may have begun: how many tokens were read before it, and where it is. -/
structure KeyPlace where
  position : Nat
  required : Bool
  index : Nat
  line : Nat
  column : Nat

/-- The state of the lexer.  The tokens are in reverse order, and the places where keys may have
begun are known by the depth of brackets. -/
structure Lexer where
  cursor : Cursor
  indent : Int := -1
  indents : List Int := []
  depth : Nat := 0
  keyAllowed : Bool := true
  keyPlaces : List (Nat × KeyPlace) := []
  tokens : List Token := []
  count : Nat := 0

namespace Lexer

def inFlow (lexer : Lexer) : Bool :=
  lexer.depth != 0

def push (lexer : Lexer) (token : Token) : Lexer :=
  { lexer with tokens := token :: lexer.tokens, count := lexer.count + 1 }

def insert (lexer : Lexer) (position : Nat) (token : Token) : Lexer :=
  let later := lexer.count - position
  { lexer with
    tokens := lexer.tokens.take later ++ token :: lexer.tokens.drop later
    count := lexer.count + 1 }

def pushMark (lexer : Lexer) (length : Nat) (token : Token) : Lexer :=
  { lexer.push token with cursor := lexer.cursor.advance length }

def keyPlace? (lexer : Lexer) : Option KeyPlace :=
  lexer.keyPlaces.lookup lexer.depth

def forgetKey (lexer : Lexer) : Lexer :=
  { lexer with keyPlaces := lexer.keyPlaces.filter (fun place => place.1 != lexer.depth) }

def dropKey (lexer : Lexer) : Parsed Lexer :=
  match lexer.keyPlace? with
  | none => .ok lexer
  | some place => if place.required then malformed else .ok lexer.forgetKey

def noteKey (lexer : Lexer) : Parsed Lexer := do
  if lexer.keyAllowed then
    let cursor := lexer.cursor
    let place : KeyPlace :=
      { position := lexer.count
        required := !lexer.inFlow && lexer.indent == (cursor.column : Int)
        index := cursor.index
        line := cursor.line
        column := cursor.column }
    let lexer <- lexer.dropKey
    return { lexer with keyPlaces := (lexer.depth, place) :: lexer.keyPlaces }
  else
    return lexer

/-- Forget the possible keys that ended long ago: a key is on one line and not too long. -/
def dropStaleKeys (lexer : Lexer) : Parsed Lexer :=
  let stale (place : KeyPlace) : Bool :=
    place.line != lexer.cursor.line || lexer.cursor.index - place.index > 1024
  if lexer.keyPlaces.any (fun place => stale place.2 && place.2.required) then
    malformed
  else
    .ok { lexer with keyPlaces := lexer.keyPlaces.filter (fun place => !stale place.2) }

def closeIndents (column : Int) : List Int -> Lexer -> Lexer
  | [], lexer => lexer
  | outer :: rest, lexer =>
      if lexer.indent > column then
        closeIndents column rest { lexer.push .blockEnd with indent := outer, indents := rest }
      else
        lexer

def unwind (lexer : Lexer) (column : Int) : Lexer :=
  if lexer.inFlow then lexer else closeIndents column lexer.indents lexer

def addIndent (lexer : Lexer) (column : Nat) (place : Lexer -> Lexer) : Lexer :=
  if lexer.indent < (column : Int) then
    { place lexer with indent := column, indents := lexer.indent :: lexer.indents }
  else
    lexer

def skipToToken : Nat -> Lexer -> Lexer
  | 0, lexer => lexer
  | limit + 1, lexer =>
      let cursor := lexer.cursor.skipSpaces.skipComment
      if isBreak cursor.peek then
        skipToToken limit
          { lexer with
            cursor := cursor.lineBreak.2
            keyAllowed := lexer.keyAllowed || !lexer.inFlow }
      else
        { lexer with cursor := cursor }

def skipOrderMark (lexer : Lexer) : Lexer :=
  if lexer.cursor.index == 0 && lexer.cursor.peek == '\ufeff' then
    { lexer with cursor := lexer.cursor.step }
  else
    lexer

def leaveAll (lexer : Lexer) : Parsed Lexer := do
  let lexer <- (lexer.unwind (-1)).dropKey
  return { lexer with keyAllowed := false }

def readVersionNumber (cursor : Cursor) : Parsed (Nat × Cursor) :=
  let (digits, cursor) := cursor.takeWhile Text.isBasicDigit
  if digits.isEmpty then malformed
  else
    match Number.ofDigitChars digits with
    | .ok number => .ok (number, cursor)
    | .error error => .error (.argument (.literal error))

def readUriBytes : Nat -> Cursor -> Parsed (List UInt8 × Cursor)
  | 0, cursor => .ok ([], cursor)
  | limit + 1, cursor =>
      if cursor.peek == '%' then
        match hexNumber? ((cursor.rest.drop 1).take 2) with
        | some byte =>
            if cursor.look 2 == finish then malformed
            else do
              let (others, cursor) <- readUriBytes limit (cursor.advance 3)
              return (UInt8.ofNat byte :: others, cursor)
        | none => malformed
      else
        .ok ([], cursor)

def isTagChar (c : Char) : Bool :=
  isNameChar c || c == Text.apostrophe || ";/?:@&=+$,.!~*()[]".toList.contains c

def readTagText : Nat -> Cursor -> Parsed (List Char × Cursor)
  | 0, cursor => .ok ([], cursor)
  | limit + 1, cursor => do
      if cursor.peek == '%' then
        let (bytes, cursor) <- readUriBytes (cursor.rest.length + 1) cursor
        match String.fromUTF8? ⟨bytes.toArray⟩ with
        | none => malformed
        | some text =>
            let (others, cursor) <- readTagText limit cursor
            return (text.toList ++ others, cursor)
      else if isTagChar cursor.peek then
        let (others, next) <- readTagText limit cursor.step
        return (cursor.peek :: others, next)
      else
        return ([], cursor)

def readTagSuffix (cursor : Cursor) : Parsed (String × Cursor) := do
  let start := cursor.peek
  if start == '%' || isTagChar start then
    let (text, cursor) <- readTagText (cursor.rest.length + 1) cursor
    return (String.ofList text, cursor)
  else
    malformed

def readHandle (cursor : Cursor) : Parsed (String × Cursor) :=
  if cursor.peek != '!' then
    malformed
  else if cursor.look 1 == ' ' then
    .ok ("!", cursor.step)
  else
    let name := (cursor.rest.drop 1).takeWhile isNameChar
    if cursor.look (name.length + 1) == '!' then
      .ok (String.ofList ('!' :: name ++ ['!']), cursor.advance (name.length + 2))
    else
      malformed

def readDirective (cursor : Cursor) : Parsed (Directive × Cursor) := do
  let (name, cursor) := cursor.step.takeWhile isNameChar
  if name.isEmpty || !endsWord cursor.peek then
    malformed
  else if name == "YAML".toList then
    let (major, cursor) <- readVersionNumber cursor.skipSpaces
    if cursor.peek != '.' then
      malformed
    else
      let (minor, cursor) <- readVersionNumber cursor.step
      if endsWord cursor.peek then
        return (.version major minor, <- cursor.skipRestOfLine)
      else
        malformed
  else if name == "TAG".toList then
    let (handle, cursor) <- readHandle cursor.skipSpaces
    if cursor.peek != ' ' then
      malformed
    else
      let (meaning, cursor) <- readTagSuffix cursor.skipSpaces
      if endsWord cursor.peek then
        return (.handle handle meaning, <- cursor.skipRestOfLine)
      else
        malformed
  else
    return (.other, <- (cursor.skipWhile (fun c => !endsLine c)).skipRestOfLine)

def readName (cursor : Cursor) : Parsed (String × Cursor) :=
  let (name, cursor) := cursor.step.takeWhile isNameChar
  let c := cursor.peek
  let ended :=
    isSpacing c || ['?', ':', ',', ']', '\x7d', '%', '@', Char.ofNat 96].contains c
  if name.isEmpty || !ended then malformed else .ok (String.ofList name, cursor)

def readTag (cursor : Cursor) : Parsed (Token × Cursor) := do
  let (token, cursor) <-
    if cursor.look 1 == '<' then do
      let (suffix, cursor) <- readTagSuffix (cursor.advance 2)
      if cursor.peek == '>' then
        pure (Token.tag none suffix, cursor.step)
      else
        malformed
    else if isSpacing (cursor.look 1) then
      pure (Token.tag none "!", cursor.step)
    else do
      let word := (cursor.rest.drop 1).takeWhile (fun c => !endsWord c)
      let (handle, cursor) <-
        if word.contains '!' then readHandle cursor else pure ("!", cursor.step)
      let (suffix, cursor) <- readTagSuffix cursor
      pure (Token.tag (some handle) suffix, cursor)
  if endsWord cursor.peek then return (token, cursor) else malformed

def openFlow (lexer : Lexer) (token : Token) : Parsed Lexer := do
  let lexer <- lexer.noteKey
  return { lexer.pushMark 1 token with depth := lexer.depth + 1, keyAllowed := true }

def closeFlow (lexer : Lexer) (token : Token) : Parsed Lexer := do
  let lexer <- lexer.dropKey
  return { lexer.pushMark 1 token with depth := lexer.depth - 1, keyAllowed := false }

def flowEntry (lexer : Lexer) : Parsed Lexer := do
  let lexer <- lexer.dropKey
  return { lexer.pushMark 1 .flowEntry with keyAllowed := true }

def blockEntry (lexer : Lexer) : Parsed Lexer := do
  if !lexer.inFlow && !lexer.keyAllowed then
    malformed
  else
    let lexer :=
      if lexer.inFlow then lexer
      else lexer.addIndent lexer.cursor.column (fun lexer => lexer.push .blockSequenceStart)
    let lexer <- lexer.dropKey
    return { lexer.pushMark 1 .blockEntry with keyAllowed := true }

def startMapping (lexer : Lexer) : Lexer :=
  if lexer.inFlow then lexer
  else lexer.addIndent lexer.cursor.column (fun lexer => lexer.push .blockMappingStart)

def key (lexer : Lexer) : Parsed Lexer := do
  if !lexer.inFlow && !lexer.keyAllowed then
    malformed
  else
    let lexer <- lexer.startMapping.dropKey
    return { lexer.pushMark 1 .key with keyAllowed := !lexer.inFlow }

def value (lexer : Lexer) : Parsed Lexer := do
  match lexer.keyPlace? with
  | some place =>
      let lexer := lexer.forgetKey.insert place.position .key
      let lexer :=
        if lexer.inFlow then lexer
        else
          lexer.addIndent place.column (fun lexer =>
            lexer.insert place.position .blockMappingStart)
      return { lexer.pushMark 1 .value with keyAllowed := false }
  | none =>
      if !lexer.inFlow && !lexer.keyAllowed then
        malformed
      else
        let lexer <- lexer.startMapping.dropKey
        return { lexer.pushMark 1 .value with keyAllowed := !lexer.inFlow }

def word (lexer : Lexer) (read : Cursor -> Parsed (Token × Cursor)) : Parsed Lexer := do
  let lexer <- lexer.noteKey
  let (token, cursor) <- read lexer.cursor
  return { lexer.push token with cursor := cursor, keyAllowed := false }

def block (lexer : Lexer) (folded : Bool) : Parsed Lexer := do
  let lexer <- lexer.dropKey
  let (text, cursor) <- readBlock folded lexer.indent lexer.cursor
  return { lexer.push (.scalar text false) with cursor := cursor, keyAllowed := true }

def plain (lexer : Lexer) : Parsed Lexer := do
  let lexer <- lexer.noteKey
  let (text, broken, cursor) := readPlain lexer.inFlow (lexer.indent + 1) lexer.cursor
  return { lexer.push (.scalar text true) with cursor := cursor, keyAllowed := broken }

def startsPlain (lexer : Lexer) : Bool :=
  let c := lexer.cursor.peek
  let indicators := "-?:,[]#&*!|>%@".toList
  let special :=
    isSpacing c || indicators.contains c
      || [Text.apostrophe, Text.doubleQuote, '\x7b', '\x7d', Char.ofNat 96].contains c
  !special
    || (!isSpacing (lexer.cursor.look 1)
        && (c == '-' || (!lexer.inFlow && (c == '?' || c == ':'))))

def fetch (lexer : Lexer) : Parsed Lexer :=
  let cursor := lexer.cursor
  let c := cursor.peek
  let alone := isSpacing (cursor.look 1)
  if c == '%' && cursor.column == 0 then do
    let lexer <- lexer.leaveAll
    let (directive, cursor) <- readDirective lexer.cursor
    return { lexer.push (.directive directive) with cursor := cursor }
  else if cursor.column == 0 && cursor.atMarker '-' then do
    return (<- lexer.leaveAll).pushMark 3 .documentStart
  else if cursor.column == 0 && cursor.atMarker '.' then do
    return (<- lexer.leaveAll).pushMark 3 .documentEnd
  else if c == '[' then lexer.openFlow .flowSequenceStart
  else if c == '\x7b' then lexer.openFlow .flowMappingStart
  else if c == ']' then lexer.closeFlow .flowSequenceEnd
  else if c == '\x7d' then lexer.closeFlow .flowMappingEnd
  else if c == ',' then lexer.flowEntry
  else if c == '-' && alone then lexer.blockEntry
  else if c == '?' && (lexer.inFlow || alone) then lexer.key
  else if c == ':' && (lexer.inFlow || alone) then lexer.value
  else if c == '*' then
    lexer.word (fun cursor => (readName cursor).map (fun read => (.alias read.1, read.2)))
  else if c == '&' then
    lexer.word (fun cursor => (readName cursor).map (fun read => (.anchor read.1, read.2)))
  else if c == '!' then lexer.word readTag
  else if c == '|' && !lexer.inFlow then lexer.block false
  else if c == '>' && !lexer.inFlow then lexer.block true
  else if c == Text.apostrophe || c == Text.doubleQuote then
    lexer.word (fun cursor =>
      (readQuoted (c == Text.doubleQuote) cursor).map (fun read =>
        (.scalar read.1 false, read.2)))
  else if lexer.startsPlain then lexer.plain
  else malformed

def seek (lexer : Lexer) : Parsed (Bool × Lexer) := do
  let lexer := skipToToken (lexer.cursor.rest.length + 1) lexer.skipOrderMark
  let lexer <- lexer.dropStaleKeys
  let lexer := lexer.unwind lexer.cursor.column
  if lexer.cursor.peek == finish then
    return (false, <- (lexer.unwind (-1)).dropKey)
  else
    return (true, lexer)

/-- The tokens of which it is known what they are: those before the first one that may still turn
out to be a key. -/
def settled (lexer : Lexer) : List Token :=
  let cursor := lexer.cursor
  let open? (place : KeyPlace) : Bool :=
    place.line == cursor.line && cursor.index - place.index <= 1024
  let places := (lexer.keyPlaces.map Prod.snd).filter open?
  lexer.tokens.reverse.take
    (places.foldl (fun least place => min least place.position) lexer.count)

/-- Read the tokens that are left, up to a place behind which the text cannot be read for some
problem.  Every token takes at least one character. -/
def run (unreadable : Option Problem) : Nat -> Lexer -> Tokens
  | 0, lexer => ⟨lexer.settled, some .malformedDocument⟩
  | limit + 1, lexer =>
      match lexer.seek with
      | .error problem => ⟨lexer.settled, some problem⟩
      | .ok (false, last) =>
          match unreadable with
          | none => ⟨last.tokens.reverse, none⟩
          | some problem => ⟨lexer.settled, some problem⟩
      | .ok (true, found) =>
          match found.fetch with
          | .error problem => ⟨lexer.settled, some problem⟩
          | .ok next => run unreadable limit next

end Lexer

def Tokens.scan (text : List Char) (unreadable : Option Problem) : Tokens :=
  Lexer.run unreadable (text.length + 1) { cursor := { rest := text } }

end BlobDepot.Document
