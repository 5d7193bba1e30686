import BlobDepot.Document.Plain
import BlobDepot.Document.Token
import BlobDepot.Table

set_option autoImplicit false

namespace BlobDepot.Document

/-- What a node looks like; other nodes stand in it by their numbers. -/
inductive NodeForm where
  | scalar (text : String)
  | sequence (items : List Nat)
  | mapping (entries : List (Nat × Nat))
  deriving Repr, Inhabited

structure Node where
  tag : Tag
  form : NodeForm
  deriving Repr, Inhabited

abbrev Nodes : Type :=
  Array Node

structure Reader where
  tokens : Tokens
  nodes : Nodes := #[]
  anchors : Table Nat := .empty
  handles : Table String := .empty

namespace Reader

def head (reader : Reader) : Parsed (Option Token) :=
  match reader.tokens.list, reader.tokens.problem with
  | token :: _, _ => .ok (some token)
  | [], none => .ok none
  | [], some problem => .error problem

def next (reader : Reader) : Reader :=
  { reader with tokens := { reader.tokens with list := reader.tokens.list.tail } }

def atAny (reader : Reader) (tokens : List Token) : Parsed Bool := do
  return (<- reader.head).any tokens.contains

def accept (reader : Reader) (token : Token) : Parsed (Bool × Reader) := do
  if <- reader.atAny [token] then return (true, reader.next) else return (false, reader)

def bindName (reader : Reader) (name : Option String) (number : Nat) : Reader :=
  match name with
  | none => reader
  | some name => { reader with anchors := reader.anchors.set name number }

def add (reader : Reader) (tag : Tag) (form : NodeForm) : Nat × Reader :=
  (reader.nodes.size, { reader with nodes := reader.nodes.push ⟨tag, form⟩ })

def fill (reader : Reader) (number : Nat) (tag : Tag) (form : NodeForm) : Reader :=
  { reader with nodes := reader.nodes.setIfInBounds number ⟨tag, form⟩ }

def addAbsent (reader : Reader) : Nat × Reader :=
  reader.add .nothing (.scalar "")

end Reader

structure Properties where
  anchor : Option String := none
  tag : Option String := none

def readAnchor (reader : Reader) : Parsed (Option String × Reader) := do
  match <- reader.head with
  | some (.anchor name) => return (some name, reader.next)
  | _ => return (none, reader)

def readTagToken (reader : Reader) : Parsed (Option (Option String × String) × Reader) := do
  match <- reader.head with
  | some (.tag handle suffix) => return (some (handle, suffix), reader.next)
  | _ => return (none, reader)

def resolveTag (reader : Reader) (handle : Option String) (suffix : String) : Parsed String :=
  match handle with
  | none => .ok suffix
  | some handle =>
      match reader.handles.get? handle with
      | some meaning => .ok (meaning ++ suffix)
      | none => malformed

def readProperties (reader : Reader) : Parsed (Properties × Reader) := do
  let (before, reader) <- readAnchor reader
  let (tag, reader) <- readTagToken reader
  let (anchor, reader) <-
    if before.isNone && tag.isSome then readAnchor reader else pure (before, reader)
  match tag with
  | none => return ({ anchor := anchor }, reader)
  | some (handle, suffix) =>
      return ({ anchor := anchor, tag := some (<- resolveTag reader handle suffix) }, reader)

def collectionTag (properties : Properties) (own : Tag) : Tag :=
  match properties.tag with
  | none | some "!" => own
  | some name => .ofName name

/-- The tag of a scalar.  The lone exclamation mark makes a quoted text count as a plain one. -/
def scalarTag (properties : Properties) (isPlain : Bool) (text : String) : Tag :=
  match properties.tag with
  | none => if isPlain then .ofPlain text else .text
  | some "!" => .ofPlain text
  | some name => .ofName name

/-- Where a node stands: in a block, as the value of a mapping in a block, whose items need not
be indented, or between brackets. -/
inductive Place where
  | block
  | blockValue
  | flow
  deriving Repr, DecidableEq

def absentNode (properties : Properties) (reader : Reader) : Parsed (Nat × Reader) :=
  if properties.anchor.isSome || properties.tag.isSome then
    let (number, reader) := reader.add (scalarTag properties true "") (.scalar "")
    .ok (number, reader.bindName properties.anchor number)
  else
    malformed

def readComma (first : Bool) (reader : Reader) : Parsed Reader := do
  if first then
    return reader
  else
    let (found, reader) <- reader.accept .flowEntry
    if found then return reader else malformed

mutual

def readNode : Nat -> Place -> Reader -> Parsed (Nat × Reader)
  | 0, _, _ => malformed
  | depth + 1, place, reader => do
      match <- reader.head with
      | some (.alias name) =>
          match reader.anchors.get? name with
          | some number => return (number, reader.next)
          | none => malformed
      | _ =>
          let (properties, reader) <- readProperties reader
          let named := properties.anchor
          let token <- reader.head
          if named.any reader.anchors.contains then
            malformed
          else
            let sequence (read : Reader -> Parsed (List Nat × Reader)) (reader : Reader) :
                Parsed (Nat × Reader) := do
              let tag := collectionTag properties .list
              let (number, reader) := reader.add tag (.sequence [])
              let (items, reader) <- read (reader.bindName named number)
              return (number, reader.fill number tag (.sequence items))
            let mapping (read : Reader -> Parsed (List (Nat × Nat) × Reader))
                (reader : Reader) : Parsed (Nat × Reader) := do
              let tag := collectionTag properties .map
              let (number, reader) := reader.add tag (.mapping [])
              let (entries, reader) <- read (reader.bindName named number)
              return (number, reader.fill number tag (.mapping entries))
            let inBlock := place != .flow
            match token with
            | some .blockEntry =>
                if place == .blockValue then
                  sequence (readLooseItems depth) reader
                else
                  absentNode properties reader
            | some (.scalar text isPlain) =>
                let (number, reader) :=
                  reader.add (scalarTag properties isPlain text) (.scalar text)
                return (number, reader.next.bindName named number)
            | some .flowSequenceStart => sequence (readFlowItems depth true) reader.next
            | some .flowMappingStart => mapping (readFlowEntries depth true) reader.next
            | some .blockSequenceStart =>
                if inBlock then sequence (readBlockItems depth) reader.next
                else absentNode properties reader
            | some .blockMappingStart =>
                if inBlock then mapping (readBlockEntries depth) reader.next
                else absentNode properties reader
            | _ => absentNode properties reader

def readUnless :
    Nat -> Place -> List Token -> Reader -> Parsed (Nat × Reader)
  | 0, _, _, _ => malformed
  | depth + 1, place, ends, reader => do
      if <- reader.atAny ends then return reader.addAbsent else readNode depth place reader

def readBlockItems : Nat -> Reader -> Parsed (List Nat × Reader)
  | 0, _ => malformed
  | depth + 1, reader => do
      match <- reader.head with
      | some .blockEntry =>
          let (item, reader) <-
            readUnless depth .block [.blockEntry, .blockEnd] reader.next
          let (others, reader) <- readBlockItems depth reader
          return (item :: others, reader)
      | some .blockEnd => return ([], reader.next)
      | _ => malformed

def readLooseItems : Nat -> Reader -> Parsed (List Nat × Reader)
  | 0, _ => malformed
  | depth + 1, reader => do
      match <- reader.head with
      | some .blockEntry =>
          let (item, reader) <-
            readUnless depth .block [.blockEntry, .key, .value, .blockEnd] reader.next
          let (others, reader) <- readLooseItems depth reader
          return (item :: others, reader)
      | _ => return ([], reader)

def readBlockEntries : Nat -> Reader -> Parsed (List (Nat × Nat) × Reader)
  | 0, _ => malformed
  | depth + 1, reader => do
      let ends := [Token.key, .value, .blockEnd]
      match <- reader.head with
      | some .key =>
          let (key, reader) <- readUnless depth .blockValue ends reader.next
          let (value, reader) <- readValue depth .blockValue ends reader
          let (others, reader) <- readBlockEntries depth reader
          return ((key, value) :: others, reader)
      | some .blockEnd => return ([], reader.next)
      | _ => malformed

def readValue :
    Nat -> Place -> List Token -> Reader -> Parsed (Nat × Reader)
  | 0, _, _, _ => malformed
  | depth + 1, place, ends, reader => do
      let (found, reader) <- reader.accept .value
      if found then readUnless depth place ends reader else return reader.addAbsent

/-- Read the items between brackets.  An item with a colon in it is a mapping of one entry. -/
def readFlowItems : Nat -> Bool -> Reader -> Parsed (List Nat × Reader)
  | 0, _, _ => malformed
  | depth + 1, first, reader => do
      let (finished, reader) <- reader.accept .flowSequenceEnd
      if finished then
        return ([], reader)
      else
        let reader <- readComma first reader
        match <- reader.head with
        | some .key =>
            let ends := [Token.flowEntry, .flowSequenceEnd]
            let (item, reader) := reader.next.add .map (.mapping [])
            let (key, reader) <- readUnless depth .flow (.value :: ends) reader
            let (value, reader) <- readValue depth .flow ends reader
            let reader := reader.fill item .map (.mapping [(key, value)])
            let (others, reader) <- readFlowItems depth false reader
            return (item :: others, reader)
        | some .flowSequenceEnd => return ([], reader.next)
        | _ =>
            let (item, reader) <- readNode depth .flow reader
            let (others, reader) <- readFlowItems depth false reader
            return (item :: others, reader)

def readFlowEntries : Nat -> Bool -> Reader -> Parsed (List (Nat × Nat) × Reader)
  | 0, _, _ => malformed
  | depth + 1, first, reader => do
      let (finished, reader) <- reader.accept .flowMappingEnd
      if finished then
        return ([], reader)
      else
        let reader <- readComma first reader
        match <- reader.head with
        | some .key =>
            let ends := [Token.flowEntry, .flowMappingEnd]
            let (key, reader) <- readUnless depth .flow (.value :: ends) reader.next
            let (value, reader) <- readValue depth .flow ends reader
            let (others, reader) <- readFlowEntries depth false reader
            return ((key, value) :: others, reader)
        | some .flowMappingEnd => return ([], reader.next)
        | _ =>
            let (key, reader) <- readNode depth .flow reader
            let (value, reader) := reader.addAbsent
            let (others, reader) <- readFlowEntries depth false reader
            return ((key, value) :: others, reader)

end

def commonHandles : List (String × String) :=
  [("!", "!"), ("!!", "tag:yaml.org,2002:")]

def withCommon (handles : Table String) : Table String :=
  (Table.ofList commonHandles).update handles

def readDirectives : Nat -> Bool -> Reader -> Parsed Reader
  | 0, _, _ => malformed
  | limit + 1, versioned, reader => do
      match <- reader.head with
      | some (.directive (.version major _)) =>
          if versioned || major != 1 then malformed else readDirectives limit true reader.next
      | some (.directive (.handle name meaning)) =>
          if reader.handles.contains name then malformed
          else
            let handles := reader.handles.set name meaning
            readDirectives limit versioned { reader.next with handles := handles }
      | some (.directive .other) => readDirectives limit versioned reader.next
      | _ => return { reader with handles := withCommon reader.handles }

def skipEnds : Nat -> Reader -> Parsed Reader
  | 0, reader => .ok reader
  | limit + 1, reader => do
      let (found, reader) <- reader.accept .documentEnd
      if found then skipEnds limit reader else return reader

/-- A bound for the number of steps that it takes to read what is left. -/
def Reader.steps (reader : Reader) : Nat :=
  4 * reader.tokens.list.length + 4

def readContent (reader : Reader) : Parsed (Nat × Reader) := do
  match <- reader.head with
  | none | some (.directive _) | some .documentStart | some .documentEnd =>
      return reader.addAbsent
  | _ => readNode reader.steps .block reader

def readMarked (reader : Reader) : Parsed (Nat × Reader) := do
  let reader <- readDirectives reader.steps false reader
  let (found, reader) <- reader.accept .documentStart
  if found then readContent reader else malformed

structure Tree where
  nodes : Nodes
  root : Nat

def Tree.ofTokens (tokens : Tokens) : Parsed (Option Tree) := do
  let reader : Reader := { tokens := tokens }
  let marked :=
    match <- reader.head with
    | none | some (.directive _) | some .documentStart => true
    | _ => false
  if marked then
    match <- reader.head with
    | none => return none
    | _ => finished (<- readMarked reader)
  else
    finished (<- readNode reader.steps .block { reader with handles := .ofList commonHandles })
where
  finished (read : Nat × Reader) : Parsed (Option Tree) := do
    let reader <- skipEnds read.2.steps read.2
    match <- reader.head with
    | none => return some ⟨reader.nodes, read.1⟩
    | some _ => do
        let _ <- readDirectives reader.steps false { reader with handles := .empty }
        malformed

end BlobDepot.Document
