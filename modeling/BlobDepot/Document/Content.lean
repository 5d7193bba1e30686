import BlobDepot.Document.Meaning
import BlobDepot.Document.Node

/-!
# From nodes to values

What the nodes of a document stand for.  The work goes in rounds.  A scalar gets its value as
soon as it is met; a collection waits for the next round, in which its members are met in turn.
So the first fault in this order is the one that is reported, and a collection may contain itself.
When nothing waits, the values of the collections are put together.

A mapping may take over the entries of others under a merge key; its own entries come later and
win.  Keys may not be collections.
-/

set_option autoImplicit false

namespace BlobDepot.Document

def nodeAt (nodes : Nodes) (number : Nat) : Node :=
  nodes.getD number ⟨.nothing, .scalar ""⟩

def entriesAt (nodes : Nodes) (number : Nat) : List (Nat × Nat) :=
  match (nodeAt nodes number).form with
  | .mapping entries => entries
  | _ => []

def setEntries (nodes : Nodes) (number : Nat) (entries : List (Nat × Nat)) : Nodes :=
  nodes.modify number (fun node => { node with form := .mapping entries })

/-- The text of a node that stands for a scalar: its own, or that of the default entry of a
mapping.  A mapping that is its own default has none. -/
def textFrom (nodes : Nodes) : Nat -> Nat -> Parsed String
  | 0, _ =>
      .error (.raised (.other "RecursionError") [.text "maximum recursion depth exceeded"] .null
        .null)
  | steps + 1, number =>
      match (nodeAt nodes number).form with
      | .scalar text => .ok text
      | .sequence _ => malformed
      | .mapping entries =>
          match entries.find? (fun entry => (nodeAt nodes entry.1).tag == .default) with
          | some (_, value) => textFrom nodes steps value
          | none => malformed

def valueAt (nodes : Nodes) (number : Nat) : Parsed Value := do
  let node := nodeAt nodes number
  match node.tag with
  | .merge | .default | .unknown => malformed
  | tag =>
      let text <- textFrom nodes (nodes.size + 1) number
      match tag, node.form with
      | .moment, .mapping _ =>
          .error (.wrongType "expected string or bytes-like object, got 'list'")
      | _, _ => valueOfScalar tag text

def takeMerge (nodes : Nodes) : List (Nat × Nat) -> Option (Nat × List (Nat × Nat))
  | [] => none
  | (key, value) :: rest =>
      if (nodeAt nodes key).tag == .merge then some (value, rest)
      else (takeMerge nodes rest).map (fun (found, others) => (found, (key, value) :: others))

def nameDefaults (nodes : Nodes) (entries : List (Nat × Nat)) : Nodes :=
  entries.foldl (fun nodes entry =>
    nodes.modify entry.1 (fun node =>
      if node.tag == .default then { node with tag := .text } else node)) nodes

/-- Replace the merge keys of a mapping by the entries that they take over, which come first.
Of several mappings under one key, the entries of the first come last.  Every step removes a
merge key. -/
def flattenFrom :
    Nat -> Nat -> List (Nat × Nat) -> Nodes -> Parsed Nodes
  | 0, _, _, nodes => .ok nodes
  | steps + 1, number, taken, nodes =>
      match takeMerge nodes (entriesAt nodes number) with
      | none =>
          let entries := taken ++ entriesAt nodes number
          .ok (nameDefaults (setEntries nodes number entries) entries)
      | some (source, others) => do
          let nodes := setEntries nodes number others
          let sources <-
            match (nodeAt nodes source).form with
            | .mapping _ => pure [source]
            | .sequence items => pure items
            | .scalar _ => malformed
          let (added, nodes) <- sources.foldlM
            (fun (state : List (Nat × Nat) × Nodes) source => do
              match (nodeAt state.2 source).form with
              | .mapping _ =>
                  let nodes <- flattenFrom steps source [] state.2
                  return (entriesAt nodes source ++ state.1, nodes)
              | _ => malformed)
            ([], nodes)
          flattenFrom steps number (taken ++ added) nodes

def mergeCount (nodes : Nodes) : Nat :=
  nodes.foldl (fun count node =>
    match node.form with
    | .mapping entries =>
        count + entries.countP (fun entry => (nodeAt nodes entry.1).tag == .merge)
    | _ => count) 0

def flatten (number : Nat) (nodes : Nodes) : Parsed Nodes :=
  flattenFrom (mergeCount nodes + 1) number [] nodes

inductive Content where
  | value (value : Value)
  | list (items : List Nat)
  | pairs (items : List (Nat × Nat))
  | map (entries : List (Nat × Nat))
  | set (items : List Nat)

/-- The nodes of a document, what is known of those that were met, and the collections whose
members were not met yet, the last one first. -/
structure Survey where
  nodes : Nodes
  contents : Array (Option Content)
  waiting : List Nat := []

namespace Survey

def note (survey : Survey) (number : Nat) (content : Content) : Survey :=
  { survey with contents := survey.contents.setIfInBounds number (some content) }

def visit (survey : Survey) (number : Nat) : Parsed Survey :=
  match survey.contents.getD number none with
  | some _ => .ok survey
  | none =>
      if (nodeAt survey.nodes number).tag.isCollection then
        .ok { survey.note number (.list []) with waiting := number :: survey.waiting }
      else do
        return survey.note number (.value (<- valueAt survey.nodes number))

def visitEntry (survey : Survey) (entry : Nat × Nat) : Parsed Survey := do
  let survey <- survey.visit entry.1
  if (nodeAt survey.nodes entry.1).tag.isCollection then malformed
  else survey.visit entry.2

def visitPair (state : List (Nat × Nat) × Survey) (number : Nat) :
    Parsed (List (Nat × Nat) × Survey) := do
  match (nodeAt state.2.nodes number).form with
  | .mapping [(key, value)] =>
      let survey <- state.2.visit key
      return (state.1 ++ [(key, value)], <- survey.visit value)
  | _ => malformed

def expand (survey : Survey) (number : Nat) : Parsed Survey := do
  let node := nodeAt survey.nodes number
  match node.tag, node.form with
  | .list, .sequence items =>
      return (<- items.foldlM visit survey).note number (.list items)
  | .pairs, .sequence items =>
      let (pairs, survey) <- items.foldlM visitPair ([], survey)
      return survey.note number (.pairs pairs)
  | .map, .mapping _ =>
      let (entries, survey) <- entries survey
      return survey.note number (.map entries)
  | .set, .mapping _ =>
      let (entries, survey) <- entries survey
      return survey.note number (.set (entries.map Prod.fst))
  | _, _ => malformed
where
  entries (survey : Survey) : Parsed (List (Nat × Nat) × Survey) := do
    let nodes <- flatten number survey.nodes
    let entries := entriesAt nodes number
    return (entries, <- entries.foldlM visitEntry { survey with nodes := nodes })

def settle : Nat -> Survey -> Parsed Survey
  | 0, survey => .ok survey
  | rounds + 1, survey =>
      if survey.waiting.isEmpty then .ok survey
      else do
        settle rounds
          (<- survey.waiting.reverse.foldlM expand { survey with waiting := [] })

end Survey

/-- The values of the nodes that are put together already.  A collection in itself counts as an
empty one. -/
abbrev Values : Type :=
  Array (Option Value)

def assemble (contents : Array (Option Content)) : Nat -> Nat -> StateM Values Value
  | 0, _ => return .null
  | depth + 1, number => do
      match (<- get).getD number none, contents.getD number none with
      | some value, _ => return value
      | none, none => return .null
      | none, some content => do
          let remember (value : Value) : StateM Values PUnit :=
            modify (fun values => values.setIfInBounds number (some value))
          let pair (entry : Nat × Nat) : StateM Values (Value × Value) := do
            return (<- assemble contents depth entry.1, <- assemble contents depth entry.2)
          let value <-
            match content with
            | .value value => pure value
            | .list items => do
                remember (.list [])
                pure (.list (<- items.mapM (assemble contents depth)))
            | .pairs items => do
                remember (.list [])
                pure (.list ((<- items.mapM pair).map (fun (key, value) => .list [key, value])))
            | .map entries => do
                remember (.map [])
                pure (.map (<- entries.mapM pair))
            | .set items => do
                remember (.set [])
                pure (.set (<- items.mapM (assemble contents depth)))
          remember value
          return value

def Tree.value (tree : Tree) : Parsed Value := do
  let size := tree.nodes.size
  let survey <-
    Survey.visit { nodes := tree.nodes, contents := Array.replicate size none } tree.root
  let survey <- survey.settle (size + 1)
  return ((assemble survey.contents (size + 1) tree.root).run (Array.replicate size none)).1

end BlobDepot.Document
