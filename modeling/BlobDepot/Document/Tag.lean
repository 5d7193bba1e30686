set_option autoImplicit false

namespace BlobDepot.Document

/-- What kind of value a node stands for.  Two kinds are for keys only: one that takes over the
entries of other mappings, and one that gives the value which a mapping has as a scalar. -/
inductive Tag where
  | nothing
  | flag
  | whole
  | real
  | moment
  | bytes
  | text
  | list
  | pairs
  | map
  | set
  | merge
  | default
  | unknown
  deriving Repr, DecidableEq, Inhabited

namespace Tag

def ofName : String -> Tag
  | "tag:yaml.org,2002:null" => .nothing
  | "tag:yaml.org,2002:bool" => .flag
  | "tag:yaml.org,2002:int" => .whole
  | "tag:yaml.org,2002:float" => .real
  | "tag:yaml.org,2002:timestamp" => .moment
  | "tag:yaml.org,2002:binary" => .bytes
  | "tag:yaml.org,2002:str" => .text
  | "tag:yaml.org,2002:seq" => .list
  | "tag:yaml.org,2002:omap" => .pairs
  | "tag:yaml.org,2002:pairs" => .pairs
  | "tag:yaml.org,2002:map" => .map
  | "tag:yaml.org,2002:set" => .set
  | "tag:yaml.org,2002:merge" => .merge
  | "tag:yaml.org,2002:value" => .default
  | _ => .unknown

def isCollection (tag : Tag) : Bool :=
  [Tag.list, .pairs, .map, .set].contains tag

end Tag

end BlobDepot.Document
