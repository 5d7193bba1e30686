set_option autoImplicit false

namespace BlobDepot

/-- Bytes, or a stretch of content that is known by its length and place only. -/
inductive Body where
  | bytes (content : List UInt8)
  | virtual (length offset : Nat)
  deriving Repr, DecidableEq, Inhabited

namespace Body

def length : Body -> Nat
  | .bytes content => content.length
  | .virtual length _ => length

def take (count : Nat) : Body -> Body
  | .bytes content => .bytes (content.take count)
  | .virtual length offset => .virtual (min count length) offset

def drop (count : Nat) : Body -> Body
  | .bytes content => .bytes (content.drop count)
  | .virtual length offset => .virtual (length - count) (offset + count)

def content? : Body -> Option (List UInt8)
  | .bytes content => some content
  | .virtual .. => none

/-- Bodies one after the other; a stretch without bytes makes the whole one. -/
def join (bodies : List Body) : Body :=
  match bodies.mapM content? with
  | some contents => .bytes contents.flatten
  | none => .virtual (bodies.foldl (fun total body => total + body.length) 0) 0

@[simp]
theorem length_take (count : Nat) (body : Body) :
    (body.take count).length = min count body.length := by
  cases body <;> simp [take, length]

@[simp]
theorem length_drop (count : Nat) (body : Body) :
    (body.drop count).length = body.length - count := by
  cases body <;> simp [drop, length]

end Body

end BlobDepot
