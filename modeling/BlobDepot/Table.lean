set_option autoImplicit false

namespace BlobDepot

universe u v

structure Table (α : Type u) where
  entries : List (String × α)
  deriving Repr

namespace Table

variable {α : Type u} {β : Type v}

def empty : Table α :=
  ⟨[]⟩

instance : Inhabited (Table α) :=
  ⟨empty⟩

def lookup (name : String) : List (String × α) -> Option α
  | [] => none
  | (key, value) :: rest => if key = name then some value else lookup name rest

def replace (name : String) (value : α) : List (String × α) -> List (String × α)
  | [] => [(name, value)]
  | (key, old) :: rest =>
      if key = name then (name, value) :: rest else (key, old) :: replace name value rest

def get? (table : Table α) (name : String) : Option α :=
  lookup name table.entries

def contains (table : Table α) (name : String) : Bool :=
  (table.get? name).isSome

def set (table : Table α) (name : String) (value : α) : Table α :=
  ⟨replace name value table.entries⟩

def erase (table : Table α) (name : String) : Table α :=
  ⟨table.entries.filter (fun entry => entry.1 ≠ name)⟩

def eraseAll (table : Table α) (names : List String) : Table α :=
  ⟨table.entries.filter (fun entry => entry.1 ∉ names)⟩

def names (table : Table α) : List String :=
  table.entries.map Prod.fst

def ofList (pairs : List (String × α)) : Table α :=
  pairs.foldl (fun table pair => table.set pair.1 pair.2) empty

def update (table other : Table α) : Table α :=
  other.entries.foldl (fun table pair => table.set pair.1 pair.2) table

@[simp]
theorem get?_empty (name : String) : (empty : Table α).get? name = none :=
  rfl

theorem lookup_replace
    (name other : String)
    (value : α)
    (pairs : List (String × α)) :
    lookup other (replace name value pairs) =
      if name = other then some value else lookup other pairs := by
  induction pairs with
  | nil => simp [replace, lookup]
  | cons pair rest ih =>
      obtain ⟨key, old⟩ := pair
      by_cases same : key = name
      · subst same
        by_cases hit : key = other <;> simp [replace, lookup, hit]
      · by_cases hit : key = other
        · subst hit
          simp [replace, lookup, same, Ne.symm same]
        · simp [replace, lookup, same, hit, ih]

@[simp]
theorem get?_set (table : Table α) (name other : String) (value : α) :
    (table.set name value).get? other =
      if name = other then some value else table.get? other :=
  lookup_replace name other value table.entries

theorem lookup_filter
    (keep : String -> Bool)
    (name : String)
    (pairs : List (String × α)) :
    lookup name (pairs.filter (fun entry => keep entry.1)) =
      if keep name then lookup name pairs else none := by
  induction pairs with
  | nil => simp [lookup]
  | cons pair rest ih =>
      obtain ⟨key, old⟩ := pair
      by_cases kept : keep key <;> by_cases hit : key = name
      · subst hit
        simp [lookup, kept]
      · simp [lookup, kept, hit, ih]
      · subst hit
        simp [kept, ih]
      · simp [lookup, kept, hit, ih]

@[simp]
theorem get?_erase (table : Table α) (name other : String) :
    (table.erase name).get? other = if other = name then none else table.get? other := by
  have kept := lookup_filter (fun key => decide (key ≠ name)) other table.entries
  by_cases hit : other = name <;> simpa [get?, erase, hit] using kept

@[simp]
theorem get?_eraseAll (table : Table α) (gone : List String) (other : String) :
    (table.eraseAll gone).get? other = if other ∈ gone then none else table.get? other := by
  have kept := lookup_filter (fun key => decide (key ∉ gone)) other table.entries
  by_cases hit : other ∈ gone <;> simpa [get?, eraseAll, hit] using kept

theorem mem_names {table : Table α} {name : String} :
    name ∈ table.names ↔ (table.get? name).isSome = true := by
  obtain ⟨pairs⟩ := table
  induction pairs with
  | nil => simp [names, get?, lookup]
  | cons pair rest ih =>
      obtain ⟨key, value⟩ := pair
      simp only [names, get?, List.map_cons, List.mem_cons] at ih ⊢
      by_cases hit : key = name
      · simp [lookup, hit]
      · simp [lookup, hit, Ne.symm hit, ih]

end Table

end BlobDepot
