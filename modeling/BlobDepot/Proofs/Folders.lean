import BlobDepot.Folder

set_option autoImplicit false

namespace BlobDepot.Folder

def place (folder : Folder) (name : String) (body : Body) : Folder :=
  ⟨folder.entries.set name (.file body)⟩

section

variable {folder : Folder} {name other : String} {body : Body}

theorem isAbove_place (above : folder.isAbove other = true) :
    (folder.place name body).isAbove other = true := by
  obtain ⟨entry, listed, begins⟩ := List.any_eq_true.mp above
  refine List.any_eq_true.mpr ⟨entry, ?_, begins⟩
  rw [Table.mem_names] at listed ⊢
  by_cases same : name = entry <;> simp [place, same, listed]

theorem enter_directory
    {names inner : List String}
    {part : String}
    (enters : folder.enter names part = .directory inner)
    (other : nameOf (names ++ [part]) ≠ name) :
    (folder.place name body).enter names part = .directory inner := by
  have found : (folder.place name body).entries.get? (nameOf (names ++ [part])) =
      folder.entries.get? (nameOf (names ++ [part])) := by
    simp [place, Ne.symm other]
  simp only [enter, found] at enters ⊢
  split at enters
  next => cases enters
  next => exact enters
  next =>
    split at enters
    next above => rw [if_pos (isAbove_place above), enters]
    next => cases enters

theorem enter_place (names : List String) (part : String) :
    (folder.place (nameOf (names ++ [part])) body).enter names part =
      .file (nameOf (names ++ [part])) body := by
  simp [enter, place]

end

/-- A file is or can be made at a place, where it has a name. -/
inductive Offers (name : String) : Place -> Prop
  | file (body : Body) : Offers name (.file name body)
  | vacant : Offers name (.vacant name)

section

variable {folder : Folder} {name : String}

theorem step_directory (names : List String) (part : String) :
    (exists inner, forall other : Folder,
        other.step (.directory names) part = .directory inner) ∨
      (forall other : Folder, other.step (.directory names) part = .overlong) ∨
        forall other : Folder, other.step (.directory names) part = other.enter names part := by
  simp only [step]
  split
  next => exact .inl ⟨names, fun _ => rfl⟩
  next =>
    split
    next => exact .inl ⟨up names, fun _ => rfl⟩
    next =>
      split
      next => exact .inr (.inl fun _ => rfl)
      next => exact .inr (.inr fun _ => rfl)

theorem foldl_stuck
    {place : Place}
    (stuck : forall part, folder.step place part = place)
    (parts : List String) :
    parts.foldl folder.step place = place := by
  induction parts with
  | nil => rfl
  | cons part rest ih => rw [List.foldl_cons, stuck, ih]

theorem foldl_offers
    {place : Place}
    {parts : List String}
    (offers : Offers name (parts.foldl folder.step place)) :
    (exists names, place = .directory names) ∨ parts = [] ∧ Offers name place := by
  cases parts with
  | nil => exact .inr ⟨rfl, offers⟩
  | cons part rest =>
    rw [List.foldl_cons] at offers
    have leads {stop : Place}
        (steps : folder.step place part = stop)
        (stuck : forall part, folder.step stop part = stop) : Offers name stop := by
      rwa [steps, foldl_stuck stuck] at offers
    cases place with
    | directory names => exact .inl ⟨names, rfl⟩
    | file _ _ | blocked => cases leads rfl (fun _ => rfl)
    | vacant _ | lost => cases leads rfl (fun _ => rfl)
    | overlong => cases leads rfl (fun _ => rfl)

theorem name_of_offers
    {names : List String}
    {part : String}
    (offers : Offers name (folder.enter names part)) :
    nameOf (names ++ [part]) = name := by
  simp only [enter] at offers
  split at offers
  next =>
    cases offers
    rfl
  next => cases offers
  next =>
    split at offers
    next => cases offers
    next =>
      cases offers
      rfl

theorem not_directory_of_offers
    {names others inner : List String}
    {part other : String}
    (offers : Offers name (folder.enter names part))
    (same : nameOf (others ++ [other]) = name) :
    folder.enter others other ≠ .directory inner := by
  intro entered
  have named := name_of_offers offers
  simp only [enter, same, named] at offers entered
  split at offers
  next found => simp [found] at entered
  next => cases offers
  next found =>
    split at offers
    next => cases offers
    next vacant => simp [found, vacant] at entered

theorem exists_enter_offers
    {parts names : List String}
    (offers : Offers name (parts.foldl folder.step (.directory names))) :
    exists others part, Offers name (folder.enter others part) := by
  induction parts generalizing names with
  | nil => cases offers
  | cons part rest ih =>
    rw [List.foldl_cons] at offers
    obtain ⟨inner, leads⟩ | overlong | enters := step_directory names part
    · rw [leads] at offers
      exact ih offers
    · rw [overlong, foldl_stuck (fun _ => rfl)] at offers
      cases offers
    · rw [enters] at offers
      obtain ⟨inner, isInner⟩ | ⟨_, here⟩ := foldl_offers offers
      · rw [isInner] at offers
        exact ih offers
      · exact ⟨names, part, here⟩

theorem foldl_place
    {parts names : List String}
    (body : Body)
    (offers : Offers name (parts.foldl folder.step (.directory names))) :
    parts.foldl (folder.place name body).step (.directory names) = .file name body := by
  obtain ⟨_, _, offered⟩ := exists_enter_offers offers
  induction parts generalizing names with
  | nil => cases offers
  | cons part rest ih =>
    rw [List.foldl_cons] at offers ⊢
    obtain ⟨inner, leads⟩ | overlong | enters := step_directory names part
    · rw [leads] at offers ⊢
      exact ih offers
    · rw [overlong, foldl_stuck (fun _ => rfl)] at offers
      cases offers
    · rw [enters] at offers ⊢
      obtain ⟨inner, isInner⟩ | ⟨rfl, here⟩ := foldl_offers offers
      · rw [isInner] at offers
        have other : nameOf (names ++ [part]) ≠ name :=
          fun same => not_directory_of_offers offered same isInner
        rw [enter_directory isInner other]
        exact ih offers
      · rw [<- name_of_offers here]
        exact enter_place names part

end

theorem look_place
    {folder : Folder}
    {name path : String}
    (body : Body)
    (offers : Offers name (folder.look path)) :
    (folder.place name body).look path = .file name body := by
  rw [look] at offers ⊢
  split at offers
  next => cases offers
  next given =>
    rw [if_neg given]
    split at offers
    next => cases offers
    next short =>
      rw [if_neg short]
      exact foldl_place body offers

theorem look_fill
    {folder made : Folder}
    {path name : String}
    (makes : folder.make path = .ok (name, made))
    (content : List UInt8) :
    (made.fill name content).look (tidy path) = .file name (.bytes content) := by
  have offers : Offers name (folder.look (tidy path)) ∧ made = folder.place name (.bytes []) := by
    rw [make] at makes
    split at makes
    next => cases makes
    next old isPlace =>
      cases makes
      exact ⟨isPlace ▸ .file old, rfl⟩
    next isPlace =>
      cases makes
      exact ⟨isPlace ▸ .vacant, rfl⟩
    all_goals cases makes
  obtain ⟨offers, rfl⟩ := offers
  have emptied := look_place (.bytes []) offers
  exact look_place (.bytes content) (emptied ▸ .file _)

end BlobDepot.Folder
