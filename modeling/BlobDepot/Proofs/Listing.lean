import BlobDepot.Proofs.Calm
import BlobDepot.Proofs.Drains

set_option autoImplicit false

namespace BlobDepot

theorem nameOf_append (path name : String) : nameOf path.length (path ++ name) = name := by
  simp [nameOf, String.toList_append, <- String.length_toList]

theorem lastSize_of_keys
    {path start : String}
    {objects : Table Body}
    {entries : List (String × Int)}
    (keys : (entries.map Prod.fst).Perm (objects.keysWith (path ++ start)))
    (sizes : forall entry, entry ∈ entries -> entry.2 = objects.sizeOf entry.1)
    (name : String) :
    lastSize? path.length entries name =
      if start.toList <+: name.toList then
        (objects.get? (path ++ name)).map (fun body => (body.length : Int))
      else none := by
  rw [lastSize?]
  cases found : entries.reverse.find? (fun entry => nameOf path.length entry.1 == name) with
  | some entry =>
    have listed : entry ∈ entries := List.mem_reverse.mp (List.mem_of_find?_eq_some found)
    have isName : nameOf path.length entry.1 = name := by simpa using List.find?_some found
    have member : entry.1 ∈ objects.keysWith (path ++ start) :=
      keys.subset (List.mem_map_of_mem listed)
    obtain ⟨other, isKey⟩ := Table.named_of_mem_keysWith member
    rw [isKey, nameOf_append] at isName
    subst isName
    rw [isKey] at member
    obtain ⟨present, begins⟩ := Table.append_mem_keysWith.mp member
    obtain ⟨body, isBody⟩ := Option.isSome_iff_exists.mp present
    simp [begins, sizes entry listed, isKey, Table.sizeOf, isBody]
  | none =>
    have unlisted := List.find?_eq_none.mp found
    by_cases begins : start.toList <+: name.toList
    next =>
      cases isBody : objects.get? (path ++ name) with
      | none => simp
      | some body =>
        -- The object would be listed, and so would its name.
        have member : path ++ name ∈ objects.keysWith (path ++ start) :=
          Table.append_mem_keysWith.mpr ⟨by simp [isBody], begins⟩
        obtain ⟨entry, listed, isKey⟩ := List.mem_map.mp (keys.symm.subset member)
        have other := unlisted entry (List.mem_reverse.mpr listed)
        rw [isKey, nameOf_append] at other
        simp at other
    next => simp [begins]

theorem Steady.listBlobs
    {origin depot : Depot}
    {borrowers : Nat}
    (steady : Steady origin borrowers depot)
    (container : Container)
    (selection : Option String) :
    Serves origin borrowers (container.listBlobs selection) depot (fun outcome service =>
      service.objects = depot.service.objects ∧
        exists listing, outcome = .ok listing ∧ forall name, listing.get? name =
          if (selection.getD "").toList <+: name.toList then
            ((depot.service.objects container.bucket).get? (container.key name)).map
              (fun body => (body.length : Int))
          else none) := by
  have calm : depot.schedule.ListsCalmly (depot.journal.callCount .listObjects + 1) :=
    fun number _ => steady.isCalm .listObjects number
  obtain ⟨requests, entries, drains, _, keys, sizes⟩ := exists_drains_all calm steady.paged
    container.bucket (container.keyPath ++ selection.getD "")
  refine (steady.attended.listBlobs container (steady.calm.leavesOpen container.store)
    (steady.canLend container.store) (steady.keepsOpen .listObjects) drains).mono
      (fun outcome next done => ?_)
  obtain ⟨attended, _, drained⟩ := done
  obtain ⟨listing, isListing, names⟩ := drained.listed entries rfl
  obtain ⟨objects, pageSize⟩ := drained.unchanged
  refine ⟨⟨attended.lent, attended.opened, steady.calm, pageSize ▸ steady.paged⟩, objects, listing,
    isListing, fun name => ?_⟩
  rw [names name]
  exact lastSize_of_keys keys sizes name

end BlobDepot
