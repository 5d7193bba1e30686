import BlobDepot.Service.Bucket
import Mathlib.Algebra.GroupWithZero.Nat
import Mathlib.Data.List.Forall2
import Mathlib.Logic.Function.Basic

set_option autoImplicit false

namespace BlobDepot

namespace Body

theorem mapM_content (contents : List (List UInt8)) :
    (contents.map bytes).mapM content? = some contents := by
  induction contents with
  | nil => rfl
  | cons content rest ih => simp [content?, ih]

theorem join_bytes (contents : List (List UInt8)) :
    join (contents.map bytes) = .bytes contents.flatten := by
  rw [join, mapM_content]

theorem bytes_of_mapM
    {bodies : List Body}
    {contents : List (List UInt8)}
    (known : bodies.mapM content? = some contents) :
    bodies = contents.map bytes := by
  induction bodies generalizing contents with
  | nil =>
    cases known
    rfl
  | cons body rest ih =>
    -- One body that is not known would leave the whole unknown.
    cases body with
    | virtual length offset => simp [content?] at known
    | bytes content =>
      cases found : rest.mapM content? with
      | none => simp [content?, found] at known
      | some others =>
        have isContents : content :: others = contents := by
          simpa [content?, found] using known
        rw [ih found, <- isContents]
        rfl

theorem length_join (bodies : List Body) : (join bodies).length = (bodies.map length).sum := by
  rw [join]
  cases known : bodies.mapM content? with
  | some contents =>
    rw [bytes_of_mapM known]
    simp [length, Function.comp_def, List.length_flatten]
  | none => simp [length, List.sum_eq_foldl_nat, List.foldl_map]

end Body

namespace Service

variable {service : Service} {bucket key uploadId : String}

theorem objects_setObjects (service : Service) (bucket : String) (objects : Table Body) :
    (service.setObjects bucket objects).objects =
      Function.update service.objects bucket objects := by
  funext other
  by_cases same : other = bucket
  next => simp [Service.objects, setObjects, same]
  next => simp [Service.objects, setObjects, same, Ne.symm same]

theorem objects_reach (service : Service) (bucket : String) :
    (service.reach bucket).objects = service.objects := by
  rw [reach, objects_setObjects, Function.update_eq_self]

theorem partBody?_storePart
    (number other : Int)
    (body : Body)
    (parts : List (Int × Body)) :
    partBody? (storePart number body parts) other =
      if number = other then some body else partBody? parts other := by
  induction parts with
  | nil => by_cases same : number = other <;> simp [storePart, partBody?, same]
  | cons part rest ih =>
    obtain ⟨key, old⟩ := part
    simp only [partBody?] at ih ⊢
    -- The part is stored here or further on; only its own number tells the difference.
    by_cases replaced : key = number
    next =>
      rw [storePart, if_pos replaced]
      by_cases same : number = other <;> simp [replaced, same]
    next =>
      rw [storePart, if_neg replaced]
      by_cases hit : key = other
      next =>
        have different : number ≠ other := fun same => replaced (hit.trans same.symm)
        simp [hit, different]
      next => simpa [hit] using ih

theorem mapM_partBody
    {parts : List (Int × Body)}
    {listed : List CompletedPart}
    {bodies : List Body}
    (matched : List.Forall₂ (fun part body => partBody? parts part.number = some body) listed
      bodies) :
    listed.mapM (fun part => partBody? parts part.number) = some bodies := by
  induction matched with
  | nil => rfl
  | cons found _ ih => simp [found, ih]

theorem perform_putObject
    (service : Service)
    (bucket key : String)
    (body : Body)
    (length : Int)
    (settings : UploadSettings) :
    exists next, service.perform (.putObject bucket key body length settings) =
        (.ok (.data (.map [])), next) ∧
      next.objects =
        Function.update service.objects bucket ((service.objects bucket).set key body) ∧
      next.uploads = service.uploads := by
  refine ⟨(service.reach bucket).setObjects bucket
    (((service.reach bucket).objects bucket).set key body), rfl, ?_, rfl⟩
  rw [objects_setObjects, objects_reach]

theorem perform_createUpload (service : Service) (bucket key : String) (settings : UploadSettings) :
    service.perform (.createUpload bucket key settings) =
      (.ok (.data (.ofFields
        [("UploadId", .text ("upload-" ++ toString (service.started + 1)))])),
        { service with
          started := service.started + 1
          uploads := service.uploads.set ("upload-" ++ toString (service.started + 1)) [] }) :=
  rfl

theorem perform_uploadPart
    {number : Int}
    {body : Body}
    {parts : List (Int × Body)}
    (pending : service.uploads.get? uploadId = some parts) :
    service.perform (.uploadPart bucket key uploadId number body) =
      (.ok (.data (.ofFields [("ETag", .text ("\"etag-" ++ toString number ++ "\""))])),
        { service with
          uploads := service.uploads.set uploadId (storePart number body parts) }) := by
  simp [perform, reachesBucket, pending]

theorem perform_completeUpload
    {listed : List CompletedPart}
    {parts : List (Int × Body)}
    {bodies : List Body}
    (pending : service.uploads.get? uploadId = some parts)
    (found : listed.mapM (fun part => partBody? parts part.number) = some bodies) :
    service.perform (.completeUpload bucket key uploadId listed) =
      (.ok (.data (.map [])),
        { service.setObjects bucket ((service.objects bucket).set key (Body.join bodies)) with
          uploads := service.uploads.erase uploadId }) := by
  simp [perform, reachesBucket, pending, found, Request.bucket]

theorem perform_abortUpload
    {parts : List (Int × Body)}
    (pending : service.uploads.get? uploadId = some parts) :
    service.perform (.abortUpload bucket key uploadId) =
      (.ok (.data (.map [])), { service with uploads := service.uploads.erase uploadId }) := by
  simp [perform, reachesBucket, pending]

end Service

end BlobDepot
