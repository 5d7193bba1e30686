import BlobDepot.Proofs.CommandClients
import BlobDepot.Proofs.Folders
import BlobDepot.Proofs.Holdings
import BlobDepot.Proofs.ListingLines
import BlobDepot.Proofs.Loans
import BlobDepot.Proofs.Settings

set_option autoImplicit false

namespace BlobDepot

namespace Steady

open BlobDepot.Action

variable {origin depot : Depot}

theorem closes (steady : Steady origin 0 depot) :
    (Store.close depot).1 = .ok () ∧ (Store.close depot).2.service = depot.service := by
  refine ⟨?_, (Detached.idle Detached.close depot).service⟩
  obtain ⟨life, follows, counted, _⟩ := steady.lent
  have opened : life.closed = false := follows.closed.symm.trans steady.opened
  cases made : life.client with
  | none =>
    have current : depot.current = none := by simp [follows.current, made]
    simp [Store.close, Store.closeThrough, run_bind, steady.opened, current]
  | some client =>
    have current : depot.current = some origin.references.length := by
      simp [follows.current, made, opened]
    let shut : Depot := { depot with closed := true, current := none }
    have held : shut.holders origin.references.length = 1 := by
      have last := Depot.holders_last (follows.made_last made)
      rwa [ClientLife.holders_of_open opened, counted] at last
    let given := (shut.setHolders origin.references.length 0).recorded (.storeClosed (some 0))
    have returned := @returned_of_closed given rfl (shut.clientOf origin.references.length)
    have unfailing : given.closeFailure? = none := by
      rw [Depot.closeFailure?, Schedule.outcome?]
      have calm : given.schedule.disruptions .close (given.closes + 1) = [] :=
        steady.isCalm .close _
      rw [calm]
      rfl
    have released : Yields (Reference.releaseThrough (Reference.closeClient Store.closeWithin)
        (fun left => .storeClosed (some left)) origin.references.length) shut
        (fun outcome _ => exists last, outcome = .ok last) := by
      simp only [Yields, Reference.releaseThrough, run_bind_ok _ (run_get shut), held,
        run_bind_ok _ (run_set _ shut), run_bind_ok _ (run_record _ _), if_pos]
      cases ended : (do
          Reference.closeClient Store.closeWithin (shut.clientOf origin.references.length)
          pure true : Action Bool) given with
      | mk outcome left =>
        rw [Yields, ended] at returned
        cases outcome with
        | ok last => exact ⟨last, rfl⟩
        | error failure =>
          have known := returned.2
          rw [unfailing] at known
          cases known
    have forgets : Yields (Reference.releaseThrough (Reference.closeClient Store.closeWithin)
        (fun left => .storeClosed (some left)) origin.references.length >>= fun _ => pure ()) shut
        (fun outcome _ => outcome = .ok ()) := by
      refine released.bind (fun _ _ _ => rfl) (fun _ _ failed => ?_)
      obtain ⟨_, impossible⟩ := failed
      cases impossible
    simp only [Store.close, Store.closeThrough, run_bind_ok _ (run_get depot), steady.opened,
      Bool.false_eq_true, if_false, run_bind_ok _ (run_set _ depot), current]
    exact forgets

end Steady

namespace Command

/-- The bytes under the keys of a bucket, and the files of a folder. -/
structure Desk where
  holdings : Holdings
  folder : Folder

def printed (lines : List String) : List UInt8 :=
  Text.encode (String.join (lines.map (fun line => Text.dropMarks line ++ "\n")))

namespace Desk

def bound (desk : Desk) (path : BlobPath) (name : String) : Option (List UInt8) :=
  desk.holdings (path.toText ++ name)

def after (desk : Desk) (path : BlobPath) : Request -> Desk
  | .put blob source =>
      match desk.folder.look source with
      | .file _ (.bytes content) =>
          { desk with holdings := desk.holdings.after path (.writeBytes blob content false) }
      | _ => desk
  | .get blob (some target) =>
      match desk.bound path blob, desk.folder.make target with
      | some content, .ok (name, made) => { desk with folder := made.fill name content }
      | _, _ => desk
  | .remove blobs => { desk with holdings := desk.holdings.after path (.deleteMany blobs) }
  | _ => desk

/-- How a command ends and what it prints.  A blob is got into a file if one can be made there, and
is what is found there then. -/
inductive Answers (desk : Desk) (path : BlobPath) : Request -> Nat -> List UInt8 -> Prop
  | put {blob source name : String} {content : List UInt8}
      (reads : desk.folder.look source = .file name (.bytes content)) :
      Answers desk path (.put blob source) 0
        (printed ["uploaded " ++ blob ++ " (" ++ toString content.length ++ " bytes)"])
  | shown {blob : String} {content : List UInt8}
      (bound : desk.bound path blob = some content) :
      Answers desk path (.get blob none) 0 content
  | got {blob target name : String} {content : List UInt8}
      (bound : desk.bound path blob = some content)
      (found : (desk.after path (.get blob (some target))).folder.look (Folder.tidy target) =
        .file name (.bytes content)) :
      Answers desk path (.get blob (some target)) 0 []
  | unmade {blob target : String} {content : List UInt8} {error : FileError}
      (bound : desk.bound path blob = some content)
      (fails : desk.folder.make target = .error error) :
      Answers desk path (.get blob (some target)) 1 []
  | missing {blob : String} {target : Option String}
      (unbound : desk.bound path blob = none) :
      Answers desk path (.get blob target) 1 []
  | found {blob : String} {content : List UInt8}
      (bound : desk.bound path blob = some content) :
      Answers desk path (.check blob) 0 (printed ["yes"])
  | absent {blob : String}
      (unbound : desk.bound path blob = none) :
      Answers desk path (.check blob) 1 (printed ["no"])
  | removed (blobs : List String) :
      Answers desk path (.remove blobs) 0
        (printed ["deleted " ++ toString blobs.length ++ " blob(s)"])
  | listed {start : Option String} {entries : List (String × Int)}
      (ordered : entries.Pairwise (fun first second => first.1 < second.1))
      (members : forall name length, (name, length) ∈ entries ↔
        exists content, desk.bound path name = some content ∧
          (start.getD "").toList <+: name.toList ∧ length = content.length) :
      Answers desk path (.list start) 0 (printed (entries.map listingLine))

end Desk

def Request.Fits (config : Config) (folder : Folder) : Request -> Prop
  | .put _ source => exists name content, folder.look source = .file name (.bytes content) ∧
      config.Accepts content.length
  | _ => True

def exitCode : Except Ending Unit -> Nat
  | .ok () => Ending.exitCode (.finished true)
  | .error ending => ending.exitCode

structure Laid
    (origin : Depot)
    (bucket : String)
    (desk : Desk)
    (depot : Depot)
    (folder : Folder) : Prop where
  steady : Steady origin 0 depot
  holds : Holds bucket desk.holdings depot.service
  folder : folder = desk.folder

structure Performed
    (origin : Depot)
    (container : Container)
    (desk : Desk)
    (request : Request)
    (shell : Shell)
    (outcome : Except Ending Unit)
    (left : Shell) : Prop where
  laid : Laid origin container.bucket (desk.after container.path request) left.depot left.folder
  answers : exists output, left.output = shell.output ++ output ∧
    desk.Answers container.path request (exitCode outcome) output

namespace Step

variable {α β : Type} {shell : Shell}

def Yields
    (step : Step α)
    (shell : Shell)
    (expected : Except Ending α -> Shell -> Prop) : Prop :=
  expected (step shell).1 (step shell).2

theorem Yields.after
    {first : Step α}
    {next : α -> Step β}
    {result : α}
    {middle : Shell}
    {goal : Except Ending β -> Shell -> Prop}
    (ran : first shell = (.ok result, middle))
    (rest : Yields (next result) middle goal) :
    Yields (first >>= next) shell goal := by
  rw [Yields, run_bind, ran]
  exact rest

theorem attempt_bind
    {action : Action α}
    {next : Except Failure α -> Step β}
    {expected : Except Failure α -> Depot -> Prop}
    {goal : Except Ending β -> Shell -> Prop}
    (yields : Action.Yields action shell.depot expected)
    (rest : forall outcome depot, expected outcome depot ->
      Yields (next outcome) { shell with depot := depot } goal) :
    Yields (attempt action >>= next) shell goal := by
  have ran : attempt action shell =
      (.ok (action shell.depot).1, { shell with depot := (action shell.depot).2 }) := rfl
  rw [Yields, run_bind, ran]
  exact rest _ _ yields

theorem act_bind
    {origin : Depot}
    {borrowers : Nat}
    {action : Action α}
    {next : α -> Step β}
    {result : α}
    {expected : Service -> Prop}
    {goal : Except Ending β -> Shell -> Prop}
    (serves : Serves origin borrowers action shell.depot
      (fun outcome service => outcome = .ok result ∧ expected service))
    (rest : forall depot, Steady origin borrowers depot -> expected depot.service ->
      Yields (next result) { shell with depot := depot } goal) :
    Yields (act action >>= next) shell goal := by
  rw [act, bind_assoc]
  refine attempt_bind serves (fun outcome depot done => ?_)
  obtain ⟨steady, rfl, holds⟩ := done
  exact rest depot steady holds

end Step

open Step

theorem run_copyToFile (content : List UInt8) (target : String) (shell : Shell) :
    copyToFile (.stream (.bytes content)) target shell =
      match shell.folder.make target with
      | .ok (name, made) => (.ok (), { shell with folder := made.fill name content })
      | .error error => (.error (.failed (.of (.file error))), shell) := by
  have makes : makeFile target shell =
      match shell.folder.make target with
      | .ok (name, folder) => (.ok (.ok name), { shell with folder := folder })
      | .error error => (.ok (.error (.of (.file error))), shell) := rfl
  rw [copyToFile, Step.run_bind, makes]
  cases shell.folder.make target with
  | ok made => rfl
  | error error => rfl

section

variable {origin : Depot} {container : Container} {desk : Desk} {shell : Shell}

theorem performs_put
    (laid : Laid origin container.bucket desk shell.depot shell.folder)
    {blob source : String}
    (fits : (Request.put blob source).Fits container.store.config desk.folder) :
    Yields (perform container (.put blob source)) shell
      (Performed origin container desk (.put blob source) shell) := by
  obtain ⟨steady, holds, folder⟩ := laid
  obtain ⟨name, content, reads, accepted⟩ := fits
  have looks : (get : Step Shell) shell = (.ok shell, shell) := rfl
  refine .after looks ?_
  rw [folder, reads]
  refine .after rfl ?_
  have gives : (Source.ofBody (.bytes content)).Gives content.length := .ofBody (Int.le_refl _)
  have binds := (steady.sourced (.ofBody (.bytes content))).binds holds
    (Int.natCast_nonneg _) accepted gives rfl container.path blob false
  rw [Int.toNat_natCast, List.take_length] at binds
  refine act_bind binds (fun depot steadyNext holdsNext => ?_)
  have put : desk.after container.path (.put blob source) =
      ⟨desk.holdings.after container.path (.writeBytes blob content false), desk.folder⟩ := by
    rw [Desk.after, reads]
  exact ⟨put ▸ ⟨steadyNext, holdsNext, folder⟩, _, rfl, .put reads⟩

theorem Desk.after_unbound
    {path : BlobPath}
    {blob : String}
    {target : Option String}
    (unbound : desk.bound path blob = none) :
    desk.after path (.get blob target) = desk := by
  cases target with
  | none => rfl
  | some target => rw [Desk.after, unbound]

theorem copies_blob
    {depot : Depot}
    {blob : String}
    {content : List UInt8}
    (laid : Laid origin container.bucket desk depot shell.folder)
    (bound : desk.bound container.path blob = some content)
    (target : String) :
    Yields (copyToFile (.stream (.bytes content)) target) { shell with depot := depot }
      (Performed origin container desk (.get blob (some target)) shell) := by
  have got : desk.after container.path (.get blob (some target)) =
      match desk.folder.make target with
      | .ok (name, made) => { desk with folder := made.fill name content }
      | .error _ => desk := by
    rw [Desk.after, bound]
    cases desk.folder.make target <;> rfl
  rw [Yields, run_copyToFile]
  simp only [laid.folder]
  cases makes : desk.folder.make target with
  | error error =>
    rw [makes] at got
    exact ⟨got ▸ ⟨laid.steady, laid.holds, rfl⟩, [], (List.append_nil _).symm,
      .unmade bound makes⟩
  | ok made =>
    rw [makes] at got
    have found : (desk.after container.path (.get blob (some target))).folder.look
        (Folder.tidy target) = .file made.1 (.bytes content) := by
      rw [got]
      exact Folder.look_fill makes content
    exact ⟨got ▸ ⟨laid.steady, laid.holds, rfl⟩, [], (List.append_nil _).symm, .got bound found⟩

theorem performs_get
    (laid : Laid origin container.bucket desk shell.depot shell.folder)
    (blob : String)
    (target : Option String) :
    Yields (perform container (.get blob target)) shell
      (Performed origin container desk (.get blob target) shell) := by
  obtain ⟨steady, holds, folder⟩ := laid
  have reads := steady.readBlob container blob
  have isBound : (shell.depot.service.objects container.bucket).get? (container.key blob) =
      (desk.bound container.path blob).map .bytes := holds.bound container.path blob
  rw [isBound] at reads
  refine attempt_bind reads (fun outcome depot done => ?_)
  obtain ⟨steadyNext, objects, given⟩ := done
  have laidNext : Laid origin container.bucket desk depot shell.folder :=
    ⟨steadyNext, holds.unchanged objects, folder⟩
  cases bound : desk.bound container.path blob with
  | none =>
    rw [bound] at given
    cases given
    have same : desk.after container.path (.get blob target) = desk := Desk.after_unbound bound
    exact ⟨same.symm ▸ laidNext, [], (List.append_nil _).symm, .missing bound⟩
  | some content =>
    rw [bound] at given
    cases given
    cases target with
    | none => exact ⟨laidNext, content, rfl, .shown bound⟩
    | some target =>
      exact copies_blob laidNext bound target

theorem performs_remove
    (laid : Laid origin container.bucket desk shell.depot shell.folder)
    (blobs : List String) :
    Yields (perform container (.remove blobs)) shell
      (Performed origin container desk (.remove blobs) shell) := by
  obtain ⟨steady, holds, folder⟩ := laid
  refine attempt_bind (steady.deleteBlobsIfExist container blobs) (fun outcome depot done => ?_)
  obtain ⟨steadyNext, rfl, objects⟩ := done
  exact ⟨⟨steadyNext, holds.eraseAll objects, folder⟩, _, rfl, .removed blobs⟩

theorem performs_check
    (laid : Laid origin container.bucket desk shell.depot shell.folder)
    (blob : String) :
    Yields (perform container (.check blob)) shell
      (Performed origin container desk (.check blob) shell) := by
  obtain ⟨steady, holds, folder⟩ := laid
  have looks := steady.blobExists container blob
  have isBound : (shell.depot.service.objects container.bucket).get? (container.key blob) =
      (desk.bound container.path blob).map .bytes := holds.bound container.path blob
  rw [isBound, Option.isSome_map] at looks
  refine act_bind looks (fun depot steadyNext objects => ?_)
  have laidNext : Laid origin container.bucket desk depot shell.folder :=
    ⟨steadyNext, holds.unchanged objects, folder⟩
  cases bound : desk.bound container.path blob with
  | none => exact ⟨laidNext, _, rfl, .absent bound⟩
  | some content => exact ⟨laidNext, _, rfl, .found bound⟩

theorem performs_list
    (laid : Laid origin container.bucket desk shell.depot shell.folder)
    (start : Option String) :
    Yields (perform container (.list start)) shell
      (Performed origin container desk (.list start) shell) := by
  obtain ⟨steady, holds, folder⟩ := laid
  obtain ⟨steadyNext, objects, listing, isListing, found⟩ := steady.listBlobs container start
  have unique := container.nodup_listBlobs start shell.depot listing isListing
  obtain ⟨entries, lines, ordered, members⟩ := listingLines_ordered unique
  have lists : Serves origin 0 (container.listBlobs start) shell.depot (fun outcome service =>
      outcome = .ok listing ∧ service.objects = shell.depot.service.objects) :=
    ⟨steadyNext, isListing, objects⟩
  refine act_bind lists (fun depot steadyLast same => ?_)
  refine ⟨⟨steadyLast, holds.unchanged same, folder⟩, _, rfl, ?_⟩
  rw [lines]
  refine .listed ordered (fun name length => ?_)
  have isBound : (shell.depot.service.objects container.bucket).get? (container.key name) =
      (desk.bound container.path name).map .bytes := holds.bound container.path name
  rw [members, found, isBound]
  by_cases begins : (start.getD "").toList <+: name.toList
  next => cases desk.bound container.path name <;> simp [begins, eq_comm, Body.length]
  next => simp [begins]

theorem performs
    {request : Request}
    (laid : Laid origin container.bucket desk shell.depot shell.folder)
    (fits : request.Fits container.store.config desk.folder) :
    Yields (perform container request) shell (Performed origin container desk request shell) := by
  cases request with
  | list start => exact performs_list laid start
  | put blob source => exact performs_put laid fits
  | get blob target => exact performs_get laid blob target
  | remove blobs => exact performs_remove laid blobs
  | check blob => exact performs_check laid blob

end

end Command

end BlobDepot
