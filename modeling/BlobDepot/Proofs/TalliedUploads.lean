import BlobDepot.Proofs.TalliedWork

set_option autoImplicit false

namespace BlobDepot

open BlobDepot.Action

def Troubled (source : Source) (failure : Failure) : Prop :=
  failure.isA .backend = true ∨ failure.isReport = true ∨ source.Raises failure.problem

def OnlyTroubled {α : Type} (source : Source) (outcome : Except Failure α) : Prop :=
  forall failure, outcome = .error failure -> Troubled source failure

theorem onlyTroubled_ok {α : Type} (source : Source) (result : α) :
    OnlyTroubled source (.ok result) := by
  rintro _ ⟨⟩

theorem onlyTroubled_of {α : Type} {source : Source} {failure : Failure}
    (troubled : Troubled source failure) :
    OnlyTroubled source (.error failure : Except Failure α) := by
  rintro _ ⟨⟩
  exact troubled

theorem Troubled.before
    {later source : Source}
    {failure : Failure}
    (troubled : Troubled later failure)
    (since : later.Since source) :
    Troubled source failure :=
  troubled.imp_right (Or.imp_right (fun raises => raises.before since))

namespace Attended

variable {origin depot : Depot} {borrowers : Nat}

theorem tallies_readSource
    (attended : Attended origin (borrowers + 1) depot)
    (keepsOpen : depot.source.KeepsOpen)
    (size : Int) :
    Deals origin (borrowers + 1) Request.IsSingle (Client.readSource size) depot
      (fun _ outcome => forall failure, outcome = .error failure ->
        depot.source.Raises failure.problem) := by
  have quiet : depot.source.nextEvent.closesStore = false := keepsOpen _ (Nat.lt_succ_self _)
  have ran : Client.readSource size depot = ((depot.source.read size).1,
      Depot.recorded { depot with source := (depot.source.read size).2 }
        (.read size (depot.source.read size).1)) := by
    simp only [Client.readSource, run_bind, run_get, quiet, Bool.false_eq_true, if_false, run_set,
      run_record, run_settle]
  have lent := (Lent.lasting origin borrowers).reads size depot attended.lent
  have moved := readSource_moved size depot
  rw [Yields, ran] at moved
  rw [ran] at lent
  rw [Deals, Yields, ran]
  have attendedNext : Attended origin (borrowers + 1) (Depot.recorded
      { depot with source := (depot.source.read size).2 }
        (.read size (depot.source.read size).1)) := ⟨lent, attended.opened⟩
  refine ⟨[], ?_, fun failure fails => Source.read_raises fails⟩
  exact {
    attended := attendedNext
    exchange := by rw [moved.exchange, List.append_nil]
    sorted := fun _ _ listed => by cases listed
    entered := (add_zero _).symm
    source := depot.source.read_since size
    pageSize := rfl
    current := fun _ => attendedNext.hasClient }

theorem tallies_putObject
    (attended : Attended origin (borrowers + 1) depot)
    (fitting : origin.schedule.AnswersFit)
    (keepsOpen : depot.source.KeepsOpen)
    (bucket key : String)
    (length : Int)
    (settings : UploadSettings) :
    Deals origin (borrowers + 1) Request.IsSingle (Client.putObject bucket key length settings)
      depot (fun _ outcome => OnlyTroubled depot.source outcome) := by
  refine (attended.tallies_readSource keepsOpen length).bind (fun body events left _ dealt => ?_)
    (fun failure events raises => ?_)
  · by_cases whole : (body.length : Int) = length
    next =>
      rw [if_pos whole]
      refine (dealt.attended.asksUncounted fitting
        (.putObject bucket key body length settings.sent) (by rintro ⟨⟩) (fun _ => rfl) _).bind
        (fun answer events next _ asked => .at_once asked.attended rfl (onlyTroubled_ok _ _))
        (fun failure events backend => onlyTroubled_of (.inl backend))
    next =>
      rw [if_neg whole]
      exact .at_once dealt.attended rfl (onlyTroubled_of (.inl rfl))
  · exact onlyTroubled_of (.inr (.inr (raises failure rfl)))

theorem tallies_initiate
    (attended : Attended origin (borrowers + 1) depot)
    (fitting : origin.schedule.AnswersFit)
    (container : Container)
    (key : String) :
    Deals origin (borrowers + 1) Request.IsSingle (container.initiate key) depot
      (fun _ outcome => OnlyTroubled depot.source outcome) := by
  have starts : Deals origin (borrowers + 1) Request.IsSingle
      (Client.initiateUpload container.store.config.bucket key
        container.store.config.uploadSettings) depot
      (fun _ outcome => OnlyTroubled depot.source outcome) := by
    refine (attended.asksUncounted fitting (.createUpload container.store.config.bucket key
      container.store.config.uploadSettings.sent) (by rintro ⟨⟩) (fun _ => rfl) _).bind
      (fun answer events next fits asked => ?_) (fun failure events backend => ?_)
    · obtain ⟨fields, described, uploadId⟩ : answer.Identifies := fits
      rw [described]
      rcases uploadId with absent | null | ⟨text, present⟩
      next =>
        simp only [Value.findEntry, absent]
        exact .at_once asked.attended rfl (onlyTroubled_ok _ _)
      next =>
        simp only [Value.findEntry, null]
        exact .at_once asked.attended rfl (onlyTroubled_ok _ _)
      next =>
        simp only [Value.findEntry, present]
        exact .at_once asked.attended rfl (onlyTroubled_ok _ _)
    · exact onlyTroubled_of (.inl backend)
  refine starts.bind (fun uploadId events left _ dealt => ?_) (fun failure events troubled => ?_)
  · by_cases empty : uploadId = ""
    next =>
      rw [if_pos empty]
      exact .at_once dealt.attended rfl (onlyTroubled_of (.inr (.inl rfl)))
    next =>
      rw [if_neg empty]
      exact .at_once dealt.attended rfl (onlyTroubled_ok _ _)
  · exact onlyTroubled_of (troubled failure rfl)

theorem tallies_uploadPart
    (attended : Attended origin (borrowers + 1) depot)
    (fitting : origin.schedule.AnswersFit)
    (keepsOpen : depot.source.KeepsOpen)
    (bucket key uploadId : String)
    (number size : Int) :
    Yields (Client.uploadPart bucket key uploadId number size) depot (fun outcome next =>
      exists events entered,
        Dealt origin (borrowers + 1) Request.IsSingle depot events entered next ∧
        OnlyTroubled depot.source outcome ∧
        match outcome with
        | .ok uploaded => uploaded.part.number = number ∧
            tallied events = entered + { partSizes := [uploaded.size] }
        | .error _ => tallied events = entered) := by
  refine Yields.bind (attended.tallies_readSource keepsOpen size) (fun body left read => ?_)
    (fun failure left read => ?_)
  · obtain ⟨events, dealt, _⟩ := read
    let request := Request.uploadPart bucket key uploadId number body
    have single : request.IsSingle := by rintro ⟨⟩
    refine (dealt.attended.answers fitting request single _).bind (fun answer next asked => ?_)
      (fun failure next asked => ?_)
    · obtain ⟨given, fits, dealtNext, isOutcome⟩ := asked
      cases fits with
      | failed _ _ => cases isOutcome
      | answered _ tags =>
        cases isOutcome
        obtain ⟨fields, tag, described, found⟩ : Answer.Tags _ := tags
        simp only [described, Value.entry, found]
        refine ⟨_, _, dealt.trans dealtNext, onlyTroubled_ok _ _, rfl, ?_⟩
        rw [tallied_append, tallied_events, add_zero]
        rfl
    · obtain ⟨given, fits, dealtNext, isOutcome⟩ := asked
      cases fits with
      | answered _ _ => cases isOutcome
      | failed _ fault =>
        cases isOutcome
        refine ⟨_, _, dealt.trans dealtNext,
          onlyTroubled_of (.inl (fault.reported_backend _)), ?_⟩
        rw [tallied_append, tallied_events]
        rfl
  · obtain ⟨events, dealt, raises⟩ := read
    exact ⟨events, _, dealt, onlyTroubled_of (.inr (.inr (raises failure rfl))), rfl⟩

theorem tallies_uploadNext
    (attended : Attended origin (borrowers + 1) depot)
    (fitting : origin.schedule.AnswersFit)
    (keepsOpen : depot.source.KeepsOpen)
    (session : ActiveSession)
    (size : Int) :
    Deals origin (borrowers + 1) Request.IsSingle (Container.uploadNext session size) depot
      (fun _ outcome => OnlyTroubled depot.source outcome) := by
  refine (attended.tallies_uploadPart fitting keepsOpen session.bucket session.key session.uploadId
    session.nextNumber size).bind (fun uploaded left done => ?_) (fun failure left done => ?_)
  · obtain ⟨events, entered, dealt, _, number, same⟩ := done
    -- The part bears the number that is next, so it can be added.
    refine yields_count _ ?_
    rw [ActiveSession.addPart_next number]
    exact ⟨events, same ▸ dealt.counted (fun metrics => metrics.tally_countPart _),
      onlyTroubled_ok _ _⟩
  · obtain ⟨events, entered, dealt, troubled, same⟩ := done
    exact ⟨events, same ▸ dealt, onlyTroubled_of (troubled failure rfl)⟩

theorem tallies_uploadParts
    (attended : Attended origin (borrowers + 1) depot)
    (fitting : origin.schedule.AnswersFit)
    (keepsOpen : depot.source.KeepsOpen)
    (plan : PartPlan)
    (partSize : Int)
    (left : Nat)
    (session : ActiveSession) :
    Deals origin (borrowers + 1) Request.IsSingle
      (Container.uploadParts plan partSize left session) depot
      (fun _ outcome => exists final ended, outcome = .ok (final, ended) ∧
        OnlyTroubled depot.source ended) := by
  induction left generalizing depot session with
  | zero => exact .at_once attended rfl ⟨session, .ok (), rfl, onlyTroubled_ok _ _⟩
  | succ left ih =>
    refine (attended.tallies_uploadNext fitting keepsOpen session _).attempt_bind
      (fun outcome events next troubled dealt => ?_)
    cases outcome with
    | error failure =>
      exact .at_once dealt.attended rfl ⟨session, _, rfl, onlyTroubled_of (troubled failure rfl)⟩
    | ok extended =>
      refine (ih dealt.attended (keepsOpen.since dealt.source) extended).mono
        (fun later outcome done => ?_)
      obtain ⟨final, ended, isOutcome, troubledLater⟩ := done
      exact ⟨final, ended, isOutcome,
        fun failure failed => (troubledLater failure failed).before dealt.source⟩

theorem tallies_complete
    (attended : Attended origin (borrowers + 1) depot)
    (fitting : origin.schedule.AnswersFit)
    (session : ActiveSession)
    (size : Int) :
    Deals origin (borrowers + 1) Request.IsSingle (Container.complete session size) depot
      (fun _ outcome => OnlyTroubled depot.source outcome) := by
  rw [Container.complete]
  split
  next =>
    exact (attended.asksUncounted fitting (.completeUpload session.bucket session.key
      session.uploadId session.parts) (by rintro ⟨⟩) (fun _ => rfl) _).bind
      (fun answer events next _ asked => .at_once asked.attended rfl (onlyTroubled_ok _ _))
      (fun failure events backend => onlyTroubled_of (.inl backend))
  next => exact .at_once attended rfl (onlyTroubled_of (.inr (.inl rfl)))

theorem tallies_followPlan
    (attended : Attended origin (borrowers + 1) depot)
    (fitting : origin.schedule.AnswersFit)
    (keepsOpen : depot.source.KeepsOpen)
    (container : Container)
    (key : String)
    (size : Int)
    (plan : PartPlan) :
    Deals origin (borrowers + 1) Request.IsSingle (container.followPlan key size plan) depot
      (fun _ outcome => exists progress ended, outcome = .ok (progress, ended) ∧
        OnlyTroubled depot.source ended) := by
  refine (attended.tallies_initiate fitting container key).attempt_bind
    (fun outcome events left troubled dealt => ?_)
  cases outcome with
  | error failure =>
    exact .at_once dealt.attended rfl ⟨_, _, rfl, onlyTroubled_of (troubled failure rfl)⟩
  | ok session =>
    refine .log_bind ?_
    have started := dealt.logged "info" "multipart_upload_started"
      [("bucket", .text session.bucket), ("key", .text key), ("upload_id", .text session.uploadId),
      ("parts", .int plan.partCount), ("size", .int size)]
    refine (started.attended.tallies_uploadParts fitting (keepsOpen.since started.source) plan
      container.bufferSize plan.partCount.toNat session).bind
      (fun sent events next done sentDealt => ?_) (fun failure events done => ?_)
    · obtain ⟨final, ended, isSent, troubledParts⟩ := done
      cases isSent
      cases ended with
      | error failure =>
        exact .at_once sentDealt.attended rfl ⟨_, _, rfl,
          onlyTroubled_of ((troubledParts failure rfl).before started.source)⟩
      | ok _ =>
        refine (sentDealt.attended.tallies_complete fitting final size).attempt_bind
          (fun outcome events last troubledLast lastDealt => ?_)
        cases outcome with
        | ok _ => exact .at_once lastDealt.attended rfl ⟨_, _, rfl, onlyTroubled_ok _ _⟩
        | error failure =>
          refine .at_once lastDealt.attended rfl ⟨_, _, rfl, onlyTroubled_of ?_⟩
          exact (troubledLast failure rfl).before (sentDealt.source.trans started.source)
    · obtain ⟨_, _, same, _⟩ := done
      cases same

theorem tallies_borrowForPlan
    {container : Container}
    (attended : Attended origin borrowers depot)
    (leavesOpen : LeavesOpen container.store origin.schedule)
    (fitting : origin.schedule.AnswersFit)
    (keepsOpen : depot.source.KeepsOpen)
    (key : String)
    (size : Int)
    (plan : PartPlan) :
    Yields (container.borrowForPlan key size plan) depot (fun outcome next => exists events,
      Dealt origin borrowers Request.IsSingle depot events (tallied events) next ∧
        exists progress ended, outcome = .ok (progress, ended) ∧
          (events = [] ∧ progress = .notStarted ∨
            next.current ≠ none ∧ OnlyTroubled depot.source ended)) := by
  refine (attended.acquires leavesOpen).attempt_bind (fun acquired middle done => ?_)
  cases acquired with
  | error failure =>
    obtain ⟨idle, unmade, _, attendedMiddle⟩ := done
    exact ⟨[], .of_idle attendedMiddle idle (absurd unmade), _, _, rfl, .inl ⟨rfl, rfl⟩⟩
  | ok reference =>
    obtain ⟨idle, rfl, attendedMiddle⟩ := done
    have keepsOpenMiddle : middle.source.KeepsOpen := idle.source ▸ keepsOpen
    refine Yields.bind (attendedMiddle.tallies_followPlan fitting keepsOpenMiddle container key size
      plan) (fun followed left done => ?_) (fun failure left done => ?_)
    · obtain ⟨events, dealt, progress, ended, same, troubled⟩ := done
      cases same
      refine (dealt.attended.release).attempt_bind (fun given next released => ?_)
      obtain ⟨rfl, attendedNext, idleLeft, has⟩ := released
      rw [idle.source] at troubled
      exact ⟨events, (dealt.since idle (fun _ => attendedMiddle.hasClient)).later attendedNext
        idleLeft (fun _ => has), progress, ended, rfl, .inr ⟨has, troubled⟩⟩
    · obtain ⟨_, _, _, _, same, _⟩ := done
      cases same

inductive AbortTallied (events : List Event) (entered : Tally) : Except Failure Unit -> Prop
  | aborted (counted : tallied events = entered + { abortSuccesses := 1 }) :
      AbortTallied events entered (.ok ())
  | failed {failure : Failure}
      (counted : tallied events = entered + { abortFailures := 1 })
      (ordinary : failure.isA .ordinary = true) :
      AbortTallied events entered (.error failure)

theorem tallies_abort
    {container : Container}
    (attended : Attended origin borrowers depot)
    (leavesOpen : LeavesOpen container.store origin.schedule)
    (fitting : origin.schedule.AnswersFit)
    (progress : UploadProgress)
    (made : progress = .notStarted ∨ depot.current ≠ none)
    (failure : Failure) :
    Deals origin borrowers Request.IsSingle (container.abort progress failure) depot
      (fun events outcome => (progress = .notStarted -> events = []) ∧
        exists reported, outcome = .ok reported ∧ reported.problem = failure.problem) := by
  cases progress with
  | notStarted => exact .at_once attended rfl ⟨fun _ => rfl, failure, rfl, rfl⟩
  | completed => exact .at_once attended rfl ⟨(by rintro ⟨⟩), failure, rfl, rfl⟩
  | active session =>
    have started : UploadProgress.active session ≠ .notStarted := by rintro ⟨⟩
    have hasClient : depot.current ≠ none := made.resolve_left started
    let request := Request.abortUpload session.bucket session.key session.uploadId
    -- The abort is counted after the client was given back.
    have lends : Yields (container.store.borrowing
        (Client.abortUpload session.bucket session.key session.uploadId)) depot
        (fun outcome next => exists events entered,
          Dealt origin borrowers Request.IsSingle depot events entered next ∧
            AbortTallied events entered outcome) := by
      refine attended.lends leavesOpen (fun middle attendedMiddle _ => ?_)
        (fun _ unmade _ => absurd unmade hasClient)
      have single : request.IsSingle := by rintro ⟨⟩
      refine (attendedMiddle.answers fitting request single _).bind (fun answer left asked => ?_)
        (fun failure left asked => ?_)
      · obtain ⟨given, fits, dealt, isOutcome⟩ := asked
        cases fits with
        | failed _ _ => cases isOutcome
        | answered answer _ => exact ⟨_, 0, dealt, .aborted (tallied_events _ _)⟩
      · obtain ⟨given, fits, dealt, isOutcome⟩ := asked
        cases fits with
        | answered _ _ => cases isOutcome
        | failed other fault =>
          cases isOutcome
          exact ⟨_, 0, dealt, .failed (tallied_events _ _) (fault.reported_ordinary _)⟩
    refine Yields.attempt_bind lends (fun outcome left done => ?_)
    obtain ⟨events, entered, dealt, answered⟩ := done
    cases answered with
    | aborted same =>
      have counted := dealt.counted (fun metrics => metrics.tally_countAbort .success)
      rw [show entered + _ = tallied events from same.symm] at counted
      refine yields_count _ (yields_log _ ?_)
      exact ⟨events, counted.logged _ _ _, (absurd · started), failure, rfl, rfl⟩
    | failed same ordinary =>
      have counted := dealt.counted (fun metrics => metrics.tally_countAbort .failure)
      rw [show entered + _ = tallied events from same.symm] at counted
      simp only [if_pos ordinary]
      refine yields_count _ (yields_log _ ?_)
      refine ⟨events, counted.logged _ _ _, (absurd · started), _, rfl, ?_⟩
      rw [Container.attachAbort]
      split
      next => rfl
      next => rfl

end Attended

def WriteComplains
    {α : Type}
    (source : Source)
    (events : List Event)
    (outcome : Except Failure α) : Prop :=
  forall failure, outcome = .error failure ->
    events = [] ∨ failure.isReport = true ∨ source.Raises failure.problem

theorem writeComplains_at_once {α : Type} (source : Source) (outcome : Except Failure α) :
    WriteComplains source [] outcome :=
  fun _ _ => .inl rfl

theorem Troubled.uploadFailure
    {source : Source}
    {failure : Failure}
    (troubled : Troubled source failure)
    (key : String) :
    (Container.uploadFailure key failure).problem.isReport = true ∨
      source.Raises (Container.uploadFailure key failure).problem := by
  rw [Container.uploadFailure]
  cases backend : failure.isA .backend with
  | true => exact .inl rfl
  | false => exact troubled.resolve_left (by simp [backend])

namespace Attended

variable {origin depot : Depot} {borrowers : Nat}

theorem tallies_uploadSingle
    {container : Container}
    (attended : Attended origin borrowers depot)
    (leavesOpen : LeavesOpen container.store origin.schedule)
    (fitting : origin.schedule.AnswersFit)
    (keepsOpen : depot.source.KeepsOpen)
    (key : String)
    (size : Int) :
    Deals origin borrowers Request.IsSingle (container.uploadSingle key size) depot
      (WriteComplains depot.source) := by
  refine Yields.check (fun _ => ⟨[], .refl attended, writeComplains_at_once _ _⟩) (fun _ => ?_)
  refine Yields.check (fun _ => ⟨[], .refl attended, writeComplains_at_once _ _⟩) (fun _ => ?_)
  let config := container.store.config
  have puts : Deals origin borrowers Request.IsSingle
      (container.store.borrowing (Client.putObject config.bucket key size config.uploadSettings))
      depot (fun events outcome => events = [] ∨ OnlyTroubled depot.source outcome) := by
    refine attended.deals_borrowing leavesOpen (fun middle attendedMiddle idle => ?_)
      (fun _ _ _ => .inl rfl)
    rw [<- idle.source] at keepsOpen ⊢
    exact (attendedMiddle.tallies_putObject fitting keepsOpen _ _ _ _).mono
      (fun _ _ troubled => .inr troubled)
  refine puts.attempt_bind (fun outcome events left ended dealt => ?_)
  cases outcome with
  | ok _ =>
    refine .count_bind (fun metrics => by simp) ?_
    exact .log_last (dealt.attended.logs rfl) nofun
  | error failure =>
    by_cases backend : failure.isA .backend = true
    next =>
      simp only [if_pos backend]
      refine .count_bind (fun metrics => by simp) (.at_once (dealt.attended.logs rfl) rfl ?_)
      rintro _ ⟨⟩
      exact .inr (.inl rfl)
    next =>
      simp only [if_neg backend]
      refine .at_once dealt.attended rfl ?_
      rw [List.append_nil]
      rintro _ ⟨⟩
      exact ended.imp_right (fun troubled => (troubled failure rfl).resolve_left backend)

theorem tallies_uploadMultipart
    {container : Container}
    (attended : Attended origin borrowers depot)
    (leavesOpen : LeavesOpen container.store origin.schedule)
    (fitting : origin.schedule.AnswersFit)
    (keepsOpen : depot.source.KeepsOpen)
    (key : String)
    (size : Int) :
    Deals origin borrowers Request.IsSingle (container.uploadMultipart key size) depot
      (WriteComplains depot.source) := by
  refine Yields.check (fun _ => ⟨[], .refl attended, writeComplains_at_once _ _⟩) (fun _ => ?_)
  refine Yields.check (fun _ => ⟨[], .refl attended, writeComplains_at_once _ _⟩) (fun _ => ?_)
  cases planned : PartPlan.ofSizes size container.bufferSize with
  | error error => exact Deals.at_once attended rfl (writeComplains_at_once _ _)
  | ok plan =>
    refine .after (show checked (.ok plan) depot = _ from rfl) ?_
    refine Yields.check (fun _ => ⟨[], .refl attended, writeComplains_at_once _ _⟩) (fun _ => ?_)
    refine Yields.check (fun _ => ⟨[], .refl attended, writeComplains_at_once _ _⟩) (fun _ => ?_)
    refine (attended.tallies_borrowForPlan leavesOpen fitting keepsOpen key size plan).bind
      (fun followed left done => ?_) (fun failure left done => ?_)
    · obtain ⟨events, dealt, progress, ended, same, begun⟩ := done
      cases same
      refine Deals.after dealt ?_
      cases ended with
      | ok session =>
        refine .count_bind (fun metrics => by simp) ?_
        exact .log_last (dealt.attended.logs rfl) nofun
      | error failure =>
        have made : progress = .notStarted ∨ left.current ≠ none := begun.imp And.right And.left
        refine (dealt.attended.tallies_abort leavesOpen fitting progress made _).bind
          (fun reported later next aborted nextDealt => ?_) (fun other later aborted => ?_)
        · obtain ⟨unasked, _, same, problem⟩ := aborted
          cases same
          refine .count_bind (fun metrics => by simp)
            (.at_once (nextDealt.attended.logs rfl) rfl ?_)
          have raised : (Container.withUploadCause reported failure).problem =
              (Container.uploadFailure key failure).problem := by
            rw [Container.withUploadCause]
            split
            next => exact problem
            next => exact problem
          rintro _ ⟨⟩
          rcases begun with ⟨rfl, notStarted⟩ | ⟨_, troubled⟩
          next => exact .inl (by rw [unasked notStarted]; rfl)
          next =>
            rw [Failure.isReport, raised]
            exact .inr ((troubled failure rfl).uploadFailure key)
        · obtain ⟨_, _, same, _⟩ := aborted
          cases same
    · obtain ⟨_, _, _, _, same, _⟩ := done
      cases same

theorem tallies_writeBlob
    {container : Container}
    (attended : Attended origin borrowers depot)
    (leavesOpen : LeavesOpen container.store origin.schedule)
    (fitting : origin.schedule.AnswersFit)
    (keepsOpen : depot.source.KeepsOpen)
    (name : String)
    (size : Int)
    (failIfExists : Bool) :
    Deals origin borrowers Request.IsSingle (container.writeBlob name size failIfExists) depot
      (WriteComplains depot.source) := by
  have uploads : forall middle, Attended origin borrowers middle -> middle.source = depot.source ->
      Deals origin borrowers Request.IsSingle
        (if size <= container.bufferSize then container.uploadSingle (container.key name) size
          else container.uploadMultipart (container.key name) size) middle
        (WriteComplains depot.source) := by
    intro middle attendedMiddle source
    rw [<- source] at keepsOpen ⊢
    split
    next => exact attendedMiddle.tallies_uploadSingle leavesOpen fitting keepsOpen _ _
    next => exact attendedMiddle.tallies_uploadMultipart leavesOpen fitting keepsOpen _ _
  rw [Container.writeBlob]
  cases failIfExists with
  | false => exact uploads depot attended rfl
  | true => exact .log_bind (uploads _ (attended.logs rfl) rfl)

end Attended

end BlobDepot
