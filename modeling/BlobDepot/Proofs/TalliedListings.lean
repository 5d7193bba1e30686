import BlobDepot.Proofs.TalliedWork

set_option autoImplicit false

namespace BlobDepot

open BlobDepot.Action

namespace Answer

def isTruncated (answer : Answer) : Bool :=
  (answer.description.field "IsTruncated").isTruthy

def token (answer : Answer) : Value :=
  answer.description.field "NextContinuationToken"

def page (answer : Answer) (bucket start : String) (entries : List (String × Int)) :
    ListingPage where
  bucket := bucket
  start := start
  entries := entries.map (fun entry => (.text entry.1, entry.2))
  truncated := answer.isTruncated
  token := answer.token

def stalls (answer : Answer) : Bool :=
  answer.isTruncated && !answer.token.isTruthy

end Answer

def Event.stalls : Event -> Bool
  | .answered (.listObjects ..) (.ok answer) => answer.stalls
  | _ => false

/-- The last answer leaves a listing without a page to go on with. -/
def stalled (events : List Event) : Bool :=
  events.getLast?.any Event.stalls

theorem stalled_append (events : List Event) {later : List Event} (some : later ≠ []) :
    stalled (events ++ later) = stalled later := by
  rw [stalled, stalled, List.getLast?_append_of_ne_nil _ some]

theorem stalled_events (bucket start : String) (token : Option Value) (answer : Answer) :
    stalled ((Request.listObjects bucket start token).events (.ok answer)) = answer.stalls := by
  simp [stalled, Request.events, Event.stalls]

theorem Answer.Lists.pageOf
    {answer : Answer}
    (lists : answer.Lists)
    (bucket start : String) :
    exists listed, Client.pageOf bucket start answer.description =
      .ok (answer.page bucket start listed) := by
  obtain ⟨fields, described, contents⟩ := lists
  obtain ⟨items, listed, found, reads⟩ : exists items, exists listed : List (String × Int),
      ((Value.lookup "Contents" fields).getD (.list [])).items = .ok items ∧
        items.mapM Client.listed =
          .ok (listed.map (fun entry => (.text entry.1, entry.2))) := by
    rcases contents with absent | ⟨items, listed, present, describe⟩
    next => exact ⟨[], [], by rw [absent]; rfl, rfl⟩
    next =>
      refine ⟨items, listed, by rw [present]; rfl, mapM_of_forall₂ ?_⟩
      rw [List.forall₂_map_right_iff]
      exact describe.imp (fun _ _ => listed_of_describes)
  refine ⟨listed, ?_⟩
  rw [Client.pageOf, Answer.page, Answer.isTruncated, Answer.token, described]
  simp only [Value.findEntry, bind, Except.bind, found, reads]
  rfl

theorem Answer.Shows.following
    {answer : Answer}
    {listed : List (String × Int)}
    {following : Option Value}
    (shows : answer.Shows listed following) :
    answer.isTruncated = following.isSome ∧
      forall token, following = some token -> answer.token = token := by
  obtain ⟨fields, described, _, truncated, tokens⟩ := shows
  rw [Answer.isTruncated, Answer.token, described]
  refine ⟨truncated, ?_⟩
  rintro token named
  rw [Value.field, (tokens token named).1]
  rfl

/-- So many pages are enough to go on from a page, if pages have keys: one for each call that may be
disrupted and for each key, or, where no call is disrupted, one for each key from the index on that
the page names. -/
def Enough (depot : Depot) (page : ListingPage) (fuel : Nat) : Prop :=
  let calls := depot.journal.callCount .listObjects
  let keys := Service.keysFrom (depot.service.objects page.bucket) page.start
  0 < depot.service.pageSize -> page.truncated = true ->
    (depot.schedule.horizon - calls) + keys.length + 1 <= fuel ∨
      depot.schedule.horizon <= calls ∧ exists index,
        Service.tokenIndex? (some page.token) = some index ∧ index < keys.length ∧
          keys.length - index <= fuel

theorem enough_first (depot : Depot) (page : ListingPage) :
    Enough depot page (Container.pagesAtMost depot page.bucket) := by
  intro _ _
  have keys := length_keysFrom_le (depot.service.objects page.bucket) page.start
  rw [Container.pagesAtMost]
  omega

theorem Enough.pos
    {depot : Depot}
    {page : ListingPage}
    {fuel : Nat}
    (enough : Enough depot page fuel)
    (paged : 0 < depot.service.pageSize)
    (goes : page.truncated = true) :
    0 < fuel := by
  rcases enough paged goes with many | ⟨_, index, _, before, left⟩ <;> omega

theorem Enough.next
    {origin depot next : Depot}
    {borrowers others : Nat}
    {page : ListingPage}
    {answer : Answer}
    (enough : Enough depot page (others + 1))
    (goes : page.truncated = true)
    (sized : next.service.pageSize = depot.service.pageSize)
    (given : depot.pageAnswer page.bucket page.start (depot.journal.callCount .listObjects + 1)
      (some page.token) = .ok answer)
    (asked : PageAsked origin borrowers (.listObjects page.bucket page.start (some page.token))
      depot (.ok answer) next)
    (entries : List (String × Int)) :
    Enough next (answer.page page.bucket page.start entries) others := by
  intro pagedNext goesOn
  have paged := sized ▸ pagedNext
  have bound := enough paged goes
  simp only [Answer.page] at goesOn ⊢
  simp only [asked.schedule, asked.calls, asked.like.1]
  by_cases beyond : depot.schedule.horizon <= depot.journal.callCount .listObjects
  next =>
    right
    -- The service itself answers, and the page after the next one begins further on.
    have calm : depot.schedule.ListsCalmly (depot.journal.callCount .listObjects + 1) :=
      fun later far => depot.schedule.calm_beyond _ _ (by omega)
    rw [pageAnswer_of_calm calm] at given
    cases named : Service.tokenIndex? (some page.token) with
    | none => simp [named] at given
    | some index =>
      simp only [named, Except.ok.injEq] at given
      subst given
      obtain ⟨truncated, token⟩ := (Service.page_shows _ page.start index _).following
      rw [truncated, Service.following?] at goesOn
      split at goesOn
      next more =>
        have isToken := token _ (if_pos more)
        refine ⟨by omega, index + depot.service.pageSize, ?_, more, ?_⟩
        · rw [isToken]
          exact Service.tokenIndex?_toString _
        · rcases bound with many | ⟨_, other, isIndex, _, left⟩
          next => omega
          next =>
            rw [named] at isIndex
            cases isIndex
            omega
      next => cases goesOn
  next =>
    left
    rcases bound with many | ⟨far, _⟩ <;> omega

def ListingEnds {α : Type} (events : List Event) (outcome : Except Failure α) : Prop :=
  if stalled events then outcome = .error (.of (.argument .noContinuation))
  else forall failure, outcome = .error failure -> failure.isA .backend = true

theorem ListingEnds.after
    {α : Type}
    {events : List Event}
    {outcome : Except Failure α}
    (ends : ListingEnds events outcome)
    (some : events ≠ [])
    (prior : List Event) :
    ListingEnds (prior ++ events) outcome := by
  rwa [ListingEnds, stalled_append prior some]

theorem listingEnds_refused
    {α : Type}
    {failure : Failure}
    (backend : failure.isA .backend = true)
    (bucket start : String)
    (token : Option Value)
    (fault : Failure) :
    ListingEnds ((Request.listObjects bucket start token).events (.error fault))
      (.error failure : Except Failure α) := by
  have unstalled : stalled ((Request.listObjects bucket start token).events (.error fault)) =
      false := by simp [stalled, Request.events, Event.stalls]
  rw [ListingEnds, unstalled]
  rintro _ ⟨⟩
  exact backend

namespace Attended

variable {origin depot : Depot} {borrowers : Nat}

theorem fetchesPage
    (attended : Attended origin (borrowers + 1) depot)
    (fitting : origin.schedule.AnswersFit)
    (bucket start : String)
    (token : Option Value) :
    let request := Request.listObjects bucket start token
    Yields (Client.listPage bucket start token) depot (fun outcome next => exists given,
      depot.pageAnswer bucket start (depot.journal.callCount .listObjects + 1) token = given ∧
        Dealt origin (borrowers + 1) Request.IsSingle depot (request.events given) 0 next ∧
        PageAsked origin (borrowers + 1) request depot given next ∧
        match given with
        | .error _ => exists failure, outcome = .error failure ∧ failure.isA .backend = true
        | .ok answer => exists entries, outcome = .ok (answer.page bucket start entries)) := by
  intro request
  have single : request.IsSingle := nofun
  have asks : Yields (Client.ask request "Failed to list objects") depot (fun outcome next =>
      exists given,
        depot.pageAnswer bucket start (depot.journal.callCount .listObjects + 1) token = given ∧
          Dealt origin (borrowers + 1) Request.IsSingle depot (request.events given) 0 next ∧
          PageAsked origin (borrowers + 1) request depot given next ∧
          FitsRequest .listObjects given ∧
          outcome = given.mapError (fun failure => failure.reported "Failed to list objects")) := by
    refine ((attended.askPage (fitting.keepsOpen request) bucket start token).and
      (attended.answers fitting request single _)).mono (fun outcome next both => ?_)
    obtain ⟨⟨_, asked⟩, given, fits, dealt, isOutcome⟩ := both
    -- Both tell of the one answer that the exchange shows.
    have shown := List.append_cancel_left (asked.exchange.symm.trans dealt.exchange)
    simp only [Request.events, List.cons.injEq, Event.answered.injEq, and_true] at shown
    exact ⟨given, shown.2.2, dealt, shown.2.2 ▸ asked, fits, isOutcome⟩
  refine asks.bind (fun answer next done => ?_) (fun failure next done => ?_)
  · obtain ⟨given, isGiven, dealt, asked, fits, isOutcome⟩ := done
    cases fits with
    | failed _ _ => cases isOutcome
    | answered _ lists =>
      cases isOutcome
      obtain ⟨entries, page⟩ := Answer.Lists.pageOf lists bucket start
      rw [page]
      exact ⟨_, isGiven, dealt, asked, entries, rfl⟩
  · obtain ⟨given, isGiven, dealt, asked, fits, isOutcome⟩ := done
    cases fits with
    | answered _ _ => cases isOutcome
    | failed _ fault =>
      cases isOutcome
      exact ⟨_, isGiven, dealt, asked, _, rfl, fault.reported_backend _⟩

theorem tallies_lastPage
    {prior : List Event}
    {answer : Answer}
    (attended : Attended origin borrowers depot)
    (container : Container)
    (last : stalled prior = answer.stalls)
    (ends : answer.isTruncated = false)
    (fuel : Nat)
    (bucket start : String)
    (entries : List (String × Int))
    (listing : Container.Listing) :
    Yields (container.drain fuel (answer.page bucket start entries) listing) depot
      (fun outcome next => exists events, Dealt origin borrowers Request.IsSingle depot events
        ({ listingPages := 1 } + tallied events) next ∧
          (0 < depot.service.pageSize -> ListingEnds (prior ++ events) outcome)) := by
  have page : container.drain fuel (answer.page bucket start entries) listing depot = _ :=
    Container.drain_last (addEntries_texts container.keyPath.length entries listing) ends fuel depot
  have idle : Dealt origin borrowers Request.IsSingle depot [] 0 depot := .refl attended
  rw [Yields, page]
  refine ⟨[], ?_, fun _ => ?_⟩
  · exact zero_add (Tally.mk ..) ▸ idle.counted Metrics.tally_countPage
  · have unstalled : stalled prior = false := by rw [last, Answer.stalls, ends, Bool.false_and]
    rw [ListingEnds, List.append_nil, unstalled]
    rintro _ ⟨⟩

theorem tallies_nextPages
    {prior : List Event}
    {answer : Answer}
    {others : Nat}
    {container : Container}
    {bucket start : String}
    {entries : List (String × Int)}
    (attended : Attended origin (borrowers + 1) depot)
    (fitting : origin.schedule.AnswersFit)
    (last : stalled prior = answer.stalls)
    (goes : answer.isTruncated = true)
    (enough : Enough depot (answer.page bucket start entries) (others + 1))
    (listing : Container.Listing)
    (rest : forall next before later listed, Attended origin (borrowers + 1) next ->
      stalled before = Answer.stalls later ->
      Enough next (later.page bucket start listed) others ->
      Yields (container.drain others (later.page bucket start listed) listing) next
        (fun outcome final => exists events,
          Dealt origin (borrowers + 1) Request.IsSingle next events
            ({ listingPages := 1 } + tallied events) final ∧
            (0 < next.service.pageSize -> ListingEnds (before ++ events) outcome))) :
    Deals origin (borrowers + 1) Request.IsSingle
      (Client.listNext (answer.page bucket start entries) >>= fun page =>
        container.drain others page listing) depot
      (fun events outcome =>
        0 < depot.service.pageSize -> ListingEnds (prior ++ events) outcome) := by
  cases named : answer.token.isTruthy with
  | false =>
    have stalls : stalled prior = true := by simp [last, Answer.stalls, goes, named]
    have fails : Client.listNext (answer.page bucket start entries) depot =
        (.error (.of (.argument .noContinuation)), depot) := by
      simp [Client.listNext, Answer.page, goes, named]
    refine .at_once attended (run_bind_error _ fails) (fun _ => ?_)
    rw [ListingEnds, List.append_nil, if_pos stalls]
  | true =>
    have follows : Client.listNext (answer.page bucket start entries) =
        Client.listPage bucket start (some answer.token) := by
      simp [Client.listNext, Answer.page, goes, named]
    rw [follows]
    let request := Request.listObjects bucket start (some answer.token)
    refine (attended.fetchesPage fitting bucket start _).bind
      (fun page next fetched => ?_) (fun failure next fetched => ?_)
    all_goals obtain ⟨given, isGiven, dealt, asked, shown⟩ := fetched
    · cases given with
      | error fault =>
        obtain ⟨_, failed, _⟩ := shown
        cases failed
      | ok later =>
        obtain ⟨listed, isPage⟩ := shown
        cases isPage
        refine (rest next (request.events (.ok later)) later listed asked.attended
          (stalled_events _ _ _ _)
          (enough.next goes dealt.pageSize isGiven asked listed)).mono
            (fun outcome final done => ?_)
        obtain ⟨events, dealtRest, ends⟩ := done
        have whole := dealt.trans dealtRest
        rw [zero_add] at whole
        refine ⟨request.events (.ok later) ++ events, ?_, fun paged => ?_⟩
        · rw [tallied_append, tallied_events]
          exact whole
        · exact (ends (dealt.pageSize.symm ▸ paged)).after (by simp [Request.events]) prior
    · cases given with
      | ok later =>
        obtain ⟨_, succeeded⟩ := shown
        cases succeeded
      | error fault =>
        obtain ⟨_, same, backend⟩ := shown
        cases same
        refine ⟨request.events (.error fault), ?_, fun _ => ?_⟩
        · rw [tallied_events]
          exact dealt
        · exact (listingEnds_refused backend _ _ _ _).after (by simp [Request.events]) prior

theorem tallies_drain
    {prior : List Event}
    {answer : Answer}
    {fuel : Nat}
    {bucket start : String}
    {entries : List (String × Int)}
    (attended : Attended origin (borrowers + 1) depot)
    (fitting : origin.schedule.AnswersFit)
    (container : Container)
    (last : stalled prior = answer.stalls)
    (enough : Enough depot (answer.page bucket start entries) fuel)
    (listing : Container.Listing) :
    Yields (container.drain fuel (answer.page bucket start entries) listing) depot
      (fun outcome next => exists events, Dealt origin (borrowers + 1) Request.IsSingle depot events
        ({ listingPages := 1 } + tallied events) next ∧
          (0 < depot.service.pageSize -> ListingEnds (prior ++ events) outcome)) := by
  induction fuel generalizing depot prior entries answer listing with
  | zero =>
    cases goes : answer.isTruncated with
    | false => exact attended.tallies_lastPage container last goes _ _ _ _ _
    | true =>
      have idle : Dealt origin (borrowers + 1) Request.IsSingle depot [] 0 depot := .refl attended
      rw [Yields, Container.drain_spent (addEntries_texts _ _ _) goes]
      refine ⟨[], ?_, fun paged => absurd (enough.pos paged goes) (Nat.lt_irrefl 0)⟩
      exact zero_add (Tally.mk ..) ▸ idle.counted Metrics.tally_countPage
  | succ others ih =>
    cases goes : answer.isTruncated with
    | false => exact attended.tallies_lastPage container last goes _ _ _ _ _
    | true =>
      refine Container.drain_next (addEntries_texts _ _ _) goes ?_
      have idle : Dealt origin (borrowers + 1) Request.IsSingle depot [] 0 depot := .refl attended
      have counted := idle.counted Metrics.tally_countPage
      refine Yields.mono (counted.attended.tallies_nextPages fitting last goes enough _
        (fun next before later listed attendedNext lastNext enoughNext =>
          ih attendedNext lastNext enoughNext _)) (fun outcome final done => ?_)
      obtain ⟨events, dealt, ends⟩ := done
      have whole := counted.trans dealt
      rw [List.nil_append, zero_add] at whole
      exact ⟨events, whole, ends⟩

theorem tallies_pages
    {container : Container}
    (attended : Attended origin (borrowers + 1) depot)
    (fitting : origin.schedule.AnswersFit)
    (selection : Option String) :
    Deals origin (borrowers + 1) Request.IsSingle (do
      let page <- Client.listObjects container.bucket (container.key (selection.getD ""))
      let bound := Container.pagesAtMost (<- get) container.bucket
      container.drain bound page .empty) depot
      (fun events outcome => 0 < depot.service.pageSize -> ListingEnds events outcome) := by
  let start := container.key (selection.getD "")
  let request := Request.listObjects container.bucket start none
  refine (attended.fetchesPage fitting container.bucket start none).bind
    (fun page next fetched => ?_) (fun failure next fetched => ?_)
  all_goals obtain ⟨given, _, dealt, asked, shown⟩ := fetched
  · cases given with
    | error fault =>
      obtain ⟨_, failed, _⟩ := shown
      cases failed
    | ok answer =>
      obtain ⟨listed, isPage⟩ := shown
      cases isPage
      have enough : Enough next (answer.page container.bucket start listed)
        (Container.pagesAtMost next container.bucket) := enough_first next _
      refine .after (run_get next) ?_
      refine (asked.attended.tallies_drain fitting container
        (stalled_events container.bucket start none answer) enough .empty).mono
          (fun outcome final done => ?_)
      obtain ⟨events, dealtRest, ends⟩ := done
      have whole := dealt.trans dealtRest
      rw [zero_add] at whole
      refine ⟨request.events (.ok answer) ++ events, ?_, fun paged => ends ?_⟩
      · rw [tallied_append, tallied_events]
        exact whole
      · rwa [dealt.pageSize]
  · cases given with
    | ok later =>
      obtain ⟨_, succeeded⟩ := shown
      cases succeeded
    | error fault =>
      obtain ⟨_, same, backend⟩ := shown
      cases same
      refine ⟨request.events (.error fault), ?_, fun _ => listingEnds_refused backend _ _ _ _⟩
      rw [tallied_events]
      exact dealt

theorem tallies_listBlobs
    {container : Container}
    (attended : Attended origin borrowers depot)
    (leavesOpen : LeavesOpen container.store origin.schedule)
    (fitting : origin.schedule.AnswersFit)
    (selection : Option String) :
    Deals origin borrowers Request.IsSingle (container.listBlobs selection) depot
      (fun events outcome => 0 < depot.service.pageSize ->
        if stalled events then outcome = .error (.of (.argument .noContinuation))
        else Complains events outcome) := by
  have borrows : Deals origin borrowers Request.IsSingle (container.store.borrowing do
      let page <- Client.listObjects container.bucket (container.key (selection.getD ""))
      let bound := Container.pagesAtMost (<- get) container.bucket
      container.drain bound page .empty) depot (fun events outcome =>
        events = [] ∨ (0 < depot.service.pageSize -> ListingEnds events outcome)) := by
    refine attended.deals_borrowing leavesOpen (fun middle attendedMiddle idle => ?_)
      (fun _ _ _ => .inl rfl)
    rw [<- idle.service]
    exact (attendedMiddle.tallies_pages fitting selection).mono (fun _ _ ends => .inr ends)
  refine borrows.attempt_bind (fun outcome events left ends dealt => ?_)
  cases outcome with
  | ok listing =>
    refine .at_once dealt.attended rfl (fun paged => ?_)
    rw [List.append_nil]
    split
    next stalls =>
      rcases ends with rfl | ends
      next => cases stalls
      next =>
        have failed := ends paged
        rw [ListingEnds, if_pos stalls] at failed
        cases failed
    next => exact .ok _ _
  | error failure =>
    refine .at_once dealt.attended rfl (fun paged => ?_)
    rw [List.append_nil]
    rcases ends with rfl | ends
    next => exact .at_once _
    next =>
      have failed := ends paged
      rw [ListingEnds] at failed
      split at failed
      next stalls =>
        cases failed
        rw [if_pos stalls]
        rfl
      next goes =>
        rw [if_neg goes, if_pos (failed failure rfl)]
        exact .report rfl _

end Attended

end BlobDepot
