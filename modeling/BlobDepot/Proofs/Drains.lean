import BlobDepot.Proofs.PageRequests
import BlobDepot.Proofs.Tenancy

set_option autoImplicit false

namespace BlobDepot

open BlobDepot.Action

/-- The requests of a listing from one page on, each with its token and with what comes of it, and
what they come to.  Every answer but the last one names the page after it. -/
inductive Drains (pageAnswer : Nat -> Option Value -> Except Failure Answer) :
    Nat -> Option Value -> List (Option Value × Except Failure Answer) ->
      Except Failure (List (String × Int)) -> Prop
  | last {number : Nat} {token : Option Value} {answer : Answer} {listed : List (String × Int)}
      (given : pageAnswer number token = .ok answer) (shows : answer.Shows listed none) :
      Drains pageAnswer number token [(token, .ok answer)] (.ok listed)
  | failed {number : Nat} {token : Option Value} {failure : Failure}
      (given : pageAnswer number token = .error failure) (fault : failure.IsFault) :
      Drains pageAnswer number token [(token, .error failure)] (.error failure)
  | next {number : Nat} {token : Option Value} {answer : Answer} {listed : List (String × Int)}
      {following : Value} {requests : List (Option Value × Except Failure Answer)}
      {ended : Except Failure (List (String × Int))}
      (given : pageAnswer number token = .ok answer) (shows : answer.Shows listed (some following))
      (rest : Drains pageAnswer (number + 1) (some following) requests ended) :
      Drains pageAnswer number token ((token, .ok answer) :: requests)
        (ended.map (fun others => listed ++ others))

theorem Drains.fault
    {pageAnswer : Nat -> Option Value -> Except Failure Answer}
    {number : Nat}
    {token : Option Value}
    {requests : List (Option Value × Except Failure Answer)}
    {ended : Except Failure (List (String × Int))}
    (drains : Drains pageAnswer number token requests ended)
    {failure : Failure}
    (failed : ended = .error failure) :
    failure.IsFault := by
  induction drains with
  | last given shows => cases failed
  | failed given fault =>
    cases failed
    exact fault
  | @next _ _ _ _ _ _ ended _ _ _ ih =>
    apply ih
    cases ended with
    | ok listed => cases failed
    | error other =>
      cases failed
      rfl

namespace Container

theorem drain_last
    {container : Container}
    {page : ListingPage}
    {listing longer : Listing}
    (adds : addEntries container.keyPath.length page.entries listing = .ok longer)
    (ends : page.truncated = false)
    (pagesAtMost : Nat)
    (depot : Depot) :
    container.drain pagesAtMost page listing depot = (.ok longer, { depot with
      journal := depot.journal.count
        (fun metrics => { metrics with listingPages := metrics.listingPages + 1 }) }) := by
  rw [drain, run_bind_ok _ (run_count _ depot), adds, ends]
  rfl

theorem drain_spent
    {container : Container}
    {page : ListingPage}
    {listing longer : Listing}
    (adds : addEntries container.keyPath.length page.entries listing = .ok longer)
    (goes : page.truncated = true)
    (depot : Depot) :
    container.drain 0 page listing depot =
      (.error (.of (.assertion "listing does not end")), { depot with
        journal := depot.journal.count
          (fun metrics => { metrics with listingPages := metrics.listingPages + 1 }) }) := by
  rw [drain, run_bind_ok _ (run_count _ depot), adds, goes]
  rfl

theorem drain_next
    {container : Container}
    {page : ListingPage}
    {listing longer : Listing}
    {others : Nat}
    {depot : Depot}
    {expected : Except Failure Listing -> Depot -> Prop}
    (adds : addEntries container.keyPath.length page.entries listing = .ok longer)
    (goes : page.truncated = true)
    (rest : Yields (Client.listNext page >>= fun next => container.drain others next longer)
      { depot with
        journal := depot.journal.count
          (fun metrics => { metrics with listingPages := metrics.listingPages + 1 }) } expected) :
    Yields (container.drain (others + 1) page listing) depot expected := by
  rw [Yields, drain, run_bind_ok _ (run_count _ depot), adds, goes]
  exact rest

end Container

def nameOf (pathLength : Nat) (key : String) : String :=
  String.ofList (key.toList.drop pathLength)

/-- A listing with more entries; a later entry of a name takes the place of an earlier one. -/
def Container.Listing.extend
    (listing : Container.Listing)
    (pathLength : Nat)
    (listed : List (String × Int)) : Container.Listing :=
  listed.foldl (fun longer entry => Table.set longer (nameOf pathLength entry.1) entry.2) listing

theorem addEntries_texts
    (pathLength : Nat)
    (listed : List (String × Int))
    (listing : Container.Listing) :
    Container.addEntries pathLength (listed.map (fun entry => (.text entry.1, entry.2))) listing =
      .ok (listing.extend pathLength listed) := by
  induction listed generalizing listing with
  | nil => rfl
  | cons entry rest ih =>
    rw [List.map_cons, Container.addEntries]
    exact ih _

def lastSize? (pathLength : Nat) (listed : List (String × Int)) (name : String) : Option Int :=
  (listed.reverse.find? (fun entry => nameOf pathLength entry.1 == name)).map Prod.snd

theorem get?_extend
    (pathLength : Nat)
    (listed : List (String × Int))
    (listing : Container.Listing)
    (name : String) :
    Table.get? (listing.extend pathLength listed) name =
      (lastSize? pathLength listed name).or (Table.get? listing name) := by
  induction listed generalizing listing with
  | nil => rfl
  | cons entry rest ih =>
    rw [Container.Listing.extend, List.foldl_cons]
    refine (ih _).trans ?_
    rw [Table.get?_set, lastSize?, lastSize?, List.reverse_cons, List.find?_append]
    cases found : rest.reverse.find? (fun entry => nameOf pathLength entry.1 == name) with
    | some last => simp
    | none => by_cases hit : nameOf pathLength entry.1 = name <;> simp [hit]

def listingEvents
    (bucket start : String)
    (requests : List (Option Value × Except Failure Answer)) : List Event :=
  requests.flatMap (fun asked => (Request.listObjects bucket start asked.1).events asked.2)

structure DrainEnd
    (origin : Depot)
    (borrowers : Nat)
    (container : Container)
    (start : String)
    (listing : Container.Listing)
    (depot : Depot)
    (requests : List (Option Value × Except Failure Answer))
    (ended : Except Failure (List (String × Int)))
    (outcome : Except Failure Container.Listing)
    (next : Depot) : Prop where
  attended : Attended origin borrowers next
  exchange : next.exchange = depot.exchange ++ listingEvents container.bucket start requests
  outcome : outcome = match ended with
    | .ok listed => .ok (listing.extend container.keyPath.length listed)
    | .error failure => .error (failure.reported "Failed to list objects")
  like : depot.service.ListsLike next.service

theorem DrainEnd.next
    {origin depot middle left : Depot}
    {borrowers : Nat}
    {container : Container}
    {start : String}
    {token : Option Value}
    {answer : Answer}
    {listed : List (String × Int)}
    {listing : Container.Listing}
    {requests : List (Option Value × Except Failure Answer)}
    {ended : Except Failure (List (String × Int))}
    {outcome : Except Failure Container.Listing}
    (asked : PageAsked origin borrowers (.listObjects container.bucket start token) depot
      (.ok answer) middle)
    (done : DrainEnd origin borrowers container start
      (listing.extend container.keyPath.length listed) middle requests ended outcome left) :
    DrainEnd origin borrowers container start listing depot ((token, .ok answer) :: requests)
      (ended.map (fun others => listed ++ others)) outcome left := by
  refine ⟨done.attended, ?_, ?_, asked.like.trans done.like⟩
  · rw [done.exchange, asked.exchange]
    simp [listingEvents]
  · rw [done.outcome]
    cases ended with
    | error failure => rfl
    | ok others => simp [Except.map, Container.Listing.extend]

theorem listNext_following
    {following : Value}
    (truthy : following.isTruthy = true)
    (bucket start : String)
    (entries : List (Value × Int)) :
    Client.listNext ⟨bucket, start, entries, (some following).isSome, following⟩ =
      Client.listPage bucket start (some following) := by
  simp [Client.listNext, truthy]

theorem Drains.fetches
    {origin depot : Depot}
    {borrowers number fuel : Nat}
    {container : Container}
    {start : String}
    {pageAnswer : Nat -> Option Value -> Except Failure Answer}
    {token : Option Value}
    {requests : List (Option Value × Except Failure Answer)}
    {ended : Except Failure (List (String × Int))}
    {rest : ListingPage -> Action Container.Listing}
    {listing : Container.Listing}
    (drains : Drains pageAnswer number token requests ended)
    (attended : Attended origin (borrowers + 1) depot)
    (keepsOpen : origin.schedule.KeepsOpen .listObjects)
    (answers : depot.pageAnswer container.bucket start = pageAnswer)
    (numbered : number = depot.journal.callCount .listObjects + 1)
    (enough : requests.length <= fuel + 1)
    (goesOn : forall page next, depot.service.ListsLike next.service ->
      next.schedule = depot.schedule -> rest page next = container.drain fuel page listing next) :
    Yields (Client.listPage container.bucket start token >>= rest) depot
      (DrainEnd origin (borrowers + 1) container start listing depot requests ended) := by
  -- The listing grows and the bound shrinks from page to page, so both are kept general.
  induction drains generalizing depot fuel rest listing with
  | last given shows =>
    rw [<- answers, numbered] at given
    obtain ⟨named, next, _, ran, asked⟩ := attended.listPage_shown keepsOpen given shows
    refine .after ran ?_
    rw [Yields, goesOn _ next asked.like asked.schedule,
      Container.drain_last (addEntries_texts _ _ _) rfl]
    have counted := asked.counted
      (fun metrics => { metrics with listingPages := metrics.listingPages + 1 })
    exact ⟨counted.attended, by rw [counted.exchange]; simp [listingEvents], rfl, counted.like⟩
  | failed given fault =>
    rw [<- answers, numbered] at given
    obtain ⟨next, ran, asked⟩ := attended.listPage_fault keepsOpen given fault
    rw [Yields, run_bind_error _ ran]
    exact ⟨asked.attended, by rw [asked.exchange]; simp [listingEvents], rfl, asked.like⟩
  | @next number token answer listed following requests ended given shows drains ih =>
    rw [<- answers, numbered] at given
    obtain ⟨named, next, isNamed, ran, asked⟩ := attended.listPage_shown keepsOpen given shows
    have isToken : named = following := isNamed following rfl
    have truthy : following.isTruthy = true := by
      obtain ⟨_, _, _, _, tokens⟩ := shows
      exact (tokens following rfl).2
    cases fuel with
    | zero =>
      -- There is another request at least.
      cases drains <;> simp at enough
    | succ others =>
      refine .after ran ?_
      rw [Yields, goesOn _ next asked.like asked.schedule]
      refine Container.drain_next (addEntries_texts _ _ _) rfl ?_
      have counted := asked.counted
        (fun metrics => { metrics with listingPages := metrics.listingPages + 1 })
      have fewer : requests.length <= others + 1 := by simpa using enough
      have later := ih counted.attended (by rw [counted.answers, answers])
        (by rw [counted.calls, numbered]) fewer
        (fun (page : ListingPage) left _ _ => Eq.refl (container.drain others page
          (listing.extend container.keyPath.length listed) left))
      rw [isToken, listNext_following truthy]
      exact later.mono (fun outcome left done => .next counted done)

namespace Service

def following? (objects : Table Body) (start : String) (index pageSize : Nat) : Option Value :=
  if index + pageSize < (keysFrom objects start).length then
    some (.text (toString (index + pageSize)))
  else none

theorem page_shows (objects : Table Body) (start : String) (index pageSize : Nat) :
    (Answer.data (page objects start index pageSize)).Shows
      ((((keysFrom objects start).drop index).take pageSize).map
        (fun key => (key, objects.sizeOf key)))
      (following? objects start index pageSize) := by
  have describe : List.Forall₂ Value.Describes
      ((((keysFrom objects start).drop index).take pageSize).map (fun key => Value.ofFields
        [("Key", .text key), ("Size", .int (objects.sizeOf key))]))
      ((((keysFrom objects start).drop index).take pageSize).map
        (fun key => (key, objects.sizeOf key))) := by
    rw [List.forall₂_map_left_iff, List.forall₂_map_right_iff, List.forall₂_same]
    exact fun key _ => ⟨_, rfl, rfl, .inl rfl⟩
  rw [following?]
  by_cases more : index + pageSize < (keysFrom objects start).length
  next =>
    refine ⟨_, rfl, .inr ⟨_, rfl, describe⟩, ?_, ?_⟩
    · simp [more, Value.lookup, Value.isTruthy]
    · rintro token isToken
      simp only [more, if_true, Option.some.injEq] at isToken
      subst isToken
      simp [more, Value.lookup, Value.isTruthy]
  next =>
    refine ⟨_, rfl, .inr ⟨_, rfl, describe⟩, ?_, ?_⟩
    · simp [more, Value.lookup, Value.isTruthy]
    · simp [more]

end Service

theorem Answer.Shows.unique
    {answer : Answer}
    {listed other : List (String × Int)}
    {following another : Option Value}
    (shows : answer.Shows listed following)
    (also : answer.Shows other another) :
    following = another := by
  obtain ⟨fields, described, _, truncated, token⟩ := shows
  obtain ⟨_, same, _, truncatedToo, tokenToo⟩ := also
  rw [described] at same
  cases same
  cases following with
  | none => cases another with
    | none => rfl
    | some _ => simp [truncated] at truncatedToo
  | some named => cases another with
    | none => simp [truncated] at truncatedToo
    | some also =>
      have first := (token named rfl).1
      rw [(tokenToo also rfl).1] at first
      exact first.symm

/-- The index of a page grows until there is nothing after it, so no more requests are made than
there are keys, and one. -/
theorem Drains.length_of_calm
    {depot : Depot}
    {bucket start : String}
    {number : Nat}
    {token : Option Value}
    {requests : List (Option Value × Except Failure Answer)}
    {ended : Except Failure (List (String × Int))}
    (drains : Drains (depot.pageAnswer bucket start) number token requests ended)
    (calm : depot.schedule.ListsCalmly number)
    {index : Nat}
    (named : Service.tokenIndex? token = some index) :
    let count := (Service.keysFrom (depot.service.objects bucket) start).length
    requests.length <= count - index + 1 ∧ (depot.service.pageSize = 0 -> count <= index) := by
  intro count
  induction drains generalizing index with
  | @last number token answer listed given shows =>
    rw [pageAnswer_of_calm calm, named, Except.ok.injEq] at given
    subst given
    have ends := shows.unique (Service.page_shows _ _ _ _)
    rw [Service.following?] at ends
    refine ⟨by simp, fun empty => ?_⟩
    -- Pages without entries would never end, so the answer could not be the last one.
    by_contra more
    have goes : index + depot.service.pageSize <
      (Service.keysFrom (depot.service.objects bucket) start).length := by omega
    rw [if_pos goes] at ends
    cases ends
  | failed given fault =>
    rw [pageAnswer_of_calm calm, named] at given
    cases given
  | @next number token answer listed following requests ended given shows drains ih =>
    rw [pageAnswer_of_calm calm, named, Except.ok.injEq] at given
    subst given
    have goes := shows.unique (Service.page_shows _ _ _ _)
    rw [Service.following?] at goes
    split at goes
    next more =>
      have later := ih (fun later far => calm later (by omega)) (by
        rw [goes]
        exact Service.tokenIndex?_toString _)
      obtain ⟨few, grows⟩ := later
      have positive : depot.service.pageSize ≠ 0 := by
        intro empty
        have stuck := grows empty
        omega
      refine ⟨?_, fun empty => absurd empty positive⟩
      rw [List.length_cons]
      omega
    next => cases goes

theorem Drains.length_le
    {depot : Depot}
    {bucket start : String}
    {number : Nat}
    {token : Option Value}
    {requests : List (Option Value × Except Failure Answer)}
    {ended : Except Failure (List (String × Int))}
    (drains : Drains (depot.pageAnswer bucket start) number token requests ended) :
    requests.length <= (depot.schedule.horizon + 1 - number) +
      (Service.keysFrom (depot.service.objects bucket) start).length + 1 := by
  induction drains with
  | last given shows => simp
  | failed given fault => simp
  | @next number token answer listed following requests ended given shows drains ih =>
    -- Each of the calls up to the horizon may be disrupted, and those after it are not.
    by_cases beyond : depot.schedule.horizon < number
    next =>
      have calm : depot.schedule.ListsCalmly number :=
        fun later far => depot.schedule.calm_beyond _ _ (by omega)
      cases named : Service.tokenIndex? token with
      | none =>
        rw [pageAnswer_of_calm calm, named] at given
        cases given
      | some index =>
        have few := ((Drains.next given shows drains).length_of_calm calm named).1
        omega
    next =>
      rw [List.length_cons]
      omega

def pageCount (keys pageSize : Nat) : Nat :=
  max 1 ((keys + pageSize - 1) / pageSize)

theorem pageCount_last
    {keys pageSize : Nat}
    (paged : 0 < pageSize)
    (last : keys <= pageSize) :
    pageCount keys pageSize = 1 := by
  have few : (keys + pageSize - 1) / pageSize < 2 := by
    apply (Nat.div_lt_iff_lt_mul paged).mpr
    omega
  rw [pageCount]
  omega

theorem pageCount_more
    {keys pageSize : Nat}
    (paged : 0 < pageSize)
    (more : pageSize < keys) :
    pageCount keys pageSize = pageCount (keys - pageSize) pageSize + 1 := by
  have all : keys + pageSize - 1 = (keys - 1) + pageSize := by omega
  have fewer : keys - pageSize + pageSize - 1 = keys - 1 := by omega
  have some : 1 <= (keys - 1) / pageSize := (Nat.one_le_div_iff paged).mpr (by omega)
  rw [pageCount, pageCount, all, fewer, Nat.add_div_right _ paged]
  omega

/-- From one call on, a request for a page that can be named gets this page or one of these
faults. -/
def GivesPages
    (pageAnswer : Nat -> Option Value -> Except Failure Answer)
    (faults : Failure -> Prop)
    (objects : Table Body)
    (start : String)
    (pageSize number : Nat) : Prop :=
  forall later token index, number <= later -> Service.tokenIndex? token = some index ->
    pageAnswer later token = .ok (.data (Service.page objects start index pageSize)) ∨
      exists fault : Failure, pageAnswer later token = .error fault ∧ fault.IsFault ∧ faults fault

section Given

variable {pageAnswer : Nat -> Option Value -> Except Failure Answer} {faults : Failure -> Prop}
variable {objects : Table Body} {start : String} {keys : List String} {pageSize number : Nat}

theorem drains_last
    {index : Nat}
    {token : Option Value}
    (gives : GivesPages pageAnswer faults objects start pageSize number)
    (isKeys : Service.keysFrom objects start = keys)
    (named : Service.tokenIndex? token = some index)
    (last : keys.length <= index + pageSize) :
    exists request ended, Drains pageAnswer number token [request] ended ∧
      ((exists fault, ended = .error fault ∧ faults fault) ∨
        ended = .ok ((keys.drop index).map (fun key => (key, objects.sizeOf key)))) := by
  rcases gives number token index (Nat.le_refl number) named with answers | refused
  next =>
    have shows := Service.page_shows objects start index pageSize
    have short : (keys.drop index).length <= pageSize := by
      rw [List.length_drop]
      omega
    rw [Service.following?, isKeys, if_neg (by omega), List.take_of_length_le short] at shows
    exact ⟨_, _, .last answers shows, .inr rfl⟩
  next =>
    obtain ⟨fault, answers, isFault, expected⟩ := refused
    exact ⟨_, _, .failed answers isFault, .inl ⟨fault, rfl, expected⟩⟩

theorem exists_drains
    (paged : 0 < pageSize)
    (isKeys : Service.keysFrom objects start = keys)
    (left : Nat)
    {index : Nat}
    {token : Option Value}
    (gives : GivesPages pageAnswer faults objects start pageSize number)
    (named : Service.tokenIndex? token = some index)
    (bound : keys.length <= index + left) :
    exists requests ended, Drains pageAnswer number token requests ended ∧
      ((exists fault, ended = .error fault ∧ faults fault) ∨
        ended = .ok ((keys.drop index).map (fun key => (key, objects.sizeOf key))) ∧
          requests.length = pageCount (keys.length - index) pageSize) := by
  -- So many keys may be left behind the index, which every page brings closer to the end.
  induction left generalizing number index token with
  | zero =>
    obtain ⟨request, ended, drains, isEnded⟩ := drains_last gives isKeys named (by omega)
    exact ⟨_, ended, drains,
      isEnded.imp_right (fun all => ⟨all, (pageCount_last paged (by omega)).symm⟩)⟩
  | succ left ih =>
    by_cases more : index + pageSize < keys.length
    next =>
      rcases gives number token index (Nat.le_refl number) named with answers | refused
      next =>
        have shows := Service.page_shows objects start index pageSize
        rw [Service.following?, isKeys, if_pos more] at shows
        have later : GivesPages pageAnswer faults objects start pageSize (number + 1) :=
          fun far token index beyond => gives far token index (by omega)
        obtain ⟨requests, ended, drains, isEnded⟩ := ih later
          (Service.tokenIndex?_toString (index + pageSize)) (by omega)
        refine ⟨_, _, .next answers shows drains, ?_⟩
        rcases isEnded with ⟨fault, rfl, expected⟩ | ⟨rfl, count⟩
        next => exact .inl ⟨fault, rfl, expected⟩
        next =>
          -- The keys of this page and of the pages after it are all keys from the index on.
          have keysFrom : (keys.drop index).take pageSize ++ keys.drop (index + pageSize) =
              keys.drop index := by
            rw [<- List.drop_drop, List.take_append_drop]
          have further : pageSize < keys.length - index := by omega
          refine .inr ⟨?_, ?_⟩
          · rw [Except.map, <- List.map_append, keysFrom]
          · rw [List.length_cons, count, pageCount_more paged further, Nat.sub_sub]
      next =>
        obtain ⟨fault, answers, isFault, expected⟩ := refused
        exact ⟨_, _, .failed answers isFault, .inl ⟨fault, rfl, expected⟩⟩
    next =>
      obtain ⟨request, ended, drains, isEnded⟩ := drains_last gives isKeys named (by omega)
      exact ⟨_, ended, drains,
        isEnded.imp_right (fun all => ⟨all, (pageCount_last paged (by omega)).symm⟩)⟩

end Given

theorem Schedule.ListsCalmly.givesPages
    {depot : Depot}
    {number : Nat}
    (calm : depot.schedule.ListsCalmly number)
    (bucket start : String) :
    GivesPages (depot.pageAnswer bucket start) (fun _ => False) (depot.service.objects bucket) start
      depot.service.pageSize number := by
  intro later token index beyond named
  have laterCalm : depot.schedule.ListsCalmly later :=
    fun far further => calm far (Nat.le_trans beyond further)
  left
  rw [pageAnswer_of_calm laterCalm, named]

/-- What a listing does, given what comes of its requests: it makes all of them, and it gives all
that was listed or reports the fault that it met. -/
structure Drained
    (container : Container)
    (selection : Option String)
    (depot : Depot)
    (requests : List (Option Value × Except Failure Answer))
    (ended : Except Failure (List (String × Int)))
    (outcome : Except Failure Container.Listing)
    (next : Depot) : Prop where
  exchange : next.exchange = depot.exchange ++
    listingEvents container.bucket (container.keyPath ++ selection.getD "") requests
  listed : forall entries, ended = .ok entries -> exists listing, outcome = .ok listing ∧
    forall name, Table.get? listing name = lastSize? container.keyPath.length entries name
  failed : forall failure, ended = .error failure ->
    outcome = .error (.because (.listingFailed selection)
      (failure.reported "Failed to list objects"))
  unchanged : depot.service.ListsLike next.service

theorem SameWork.pageAnswer {depot next : Depot} (same : SameWork depot next) :
    next.pageAnswer = depot.pageAnswer := by
  funext bucket start number token
  rw [Depot.pageAnswer, same.schedule, same.service]
  rfl

theorem DrainEnd.since
    {origin depot middle next : Depot}
    {borrowers : Nat}
    {container : Container}
    {start : String}
    {listing : Container.Listing}
    {requests : List (Option Value × Except Failure Answer)}
    {ended : Except Failure (List (String × Int))}
    {outcome : Except Failure Container.Listing}
    (done : DrainEnd origin borrowers container start listing middle requests ended outcome next)
    (same : SameWork depot middle) :
    DrainEnd origin borrowers container start listing depot requests ended outcome next :=
  ⟨done.attended, same.exchange ▸ done.exchange, done.outcome, same.service ▸ done.like⟩

theorem Drains.fetchesAll
    {origin depot : Depot}
    {borrowers : Nat}
    {container : Container}
    {chosen : String}
    {requests : List (Option Value × Except Failure Answer)}
    {ended : Except Failure (List (String × Int))}
    (drains : Drains (depot.pageAnswer container.bucket (container.keyPath ++ chosen))
      (depot.journal.callCount .listObjects + 1) none requests ended)
    (attended : Attended origin (borrowers + 1) depot)
    (keepsOpen : origin.schedule.KeepsOpen .listObjects) :
    Yields (do
      let page <- Client.listObjects container.bucket (container.key chosen)
      let bound := Container.pagesAtMost (<- get) container.bucket
      container.drain bound page .empty) depot
        (DrainEnd origin (borrowers + 1) container (container.keyPath ++ chosen) .empty depot
          requests ended) := by
  have few := drains.length_le
  have keys := length_keysFrom_le (depot.service.objects container.bucket)
    (container.keyPath ++ chosen)
  have enough : requests.length <= Container.pagesAtMost depot container.bucket + 1 := by
    rw [Container.pagesAtMost]
    omega
  refine drains.fetches attended keepsOpen rfl rfl enough (fun page next like schedule => ?_)
  rw [run_bind_ok _ (run_get next), Container.pagesAtMost, Container.pagesAtMost, schedule, like.1]

theorem Attended.listBlobs
    {origin depot : Depot}
    {borrowers : Nat}
    {selection : Option String}
    {requests : List (Option Value × Except Failure Answer)}
    {ended : Except Failure (List (String × Int))}
    (attended : Attended origin borrowers depot)
    (container : Container)
    (leavesOpen : LeavesOpen container.store origin.schedule)
    (canLend : container.store.CanLend depot)
    (keepsOpen : origin.schedule.KeepsOpen .listObjects)
    (drains : Drains (depot.pageAnswer container.bucket (container.keyPath ++ selection.getD ""))
      (depot.journal.callCount .listObjects + 1) none requests ended) :
    Yields (container.listBlobs selection) depot (fun outcome next =>
      Attended origin borrowers next ∧ next.current ≠ none ∧
        Drained container selection depot requests ended outcome next) := by
  have works : forall middle, Attended origin (borrowers + 1) middle -> Idle depot middle ->
      Yields (do
        let page <- Client.listObjects container.bucket (container.key (selection.getD ""))
        let bound := Container.pagesAtMost (<- get) container.bucket
        container.drain bound page .empty) middle (fun outcome left =>
          Attended origin (borrowers + 1) left ∧
            DrainEnd origin (borrowers + 1) container (container.keyPath ++ selection.getD "")
              .empty depot requests ended outcome left) := by
    intro middle attendedMiddle same
    have calls : middle.journal.callCount .listObjects = depot.journal.callCount .listObjects :=
      same.callCount (.listObjects "" "" none)
    rw [<- same.toSameWork.pageAnswer, <- calls] at drains
    exact (drains.fetchesAll attendedMiddle keepsOpen).mono
      (fun outcome left done => ⟨done.attended, done.since same.toSameWork⟩)
  refine ((attended.borrowing leavesOpen canLend works).attempt_bind
    (fun outcome next borrowed => ?_))
  obtain ⟨attendedNext, current, left, done, same⟩ := borrowed
  have exchange := same.exchange.trans done.exchange
  have unchanged : depot.service.ListsLike next.service := same.service ▸ done.like
  have isOutcome := done.outcome
  subst isOutcome
  cases ended with
  | ok listed =>
    refine ⟨attendedNext, current, exchange, ?_, nofun, unchanged⟩
    intro entries isListed
    cases isListed
    refine ⟨_, rfl, fun name => ?_⟩
    rw [get?_extend, Table.get?_empty, Option.or_none]
  | error failure =>
    refine ⟨attendedNext, current, exchange, nofun, ?_, unchanged⟩
    intro fault isFault
    cases isFault
    have backend := (drains.fault rfl).reported_backend "Failed to list objects"
    simp only [backend, if_true]
    rfl

theorem exists_drains_all
    {depot : Depot}
    {number : Nat}
    (calm : depot.schedule.ListsCalmly number)
    (paged : 0 < depot.service.pageSize)
    (bucket start : String) :
    let objects := depot.service.objects bucket
    exists requests entries,
      Drains (depot.pageAnswer bucket start) number none requests (.ok entries) ∧
        requests.length = pageCount (objects.keysWith start).length depot.service.pageSize ∧
        (entries.map Prod.fst).Perm (objects.keysWith start) ∧
        forall entry, entry ∈ entries -> entry.2 = objects.sizeOf entry.1 := by
  intro objects
  have first : Service.tokenIndex? none = some 0 := rfl
  have sorted := keysFrom_perm objects start
  obtain ⟨requests, ended, drains, isEnded⟩ := exists_drains paged
    (show Service.keysFrom (depot.service.objects bucket) start = Service.keysFrom objects start
      from rfl) _ (calm.givesPages bucket start) first (Nat.le_of_eq (Nat.zero_add _).symm)
  obtain ⟨rfl, count⟩ := isEnded.resolve_left (fun failed => failed.elim (fun _ none => none.2))
  refine ⟨requests, _, drains, ?_, ?_, ?_⟩
  · rw [count, Nat.sub_zero, sorted.length_eq]
  · rw [List.map_map, List.drop_zero]
    exact (List.map_id _).symm ▸ sorted
  · intro entry listed
    obtain ⟨key, _, rfl⟩ := List.mem_map.mp listed
    rfl

/-- In every state that a run of a store reaches, as long as the store is open and has a client or
can make one, a listing makes the requests that the answers call for and gives what they list. -/
theorem listBlobs_drained
    (store : Store)
    (origin : Depot)
    (steps : List StoreStep)
    (path : BlobPath)
    (selection : Option String)
    (leavesOpen : LeavesOpen store origin.schedule)
    (opened : origin.closed = false)
    (unmade : origin.current = none)
    (keepsOpen : origin.schedule.KeepsOpen .listObjects)
    (isOpen : (Tenancy.run store origin steps).depot.closed = false)
    (canLend : store.CanLend (Tenancy.run store origin steps).depot) :
    let container : Container := ⟨store, path⟩
    let depot := (Tenancy.run store origin steps).depot
    let start := container.keyPath ++ selection.getD ""
    let number := depot.journal.callCount .listObjects + 1
    let objects := depot.service.objects container.bucket
    (forall requests ended,
      Drains (depot.pageAnswer container.bucket start) number none requests ended ->
        Yields (container.listBlobs selection) depot
          (Drained container selection depot requests ended)) ∧
    (origin.schedule.ListsCalmly number -> 0 < depot.service.pageSize ->
      exists requests entries,
        Yields (container.listBlobs selection) depot
          (Drained container selection depot requests (.ok entries)) ∧
        requests.length = pageCount (objects.keysWith start).length depot.service.pageSize ∧
        (entries.map Prod.fst).Perm (objects.keysWith start) ∧
        forall entry, entry ∈ entries -> entry.2 = objects.sizeOf entry.1) := by
  intro container depot start number objects
  have sound := Tenancy.sound_run leavesOpen opened unmade steps
  have attended : Attended origin _ depot := ⟨sound.lent, isOpen⟩
  have drained : forall requests ended,
      Drains (depot.pageAnswer container.bucket start) number none requests ended ->
        Yields (container.listBlobs selection) depot
          (Drained container selection depot requests ended) := by
    intro requests ended drains
    exact (attended.listBlobs container leavesOpen canLend keepsOpen drains).mono
      (fun outcome next done => done.2.2)
  refine ⟨drained, fun calm paged => ?_⟩
  have calmHere : depot.schedule.ListsCalmly number := attended.lent.sameSchedule ▸ calm
  obtain ⟨requests, entries, drains, all⟩ :=
    exists_drains_all calmHere paged container.bucket start
  exact ⟨requests, entries, drained requests _ drains, all⟩

theorem listBlobs_drained_twice :
    let first := Answer.data (.ofFields
      [("Contents", .list [.ofFields [("Key", .text "k"), ("Size", .int 3)]]),
        ("IsTruncated", .bool true), ("NextContinuationToken", .text "t")])
    let second := Answer.data (.ofFields [("Contents", .list [.ofFields [("Key", .text "k")]])])
    let schedule := (Schedule.calm.add .listObjects [1] { outcome := some (.ok first) }).add
      .listObjects [2] { outcome := some (.ok second) }
    let origin : Depot := { schedule := schedule }
    let depot := (Tenancy.run .small origin [.borrow]).depot
    let requests := [(none, .ok first), (some (.text "t"), .ok second)]
    LeavesOpen .small schedule ∧ schedule.KeepsOpen .listObjects ∧ Store.CanLend .small depot ∧
      Drains (depot.pageAnswer "b" "") 1 none requests (.ok [("k", 3), ("k", 0)]) ∧
      Yields (Container.listBlobs ⟨.small, {}⟩ none) depot
        (Drained ⟨.small, {}⟩ none depot requests (.ok [("k", 3), ("k", 0)])) := by
  intro first second schedule origin depot requests
  have leavesOpen : LeavesOpen .small schedule :=
    ((leavesOpen_calm .small).add (by decide) [1]).add (by decide) [2]
  have keepsOpen : schedule.KeepsOpen .listObjects :=
    ((Schedule.keepsOpen_calm .listObjects).add rfl .listObjects [1]).add rfl .listObjects [2]
  have canLend : Store.CanLend .small depot := .inl (by decide)
  have drains : Drains (depot.pageAnswer "b" "") 1 none requests (.ok [("k", 3), ("k", 0)]) := by
    have last : second.Shows [("k", 0)] none :=
      ⟨_, rfl, .inr ⟨_, rfl, .cons ⟨_, rfl, rfl, .inr ⟨rfl, rfl⟩⟩ .nil⟩, rfl, nofun⟩
    have more : first.Shows [("k", 3)] (some (.text "t")) :=
      ⟨_, rfl, .inr ⟨_, rfl, .cons ⟨_, rfl, rfl, .inl rfl⟩ .nil⟩, rfl, by
        rintro token isToken
        cases isToken
        exact ⟨rfl, rfl⟩⟩
    exact .next rfl more (.last rfl last)
  have drained := listBlobs_drained .small origin [.borrow] {} none leavesOpen rfl rfl keepsOpen rfl
    canLend
  exact ⟨leavesOpen, keepsOpen, canLend, drains, drained.1 requests _ drains⟩

end BlobDepot
