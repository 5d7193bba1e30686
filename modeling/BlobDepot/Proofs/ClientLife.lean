import BlobDepot.Journal
import Mathlib.Data.List.Induction

/-!
# The life of a shared client, as its events tell it

A client is made once, for an open store.  The store counts as one of its holders until it is
closed, and every borrower counts until the client is given back.  When nobody holds the client
any more it is told to close, at once and once, and nothing happens to it after that.
-/

set_option autoImplicit false

namespace BlobDepot

namespace Event

def isClientMade : Event -> Bool
  | .clientMade _ => true
  | _ => false

def isBorrowed : Event -> Bool
  | .borrowed .. => true
  | _ => false

def isReturned : Event -> Bool
  | .returned .. => true
  | _ => false

def isStoreClosed : Event -> Bool
  | .storeClosed _ => true
  | _ => false

def isClose : Event -> Bool
  | .called (.close _) => true
  | _ => false

def isRequest : Event -> Bool
  | .called (.request _) => true
  | _ => false

def holders? : Event -> Option Nat
  | .borrowed _ holders | .returned _ holders => some holders
  | .storeClosed holders => holders
  | _ => none

end Event

/-- So many hold the client after some events: the store, unless it was closed, and everyone who
borrowed the client and has not given it back. -/
def HeldBy (events : List Event) (holders : Nat) : Prop :=
  holders + events.countP Event.isReturned =
    (if events.any Event.isStoreClosed then 0 else 1) + events.countP Event.isBorrowed

/-- The life of a client as it should be: made once at most, used only while it is borrowed, and
told to close at once when nobody holds it any more, after which nothing happens. -/
structure WellLived (closable : Bool) (events : List Event) : Prop where
  madeOnce : events.countP Event.isClientMade <= 1
  counted : forall before event later holders,
    events = before ++ event :: later -> event.holders? = some holders ->
      HeldBy (before ++ [event]) holders
  usedWhileBorrowed : forall before event later,
    events = before ++ event :: later -> event.isRequest = true ->
      before.countP Event.isReturned < before.countP Event.isBorrowed
  quietWhenUnheld : forall before event later,
    events = before ++ event :: later -> before.any Event.isClientMade = true ->
      HeldBy before 0 -> event.isClose = true
  closedLast : forall before client later,
    events = before ++ .called (.close client) :: later ->
      .clientMade client ∈ before ∧ HeldBy before 0 ∧ later = []
  closedAtOnce : closable = true -> forall before later,
    events = before ++ later -> before.any Event.isClientMade = true -> HeldBy before 0 ->
      before.any Event.isClose = true ∨ exists client, later = [.called (.close client)]

structure ClientLife where
  client : Option Nat := none
  closed : Bool := false
  borrowers : Nat := 0
  ended : Bool := false

namespace ClientLife

def holders (life : ClientLife) : Nat :=
  (if life.closed then 0 else 1) + life.borrowers

theorem holders_of_open {life : ClientLife} (opened : life.closed = false) :
    life.holders = life.borrowers + 1 := by
  simp [holders, opened, Nat.add_comm]

def after (life : ClientLife) : Event -> ClientLife
  | .called (.close _) => { life with ended := true }
  | .clientMade client => { life with client := some client }
  | .borrowed .. => { life with borrowers := life.borrowers + 1 }
  | .returned .. => { life with borrowers := life.borrowers - 1 }
  | .storeClosed _ => { life with closed := true }
  | _ => life

def told (events : List Event) : ClientLife :=
  events.foldl after {}

def due (life : ClientLife) : Bool :=
  life.client.isSome && life.holders == 0 && !life.ended

def Allows (closable : Bool) (life : ClientLife) : Event -> Prop
  | .called (.connect ..) | .called (.factory _) => life.client = none ∧ life.closed = false
  | .called (.request _) => 0 < life.borrowers
  | .called (.close client) =>
      closable = true ∧ life.due = true ∧ life.client = some client
  | .answered .. | .read .. => 0 < life.borrowers
  | .clientMade _ => life.client = none ∧ life.closed = false
  | .borrowed _ holders =>
      life.client.isSome ∧ life.closed = false ∧ holders = life.holders + 1
  | .returned _ holders => 0 < life.borrowers ∧ holders + 1 = life.holders
  | .storeClosed holders =>
      life.closed = false ∧ holders = life.client.map (fun _ => life.borrowers)

def Lawful (closable : Bool) : ClientLife -> List Event -> Prop
  | _, [] => True
  | life, event :: later => life.Allows closable event ∧ Lawful closable (life.after event) later

theorem lawful_append
    {closable : Bool}
    {life : ClientLife}
    {before later : List Event} :
    Lawful closable life (before ++ later) <->
      Lawful closable life before ∧ Lawful closable (before.foldl after life) later := by
  induction before generalizing life with
  | nil => simp [Lawful]
  | cons first rest ih => simp [Lawful, ih, and_assoc]

theorem told_append (events : List Event) (event : Event) :
    told (events ++ [event]) = (told events).after event := by
  simp [told]

theorem view_foldl
    (view : ClientLife -> Bool)
    (shows : Event -> Bool)
    (step : forall life event, view (after life event) = (view life || shows event))
    (life : ClientLife)
    (events : List Event) :
    view (events.foldl after life) = (view life || events.any shows) := by
  induction events generalizing life with
  | nil => simp
  | cons event rest ih => rw [List.foldl_cons, ih, step, List.any_cons, Bool.or_assoc]

theorem told_closed (events : List Event) :
    (told events).closed = events.any Event.isStoreClosed := by
  refine view_foldl closed Event.isStoreClosed (fun life event => ?_) {} events
  cases event with
  | called call => cases call <;> simp [after, Event.isStoreClosed]
  | _ => simp [after, Event.isStoreClosed]

theorem told_ended (events : List Event) :
    (told events).ended = events.any Event.isClose := by
  refine view_foldl ended Event.isClose (fun life event => ?_) {} events
  cases event with
  | called call => cases call <;> simp [after, Event.isClose]
  | _ => simp [after, Event.isClose]

theorem told_made (events : List Event) :
    (told events).client.isSome = events.any Event.isClientMade := by
  refine view_foldl (fun life => life.client.isSome) Event.isClientMade (fun life event => ?_) {}
    events
  cases event with
  | called call => cases call <;> simp [after, Event.isClientMade]
  | _ => simp [after, Event.isClientMade]

theorem told_borrowers
    {closable : Bool}
    {events : List Event}
    (lawful : Lawful closable {} events) :
    (told events).borrowers + events.countP Event.isReturned = events.countP Event.isBorrowed := by
  -- An event may be looked at only once it is known what the events before it tell.
  induction events using List.reverseRecOn with
  | nil => rfl
  | append_singleton before event ih =>
    rw [lawful_append] at lawful
    have counted := ih lawful.1
    have allowed := lawful.2.1
    rw [told_append]
    cases event with
    | called call =>
      cases call <;> simpa [after, Event.isReturned, Event.isBorrowed] using counted
    | returned reference holders =>
      have borrowed : 0 < (told before).borrowers := allowed.1
      simp [after, Event.isReturned, Event.isBorrowed]
      omega
    | borrowed reference holders =>
      simp [after, Event.isReturned, Event.isBorrowed]
      omega
    | _ => simpa [after, Event.isReturned, Event.isBorrowed] using counted

theorem heldBy_told {closable : Bool} {events : List Event} (lawful : Lawful closable {} events) :
    HeldBy events (told events).holders := by
  have counted := told_borrowers lawful
  rw [HeldBy, <- told_closed, holders]
  omega

theorem holders_of_heldBy
    {closable : Bool}
    {events : List Event}
    {holders : Nat}
    (lawful : Lawful closable {} events)
    (held : HeldBy events holders) :
    (told events).holders = holders := by
  have counted := heldBy_told lawful
  rw [HeldBy] at held counted
  omega

theorem holders_borrowed (life : ClientLife) :
    ClientLife.holders { life with borrowers := life.borrowers + 1 } = life.holders + 1 := by
  simp [holders, Nat.add_assoc]

theorem holders_returned {life : ClientLife} (borrowed : 0 < life.borrowers) :
    ClientLife.holders { life with borrowers := life.borrowers - 1 } + 1 = life.holders := by
  cases closed : life.closed <;> simp [holders, closed] <;> omega

theorem holders_after
    {closable : Bool}
    {life : ClientLife}
    {event : Event}
    {count : Nat}
    (allowed : life.Allows closable event)
    (shown : event.holders? = some count) :
    (life.after event).holders = count := by
  cases event with
  | borrowed reference number =>
    obtain ⟨_, _, told⟩ := allowed
    cases shown
    exact (holders_borrowed life).trans told.symm
  | returned reference number =>
    obtain ⟨borrowed, told⟩ := allowed
    cases shown
    have left := holders_returned borrowed
    rw [after]
    omega
  | storeClosed number =>
    obtain ⟨_, told⟩ := allowed
    cases shown
    cases made : life.client with
    | none => simp [made] at told
    | some client => simpa [holders, after, made] using told.symm
  | _ => cases shown

theorem closed_of_unheld {life : ClientLife} (unheld : life.holders = 0) :
    life.closed = true ∧ life.borrowers = 0 := by
  cases closed : life.closed with
  | true => simpa [holders, closed] using unheld
  | false => simp [holders, closed] at unheld

theorem close_of_unheld
    {closable : Bool}
    {life : ClientLife}
    {event : Event}
    (made : life.client.isSome = true)
    (unheld : life.holders = 0)
    (allowed : life.Allows closable event) :
    life.ended = false ∧ exists client, event = .called (.close client) := by
  obtain ⟨closed, unborrowed⟩ := closed_of_unheld unheld
  -- Whatever else may happen needs an open store, a borrower or no client.
  cases event with
  | called call =>
    cases call with
    | close client =>
      have due : life.due = true := allowed.2.1
      exact ⟨by simpa [ClientLife.due, made, unheld] using due, client, rfl⟩
    | _ => simp [Allows, closed, unborrowed] at allowed
  | _ => simp [Allows, closed, unborrowed] at allowed

theorem nothing_after_close
    {closable : Bool}
    {life : ClientLife}
    {client : Nat}
    {later : List Event}
    (made : life.client.isSome = true)
    (unheld : life.holders = 0)
    (lawful : Lawful closable (life.after (.called (.close client))) later) :
    later = [] := by
  cases later with
  | nil => rfl
  | cons event rest =>
    have stillMade : (life.after (.called (.close client))).client.isSome = true := made
    obtain ⟨lasting, _⟩ := close_of_unheld stillMade unheld lawful.1
    cases lasting

theorem made_once
    {closable : Bool}
    {life : ClientLife}
    {events : List Event}
    (lawful : Lawful closable life events) :
    events.countP Event.isClientMade + life.client.toList.length <= 1 := by
  induction events generalizing life with
  | nil => cases life.client <;> simp
  | cons event rest ih =>
    have later := ih lawful.2
    have allowed := lawful.1
    rw [List.countP_cons]
    cases event with
    | called call => cases call <;> exact later
    | clientMade client =>
      have unmade : life.client = none := allowed.1
      rw [unmade]
      exact later
    | _ => exact later

theorem clients_told
    {closable : Bool}
    {events : List Event}
    (lawful : Lawful closable {} events) :
    (told events).client.toList.length = events.countP Event.isClientMade := by
  have once := made_once lawful
  have made := told_made events
  cases isClient : (told events).client with
  | none =>
    rw [isClient] at made
    exact (List.countP_eq_zero.mpr (List.any_eq_false.mp made.symm)).symm
  | some client =>
    rw [isClient] at made
    obtain ⟨event, listed, isMade⟩ := List.any_eq_true.mp made.symm
    have some : 0 < events.countP Event.isClientMade := List.countP_pos_iff.mpr ⟨_, listed, isMade⟩
    simp only [Option.toList_none, List.length_nil] at once
    simp only [Option.toList_some, List.length_singleton]
    omega

theorem mem_of_told_client
    {events : List Event}
    {client : Nat}
    (made : (told events).client = some client) :
    .clientMade client ∈ events := by
  induction events using List.reverseRecOn with
  | nil => simp [told] at made
  | append_singleton before event ih =>
    rw [told_append] at made
    cases event with
    | called call => cases call <;> simpa using ih made
    | clientMade other => simp_all [after]
    | _ => simpa using ih made

theorem wellLived
    {closable : Bool}
    {events : List Event}
    (lawful : Lawful closable {} events)
    (done : closable = true -> (told events).due = false) :
    WellLived closable events where
  madeOnce := by
    have once := made_once lawful
    simpa using once
  counted := by
    -- Each promise is about one place of the run, so the run is split there.
    intro before event later holders split shown
    subst split
    obtain ⟨lawfulBefore, allowed, -⟩ := lawful_append.mp lawful
    have lawfulWith : Lawful closable {} (before ++ [event]) :=
      lawful_append.mpr ⟨lawfulBefore, allowed, trivial⟩
    have held := heldBy_told lawfulWith
    rw [told_append] at held
    rwa [told, holders_after allowed shown] at held
  usedWhileBorrowed := by
    intro before event later split request
    subst split
    obtain ⟨lawfulBefore, allowed, -⟩ := lawful_append.mp lawful
    have counted := told_borrowers lawfulBefore
    have borrowed : 0 < (told before).borrowers := by
      cases event with
      | called call => cases call <;> simp_all [Event.isRequest, Allows, told]
      | _ => simp [Event.isRequest] at request
    omega
  quietWhenUnheld := by
    intro before event later split made unheld
    subst split
    obtain ⟨lawfulBefore, allowed, -⟩ := lawful_append.mp lawful
    rw [<- told_made] at made
    have holders := holders_of_heldBy lawfulBefore unheld
    obtain ⟨_, client, rfl⟩ := close_of_unheld made holders allowed
    rfl
  closedLast := by
    intro before client later split
    subst split
    obtain ⟨lawfulBefore, allowed, lawfulLater⟩ := lawful_append.mp lawful
    obtain ⟨closable, due, made⟩ := allowed
    have unheld : (told before).holders = 0 := by
      simp_all [ClientLife.due, told]
    refine ⟨mem_of_told_client made, ?_, ?_⟩
    · rw [<- unheld]
      exact heldBy_told lawfulBefore
    · exact nothing_after_close (Option.isSome_of_eq_some made) unheld lawfulLater
  closedAtOnce := by
    intro closable before later split made unheld
    subst split
    obtain ⟨lawfulBefore, lawfulLater⟩ := lawful_append.mp lawful
    have holders := holders_of_heldBy lawfulBefore unheld
    rw [<- told_made] at made
    -- Either the run ends here, or the one event that may come next closes the client.
    cases later with
    | nil =>
      have settled := done closable
      rw [List.append_nil] at settled
      rw [<- told_ended]
      exact .inl (by simpa [ClientLife.due, made, holders] using settled)
    | cons event rest =>
      obtain ⟨_, client, rfl⟩ := close_of_unheld made holders lawfulLater.1
      have nothing := nothing_after_close made holders lawfulLater.2
      exact .inr ⟨client, by rw [nothing]⟩

end ClientLife

end BlobDepot
