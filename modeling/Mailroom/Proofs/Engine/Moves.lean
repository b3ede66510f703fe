import Mailroom.Engine.Request
import Mailroom.Proofs.Engine.Frames
import Mathlib.Logic.Relation
/-! # The moves of a roster

Whatever an engine does to its roster comes down to a few moves. Each of them changes one thing, and
says in whose hands a mailbox has to be for it: a creator and whoever services a mailbox have it in
hands, and what one actor does while another waits for it is done in between, so the last mailbox
taken is the first one let go of.

Not everything that is done takes a mailbox from the run queue, draws a session or sets a callback.
So the moves are given with a scope, and what a scope leaves out does not happen within it.
-/

namespace Mailroom

variable {κ : Type}

/-- Whether an event is about nothing that happens to a message. -/
def Event.isSilent : Event → Bool
  | posted _ _ => false
  | invoked _ _ _ => false
  | dropped _ _ _ => false
  | _ => true

/-- Whether an event is moreover about no actor that comes to be or is destroyed. -/
def Event.isPlain : Event → Bool
  | entered _ _ none => false
  | turned _ _ .destroyed => false
  | event => event.isSilent

theorem Event.isSilent_of_isPlain {event : Event} (plain : event.isPlain = true) :
    event.isSilent = true := by
  unfold isPlain at plain
  split at plain
  · exact nomatch plain
  · exact nomatch plain
  · exact plain

/-- What may be done that is not done all the time. -/
structure Scope where
  /-- A mailbox is taken from the run queue. -/
  takes : Prop
  /-- A session is drawn from a counter, which is that of an actor or the engine's own. -/
  draws : Option Nat → Prop
  /-- The callback of an actor is set or changed. -/
  sets : Nat → Prop

def Scope.any : Scope := { takes := True, draws := fun _ => True, sets := fun _ => True }

variable {scope : Scope}

namespace Roster

/-- One change of a roster within a scope, with the mailboxes in hands before and after it. -/
inductive Move (scope : Scope) : Roster κ × List Nat → Roster κ × List Nat → Prop where
  | note {roster hands} (event : Event) (silent : event.isSilent = true) :
    Move scope (roster, hands) (roster.note event, hands)
  /-- A message that never was in a mailbox becomes a dead letter. -/
  | refuse {roster hands} (destination : String) (reason : DropReason) (message : Message) :
    Move scope (roster, hands) (roster.drop none destination reason message, hands)
  | post {roster hands handle box} (live : roster.find? handle = some box) (message : Message) :
    Move scope (roster, hands) ((roster.post box message).2, hands)
  | finish {roster hands} (box : Nat) :
    Move scope (roster, box :: hands) (roster.finish box (roster.handleOf box), hands)
  | release {roster hands box} (gone : roster.isLive box = false) (reason : DropReason) :
    Move scope (roster, box :: hands) (roster.release box (roster.handleOf box) reason, hands)
  | markReleased {roster hands box} (gone : roster.isLive box = false) :
    Move scope (roster, hands)
      (roster.settleBy Exchange.markReleased .retired box (roster.handleOf box), hands)
  | next {roster hands box exchange} (allowed : scope.takes)
    (taken : roster.exchange.next? = some (box, exchange)) :
    Move scope (roster, hands) ({ roster with exchange }, box :: hands)
  | invoke {roster hands box message exchange handle} {actor : Nat}
    (taken : roster.exchange.take box = (some message, exchange))
    (belongs : roster.handle? box = some handle) (has : roster.handle? actor = some handle) :
    Move scope (roster, box :: hands)
      ({ roster with exchange }.note (.invoked box actor message), box :: hands)
  /-- A message is taken for an actor without a callback. -/
  | skip {roster hands box message exchange}
    (taken : roster.exchange.take box = (some message, exchange)) :
    Move scope (roster, box :: hands)
      ({ roster with exchange }.drop (some box) (roster.handleOf box).text .noCallback message,
        box :: hands)
  | enroll {roster hands} (module args : String) (behaviour : Instance κ) (capacity : Nat) :
    Move scope (roster, hands) ((roster.enroll module args behaviour capacity).2,
      (roster.enroll module args behaviour capacity).1.toList ++ hands)
  | unlist {roster hands} (handle : Handle) :
    Move scope (roster, hands) ((roster.overDirectory (·.retire handle)).2, hands)
  | rename {roster hands handle name names}
    (bound : roster.directory.bind handle name = .ok { roster.directory with names }) :
    Move scope (roster, hands)
      ({ roster with directory := { roster.directory with names } }, hands)
  /-- The guests of an actor, its counter or its callback. -/
  | modify {roster hands} (actor : Nat) {change : Actor κ → Actor κ}
    (keeps : ∀ found, (change found).handle = found.handle)
    (counts : scope.draws (some actor) ∨ ∀ found, (change found).lastSession = found.lastSession)
    (serves : scope.sets actor ∨ ∀ found, (change found).callback = found.callback) :
    Move scope (roster, hands) (roster.modify actor change, hands)
  | outlet {roster hands} (outlet : Outlet) :
    Move scope (roster, hands) ({ roster with outlet }, hands)

/-- Any number of moves. -/
abbrev Moves (scope : Scope) : Roster κ × List Nat → Roster κ × List Nat → Prop :=
  Relation.ReflTransGen (Move scope)

variable {roster middle after : Roster κ} {actor : Nat}

/-- An actor keeps its handle. -/
theorem Move.handle?_eq_some {start stop : Roster κ × List Nat} (move : Move scope start stop)
    {number : Nat} {handle : Handle} (has : start.1.handle? number = some handle) :
    stop.1.handle? number = some handle := by
  cases move with
  | note event silent => exact has
  | refuse destination reason message => exact has
  | post live message => rwa [post_frame]
  | finish box => rwa [Roster.finish, settleBy_frame]
  | release gone reason => rwa [Roster.release, settleBy_frame]
  | markReleased gone => rwa [settleBy_frame]
  | next allowed taken => exact has
  | invoke taken belongs others => exact has
  | skip taken => exact has
  | @enroll roster hands module args behaviour capacity =>
    rw [enroll_eq]
    dsimp only
    split
    · exact has
    · rw [handle?_enrolled roster rfl, if_neg, has]
      rintro rfl
      exact nomatch roster.handle?_size.symm.trans has
  | unlist handle => exact has
  | rename bound => exact has
  | modify actor keeps counts serves => exact (handle?_modify _ actor keeps number).trans has
  | outlet outlet => exact has

theorem Moves.handle?_eq_some {start stop : Roster κ × List Nat} (moves : Moves scope start stop)
    {number : Nat} {handle : Handle} (has : start.1.handle? number = some handle) :
    stop.1.handle? number = some handle := by
  induction moves with
  | refl => exact has
  | tail _ move ih => exact move.handle?_eq_some ih

/-- What is done within some scope is done within the widest one. -/
theorem Move.widen {start stop : Roster κ × List Nat} (move : Move scope start stop) :
    Move .any start stop := by
  cases move with
  | note event silent => exact .note event silent
  | refuse destination reason message => exact .refuse destination reason message
  | post live message => exact .post live message
  | finish box => exact .finish box
  | release gone reason => exact .release gone reason
  | markReleased gone => exact .markReleased gone
  | next allowed taken => exact .next trivial taken
  | invoke taken belongs has => exact .invoke taken belongs has
  | skip taken => exact .skip taken
  | enroll module args behaviour capacity => exact .enroll module args behaviour capacity
  | unlist handle => exact .unlist handle
  | rename bound => exact .rename bound
  | modify actor keeps counts serves => exact .modify actor keeps (.inl trivial) (.inl trivial)
  | outlet outlet => exact .outlet outlet

theorem Moves.widen {start stop : Roster κ × List Nat} (moves : Moves scope start stop) :
    Moves .any start stop := Relation.ReflTransGen.mono (fun _ _ => Move.widen) _ _ moves

/-- The mailbox of an actor that nobody finds can be released by who has it in hands. -/
theorem move_release (roster : Roster κ) {box : Nat} {handle : Handle}
    (belongs : roster.handle? box = some handle) (gone : roster.find? handle = none)
    (reason : DropReason) (hands : List Nat) :
    Move scope (roster, box :: hands) (roster.release box handle reason, hands) := by
  have own : roster.handleOf box = handle := by
    rw [handleOf_eq, belongs]
    rfl
  have dead : roster.isLive box = false := by
    rw [isLive, own, gone]
    rfl
  exact own ▸ .release dead reason

/-! ### Lifetimes -/

private theorem moves_destroy (gone : roster.isLive actor = false) (hands : List Nat) :
    Moves scope (roster, hands) (roster.destroy actor, hands) := by
  have released : Moves scope (roster, hands) (_, hands) := .single (.markReleased gone)
  exact (released.tail (.note _ rfl)).tail (.outlet _)

private theorem moves_destroyUnlessHeld (roster : Roster κ) (actor : Nat) (hands : List Nat) :
    Moves scope (roster, hands) (roster.destroyUnlessHeld actor, hands) := by
  unfold destroyUnlessHeld
  split
  · exact .refl
  · rename_i free
    simp only [isHeld, Bool.or_eq_true, not_or, Bool.not_eq_true] at free
    exact moves_destroy free.1 hands

theorem moves_hold (roster : Roster κ) (actor : Nat) (hands : List Nat) :
    Moves scope (roster, hands) (roster.hold actor, hands) :=
  .single (.modify actor (fun _ => rfl) (.inr fun _ => rfl) (.inr fun _ => rfl))

theorem moves_letGo (roster : Roster κ) (actor : Nat) (hands : List Nat) :
    Moves scope (roster, hands) (roster.letGo actor, hands) := by
  have given : Moves scope (roster, hands)
      (roster.modify actor fun found => { found with guests := found.guests - 1 }, hands) :=
    .single (.modify actor (fun _ => rfl) (.inr fun _ => rfl) (.inr fun _ => rfl))
  exact given.trans (moves_destroyUnlessHeld _ actor hands)

theorem moves_unlist (roster : Roster κ) (handle : Handle) (hands : List Nat) :
    Moves scope (roster, hands) ((roster.unlist handle).2, hands) := by
  have retired : Moves scope (roster, hands) ((roster.overDirectory (·.retire handle)).2, hands) :=
    .single (.unlist handle)
  unfold unlist
  split <;> rename_i result <;> rw [result] at retired
  · exact retired
  · exact retired.trans (moves_destroyUnlessHeld _ _ hands)

theorem moves_retire (roster : Roster κ) (handle : Handle) (hands : List Nat) :
    Moves scope (roster, hands) ((roster.retire handle).2, hands) := by
  unfold retire
  split
  · exact .refl
  · rename_i actor _
    have unlisted : Moves scope (roster, hands) (((roster.hold actor).unlist handle).2, hands) :=
      (moves_hold roster actor hands).trans (moves_unlist _ handle hands)
    have noted :=
      unlisted.tail (.note (.turned handle (roster.moduleOf actor) .retired) rfl)
    exact noted.trans (moves_letGo _ actor hands)

/-! ### Steady changes -/

/-- One of the things that happen whoever has which mailboxes in hands, and that leave them there.
No actor comes to be, nobody becomes a guest for longer, and nobody begins or ends to observe dead
letters. -/
inductive Touch (scope : Scope) : Roster κ → Roster κ → Prop where
  | note {roster : Roster κ} (event : Event) (plain : event.isPlain = true) :
    Touch scope roster (roster.note event)
  | refuse {roster : Roster κ} (destination : String) (reason : DropReason) (message : Message) :
    Touch scope roster (roster.drop none destination reason message)
  | post {roster : Roster κ} {handle : Handle} {box : Nat}
    (live : roster.find? handle = some box) (message : Message) :
    Touch scope roster (roster.post box message).2
  | retire {roster : Roster κ} (handle : Handle) : Touch scope roster (roster.retire handle).2
  | rename {roster : Roster κ} {handle : Handle} {name : String} {names : Directory.Names}
    (bound : roster.directory.bind handle name = .ok { roster.directory with names }) :
    Touch scope roster { roster with directory := { roster.directory with names } }
  | modify {roster : Roster κ} (actor : Nat) {change : Actor κ → Actor κ}
    (keeps : ∀ found, (change found).handle = found.handle)
    (guests : ∀ found, (change found).guests = found.guests)
    (counts : scope.draws (some actor) ∨ ∀ found, (change found).lastSession = found.lastSession)
    (serves : scope.sets actor ∨ ∀ found, (change found).callback = found.callback) :
    Touch scope roster (roster.modify actor change)

/-- Any number of such things. -/
abbrev Steady (scope : Scope) : Roster κ → Roster κ → Prop := Relation.ReflTransGen (Touch scope)

theorem Touch.moves (touch : Touch scope roster after) (hands : List Nat) :
    Moves scope (roster, hands) (after, hands) := by
  cases touch with
  | note event plain => exact .single (.note event (Event.isSilent_of_isPlain plain))
  | refuse destination reason message => exact .single (.refuse destination reason message)
  | post live message => exact .single (.post live message)
  | retire handle => exact moves_retire _ handle hands
  | rename bound => exact .single (.rename bound)
  | modify actor keeps guests counts serves => exact .single (.modify actor keeps counts serves)

/-- The mailboxes in hands are the same again, whichever they are. -/
theorem Steady.moves (steady : roster.Steady scope after) (hands : List Nat) :
    Moves scope (roster, hands) (after, hands) := by
  induction steady with
  | refl => exact .refl
  | tail _ touch ih => exact ih.trans (touch.moves hands)

/-! ### What actors have of their own -/

theorem steady_setCallback (roster : Roster κ) {actor : Nat} (sets : scope.sets actor) (key : κ) :
    roster.Steady scope (roster.setCallback actor key).2 := by
  unfold setCallback
  split
  · exact .refl
  · split
    · exact .refl
    · exact .single (.modify actor (fun _ => rfl) (fun _ => rfl) (.inr fun _ => rfl) (.inl sets))

theorem steady_become (roster : Roster κ) {actor : Nat} (sets : scope.sets actor) (key : κ) :
    roster.Steady scope (roster.become actor key) :=
  .single (.modify actor (fun _ => rfl) (fun _ => rfl) (.inr fun _ => rfl) (.inl sets))

private theorem steady_allocate (roster : Roster κ) {actor : Nat}
    (draws : scope.draws (some actor)) : roster.Steady scope (roster.allocate actor).2 :=
  .single (.modify actor (fun _ => rfl) (fun _ => rfl) (.inl draws) (.inr fun _ => rfl))

end Roster

namespace Engine

variable {engine middle after : Engine κ}

/-- What changes of an engine besides its roster is neither its configuration nor whether shutdown
has begun. -/
structure Steady (scope : Scope) (engine after : Engine κ) : Prop where
  roster : engine.roster.Steady scope after.roster
  config : after.config = engine.config
  stopping : after.stopping = engine.stopping
  counts : scope.draws none ∨ after.lastSession = engine.lastSession

@[refl] theorem Steady.refl (engine : Engine κ) : engine.Steady scope engine :=
  ⟨.refl, rfl, rfl, .inr rfl⟩

theorem Steady.trans (first : engine.Steady scope middle) (second : middle.Steady scope after) :
    engine.Steady scope after :=
  ⟨first.roster.trans second.roster, second.config.trans first.config,
    second.stopping.trans first.stopping, by
      obtain draws | same := first.counts
      · exact .inl draws
      · exact same ▸ second.counts⟩

private theorem steady_of_touch (touch : engine.roster.Touch scope after.roster)
    (config : after.config = engine.config) (stopping : after.stopping = engine.stopping)
    (counts : after.lastSession = engine.lastSession) : engine.Steady scope after :=
  ⟨.single touch, config, stopping, .inr counts⟩

/-! ### Delivery -/

theorem steady_note (engine : Engine κ) (event : Event) (plain : event.isPlain = true) :
    engine.Steady scope (engine.note event) := steady_of_touch (.note event plain) rfl rfl rfl

private theorem steady_refuse (engine : Engine κ) (destination : String) (message : Message)
    (reason : DropReason) (cause : SendError) :
    engine.Steady scope (engine.refuse destination message reason cause).2 :=
  steady_of_touch (.refuse destination reason message) rfl rfl rfl

private theorem steady_deliver (engine : Engine κ) (target : Handle) (message : Message) :
    engine.Steady scope (engine.deliver target message).2 := by
  unfold deliver
  split
  · exact engine.steady_refuse ..
  · split
    · exact engine.steady_refuse ..
    · rename_i actor live
      have posted : engine.Steady scope (engine.overRoster (·.post actor message)).2 :=
        steady_of_touch (.post live message) rfl rfl rfl
      split <;> rename_i result <;> rw [result] at posted
      · exact posted
      · exact posted.trans (steady_refuse ..)

theorem steady_sendTo (engine : Engine κ) (destination : Address) (message : Message) :
    engine.Steady scope (engine.sendTo destination message).2 := by
  unfold sendTo
  cases destination with
  | handle target => exact engine.steady_deliver target message
  | name label =>
    dsimp only
    split
    · exact engine.steady_deliver _ message
    · exact engine.steady_refuse ..

private theorem steady_allocateFor (engine : Engine κ) {actor : Nat}
    (draws : scope.draws (some actor)) : engine.Steady scope (engine.allocateFor actor).2 :=
  ⟨engine.roster.steady_allocate draws, rfl, rfl, .inr rfl⟩

private theorem steady_allocate (engine : Engine κ) {source : Option Handle}
    (draws : scope.draws (source.bind engine.roster.find?)) :
    engine.Steady scope (engine.allocate source).2 := by
  unfold allocate
  split <;> rename_i found <;> rw [found] at draws
  · exact engine.steady_allocateFor draws
  · exact ⟨.refl, rfl, rfl, .inl draws⟩

theorem steady_send (engine : Engine κ) {source : Option Handle} (destination : Address)
    {session : Int32} (payload : Payload)
    (draws : session < 0 → scope.draws (source.bind engine.roster.find?)) :
    engine.Steady scope (engine.send source destination session payload).2 := by
  have chosen : engine.Steady scope
      (if session < 0 then engine.allocate source else (session, engine)).2 := by
    split
    · rename_i asked
      exact engine.steady_allocate (draws asked)
    · exact .refl _
  exact chosen.trans (steady_sendTo ..)

theorem steady_sendAs (engine : Engine κ) {actor : Nat} (destination : Address)
    {session : Int32} (payload : Payload) (draws : session < 0 → scope.draws (some actor)) :
    engine.Steady scope (engine.sendAs actor destination session payload).2 := by
  have chosen : engine.Steady scope
      (if session < 0 then engine.allocateFor actor else (session, engine)).2 := by
    split
    · rename_i asked
      exact engine.steady_allocateFor (draws asked)
    · exact .refl _
  exact chosen.trans (steady_sendTo ..)

theorem steady_timeout (engine : Engine κ) (target : Handle) (ticks : UInt32) (session : Int32) :
    engine.Steady scope (engine.timeout target ticks session) := by
  unfold timeout
  split
  · exact engine.steady_deliver ..
  · let added := { engine with timer := engine.timer.add target ticks session }
    have armed : engine.Steady scope added := ⟨.refl, rfl, rfl, .inr rfl⟩
    exact armed.trans (steady_note _ _ rfl)

private theorem steady_expire (engine : Engine κ) (node : Timer.Node) :
    engine.Steady scope (engine.expire node) :=
  (engine.steady_note (.timer (.expired node.target node.session)) rfl).trans (steady_deliver ..)

private theorem steady_foldl_expire (engine : Engine κ) (expired : List Timer.Node) :
    engine.Steady scope (expired.foldl expire engine) := by
  induction expired generalizing engine with
  | nil => exact .refl _
  | cons node rest ih => exact (engine.steady_expire node).trans (ih _)

theorem steady_advance (engine : Engine κ) : engine.Steady scope engine.advance := by
  have ticked : engine.Steady scope { engine with timer := engine.timer.tick.2 } :=
    ⟨.refl, rfl, rfl, .inr rfl⟩
  exact ticked.trans (steady_foldl_expire _ engine.timer.tick.1)

private theorem steady_advanceBy (engine : Engine κ) (count : Nat) :
    engine.Steady scope (advanceBy count engine) := by
  induction count generalizing engine with
  | zero => exact .refl _
  | succ count ih => exact engine.steady_advance.trans (ih _)

theorem steady_updateTime (engine : Engine κ) (reading : Nat) :
    engine.Steady scope (engine.updateTime reading).2 := by
  have observed : engine.Steady scope { engine with timer := (engine.timer.observe reading).2 } :=
    ⟨.refl, rfl, rfl, .inr rfl⟩
  exact observed.trans (steady_advanceBy ..)

/-! ### Commands -/

theorem steady_retire (engine : Engine κ) (handle : Handle) :
    engine.Steady scope (engine.retire handle).2 := steady_of_touch (.retire handle) rfl rfl rfl

theorem steady_bind (engine : Engine κ) (handle : Handle) (name : String) :
    engine.Steady scope (engine.bind handle name).2 := by
  unfold bind
  split
  · rename_i directory bound
    have slots : directory = { engine.roster.directory with names := directory.names } := by
      unfold Directory.bind at bound
      split at bound
      · exact nomatch bound
      · split at bound
        · exact nomatch bound
        · split at bound
          · exact nomatch bound
          · exact Except.ok.inj bound ▸ rfl
    rw [slots] at bound ⊢
    exact steady_of_touch (.rename bound) rfl rfl rfl
  · exact .refl _

theorem steady_obey (engine : Engine κ) (caller : Handle) (command : Command) :
    engine.Steady scope (engine.obey caller command).2 := by
  cases command with
  | reg name =>
    cases name with
    | none => exact .refl _
    | some name =>
      have bound : engine.Steady scope (engine.bind caller name).2 := engine.steady_bind ..
      dsimp only [obey]
      split <;> rename_i result <;> rw [result] at bound <;> exact bound
  | exit => exact engine.steady_retire caller
  | now => exact .refl _
  | timeout ticks session => exact engine.steady_timeout ..
  | launch module args => exact .refl _

/-! ### Launching and servicing -/

/-- Whatever comes of an init, the actor's mailbox leaves its creator's hands. -/
theorem moves_endLaunch (engine : Engine κ) (actor : Nat) (outcome : Except InitError Unit)
    (hands : List Nat) :
    Roster.Moves scope (engine.roster, actor :: hands)
      ((engine.endLaunch actor outcome).2.roster, hands) := by
  let roster := engine.roster
  let handle := roster.handleOf actor
  cases outcome with
  | ok done =>
    have finished : Roster.Move scope (roster, actor :: hands)
        (roster.finish actor handle, hands) := .finish actor
    have noted := (Relation.ReflTransGen.single finished).tail
      (.note (.turned handle (roster.moduleOf actor)
        (.launched (((roster.actor? actor).map (·.args)).getD ""))) rfl)
    exact noted.trans (Roster.moves_letGo _ actor hands)
  | error cause =>
    let unlisted := (roster.unlist handle).2
    have same : unlisted.handleOf actor = handle := by
      dsimp only [unlisted]
      rw [Roster.unlist_frame]
      rfl
    have gone : unlisted.isLive actor = false := roster.isLive_unlist_self actor
    have released : Roster.Moves scope (unlisted, actor :: hands)
        (unlisted.release actor handle .initFailed, hands) := by
      rw [← same]
      exact .single (.release gone .initFailed)
    have noted := ((roster.moves_unlist handle _).trans released).tail
      (.note (.turned handle (roster.moduleOf actor) (.initFailed cause.message)) rfl)
    exact noted.trans (Roster.moves_letGo _ actor hands)

/-- Who is done with servicing a mailbox lets go of the actor and then of the mailbox. -/
theorem moves_endService (engine : Engine κ) {box actor : Nat} {handle : Handle}
    (belongs : engine.roster.handle? box = some handle)
    (has : engine.roster.handle? actor = some handle) (hands : List Nat) :
    Roster.Moves scope (engine.roster, box :: hands)
      ((engine.endService box actor).roster, hands) := by
  have given : Roster.Moves scope (engine.roster, box :: hands)
      (engine.roster.letGo actor, box :: hands) := Roster.moves_letGo ..
  have same : engine.roster.handleOf actor = (engine.roster.letGo actor).handleOf box := by
    rw [Roster.handleOf_eq, has, Roster.handleOf_eq, given.handle?_eq_some belongs]
  refine given.tail ?_
  dsimp only [endService]
  rw [same]
  exact .finish box

end Engine

end Mailroom
