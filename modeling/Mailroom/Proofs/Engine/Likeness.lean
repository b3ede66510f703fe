import Mailroom.Engine.Request
import Mailroom.Proofs.Engine.Frames
import Mailroom.Proofs.Exchange.Capacity
/-! # Rosters and engines that are alike

Nobody asks how much room a queue has, and nobody reads the journal. Two engines are alike if they
differ in nothing else: in the room that their queues have now and that new ones begin with, or in
how their journals began. Whatever is done to both has the same result and leaves them alike.
-/

namespace Mailroom

variable {κ : Type}

/-- What two engines may differ in. -/
structure Likeness where
  /-- Whether their queues may have other room. -/
  rooms : Prop
  /-- How the journal of the one began, and how that of the other. -/
  began : List Event × List Event

namespace Likeness

variable {kind : Likeness} {exchange twin : Exchange} {past past' : List Event}

/-- The same messages in the same order, in queues of the same room unless that may differ. -/
structure Exchanges (kind : Likeness) (exchange twin : Exchange) : Prop where
  alike : exchange.Alike twin
  same : kind.rooms ∨ twin = exchange

/-- Two journals that went on in the same way. -/
def Journals (kind : Likeness) (past past' : List Event) : Prop :=
  ∃ since, past = since ++ kind.began.1 ∧ past' = since ++ kind.began.2

theorem Journals.note (journals : kind.Journals past past') (event : Event) :
    kind.Journals (event :: past) (event :: past') := by
  obtain ⟨since, rfl, rfl⟩ := journals
  exact ⟨event :: since, rfl, rfl⟩

namespace Exchanges

theorem operate {α : Type} (exchanges : kind.Exchanges exchange twin)
    {operation : Exchange → α × Exchange}
    (agree : Agree Exchange.Alike (operation exchange) (operation twin)) :
    Agree kind.Exchanges (operation exchange) (operation twin) :=
  ⟨agree.answer, agree.alike, exchanges.same.imp_right (congrArg fun after => (operation after).2)⟩

theorem add (exchanges : kind.Exchanges exchange twin) (handle : Handle) {capacity other : Nat}
    (same : kind.rooms ∨ other = capacity) :
    kind.Exchanges (exchange.add handle capacity) (twin.add handle other) where
  alike := exchanges.alike.add handle capacity other
  same := by
    obtain may | rfl := exchanges.same
    · exact .inl may
    · exact same.imp_right (congrArg (twin.add handle))

theorem next? (exchanges : kind.Exchanges exchange twin) :
    Option.Rel (Agree kind.Exchanges) exchange.next? twin.next? := by
  obtain ⟨none, none'⟩ | ⟨box, left, right, found, found', alike⟩ :=
    Agree.cases_rel exchanges.alike.next?
  · rw [none, none']
    exact .none
  · have same : kind.rooms ∨ right = left := exchanges.same.imp_right fun same => by
      rw [same, found] at found'
      exact (Prod.mk.inj (Option.some.inj found')).2.symm
    rw [found, found']
    exact .some ⟨rfl, alike, same⟩

end Exchanges

end Likeness

namespace Roster

variable {kind : Likeness} {roster twin : Roster κ} {actor box : Nat} {handle : Handle}

/-- Two rosters that differ at most in the room of their queues and in how their journals began. -/
inductive Alike (kind : Likeness) : Roster κ → Roster κ → Prop where
  | intro {roster : Roster κ} {exchange : Exchange} {past : List Event}
    (exchanges : kind.Exchanges roster.exchange exchange)
    (journals : kind.Journals roster.past past) :
    Alike kind roster { roster with exchange, past }

namespace Alike

theorem find?_eq (alike : roster.Alike kind twin) (handle : Handle) :
    twin.find? handle = roster.find? handle := by
  cases alike
  rfl

theorem actor?_eq (alike : roster.Alike kind twin) (actor : Nat) :
    twin.actor? actor = roster.actor? actor := by
  cases alike
  rfl

theorem handleOf_eq (alike : roster.Alike kind twin) (actor : Nat) :
    twin.handleOf actor = roster.handleOf actor := by
  cases alike
  rfl

theorem moduleOf_eq (alike : roster.Alike kind twin) (actor : Nat) :
    twin.moduleOf actor = roster.moduleOf actor := by
  cases alike
  rfl

theorem exchange (alike : roster.Alike kind twin) :
    kind.Exchanges roster.exchange twin.exchange := by
  cases alike
  assumption

theorem note (alike : roster.Alike kind twin) (event : Event) :
    (roster.note event).Alike kind (twin.note event) := by
  obtain ⟨exchanges, journals⟩ := alike
  exact .intro exchanges (journals.note event)

theorem drop (alike : roster.Alike kind twin) (origin : Option Nat) (destination : String)
    (reason : DropReason) (message : Message) :
    (roster.drop origin destination reason message).Alike kind
      (twin.drop origin destination reason message) := by
  obtain ⟨exchanges, journals⟩ := alike
  exact .intro exchanges (journals.note _)

theorem dropAll (alike : roster.Alike kind twin) (box : Nat) (handle : Handle)
    (reason : DropReason) (messages : List Message) :
    (roster.dropAll box handle reason messages).Alike kind
      (twin.dropAll box handle reason messages) := by
  induction messages generalizing roster twin with
  | nil => exact alike
  | cons message messages ih => exact ih (alike.drop (some box) handle.text reason message)

theorem overExchange (alike : roster.Alike kind twin) {α : Type}
    {operation : Exchange → α × Exchange}
    (same : ∀ exchange twin, exchange.Alike twin →
      Agree Exchange.Alike (operation exchange) (operation twin)) :
    Agree (Alike kind) (roster.overExchange operation) (twin.overExchange operation) := by
  obtain ⟨exchanges, journals⟩ := alike
  have agree := exchanges.operate (same _ _ exchanges.alike)
  exact ⟨agree.answer, .intro agree.alike journals⟩

theorem settleBy (alike : roster.Alike kind twin)
    {operation : Exchange → Nat → List Message × Exchange}
    (same : ∀ exchange twin, exchange.Alike twin →
      Agree Exchange.Alike (operation exchange box) (operation twin box)) (reason : DropReason)
    (handle : Handle) :
    (roster.settleBy operation reason box handle).Alike kind
      (twin.settleBy operation reason box handle) := by
  obtain ⟨returned, left, right, result, result', settled⟩ := (alike.overExchange same).cases
  unfold Roster.settleBy
  rw [result, result']
  exact settled.dropAll box handle reason returned

theorem finish (alike : roster.Alike kind twin) (box : Nat) (handle : Handle) :
    (roster.finish box handle).Alike kind (twin.finish box handle) :=
  alike.settleBy (fun _ _ exchanges => exchanges.finish box) .retired handle

theorem release (alike : roster.Alike kind twin) (box : Nat) (handle : Handle)
    (reason : DropReason) :
    (roster.release box handle reason).Alike kind (twin.release box handle reason) :=
  alike.settleBy (fun _ _ exchanges => exchanges.release box) reason handle

theorem post (alike : roster.Alike kind twin) (box : Nat) (message : Message) :
    Agree (Alike kind) (roster.post box message) (twin.post box message) := by
  obtain ⟨posted, left, right, result, result', rest⟩ :=
    (alike.overExchange fun _ _ exchanges => exchanges.post box message).cases
  unfold Roster.post
  rw [result, result']
  cases posted with
  | false => exact ⟨rfl, rest⟩
  | true => exact ⟨rfl, rest.note _⟩

/-! ### Lifetimes -/

theorem modify (alike : roster.Alike kind twin) (actor : Nat) (change : Actor κ → Actor κ) :
    (roster.modify actor change).Alike kind (twin.modify actor change) := by
  obtain ⟨exchanges, journals⟩ := alike
  exact .intro exchanges journals

theorem overDirectory (alike : roster.Alike kind twin) {α : Type}
    (operation : Directory Nat → α × Directory Nat) :
    Agree (Alike kind) (roster.overDirectory operation) (twin.overDirectory operation) := by
  obtain ⟨exchanges, journals⟩ := alike
  exact ⟨rfl, .intro exchanges journals⟩

theorem outlet (alike : roster.Alike kind twin) (change : Outlet → Outlet) :
    Alike kind { roster with outlet := change roster.outlet }
      { twin with outlet := change twin.outlet } := by
  obtain ⟨exchanges, journals⟩ := alike
  exact .intro exchanges journals

theorem destroy (alike : roster.Alike kind twin) (actor : Nat) :
    (roster.destroy actor).Alike kind (twin.destroy actor) := by
  have released := alike.settleBy (fun _ _ exchanges => exchanges.markReleased actor) .retired
    (roster.handleOf actor)
  have noted := released.note (.turned (roster.handleOf actor) (roster.moduleOf actor) .destroyed)
  have destroyed := noted.outlet Outlet.dropCopy
  obtain ⟨_, _⟩ := alike
  exact destroyed

theorem destroyUnlessHeld (alike : roster.Alike kind twin) (actor : Nat) :
    (roster.destroyUnlessHeld actor).Alike kind (twin.destroyUnlessHeld actor) := by
  have destroyed := alike.destroy actor
  have held : twin.isHeld actor = roster.isHeld actor := by
    cases alike
    rfl
  unfold Roster.destroyUnlessHeld
  rw [held]
  split
  · exact alike
  · exact destroyed

theorem hold (alike : roster.Alike kind twin) (actor : Nat) :
    (roster.hold actor).Alike kind (twin.hold actor) := alike.modify actor _

theorem letGo (alike : roster.Alike kind twin) (actor : Nat) :
    (roster.letGo actor).Alike kind (twin.letGo actor) :=
  (alike.modify actor _).destroyUnlessHeld actor

theorem unlist (alike : roster.Alike kind twin) (handle : Handle) :
    Agree (Alike kind) (roster.unlist handle) (twin.unlist handle) := by
  obtain ⟨retired, left, right, result, result', rest⟩ :=
    (alike.overDirectory (·.retire handle)).cases
  unfold Roster.unlist
  rw [result, result']
  cases retired with
  | none => exact ⟨rfl, rest⟩
  | some actor => exact ⟨rfl, rest.destroyUnlessHeld actor⟩

theorem retire (alike : roster.Alike kind twin) (handle : Handle) :
    Agree (Alike kind) (roster.retire handle) (twin.retire handle) := by
  cases live : roster.find? handle with
  | none =>
    simp only [Roster.retire, alike.find?_eq, live]
    exact ⟨rfl, alike⟩
  | some actor =>
    obtain ⟨_, left, right, result, result', unlisted⟩ := ((alike.hold actor).unlist handle).cases
    simp only [Roster.retire, alike.find?_eq, live, alike.moduleOf_eq, result, result']
    exact ⟨rfl, (unlisted.note _).letGo actor⟩

theorem enroll (alike : roster.Alike kind twin) (module args : String) (behaviour : Instance κ)
    {capacity other : Nat} (same : kind.rooms ∨ other = capacity) :
    Agree (Alike kind) (roster.enroll module args behaviour capacity)
      (twin.enroll module args behaviour other) := by
  obtain ⟨exchanges, journals⟩ := alike
  rw [enroll_eq, enroll_eq]
  dsimp only
  split
  · exact ⟨rfl, .intro exchanges journals⟩
  · exact ⟨rfl, .intro (exchanges.add _ same) journals⟩

/-! ### What actors have of their own -/

theorem setCallback (alike : roster.Alike kind twin) (actor : Nat) (key : κ) :
    Agree (Alike kind) (roster.setCallback actor key) (twin.setCallback actor key) := by
  have set := alike.modify actor fun found => { found with callback := some key }
  unfold Roster.setCallback
  rw [alike.actor?_eq]
  split
  · exact ⟨rfl, alike⟩
  · split
    · exact ⟨rfl, alike⟩
    · exact ⟨rfl, set⟩

theorem allocate (alike : roster.Alike kind twin) (actor : Nat) :
    Agree (Alike kind) (roster.allocate actor) (twin.allocate actor) := by
  obtain ⟨exchanges, journals⟩ := alike
  exact ⟨rfl, .intro exchanges journals⟩

end Alike

end Roster

namespace Engine

variable {kind : Likeness} {engine twin : Engine κ}

/-- Two engines that differ at most in the room of their queues, in what is configured of it, and in
how their journals began. -/
inductive Alike (kind : Likeness) : Engine κ → Engine κ → Prop where
  | intro {engine : Engine κ} {roster : Roster κ} {mailboxCapacity runQueueRoom : Nat}
    (same : kind.rooms ∨ mailboxCapacity = engine.config.mailboxCapacity ∧
      runQueueRoom = engine.config.runQueueRoom)
    (alike : engine.roster.Alike kind roster) :
    Alike kind engine { engine with
      config := { engine.config with mailboxCapacity, runQueueRoom }
      roster }

namespace Alike

theorem roster (alike : engine.Alike kind twin) : engine.roster.Alike kind twin.roster := by
  cases alike
  assumption

theorem overRoster (alike : engine.Alike kind twin) {α : Type}
    (operation operation' : Roster κ → α × Roster κ)
    (same : Agree (Roster.Alike kind) (operation engine.roster) (operation' twin.roster)) :
    Agree (Alike kind) (engine.overRoster operation) (twin.overRoster operation') := by
  obtain ⟨rooms, _⟩ := alike
  exact ⟨same.answer, .intro rooms same.alike⟩

theorem mapRoster (alike : engine.Alike kind twin) (change : Roster κ → Roster κ)
    (same : (change engine.roster).Alike kind (change twin.roster)) :
    (engine.mapRoster change).Alike kind (twin.mapRoster change) := by
  obtain ⟨rooms, _⟩ := alike
  exact .intro rooms same

theorem note (alike : engine.Alike kind twin) (event : Event) :
    (engine.note event).Alike kind (twin.note event) :=
  alike.mapRoster _ (alike.roster.note event)

/-! ### Delivery -/

theorem refuse (alike : engine.Alike kind twin) (destination : String) (message : Message)
    (reason : DropReason) (cause : SendError) :
    Agree (Alike kind) (engine.refuse destination message reason cause)
      (twin.refuse destination message reason cause) :=
  ⟨rfl, alike.mapRoster (·.drop none destination reason message)
    (alike.roster.drop none destination reason message)⟩

theorem stopping_eq (alike : engine.Alike kind twin) : twin.stopping = engine.stopping := by
  cases alike
  rfl

theorem deliver (alike : engine.Alike kind twin) (target : Handle) (message : Message) :
    Agree (Alike kind) (engine.deliver target message) (twin.deliver target message) := by
  unfold Engine.deliver
  rw [alike.stopping_eq, alike.roster.find?_eq]
  split
  · exact alike.refuse ..
  · split
    · exact alike.refuse ..
    · rename_i actor _
      obtain ⟨posted, left, right, result, result', rest⟩ :=
        (alike.overRoster (·.post actor message) (·.post actor message)
          (alike.roster.post actor message)).cases
      rw [result, result']
      cases posted with
      | false => exact rest.refuse ..
      | true => exact ⟨rfl, rest⟩

theorem directory_eq (alike : engine.Alike kind twin) :
    twin.roster.directory = engine.roster.directory := by
  obtain ⟨_, ⟨_, _⟩⟩ := alike
  rfl

theorem sendTo (alike : engine.Alike kind twin) (destination : Address) (message : Message) :
    Agree (Alike kind) (engine.sendTo destination message) (twin.sendTo destination message) := by
  unfold Engine.sendTo
  cases destination with
  | handle target => exact (alike.deliver target message).map (Except.map fun _ => message.session)
  | name label =>
    dsimp only [findName?]
    rw [alike.directory_eq]
    split
    · exact (alike.deliver _ message).map (Except.map fun _ => message.session)
    · exact (alike.refuse ..).map (Except.map fun _ => message.session)

theorem allocateFor (alike : engine.Alike kind twin) (actor : Nat) :
    Agree (Alike kind) (engine.allocateFor actor) (twin.allocateFor actor) :=
  alike.overRoster (·.allocate actor) (·.allocate actor) (alike.roster.allocate actor)

theorem allocate (alike : engine.Alike kind twin) (source : Option Handle) :
    Agree (Alike kind) (engine.allocate source) (twin.allocate source) := by
  have finds : source.bind twin.roster.find? = source.bind engine.roster.find? := by
    cases source with
    | none => rfl
    | some handle => exact alike.roster.find?_eq handle
  unfold Engine.allocate
  rw [finds]
  split
  · exact alike.allocateFor _
  · cases alike with
    | intro same roster => exact ⟨rfl, .intro same roster⟩

theorem send (alike : engine.Alike kind twin) (source : Option Handle) (destination : Address)
    (session : Int32) (payload : Payload) :
    Agree (Alike kind) (engine.send source destination session payload)
      (twin.send source destination session payload) := by
  have chosen : Agree (Alike kind)
      (if session < 0 then engine.allocate source else (session, engine))
      (if session < 0 then twin.allocate source else (session, twin)) := by
    split
    · exact alike.allocate source
    · exact ⟨rfl, alike⟩
  obtain ⟨session, left, right, result, result', rest⟩ := chosen.cases
  unfold Engine.send
  rw [result, result']
  exact rest.sendTo destination _

theorem sendAs (alike : engine.Alike kind twin) (actor : Nat) (destination : Address)
    (session : Int32) (payload : Payload) :
    Agree (Alike kind) (engine.sendAs actor destination session payload)
      (twin.sendAs actor destination session payload) := by
  have chosen : Agree (Alike kind)
      (if session < 0 then engine.allocateFor actor else (session, engine))
      (if session < 0 then twin.allocateFor actor else (session, twin)) := by
    split
    · exact alike.allocateFor actor
    · exact ⟨rfl, alike⟩
  obtain ⟨session, left, right, result, result', rest⟩ := chosen.cases
  unfold Engine.sendAs
  rw [result, result']
  dsimp only
  rw [rest.roster.handleOf_eq]
  exact rest.sendTo destination _

/-! ### Time -/

theorem timer_eq (alike : engine.Alike kind twin) : twin.timer = engine.timer := by
  cases alike
  rfl

theorem withTimer (alike : engine.Alike kind twin) (timer : Timer) :
    Alike kind { engine with timer } { twin with timer } := by
  obtain ⟨same, roster⟩ := alike
  exact .intro same roster

theorem timeout (alike : engine.Alike kind twin) (target : Handle) (ticks : UInt32)
    (session : Int32) :
    (engine.timeout target ticks session).Alike kind (twin.timeout target ticks session) := by
  unfold Engine.timeout
  split
  · exact (alike.deliver target _).alike
  · rw [alike.timer_eq]
    exact (alike.withTimer _).note _

theorem expire (alike : engine.Alike kind twin) (node : Timer.Node) :
    (engine.expire node).Alike kind (twin.expire node) :=
  ((alike.note _).deliver node.target _).alike

theorem advance (alike : engine.Alike kind twin) : engine.advance.Alike kind twin.advance := by
  have expired (nodes : List Timer.Node) {engine twin : Engine κ}
      (alike : engine.Alike kind twin) :
      (nodes.foldl Engine.expire engine).Alike kind (nodes.foldl Engine.expire twin) := by
    induction nodes generalizing engine twin with
    | nil => exact alike
    | cons node nodes ih => exact ih (alike.expire node)
  unfold Engine.advance
  rw [alike.timer_eq]
  rcases engine.timer.tick with ⟨nodes, timer⟩
  exact expired nodes (alike.withTimer timer)

theorem advanceBy (alike : engine.Alike kind twin) (count : Nat) :
    (Engine.advanceBy count engine).Alike kind (Engine.advanceBy count twin) := by
  induction count generalizing engine twin with
  | zero => exact alike
  | succ count ih => exact ih alike.advance

theorem updateTime (alike : engine.Alike kind twin) (reading : Nat) :
    Agree (Alike kind) (engine.updateTime reading) (twin.updateTime reading) := by
  unfold Engine.updateTime
  rw [alike.timer_eq]
  rcases engine.timer.observe reading with ⟨ahead, timer⟩
  exact ⟨rfl, (alike.withTimer timer).advanceBy ahead⟩

/-! ### Commands -/

theorem retire (alike : engine.Alike kind twin) (handle : Handle) :
    Agree (Alike kind) (engine.retire handle) (twin.retire handle) :=
  alike.overRoster (·.retire handle) (·.retire handle) (alike.roster.retire handle)

theorem bind (alike : engine.Alike kind twin) (handle : Handle) (name : String) :
    Agree (Alike kind) (engine.bind handle name) (twin.bind handle name) := by
  unfold Engine.bind
  rw [alike.directory_eq]
  split
  · obtain ⟨same, ⟨exchanges, journals⟩⟩ := alike
    exact ⟨rfl, .intro same (.intro exchanges journals)⟩
  · exact ⟨rfl, alike⟩

theorem obey (alike : engine.Alike kind twin) (caller : Handle) (command : Command) :
    Agree (Alike kind) (engine.obey caller command) (twin.obey caller command) := by
  cases command with
  | reg name =>
    cases name with
    | none => exact ⟨rfl, alike⟩
    | some name =>
      obtain ⟨bound, left, right, result, result', rest⟩ := (alike.bind caller name).cases
      dsimp only [Engine.obey]
      rw [result, result']
      cases bound with
      | ok done => exact ⟨rfl, rest⟩
      | error cause => exact ⟨rfl, rest⟩
  | exit => exact ⟨rfl, (alike.retire caller).alike⟩
  | now =>
    obtain ⟨same, roster⟩ := alike
    exact ⟨rfl, .intro same roster⟩
  | timeout ticks session => exact ⟨rfl, alike.timeout caller ticks session⟩
  | launch module args => exact ⟨rfl, alike⟩

/-! ### Launching and servicing -/

theorem instantiate_eq (alike : engine.Alike kind twin) (module : String) :
    twin.instantiate module = engine.instantiate module := by
  obtain ⟨_, _⟩ := alike
  rfl

theorem mailboxCapacity_eq (alike : engine.Alike kind twin) :
    kind.rooms ∨ twin.config.mailboxCapacity = engine.config.mailboxCapacity := by
  obtain ⟨same, _⟩ := alike
  exact same.imp_right (·.1)

theorem beginLaunch (alike : engine.Alike kind twin) (module args : String) :
    Agree (Alike kind) (engine.beginLaunch module args) (twin.beginLaunch module args) := by
  unfold Engine.beginLaunch
  rw [alike.instantiate_eq]
  split
  · exact ⟨rfl, alike⟩
  · rename_i behaviour _
    obtain ⟨added, left, right, result, result', rest⟩ := (alike.overRoster
      (·.enroll module args behaviour engine.config.mailboxCapacity)
      (·.enroll module args behaviour twin.config.mailboxCapacity)
      (alike.roster.enroll module args behaviour alike.mailboxCapacity_eq)).cases
    dsimp only
    rw [result, result']
    cases added with
    | none => exact ⟨rfl, rest⟩
    | some actor =>
      dsimp only
      rw [rest.roster.handleOf_eq]
      exact ⟨rfl, rest.note _⟩

theorem endLaunch (alike : engine.Alike kind twin) (actor : Nat)
    (outcome : Except InitError Unit) :
    Agree (Alike kind) (engine.endLaunch actor outcome) (twin.endLaunch actor outcome) := by
  have roster := alike.roster
  have handle := roster.handleOf_eq actor
  have module := roster.moduleOf_eq actor
  have found := roster.actor?_eq actor
  cases outcome with
  | ok done =>
    have launched := ((roster.finish actor (engine.roster.handleOf actor)).note
      (.turned (engine.roster.handleOf actor) (engine.roster.moduleOf actor)
        (.launched (((engine.roster.actor? actor).map (·.args)).getD "")))).letGo actor
    dsimp only [Engine.endLaunch]
    rw [handle, module, found]
    refine ⟨rfl, ?_⟩
    dsimp only
    refine alike.mapRoster _ ?_
    exact launched
  | error cause =>
    obtain ⟨_, left, right, result, result', unlisted⟩ :=
      (roster.unlist (engine.roster.handleOf actor)).cases
    have failed := ((unlisted.release actor (engine.roster.handleOf actor) .initFailed).note
      (.turned (engine.roster.handleOf actor) (engine.roster.moduleOf actor)
        (.initFailed cause.message))).letGo actor
    dsimp only [Engine.endLaunch]
    rw [handle, module]
    refine ⟨rfl, ?_⟩
    dsimp only
    refine alike.mapRoster _ ?_
    rw [result, result']
    exact failed

theorem endService (alike : engine.Alike kind twin) (box actor : Nat) :
    (engine.endService box actor).Alike kind (twin.endService box actor) := by
  have done := (alike.roster.letGo actor).finish box (engine.roster.handleOf actor)
  unfold Engine.endService
  rw [alike.roster.handleOf_eq]
  exact alike.mapRoster _ done

theorem take (alike : engine.Alike kind twin) (box : Nat) :
    Agree (Alike kind) (engine.take box) (twin.take box) :=
  alike.overRoster (·.overExchange (·.take box)) (·.overExchange (·.take box))
    (alike.roster.overExchange fun _ _ exchanges => exchanges.take box)

end Alike

end Engine

end Mailroom
