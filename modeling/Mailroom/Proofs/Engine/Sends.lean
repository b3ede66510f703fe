import Mailroom.Proofs.Engine.Aftermath
/-! # What a send does

A send uses up a session if it is asked for a new one. Beyond that it either appends its message to
the mailbox of the live actor that the address resolves to, or leaves a dead letter and says why. A
mailbox that belongs to somebody who is live is not released, so there are three reasons only.
-/

namespace Mailroom

variable {κ : Type}

/-- A session that is allocated is positive, whatever the counter was. -/
theorem nextSession_pos (last : Int32) : 0 < nextSession last := by
  unfold nextSession
  split
  · decide
  · rename_i inside
    rw [not_or, Int32.not_lt, Int32.le_iff_toInt_le, ← Int32.toInt_inj] at inside
    have low : 0 ≤ last.toInt := inside.1
    have high : last.toInt ≠ 2147483647 := inside.2
    have below := last.toInt_lt
    rw [Int32.lt_iff_toInt_lt, Int32.toInt_add]
    change 0 < (last.toInt + 1).bmod (2 ^ 32)
    rw [Int.bmod_eq_of_le] <;> omega

namespace Exchange

variable {exchange after : Exchange} {hands : List Nat} {number : Nat} {box : Mailbox}
  {message : Message}

/-- A message is appended to a mailbox, and the mailbox to the run queue if nobody has it. -/
structure Gains (exchange : Exchange) (hands : List Nat) (after : Exchange) (number : Nat)
    (box : Mailbox) (message : Message) : Prop where
  found : exchange.box? number = some box
  gained : after.box? number =
    some { box with messages := box.messages.push message, scheduled := true }
  messages : after.messages number = exchange.messages number ++ [message]
  others (other : Nat) (apart : other ≠ number) : after.box? other = exchange.box? other
  waiting : after.waiting = exchange.waiting ++ if box.scheduled then [] else [number]
  idle : box.scheduled = false ↔ number ∉ exchange.waiting ∧ number ∉ hands

/-- A mailbox is unscheduled if nobody has it. -/
theorem Owned.unscheduled_iff (owned : exchange.Owned hands)
    (found : exchange.box? number = some box) :
    box.scheduled = false ↔ number ∉ exchange.waiting ∧ number ∉ hands := by
  have one := owned.one found
  rw [← List.count_eq_zero, ← List.count_eq_zero]
  cases scheduled : box.scheduled <;> rw [scheduled] at one
  · simpa using one
  · rw [if_pos rfl] at one
    simp only [reduceCtorEq, false_iff]
    omega

/-- A mailbox that is not released accepts every message. -/
theorem Owned.gains (owned : exchange.Owned hands) (found : exchange.box? number = some box)
    (accepting : box.released = false) (message : Message) :
    ∃ after, exchange.post number message = (true, after) ∧
      exchange.Gains hands after number box message := by
  let settlement : Settlement :=
    { box := { box with messages := box.messages.push message, scheduled := true }
      returned := []
      runnable := !box.scheduled }
  have posted : box.post? message = some settlement := by
    exact if_neg (Bool.not_eq_true _ ▸ accepting)
  have accepted : exchange.post number message = (true, exchange.settle number settlement) := by
    rw [Exchange.post, found, Option.bind_some, posted]
  refine ⟨_, accepted, found, box?_settle_self found settlement, messages_post_self accepted,
    fun other apart => box?_settle_of_ne apart settlement, ?_, owned.unscheduled_iff found⟩
  rw [settle_eq]
  cases scheduled : box.scheduled <;> simp [settlement, scheduled]

end Exchange

namespace Engine

variable {engine after : Engine κ} {hands : List Nat} {destination : Address} {message : Message}

/-- The handle that an address resolves to. -/
def resolve? (engine : Engine κ) : Address → Option Handle
  | .handle target => some target
  | .name label => engine.findName? label

/-! ### The two ends of a send -/

/-- The message is in the mailbox of the live actor that the address resolves to, the journal says
so, and nothing else is changed. -/
structure Delivers (engine : Engine κ) (hands : List Nat) (after : Engine κ)
    (destination : Address) (message : Message) : Prop where
  gains : ∃ target actor box, engine.resolve? destination = some target ∧
    engine.roster.find? target = some actor ∧
    engine.roster.exchange.Gains hands after.roster.exchange actor box message ∧
    after = { engine with roster := { engine.roster with
      exchange := after.roster.exchange
      past := .posted actor message :: engine.roster.past } }

/-- Why a message is not delivered, as its sender and its dead letter are told. -/
inductive Stray (engine : Engine κ) : Address → SendError → DropReason → Prop where
  | unnamed {label : String} (unbound : engine.findName? label = none) :
    Stray engine (.name label) (.unknownName label) .unknownName
  | unknown {target : Handle} (active : engine.stopping = false)
    (absent : engine.roster.find? target = none) :
    Stray engine (.handle target) (.unknownHandle target) .unknownHandle
  | stopping {target : Handle} (stopping : engine.stopping = true) :
    Stray engine (.handle target) .shuttingDown .shuttingDown

/-- The message is a dead letter, the journal says so, and nothing else is changed. -/
structure Strays (engine after : Engine κ) (destination : Address) (message : Message)
    (cause : SendError) : Prop where
  letter : ∃ reason passage outlet, engine.Stray destination cause reason ∧
    engine.roster.outlet.record (.ofMessage destination.text message reason) =
      (passage, outlet) ∧
    after = { engine with roster := { engine.roster with
      outlet
      past := .dropped none (.ofMessage destination.text message reason) passage ::
        engine.roster.past } }

/-- A send ends in one way or the other, and the sender is told the session or the cause. -/
def Sends (engine : Engine κ) (hands : List Nat) (destination : Address) (message : Message) :
    Except SendError Int32 × Engine κ → Prop
  | (.ok session, after) =>
    session = message.session ∧ engine.Delivers hands after destination message
  | (.error cause, after) => engine.Strays after destination message cause

/-- What is so of an engine in every state of a run. -/
structure Orderly (engine : Engine κ) (hands : List Nat) : Prop where
  sound : engine.roster.Sound hands
  named : engine.roster.directory.Named
  closed (stopping : engine.stopping = true) : engine.Closed

private theorem strays_refuse {cause : SendError} {reason : DropReason}
    (stray : engine.Stray destination cause reason) (message : Message) :
    engine.Strays (engine.refuse destination.text message reason cause).2 destination message
      cause :=
  ⟨reason, _, _, stray, rfl, rfl⟩

private theorem Orderly.delivers (orderly : engine.Orderly hands) (active : engine.stopping = false)
    {target : Handle} {actor : Nat} (resolved : engine.resolve? destination = some target)
    (live : engine.roster.find? target = some actor) (message : Message) :
    ∃ after, engine.deliver target message = (.ok (), after) ∧
      engine.Delivers hands after destination message := by
  have belongs := (orderly.sound.same actor).trans (orderly.sound.listed live)
  obtain ⟨box, found, _⟩ := Option.map_eq_some_iff.1 belongs
  have accepting := orderly.sound.accepting live
  rw [Exchange.isReleased, found, Option.any_some] at accepting
  obtain ⟨exchange, posted, gains⟩ := orderly.sound.owned.gains found accepting message
  refine ⟨{ engine with roster := { engine.roster with
    exchange
    past := .posted actor message :: engine.roster.past } }, ?_,
    ⟨target, actor, box, resolved, live, gains, rfl⟩⟩
  simp only [deliver, active, live, overRoster, Roster.post, Roster.overExchange, posted]
  rfl

private theorem Orderly.sends (orderly : engine.Orderly hands) (destination : Address)
    (message : Message) :
    engine.Sends hands destination message (engine.sendTo destination message) := by
  cases destination with
  | handle target =>
    cases stopping : engine.stopping with
    | true =>
      rw [sendTo, (orderly.closed stopping).deliver_eq]
      exact strays_refuse (.stopping stopping) message
    | false =>
      cases live : engine.roster.find? target with
      | none =>
        simp only [sendTo, deliver, stopping, live]
        exact strays_refuse (.unknown stopping live) message
      | some actor =>
        have resolved : engine.resolve? (.handle target) = some target := rfl
        obtain ⟨after, delivered, delivers⟩ := orderly.delivers stopping resolved live message
        rw [sendTo, delivered]
        exact ⟨rfl, delivers⟩
  | name label =>
    cases bound : engine.findName? label with
    | none =>
      rw [sendTo, bound]
      exact strays_refuse (.unnamed bound) message
    | some target =>
      -- a name that is bound is that of somebody live, and after a shutdown there is nobody
      have active : engine.stopping = false := by
        by_contra stopping
        rw [(orderly.closed (Bool.not_eq_false _ ▸ stopping)).unnamed label] at bound
        cases bound
      have contained := orderly.named.live label target
        (orderly.named.findName?_eq_some_iff.1 bound)
      obtain ⟨actor, live⟩ := Option.isSome_iff_exists.1 contained
      have resolved : engine.resolve? (.name label) = some target := bound
      obtain ⟨after, delivered, delivers⟩ := orderly.delivers active resolved live message
      rw [sendTo, bound]
      dsimp only
      rw [delivered]
      exact ⟨rfl, delivers⟩

/-! ### Sessions -/

/-- The session that was last taken from a counter, that of an actor or the engine's own. -/
def lastOf (engine : Engine κ) : Option Nat → Int32
  | some actor => ((engine.roster.actor? actor).map (·.lastSession)).getD 0
  | none => engine.lastSession

/-- Takes a session from a counter. -/
def charge (engine : Engine κ) (counter : Option Nat) (session : Int32) : Engine κ :=
  match counter with
  | some actor => engine.mapRoster (·.modify actor ({ · with lastSession := session }))
  | none => { engine with lastSession := session }

theorem allocateFor_eq (engine : Engine κ) (actor : Nat) :
    engine.allocateFor actor = (nextSession (engine.lastOf (some actor)),
      engine.charge (some actor) (nextSession (engine.lastOf (some actor)))) := rfl

theorem allocate_eq (engine : Engine κ) (source : Option Handle) :
    engine.allocate source = (nextSession (engine.lastOf (source.bind engine.roster.find?)),
      engine.charge (source.bind engine.roster.find?)
        (nextSession (engine.lastOf (source.bind engine.roster.find?)))) := by
  unfold allocate
  cases source.bind engine.roster.find? <;> rfl

/-- A counter is not what anything but sessions depends on. -/
theorem Orderly.charge (orderly : engine.Orderly hands) (counter : Option Nat) (session : Int32) :
    (engine.charge counter session).Orderly hands := by
  cases counter with
  | none =>
    refine ⟨orderly.sound, orderly.named, fun stopping => ?_⟩
    have closed := orderly.closed stopping
    exact ⟨stopping, closed.running, closed.vacant, closed.unnamed, closed.waiting⟩
  | some actor =>
    refine ⟨orderly.sound.modify actor fun _ => rfl, orderly.named, fun stopping => ?_⟩
    have closed := orderly.closed stopping
    exact ⟨stopping, closed.running, closed.vacant, closed.unnamed, closed.waiting⟩

/-- A send with a session of its own, or with a new one from a counter. -/
structure SendsFrom (engine : Engine κ) (hands : List Nat) (counter : Option Nat)
    (source : Option Handle) (destination : Address) (session : Int32) (payload : Payload)
    (result : Except SendError Int32 × Engine κ) : Prop where
  kept (given : 0 ≤ session) : engine.Sends hands destination ⟨source, session, payload⟩ result
  allocated (asked : session < 0) :
    let fresh := nextSession (engine.lastOf counter)
    0 < fresh ∧
      (engine.charge counter fresh).Sends hands destination ⟨source, fresh, payload⟩ result

theorem Orderly.send (orderly : engine.Orderly hands) (source : Option Handle)
    (destination : Address) (session : Int32) (payload : Payload) :
    engine.SendsFrom hands (source.bind engine.roster.find?) source destination session payload
      (engine.send source destination session payload) where
  kept given := by
    rw [Engine.send, if_neg (Int32.not_lt.2 given)]
    exact orderly.sends destination ⟨source, session, payload⟩
  allocated asked := by
    rw [Engine.send, if_pos asked, engine.allocate_eq]
    exact ⟨nextSession_pos _, (orderly.charge _ _).sends destination ⟨source, _, payload⟩⟩

theorem Orderly.sendAs (orderly : engine.Orderly hands) {actor : Nat} {found : Actor κ}
    (works : engine.roster.actor? actor = some found) (destination : Address) (session : Int32)
    (payload : Payload) :
    engine.SendsFrom hands (some actor) (some found.handle) destination session payload
      (engine.sendAs actor destination session payload) where
  kept given := by
    have own : engine.roster.handleOf actor = found.handle := by
      rw [Roster.handleOf, works, Option.map_some, Option.getD_some]
    rw [Engine.sendAs, if_neg (Int32.not_lt.2 given)]
    dsimp only
    rw [own]
    exact orderly.sends destination ⟨some found.handle, session, payload⟩
  allocated asked := by
    let fresh := nextSession (engine.lastOf (some actor))
    have own : (engine.charge (some actor) fresh).roster.handleOf actor = found.handle := by
      have same : (engine.charge (some actor) fresh).roster.handle? actor =
          engine.roster.handle? actor := by
        refine engine.roster.handle?_modify actor (fun found => ?_) actor
        rfl
      rw [Roster.handleOf_eq, same, Roster.handle?, works, Option.map_some, Option.getD_some]
    rw [Engine.sendAs, if_pos asked, engine.allocateFor_eq]
    dsimp only
    rw [own]
    exact ⟨nextSession_pos _, (orderly.charge _ _).sends destination ⟨_, fresh, payload⟩⟩

end Engine

namespace Reachable

variable {config : Config} {modules : List (String × Module κ)} {machine : Machine κ}

theorem orderly (reached : Reachable config modules machine) :
    machine.engine.Orderly machine.hands where
  sound := reached.sound
  named := reached.named
  closed stopping := (reached.closed stopping).engine

/-- A send appends its message at the end of the mailbox of the live actor that the address resolves
to, and the mailbox at the end of the run queue if nobody has it, and changes nothing else; or it
leaves one dead letter and changes nothing else. A session that is negative is replaced by a new one:
from the counter of the actor that sends, or of the actor that is live with the source's handle, or
from the engine's own. -/
theorem send_is_all_or_nothing (reached : Reachable config modules machine)
    (destination : Address) (session : Int32) (payload : Payload) :
    (∀ source, machine.engine.SendsFrom machine.hands
      (source.bind machine.engine.roster.find?) source destination session payload
      (machine.engine.send source destination session payload)) ∧
    ∀ actor found, machine.engine.roster.actor? actor = some found →
      machine.engine.SendsFrom machine.hands
        (some actor) (some found.handle) destination session payload
        (machine.engine.sendAs actor destination session payload) :=
  ⟨fun source => reached.orderly.send source destination session payload,
    fun _ _ works => reached.orderly.sendAs works destination session payload⟩

/-- While its init runs an actor has its own mailbox in hands, so what it sends itself puts nothing
into the run queue. A name that is not bound gets a dead letter. -/
theorem send_is_all_or_nothing_in_init :
    ∃ machine, Reachable Config.standard [("self", selfSender)] machine ∧
      (machine.engine.sendAs 0 (.handle ⟨1⟩) (-1) []).1 = .ok 1 ∧
      machine.engine.SendsFrom machine.hands (some 0) (some ⟨1⟩) (.handle ⟨1⟩) (-1) []
        (machine.engine.sendAs 0 (.handle ⟨1⟩) (-1) []) ∧
      (machine.engine.sendAs 0 (.handle ⟨1⟩) (-1) []).2.roster.exchange.messages 0 =
        [⟨some ⟨1⟩, 1, []⟩] ∧
      (machine.engine.sendAs 0 (.handle ⟨1⟩) (-1) []).2.roster.exchange.waiting = [] ∧
      (machine.engine.send none (.name "ghost") 5 []).1 = .error (.unknownName "ghost") ∧
      machine.engine.SendsFrom machine.hands none none (.name "ghost") 5 []
        (machine.engine.send none (.name "ghost") 5 []) := by
  have created : Engine.create Config.standard [("self", selfSender)] = .ok _ := rfl
  have reached := ((Reachable.created created).launching "self" "").stepped
  obtain ⟨_, own⟩ := reached.send_is_all_or_nothing (.handle ⟨1⟩) (-1) []
  obtain ⟨host, _⟩ := reached.send_is_all_or_nothing (.name "ghost") 5 []
  exact ⟨_, reached, by decide +kernel, own 0 _ rfl, by decide +kernel, by decide +kernel,
    by decide +kernel, host none⟩

end Reachable

end Mailroom
