import Mailroom.Proofs.Engine.Shutdown
/-! # An engine that has been shut down

What the host asks of it leaves traces in the journal and nowhere else: a send or a timer that
expires becomes a dead letter, and nobody comes to be or is put to work again.
-/

namespace Mailroom

variable {κ : Type}

/-! ### Traces in the journal -/

/-- Each timer that expires is followed by the dead letter of what it had to deliver. -/
def Answered (past : List Event) : Prop :=
  ∀ newer target session older, past = newer ++ .timer (.expired target session) :: older →
    ∃ front passage, newer = front ++
      [.dropped none (.ofMessage target.text (.expiry session) .shuttingDown) passage]

private theorem Answered.cons {past : List Event} (answered : Answered past) {event : Event}
    (other : ∀ target session, event ≠ .timer (.expired target session)) :
    Answered (event :: past) := by
  intro newer target session older same
  cases newer with
  | nil => exact absurd (List.cons.inj same).1 (other target session)
  | cons first newer =>
    obtain ⟨front, passage, rfl⟩ := answered newer target session older (List.cons.inj same).2
    exact ⟨first :: front, passage, rfl⟩

private theorem Answered.expire {past : List Event} (answered : Answered past) (target : Handle)
    (session : Int32) (passage : Passage) :
    Answered (.dropped none (.ofMessage target.text (.expiry session) .shuttingDown) passage ::
      .timer (.expired target session) :: past) := by
  intro newer other number older same
  rcases newer with _ | ⟨first, _ | ⟨second, newer⟩⟩
  · exact nomatch (List.cons.inj same).1
  · obtain ⟨letter, rest⟩ := List.cons.inj same
    injection (List.cons.inj rest).1 with expired
    injection expired with own
    subst letter own
    subst session
    exact ⟨[], passage, rfl⟩
  · obtain ⟨front, passage, rfl⟩ :=
      answered newer other number older (List.cons.inj (List.cons.inj same).2).2
    exact ⟨first :: second :: front, passage, rfl⟩

/-- What still happens in a roster after shutdown. -/
inductive Echo : Roster κ → Roster κ → Prop where
  | commanded {roster : Roster κ} (caller : Handle) (keyword : String) :
    Echo roster (roster.note (.commanded caller keyword))
  | added {roster : Roster κ} (target : Handle) (session : Int32) (expire : UInt32) :
    Echo roster (roster.note (.timer (.added target session expire)))
  | refused {roster : Roster κ} (destination : String) (reason : DropReason) (message : Message) :
    Echo roster (roster.drop none destination reason message)
  | expired {roster : Roster κ} (target : Handle) (session : Int32) :
    Echo roster ((roster.note (.timer (.expired target session))).drop none target.text
      .shuttingDown (.expiry session))
  | outlet {roster : Roster κ} (outlet : Outlet) : Echo roster { roster with outlet }

/-- Any number of such things. -/
abbrev Echoes : Roster κ → Roster κ → Prop := Relation.ReflTransGen Echo

namespace Echoes

variable {roster after : Roster κ}

/-- Only the outlet and the journal change. -/
theorem frame (echoes : Echoes roster after) :
    after = { roster with outlet := after.outlet, past := after.past } := by
  induction echoes with
  | refl => rfl
  | tail _ echo ih =>
    cases echo <;> rw [ih] <;> rfl

theorem work (echoes : Echoes roster after) : after.work = roster.work := by
  induction echoes with
  | refl => rfl
  | @tail middle _ _ echo ih =>
    rw [← ih]
    cases echo with
    | commanded caller keyword => exact middle.told_note_of_none rfl
    | added target session expire => exact middle.told_note_of_none rfl
    | refused destination reason message =>
      exact (middle.told_drop ..).trans (List.append_nil _)
    | expired target session =>
      let noted := middle.note (.timer (.expired target session))
      have same : noted.work = middle.work := middle.told_note_of_none rfl
      rw [← same]
      exact (noted.told_drop ..).trans (List.append_nil _)
    | outlet outlet => rfl

theorem answered (echoes : Echoes roster after) :
    ∃ new, after.past = new ++ roster.past ∧ Answered new := by
  induction echoes with
  | refl => exact ⟨[], rfl, fun newer _ _ _ same => by simp at same⟩
  | tail _ echo ih =>
    obtain ⟨new, past, answered⟩ := ih
    cases echo with
    | outlet outlet => exact ⟨new, past, answered⟩
    | expired target session =>
      exact ⟨_ :: _ :: new, congrArg (_ :: _ :: ·) past, answered.expire target session _⟩
    | _ => exact ⟨_ :: new, congrArg (_ :: ·) past, answered.cons nofun⟩

end Echoes

namespace Engine

variable {engine middle after : Engine κ}

/-- What changes of an engine that has been shut down. -/
structure Lingers (engine after : Engine κ) : Prop where
  roster : Echoes engine.roster after.roster
  stopping : after.stopping = engine.stopping
  running : after.running = engine.running

theorem Lingers.refl (engine : Engine κ) : engine.Lingers engine := ⟨.refl, rfl, rfl⟩

theorem Lingers.trans (first : engine.Lingers middle) (second : middle.Lingers after) :
    engine.Lingers after :=
  ⟨first.roster.trans second.roster, second.stopping.trans first.stopping,
    second.running.trans first.running⟩

theorem Lingers.closed (lingers : engine.Lingers after) (closed : engine.Closed) :
    after.Closed where
  stopping := lingers.stopping.trans closed.stopping
  running := lingers.running.trans closed.running
  vacant := by
    rw [lingers.roster.frame]
    exact closed.vacant
  unnamed name := by
    rw [findName?, lingers.roster.frame]
    exact closed.unnamed name
  waiting := by
    rw [lingers.roster.frame]
    exact closed.waiting

namespace Closed

variable (closed : engine.Closed)

include closed

/-! ### Sends and timers -/

theorem deliver_eq (target : Handle) (message : Message) :
    engine.deliver target message =
      engine.refuse target.text message .shuttingDown .shuttingDown := if_pos closed.stopping

/-- No source is live, so the engine's own counter is used. -/
theorem allocate_eq (source : Option Handle) :
    engine.allocate source = (nextSession engine.lastSession,
      { engine with lastSession := nextSession engine.lastSession }) := by
  have nobody : source.bind engine.roster.find? = none := by
    cases source with
    | none => rfl
    | some handle => exact closed.vacant handle
  rw [allocate, nobody]

private theorem lingers_deliver (target : Handle) (message : Message) :
    engine.Lingers (engine.deliver target message).2 := by
  rw [closed.deliver_eq]
  exact ⟨.single (.refused ..), rfl, rfl⟩

private theorem lingers_sendTo (destination : Address) (message : Message) :
    engine.Lingers (engine.sendTo destination message).2 := by
  cases destination with
  | handle target => exact closed.lingers_deliver target message
  | name label =>
    rw [sendTo, closed.unnamed label]
    exact ⟨.single (.refused ..), rfl, rfl⟩

private theorem lingers_send (source : Option Handle) (destination : Address) (session : Int32)
    (payload : Payload) : engine.Lingers (engine.send source destination session payload).2 := by
  have chosen : engine.Lingers
      (if session < 0 then engine.allocate source else (session, engine)).2 := by
    split
    · rw [closed.allocate_eq]
      exact ⟨.refl, rfl, rfl⟩
    · exact .refl _
  exact chosen.trans ((chosen.closed closed).lingers_sendTo ..)

private theorem lingers_timeout (target : Handle) (ticks : UInt32) (session : Int32) :
    engine.Lingers (engine.timeout target ticks session) := by
  unfold timeout
  split
  · exact closed.lingers_deliver ..
  · exact ⟨.single (.added ..), rfl, rfl⟩

private theorem expire_eq (node : Timer.Node) :
    engine.expire node = (engine.note (.timer (.expired node.target node.session))).mapRoster
      (·.drop none node.target.text .shuttingDown (.expiry node.session)) := by
  have noted : (engine.note (.timer (.expired node.target node.session))).Closed :=
    ⟨closed.stopping, closed.running, closed.vacant, closed.unnamed, closed.waiting⟩
  rw [expire, noted.deliver_eq]
  rfl

private theorem lingers_expire (node : Timer.Node) : engine.Lingers (engine.expire node) := by
  rw [closed.expire_eq]
  exact ⟨.single (.expired ..), rfl, rfl⟩

/-- Each timer that expires becomes a dead letter. -/
theorem foldl_expire (expired : List Timer.Node) :
    engine.Lingers (expired.foldl expire engine) ∧
      (expired.foldl expire engine).roster.letters = engine.roster.letters ++
        expired.map fun node =>
          (none, .ofMessage node.target.text (.expiry node.session) .shuttingDown) := by
  induction expired generalizing engine with
  | nil => exact ⟨.refl _, (List.append_nil _).symm⟩
  | cons node rest ih =>
    have first := closed.lingers_expire node
    obtain ⟨second, letters⟩ := ih (first.closed closed)
    let noted := engine.roster.note (.timer (.expired node.target node.session))
    have silent : noted.letters = engine.roster.letters := engine.roster.told_note_of_none rfl
    have letter : (engine.expire node).roster.letters = noted.letters ++
        [(none, .ofMessage node.target.text (.expiry node.session) .shuttingDown)] := by
      rw [closed.expire_eq]
      exact noted.told_drop ..
    refine ⟨first.trans second, ?_⟩
    rw [List.foldl_cons, letters, letter, silent, List.append_assoc]
    rfl

theorem advance :
    engine.Lingers engine.advance ∧
      engine.advance.roster.letters = engine.roster.letters ++
        engine.timer.tick.1.map fun node =>
          (none, .ofMessage node.target.text (.expiry node.session) .shuttingDown) := by
  have ticked : engine.Lingers { engine with timer := engine.timer.tick.2 } := ⟨.refl, rfl, rfl⟩
  obtain ⟨expired, letters⟩ := (ticked.closed closed).foldl_expire engine.timer.tick.1
  exact ⟨ticked.trans expired, letters⟩

private theorem lingers_advanceBy (count : Nat) : engine.Lingers (advanceBy count engine) := by
  induction count generalizing engine with
  | zero => exact .refl _
  | succ count ih => exact closed.advance.1.trans (ih (closed.advance.1.closed closed))

private theorem lingers_updateTime (reading : Nat) :
    engine.Lingers (engine.updateTime reading).2 := by
  have observed : engine.Lingers { engine with timer := (engine.timer.observe reading).2 } :=
    ⟨.refl, rfl, rfl⟩
  exact observed.trans ((observed.closed closed).lingers_advanceBy _)

/-! ### Commands and launches -/

private theorem retire_eq (handle : Handle) : engine.retire handle = (false, engine) := by
  have nobody := closed.vacant handle
  simp only [retire, overRoster, Roster.retire, nobody]

private theorem snd_bind (handle : Handle) (name : String) :
    (engine.bind handle name).2 = engine := by
  have unknown : engine.roster.directory.contains handle = false := by
    rw [Directory.contains, show engine.roster.directory.find? handle = none from
      closed.vacant handle]
    rfl
  unfold Engine.bind
  split
  · rename_i bound
    unfold Directory.bind at bound
    split at bound
    · cases bound
    · rw [unknown] at bound
      cases bound
  · rfl

private theorem lingers_obey (caller : Handle) (command : Command) :
    engine.Lingers (engine.obey caller command).2 := by
  cases command with
  | reg name =>
    cases name with
    | none => exact .refl _
    | some name =>
      have bound := closed.snd_bind caller name
      dsimp only [obey]
      split <;> rename_i result <;> rw [result] at bound <;> exact bound ▸ .refl _
  | exit =>
    rw [obey, closed.retire_eq]
    exact .refl _
  | now => exact .refl _
  | timeout ticks session => exact closed.lingers_timeout ..
  | launch module args => exact .refl _

/-- A launch is refused before a handle is issued. -/
theorem beginLaunch_eq (module args : String) :
    engine.beginLaunch module args = (.error .shuttingDown, engine) := by
  have refused : engine.instantiate module = .error .shuttingDown := by
    rw [instantiate, closed.stopping]
    rfl
  rw [beginLaunch, refused]

theorem step_launch (module args : String) :
    Machine.step { engine, tasks := [.launch module args] } =
      { engine, tasks := [.launched (.error .shuttingDown)] } := by
  simp only [Machine.step, closed.beginLaunch_eq]

private theorem settle_launch (fuel : Nat) (module args : String) :
    Machine.settle? (fuel + 1) { engine, tasks := [.launch module args] } =
      Machine.settle? fuel { engine, tasks := [.launched (.error .shuttingDown)] } := by
  have busy : ¬ Machine.isSettled { engine, tasks := [.launch module args] } = true :=
    Bool.false_ne_true
  rw [Machine.settle?, if_neg busy, closed.step_launch]

theorem create_eq (fuel : Nat) (module args : String) :
    engine.create? (fuel + 2) module args = some (.error .shuttingDown, engine) := by
  rw [create?, closed.settle_launch]
  rfl

/-! ### Dispatching -/

theorem dispatchOnce_eq (fuel : Nat) : engine.dispatchOnce? fuel = some (.blocked, engine) := by
  rw [dispatchOnce?, Exchange.next?_eq_none_iff.2 closed.waiting]

/-! ### Requests -/

theorem shutdown_eq : engine.shutdown = engine := if_pos closed.stopping

theorem lingers_does {request : Request} (does : engine.Does request after) :
    engine.Lingers after := by
  cases does with
  | nothing request => exact .refl engine
  | send source destination session payload => exact closed.lingers_send ..
  | obey caller command =>
    have noted : engine.Lingers (engine.note (.commanded caller command.keyword)) :=
      ⟨.single (.commanded ..), rfl, rfl⟩
    exact noted.trans ((noted.closed closed).lingers_obey caller command)
  | timeout target ticks session => exact closed.lingers_timeout ..
  | advance => exact closed.advance.1
  | updateTime reading => exact closed.lingers_updateTime reading
  | retire handle =>
    rw [closed.retire_eq]
    exact .refl engine
  | bind handle name =>
    rw [closed.snd_bind]
    exact .refl engine
  | subscribe => exact ⟨.single (.outlet _), rfl, rfl⟩
  | observe request subscribed copies => exact ⟨.single (.outlet _), rfl, rfl⟩
  | start lasting => cases lasting.symm.trans closed.stopping
  | shutdown =>
    rw [closed.shutdown_eq]
    exact .refl engine

end Closed

end Engine

end Mailroom
