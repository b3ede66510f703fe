import Mailroom.Proofs.Address.RoundTrip
import Mailroom.Proofs.Command.NormalForm
import Mailroom.Proofs.Engine.Sends
/-! # Names that actors register

An address reaches an actor if whatever is sent to it is appended to the actor's mailbox, and that
is so just if it resolves to the actor's handle. A name that an actor registers reaches it, so with
the mark of a name in front it can be written to. The text it was registered by is read as that name
if it does not begin with a colon. If it does, it was registered all the same, and is read as a
handle.
-/

namespace Mailroom

open Text

/-! ### Texts of names -/

namespace Command

variable {argument : List Char} {name : String}

/-- What is registered by a text is what an address of that text names, but for a colon. -/
theorem parse_trim_of_nameOf? (named : nameOf? argument = some name) (filled : name ≠ "")
    (plain : (trim argument).head? ≠ some ':') :
    Address.parse (String.ofList (trim argument)) = .ok (.name name) := by
  obtain ⟨_, chars⟩ := nameOf?_eq_some_iff.1 named
  have whole : name = String.ofList (dropLeading '.' (trim argument)) := by
    rw [← chars, String.ofList_toList]
  unfold Address.parse
  rw [String.toList_ofList]
  split
  · rename_i nothing
    rw [nothing] at whole
    exact absurd whole filled
  · rename_i colon
    rw [colon] at plain
    exact absurd rfl plain
  · split
    · rename_i nothing
      rw [nothing] at whole
      exact absurd whole filled
    · rw [whole]

/-- Behind a colon there is no mark to remove, and an address that begins with one is a handle. -/
theorem parse_trim_of_colon (named : nameOf? argument = some name)
    (colon : (trim argument).head? = some ':') :
    String.ofList (trim argument) = name ∧
      Address.parse (String.ofList (trim argument)) = (Handle.parse name).map .handle := by
  obtain ⟨rest, parts⟩ := List.head?_eq_some_iff.1 colon
  obtain ⟨_, chars⟩ := nameOf?_eq_some_iff.1 named
  have whole : String.ofList (trim argument) = name := by
    rw [parts] at chars ⊢
    exact String.toList_inj.1 ((String.toList_ofList).trans chars.symm)
  refine ⟨whole, ?_⟩
  have begins : name.toList = ':' :: rest := by
    rw [← whole, String.toList_ofList, parts]
  rw [whole, Address.parse, begins]
  rfl

end Command

namespace Engine

variable {κ : Type} {engine after : Engine κ} {hands : List Nat} {address : Address}
  {target caller : Handle} {actor : Nat} {argument name : String}

/-! ### Addresses that reach an actor -/

/-- Whatever the host or an actor sends to the address is appended to the actor's mailbox, with the
session that the sender is told. -/
structure Reaches (engine : Engine κ) (address : Address) (actor : Nat) : Prop where
  sent (source : Option Handle) (session : Int32) (payload : Payload) : ∃ given later,
    engine.send source address session payload = (.ok given, later) ∧
      later.roster.exchange.messages actor =
        engine.roster.exchange.messages actor ++ [⟨source, given, payload⟩]
  sentAs (sender : Nat) (found : Actor κ) (works : engine.roster.actor? sender = some found)
    (session : Int32) (payload : Payload) : ∃ given later,
    engine.sendAs sender address session payload = (.ok given, later) ∧
      later.roster.exchange.messages actor =
        engine.roster.exchange.messages actor ++ [⟨some found.handle, given, payload⟩]

/-- While somebody is live the engine does not stop. -/
theorem Orderly.active (orderly : engine.Orderly hands)
    (live : engine.roster.find? target = some actor) : engine.stopping = false := by
  by_contra stopping
  have gone := (orderly.closed (Bool.not_eq_false _ ▸ stopping)).vacant target
  rw [live] at gone
  cases gone

/-- A message for somebody live is not a dead letter. -/
theorem Sends.delivered {message : Message} {result : Except SendError Int32 × Engine κ}
    (sends : engine.Sends hands address message result)
    (resolved : engine.resolve? address = some target)
    (live : engine.roster.find? target = some actor) (active : engine.stopping = false) :
    ∃ later, result = (.ok message.session, later) ∧
      later.roster.exchange.messages actor =
        engine.roster.exchange.messages actor ++ [message] := by
  obtain ⟨session | cause, later⟩ := result
  · obtain ⟨_, _, _, stray, _⟩ := sends.letter
    cases stray with
    | unnamed unbound => cases unbound.symm.trans resolved
    | unknown _ absent =>
      cases resolved
      cases absent.symm.trans live
    | stopping stopping => cases stopping.symm.trans active
  · obtain ⟨rfl, delivers⟩ := sends
    obtain ⟨holder, owner, box, resolved', live', gains, _⟩ := delivers.gains
    obtain rfl := Option.some.inj (resolved.symm.trans resolved')
    obtain rfl := Option.some.inj (live.symm.trans live')
    exact ⟨later, rfl, gains.messages⟩

/-- Taking a session changes nothing that addresses resolve to. -/
theorem resolve?_charge (engine : Engine κ) (counter : Option Nat) (session : Int32)
    (address : Address) :
    (engine.charge counter session).resolve? address = engine.resolve? address := by
  cases counter <;> cases address <;> rfl

private theorem SendsFrom.delivered {counter : Option Nat} {source : Option Handle}
    {session : Int32} {payload : Payload} {result : Except SendError Int32 × Engine κ}
    (sends : engine.SendsFrom hands counter source address session payload result)
    (resolved : engine.resolve? address = some target)
    (live : engine.roster.find? target = some actor) (active : engine.stopping = false) :
    ∃ given later, result = (.ok given, later) ∧
      later.roster.exchange.messages actor =
        engine.roster.exchange.messages actor ++ [⟨source, given, payload⟩] := by
  by_cases asked : session < 0
  · have charged := (sends.allocated asked).2
    have resolved' (fresh : Int32) := (engine.resolve?_charge counter fresh address).trans resolved
    cases counter with
    | none => exact ⟨_, charged.delivered (resolved' _) live active⟩
    | some counter => exact ⟨_, charged.delivered (resolved' _) live active⟩
  · exact ⟨_, (sends.kept (Int32.not_lt.1 asked)).delivered resolved live active⟩

/-- An address reaches an actor just if it resolves to the handle of the actor, and that is live. -/
theorem Orderly.reaches_iff (orderly : engine.Orderly hands) :
    engine.Reaches address actor ↔ ∃ target, engine.resolve? address = some target ∧
      engine.roster.find? target = some actor := by
  constructor
  · intro reaches
    obtain ⟨given, later, sent, appended⟩ := reaches.sent none 0 []
    have sends := (orderly.send none address 0 []).kept (Int32.le_refl 0)
    rw [sent] at sends
    obtain ⟨target, owner, box, resolved, live, gains, _⟩ := sends.2.gains
    refine ⟨target, resolved, ?_⟩
    by_cases same : actor = owner
    · rw [same, live]
    · -- the mailboxes of all others are as they were
      have kept : later.roster.exchange.messages actor = engine.roster.exchange.messages actor := by
        rw [Exchange.messages, Exchange.messages, gains.others actor same]
      rw [kept] at appended
      have longer := congrArg List.length appended
      rw [List.length_append, List.length_singleton] at longer
      omega
  · rintro ⟨target, resolved, live⟩
    have active := orderly.active live
    exact ⟨fun source session payload =>
      (orderly.send source address session payload).delivered resolved live active,
      fun sender found works session payload =>
        (orderly.sendAs works address session payload).delivered resolved live active⟩

/-! ### Registering -/

/-- Does what `REG` with an argument asks for. -/
def register (engine : Engine κ) (caller : Handle) (argument : String) :
    Except CommandError Reply × Engine κ :=
  (engine.note (.commanded caller "REG")).obey caller (.reg (Command.nameOf? argument.toList))

private theorem command?_register {command : Command}
    (read : Command.parse "REG" argument = .ok command)
    (fuel : Nat) (engine : Engine κ) (caller : Handle) :
    engine.command? fuel caller command = some (engine.register caller argument) := by
  obtain rfl := Except.ok.inj read
  rfl

private theorem act_register {command : Command} (read : Command.parse "REG" argument = .ok command)
    (engine : Engine κ) (rest : List (Task κ)) (actor : Nat) (purpose : Purpose)
    (next : Except CommandError Reply → Program κ) :
    Machine.act engine rest actor purpose (.command command next) =
      { engine := (engine.register (engine.roster.handleOf actor) argument).2
        tasks := .run actor purpose
          (next (engine.register (engine.roster.handleOf actor) argument).1) :: rest } := by
  obtain rfl := Except.ok.inj read
  rfl

/-- A name is registered if it can be bound, and nothing else is changed. -/
theorem register_eq_ok_iff :
    engine.register caller argument = (.ok (.name name), after) ↔
      Command.nameOf? argument.toList = some name ∧ ∃ directory,
        engine.roster.directory.bind caller name = .ok directory ∧
        after = (engine.note (.commanded caller "REG")).mapRoster ({ · with directory }) := by
  unfold register
  cases named : Command.nameOf? argument.toList with
  | none => simp [obey]
  | some label =>
    have same : (engine.note (.commanded caller "REG")).roster.directory =
      engine.roster.directory := rfl
    simp only [obey, bind, same]
    cases bound : engine.roster.directory.bind caller label with
    | error cause =>
      simp only [Prod.mk.injEq, reduceCtorEq, false_and, Option.some.injEq, false_iff]
      rintro ⟨rfl, directory, bound', _⟩
      cases bound.symm.trans bound'
    | ok directory =>
      simp only [Prod.mk.injEq, Except.ok.injEq, Reply.name.injEq, Option.some.injEq]
      constructor
      · rintro ⟨rfl, rfl⟩
        exact ⟨rfl, directory, bound, rfl⟩
      · rintro ⟨rfl, directory', bound', rfl⟩
        cases bound.symm.trans bound'
        exact ⟨rfl, rfl⟩

/-- What a name that was registered is bound to. -/
theorem Orderly.register (orderly : engine.Orderly hands)
    (live : engine.roster.find? caller = some actor)
    (registered : engine.register caller argument = (.ok (.name name), after)) :
    after.Orderly hands ∧ after.findName? name = some caller ∧
      after.roster.find? caller = some actor := by
  obtain ⟨_, directory, bound, rfl⟩ := register_eq_ok_iff.1 registered
  have named := orderly.named.bind bound
  obtain ⟨_, _, _, rfl⟩ := Directory.bind_eq_ok_iff.1 bound
  have noted := orderly.sound.move (.note (.commanded caller "REG") rfl)
  refine ⟨⟨noted.move (.rename bound), named, fun stopping => ?_⟩, ?_, live⟩
  · cases stopping.symm.trans (orderly.active live)
  · refine named.findName?_eq_some_iff.2 ?_
    exact (orderly.named.sorted.mem_insert_iff ..).2 (.inl rfl)

end Engine

namespace Reachable

variable {κ : Type} {config : Config} {modules : List (String × Module κ)} {machine : Machine κ}
  {caller : Handle} {actor : Nat} {argument name : String} {after : Engine κ}

/-- When a live actor registers a name, by itself or through the host, the name reaches it, and so
does the text of the name with its mark. The text it was registered by, without the white space
around it, is read as the name unless it begins with a colon. With a colon it is read as a handle or
not at all, and then it reaches the actor just if it is a text of the actor's own handle. -/
theorem registered_names_reach (reached : Reachable config modules machine)
    (live : machine.engine.roster.find? caller = some actor)
    (registered : machine.engine.register caller argument = (.ok (.name name), after)) :
    (∀ command, Command.parse "REG" argument = .ok command →
      (∀ fuel, machine.engine.command? fuel caller command = some (.ok (.name name), after)) ∧
      ∀ worker purpose next rest, machine.engine.roster.handleOf worker = caller →
        machine.tasks = .run worker purpose (.command command next) :: rest →
        machine.step =
          { engine := after, tasks := .run worker purpose (next (.ok (.name name))) :: rest }) ∧
    after.Reaches (.name name) actor ∧
    Address.parse ("." ++ name) = .ok (.name name) ∧
    ((trim argument.toList).head? ≠ some ':' →
      Address.parse (String.ofList (trim argument.toList)) = .ok (.name name)) ∧
    ((trim argument.toList).head? = some ':' → String.ofList (trim argument.toList) = name ∧
      Address.parse (String.ofList (trim argument.toList)) = (Handle.parse name).map .handle ∧
      ∀ target, Handle.parse name = .ok target →
        (after.Reaches (.handle target) actor ↔ target = caller)) := by
  have orderly := reached.orderly
  obtain ⟨kept, bound, live'⟩ := orderly.register live registered
  obtain ⟨named, directory, binds, _⟩ := Engine.register_eq_ok_iff.1 registered
  have filled : name ≠ "" := (Directory.bind_eq_ok_iff.1 binds).1
  refine ⟨fun command read => ⟨fun fuel => ?_, ?_⟩, kept.reaches_iff.2 ⟨caller, bound, live'⟩,
    Address.parse_text_name filled, Command.parse_trim_of_nameOf? named filled, fun colon => ?_⟩
  · rw [Engine.command?_register read, registered]
  · rintro worker purpose next rest rfl working
    have acts := Engine.act_register read machine.engine rest worker purpose next
    rw [registered] at acts
    obtain ⟨engine, tasks⟩ := machine
    cases working
    exact acts
  · obtain ⟨whole, read⟩ := Command.parse_trim_of_colon named colon
    refine ⟨whole, read, fun target _ => kept.reaches_iff.trans ⟨?_, ?_⟩⟩
    · rintro ⟨_, resolved, found⟩
      cases resolved
      exact Option.some.inj ((kept.sound.listed found).symm.trans (kept.sound.listed live'))
    · rintro rfl
      exact ⟨_, rfl, live'⟩

/-- An actor whose init runs registers a name with its mark. -/
theorem registered_names_reach_greeter :
    ∃ machine, Reachable Config.standard [("self", selfSender)] machine ∧
      machine.engine.roster.find? ⟨1⟩ = some 0 ∧
      ∃ after, machine.engine.register ⟨1⟩ " .greeter\n" = (.ok (.name "greeter"), after) ∧
        after.Reaches (.name "greeter") 0 ∧ Address.parse ".greeter" = .ok (.name "greeter") := by
  have created : Engine.create Config.standard [("self", selfSender)] = .ok _ := rfl
  have reached := ((Reachable.created created).launching "self" "").stepped
  obtain ⟨_, reaches, marked, _⟩ := reached.registered_names_reach
    (show _ = some 0 by rfl) (show Engine.register _ ⟨1⟩ " .greeter\n" = _ by rfl)
  exact ⟨_, reached, rfl, _, rfl, reaches, marked⟩

/-- An actor registers the text of another handle. The address that is read from the same text does
not reach it, and nobody has that handle. -/
theorem registered_handle_does_not_reach :
    ∃ machine, Reachable Config.standard [("self", selfSender)] machine ∧
      machine.engine.roster.find? ⟨1⟩ = some 0 ∧
      ∃ after, machine.engine.register ⟨1⟩ ":2" = (.ok (.name ":2"), after) ∧
        Address.parse (String.ofList (trim ":2".toList)) = .ok (.handle ⟨2⟩) ∧
        ¬after.Reaches (.handle ⟨2⟩) 0 ∧
        (after.send none (.handle ⟨2⟩) 1 []).1 = .error (.unknownHandle ⟨2⟩) := by
  have created : Engine.create Config.standard [("self", selfSender)] = .ok _ := rfl
  have reached := ((Reachable.created created).launching "self" "").stepped
  obtain ⟨kept, _⟩ := reached.orderly.register
    (show _ = some 0 by rfl) (show Engine.register _ ⟨1⟩ ":2" = (.ok (.name ":2"), _) by rfl)
  refine ⟨_, reached, rfl, _, rfl, rfl, fun reaches => ?_, by decide +kernel⟩
  obtain ⟨_, resolved, live⟩ := kept.reaches_iff.1 reaches
  cases resolved
  cases live

end Reachable

end Mailroom
