import Mailroom.Proofs.Command.Numbers
/-! # Normal forms of commands

A command can be spelled in many ways: with white space around it, with or without the mark of a
name, with signs and leading zeros. One spelling of each command is its normal form, and whatever
spelling was read, the normal form reads back as the same command.
-/

namespace Mailroom

open Text

/-- One leading mark is all that is removed. -/
theorem Text.dropLeading_cons (c : Char) (text : List Char) :
    dropLeading c (c :: text) = text := if_pos rfl

private theorem Text.getLast?_dropLeading (c : Char) {text : List Char}
    (filled : dropLeading c text ≠ []) : (dropLeading c text).getLast? = text.getLast? := by
  cases text with
  | nil => rfl
  | cons d rest =>
    rw [dropLeading] at filled ⊢
    split
    · rename_i same
      rw [if_pos same] at filled
      rw [List.getLast?_cons, List.getLast?_eq_some_getLast filled, Option.getD_some]
    · rfl

namespace Command

variable {argument module args : List Char} {name : String}

/-- The argument from which a command is read back. -/
def canonical : Command → String
  | reg none => ""
  | reg (some name) => "." ++ name
  | exit => ""
  | now => ""
  | timeout ticks session => toString ticks ++ ":" ++ toString session
  | launch module args => module ++ " " ++ args

/-! ### Names -/

theorem nameOf?_eq_some_iff :
    nameOf? argument = some name ↔
      trim argument ≠ [] ∧ name.toList = dropLeading '.' (trim argument) := by
  unfold nameOf?
  split
  · rename_i nothing
    simp [nothing]
  · rename_i filled
    rw [Option.some.injEq, and_iff_right filled, ← String.toList_inj, String.toList_ofList]
    exact eq_comm

private theorem nameOf?_canonical (named : nameOf? argument = some name) :
    nameOf? ("." ++ name).toList = some name := by
  obtain ⟨filled, label⟩ := nameOf?_eq_some_iff.1 named
  have chars : ("." ++ name).toList = '.' :: name.toList := String.toList_append
  have bare : Bare ('.' :: name.toList) := by
    refine ⟨fun c begins => ?_, fun c ends => ?_⟩
    · obtain rfl : '.' = c := Option.some.inj begins
      rfl
    · -- behind the mark the name ends as the text did that it was read from
      cases empty : name.toList with
      | nil =>
        rw [empty] at ends
        obtain rfl : '.' = c := Option.some.inj ends
        rfl
      | cons first rest =>
        have some : dropLeading '.' (trim argument) ≠ [] := by
          rw [← label, empty]
          exact List.cons_ne_nil _ _
        rw [empty, List.getLast?_cons_cons, ← empty, label, getLast?_dropLeading '.' some] at ends
        exact (bare_trim argument).last c ends
  rw [chars, nameOf?_eq_some_iff, bare.trim_eq, dropLeading_cons]
  exact ⟨List.cons_ne_nil _ _, rfl⟩

/-! ### Modules and their arguments -/

/-- Behind white space that does not count, a module is what stands in front of the first white
space of ASCII, and what stands behind that, trimmed, is the argument of its init. -/
structure Launches (argument module args : List Char) : Prop where
  filled : module ≠ []
  solid (c : Char) (member : c ∈ module) : isAsciiBlank c = false
  parts : trimStart argument = module ∧ args = [] ∨ ∃ c rest,
    trimStart argument = module ++ c :: rest ∧ isAsciiBlank c = true ∧ args = trim rest

theorem launches_iff : Launches argument module args ↔
    module ≠ [] ∧ (cut? isAsciiBlank (trimStart argument) = none ∧ trimStart argument = module ∧
      args = [] ∨ ∃ rest, cut? isAsciiBlank (trimStart argument) = some (module, rest) ∧
        args = trim rest) := by
  simp only [cut?_eq_none_iff, cut?_eq_some_iff]
  constructor
  · rintro ⟨filled, solid, ⟨rfl, rfl⟩ | ⟨c, rest, parts, blank, rfl⟩⟩
    · exact ⟨filled, .inl ⟨solid, rfl, rfl⟩⟩
    · exact ⟨filled, .inr ⟨rest, ⟨c, parts, blank, solid⟩, rfl⟩⟩
  · rintro ⟨filled, ⟨solid, rfl, rfl⟩ | ⟨rest, ⟨c, parts, blank, solid⟩, rfl⟩⟩
    · exact ⟨filled, solid, .inl ⟨rfl, rfl⟩⟩
    · exact ⟨filled, solid, .inr ⟨c, rest, parts, blank, rfl⟩⟩

theorem launchOf?_eq_some_iff {module args : String} :
    launchOf? argument = some (module, args) ↔ Launches argument module.toList args.toList := by
  have same (name init : List Char) :
      (if name.isEmpty then none else some (String.ofList name, String.ofList init)) =
          some (module, args) ↔
        module.toList ≠ [] ∧ name = module.toList ∧ args.toList = init := by
    rw [Option.ite_none_left_eq_some, Option.some.injEq, Prod.mk.injEq, ← String.toList_inj,
      ← String.toList_inj, String.toList_ofList, String.toList_ofList, List.isEmpty_iff]
    constructor
    · rintro ⟨filled, rfl, rfl⟩
      exact ⟨filled, rfl, rfl⟩
    · rintro ⟨filled, rfl, same⟩
      exact ⟨filled, rfl, same.symm⟩
  rw [launches_iff, launchOf?]
  cases parted : cut? isAsciiBlank (trimStart argument) with
  | none =>
    refine (same (trimStart argument) []).trans ?_
    simp only [true_and, reduceCtorEq, false_and, exists_false, or_false]
  | some pair =>
    obtain ⟨name, rest⟩ := pair
    refine (same name (trim rest)).trans ?_
    simp only [reduceCtorEq, false_and, false_or, Option.some.injEq, Prod.mk.injEq, and_assoc,
      exists_and_left, exists_eq_left']

/-- A module is launched just if there is something besides white space. -/
theorem launchOf?_eq_none_iff :
    launchOf? argument = none ↔ ∀ c ∈ argument, isBlank c = true := by
  rw [← trimStart_eq_nil_iff, launchOf?]
  cases start : trimStart argument with
  | nil => exact iff_of_true rfl rfl
  | cons c rest =>
    have visible : isAsciiBlank c = false := by
      have solid : isBlank c = false := first_trimStart (congrArg List.head? start)
      exact Bool.eq_false_of_not_eq_true fun blank =>
        Bool.false_ne_true (solid.symm.trans (isBlank_of_isAsciiBlank blank))
    refine iff_of_false ?_ (List.cons_ne_nil _ _)
    rw [cut?, visible]
    cases cut? isAsciiBlank rest <;> simp

namespace Launches

private theorem bare (launches : Launches argument module args) : Bare args := by
  obtain ⟨_, rfl⟩ | ⟨_, rest, _, _, rfl⟩ := launches.parts
  · exact bare_nil
  · exact bare_trim rest

/-- A module begins where the white space in front of it ends. -/
theorem first (launches : Launches argument module args) {c : Char}
    (begins : module.head? = some c) : isBlank c = false := by
  have start : (trimStart argument).head? = some c := by
    obtain ⟨same, _⟩ | ⟨_, _, parts, _⟩ := launches.parts
    · rw [same, begins]
    · rw [parts, List.head?_append, begins, Option.some_or]
  exact first_trimStart start

private theorem canonical (launches : Launches argument module args) :
    Launches (module ++ ' ' :: args) module args where
  filled := launches.filled
  solid := launches.solid
  parts := by
    refine .inr ⟨' ', args, trimStart_eq_self fun c begins => ?_, rfl, launches.bare.trim_eq.symm⟩
    obtain ⟨first, rest, same⟩ := List.exists_cons_of_ne_nil launches.filled
    refine launches.first ?_
    rw [same] at begins ⊢
    exact begins

end Launches

/-! ### Reading back -/

variable {command : Command}

theorem parse_launch_eq_ok_iff {argument : String} :
    parse "LAUNCH" argument = .ok command ↔ ∃ module args, command = .launch module args ∧
      Launches argument.toList module.toList args.toList := by
  simp only [parse, ← launchOf?_eq_some_iff]
  cases launchOf? argument.toList with
  | none => simp
  | some pair =>
    obtain ⟨module, args⟩ := pair
    simp only [Except.ok.injEq, Option.some.injEq, Prod.mk.injEq]
    constructor
    · rintro rfl
      exact ⟨module, args, rfl, rfl, rfl⟩
    · rintro ⟨_, _, rfl, rfl, rfl⟩
      rfl

private theorem parse_canonical_reg (argument : String) :
    parse "REG" (reg (nameOf? argument.toList)).canonical =
      .ok (reg (nameOf? argument.toList)) := by
  cases named : nameOf? argument.toList with
  | none => rfl
  | some name => exact congrArg (Except.ok ∘ reg) (nameOf?_canonical named)

/-- Every word is printed by numerals that are bare and without a colon. -/
theorem times_canonical (ticks : UInt32) (session : Int32) :
    Times (timeout ticks session).canonical.toList ticks.toNat session.toInt := by
  have numeral : Unsigned (toString ticks).toList ticks.toNat := unsigned_toString ticks.toNat
  have numeral' : Signed (toString session).toList session.toInt := signed_toString session.toInt
  have bare {text : List Char} {i : Int} (numeral : Signed text i) : Trimmed text text :=
    trim_eq_iff.1 (bare_of_forall fun _ member => (numeral.solid member).1).trim_eq
  refine ⟨(toString ticks).toList, (toString session).toList, ?_, fun member => ?_,
    ⟨_, bare (.unsigned numeral), numeral⟩, _, bare numeral', numeral'⟩
  · rw [canonical, String.toList_append, String.toList_append, List.append_assoc]
    rfl
  · exact ((Signed.unsigned numeral).solid member).2 rfl

private theorem parse_canonical_launch {module args : String}
    (launches : Launches argument module.toList args.toList) :
    parse "LAUNCH" (launch module args).canonical = .ok (launch module args) := by
  refine parse_launch_eq_ok_iff.2 ⟨module, args, rfl, ?_⟩
  have chars : (launch module args).canonical.toList = module.toList ++ ' ' :: args.toList := by
    rw [canonical, String.toList_append, String.toList_append, List.append_assoc]
    rfl
  rw [chars]
  exact launches.canonical

private theorem parse_canonical {keyword argument : String}
    (read : parse keyword argument = .ok command) :
    parse command.keyword command.canonical = .ok command := by
  have whole := read
  unfold parse at read
  split at read
  · obtain rfl := Except.ok.inj read
    exact parse_canonical_reg argument
  · obtain rfl := Except.ok.inj read
    rfl
  · obtain rfl := Except.ok.inj read
    rfl
  · split at read
    · obtain rfl := Except.ok.inj read
      exact parse_timeout_iff.2 (times_canonical _ _)
    · cases read
  · obtain ⟨module, args, rfl, launches⟩ := parse_launch_eq_ok_iff.1 whole
    exact parse_canonical_launch launches
  · cases read

/-- Whatever spelling a command was read from, its normal form reads back as the same command. A
launch is read just from an argument that is not all white space; its module is not empty and has no
white space of ASCII, and its init's argument has no white space at its ends. -/
theorem normal_forms_read_back :
    (∀ keyword argument command, parse keyword argument = .ok command →
      parse command.keyword command.canonical = .ok command) ∧
    ∀ argument,
      ((∃ command, parse "LAUNCH" argument = .ok command) ↔
        ∃ c ∈ argument.toList, isBlank c = false) ∧
      ∀ command, parse "LAUNCH" argument = .ok command → ∃ module args,
        command = .launch module args ∧ module ≠ "" ∧
        (∀ c ∈ module.toList, isAsciiBlank c = false) ∧ Bare args.toList := by
  refine ⟨fun _ _ _ => parse_canonical, fun argument => ⟨?_, fun command read => ?_⟩⟩
  · have accepted : (∃ command, parse "LAUNCH" argument = .ok command) ↔
        launchOf? argument.toList ≠ none := by
      simp only [parse_launch_eq_ok_iff, ← launchOf?_eq_some_iff, Option.ne_none_iff_exists',
        Prod.exists]
      constructor
      · rintro ⟨_, module, args, _, found⟩
        exact ⟨module, args, found⟩
      · rintro ⟨module, args, found⟩
        exact ⟨_, module, args, rfl, found⟩
    simp only [accepted, Ne, launchOf?_eq_none_iff, not_forall, exists_prop, Bool.not_eq_true]
  · obtain ⟨module, args, rfl, launches⟩ := parse_launch_eq_ok_iff.1 read
    exact ⟨module, args, rfl, fun empty => launches.filled (String.toList_eq_nil_iff.2 empty),
      launches.solid, launches.bare⟩

/-- A vertical tab is white space but not of ASCII, so it may stand in a module's name. -/
theorem normal_forms_read_back_with_tabs :
    parse "LAUNCH" " echo  hello  world " =
        .ok (.launch "echo" "hello  world") ∧
      (launch "echo" "hello  world").canonical = "echo hello  world" ∧
      parse "LAUNCH" "echo hello  world" = .ok (.launch "echo" "hello  world") ∧
      Bare "hello  world".toList := by
  obtain ⟨back, launches⟩ := normal_forms_read_back
  have read : parse "LAUNCH" " echo  hello  world " =
      .ok (.launch "echo" "hello  world") := by decide +kernel
  obtain ⟨module, args, same, _, _, bare⟩ := (launches _).2 _ read
  obtain ⟨rfl, rfl⟩ := launch.inj same
  exact ⟨read, rfl, back _ _ _ read, bare⟩

end Command

end Mailroom
