import Mailroom.Failure
import Mathlib.Data.List.Chain
/-! # Failures within failures

A failure may wrap another one, and that one may wrap a third: a launch fails because an init
failed, in which a command failed, because it was to launch something. On the way down from a
failure to the innermost one, some failures put a heading in front of the message they wrap and list
that message as a cause. The others pass message and causes on as they are. So the causes are told
by the headings: there are as many, and each is what is left of the text before it without its
heading.
-/

namespace Mailroom

/-- A failure of any kind. -/
inductive Failure where
  | bare (text : String)
  | address (error : AddressError)
  | bind (error : BindError)
  | callback (error : CallbackError)
  | config (error : ConfigError)
  | send (error : SendError)
  | init (error : InitError)
  | launch (error : LaunchError)
  | command (error : CommandError)
  | engine (error : EngineError)
deriving DecidableEq

namespace Failure

variable {failure inner : Failure}

def message : Failure → String
  | bare text => text
  | address error => error.message
  | bind error => error.message
  | callback error => error.message
  | config error => error.message
  | send error => error.message
  | init error => error.message
  | launch error => error.message
  | command error => error.message
  | engine error => error.message

def causes : Failure → List String
  | send error => error.causes
  | init error => error.causes
  | launch error => error.causes
  | command error => error.causes
  | engine error => error.causes
  | _ => []

/-- The message and the causes, as they are told one after the other. -/
def texts (failure : Failure) : List String := failure.message :: failure.causes

/-- The failure that a failure wraps. -/
def inner? : Failure → Option Failure
  | send (.invalidAddress cause) => some (address cause)
  | init (.callback cause) => some (callback cause)
  | init (.other text) => some (bare text)
  | init (.command cause) => some (command cause)
  | init (.send cause) => some (send cause)
  | launch (.initFailed _ cause) => some (init cause)
  | command (.bind cause) => some (bind cause)
  | command (.launch cause) => some (launch cause)
  | command (.send cause) => some (send cause)
  | engine (.config cause) => some (config cause)
  | engine (.other text) => some (bare text)
  | _ => none

/-- What a failure puts in front of the message of the one it wraps, if it does not only pass it
on. -/
def heading? : Failure → Option String
  | send (.invalidAddress _) => some "Invalid address: "
  | launch (.initFailed module _) => some ("Module " ++ module ++ " failed to initialize: ")
  | engine (.config _) => some "Invalid configuration: "
  | _ => none

private theorem sizeOf_lt_of_inner? (wraps : failure.inner? = some inner) :
    sizeOf inner < sizeOf failure := by
  unfold inner? at wraps
  split at wraps <;> cases wraps <;> simp +arith

/-- A failure, the one that it wraps, and so on down to the innermost one. -/
def path (failure : Failure) : List Failure :=
  failure :: match wraps : failure.inner? with
    | none => []
    | some inner =>
      have := sizeOf_lt_of_inner? wraps
      path inner
termination_by sizeOf failure

/-- The failure that a failure names as its source: the one it wraps, or, if it only passes that one
on, the source of that one. -/
def source? (failure : Failure) : Option Failure :=
  match wraps : failure.inner? with
  | none => none
  | some inner =>
    have := sizeOf_lt_of_inner? wraps
    if failure.heading?.isSome then some inner else source? inner
termination_by sizeOf failure

private theorem path_eq (failure : Failure) :
    failure.path = failure :: (failure.inner?.map path).getD [] := by
  rw [path]
  split <;> rename_i wraps <;> simp [wraps]

private theorem path_of_innermost (innermost : failure.inner? = none) :
    failure.path = [failure] := by
  rw [path_eq, innermost]
  rfl

private theorem path_of_wraps (wraps : failure.inner? = some inner) :
    failure.path = failure :: inner.path := by
  rw [path_eq, wraps]
  rfl

private theorem source?_eq (failure : Failure) :
    failure.source? = failure.inner?.bind fun inner =>
      if failure.heading?.isSome then some inner else inner.source? := by
  rw [source?]
  split <;> rename_i wraps <;> simp [wraps]

/-! ### One step of a path -/

private theorem of_innermost (innermost : failure.inner? = none) :
    failure.heading? = none ∧ failure.texts = [failure.message] := by
  cases failure with
  | bare _ | address _ | bind _ | callback _ | config _ => exact ⟨rfl, rfl⟩
  | send error => cases error <;> first | exact ⟨rfl, rfl⟩ | cases innermost
  | init error => cases error <;> first | exact ⟨rfl, rfl⟩ | cases innermost
  | launch error => cases error <;> first | exact ⟨rfl, rfl⟩ | cases innermost
  | command error => cases error <;> first | exact ⟨rfl, rfl⟩ | cases innermost
  | engine error => cases error <;> first | exact ⟨rfl, rfl⟩ | cases innermost

private theorem texts_of_passes (wraps : failure.inner? = some inner)
    (passes : failure.heading? = none) :
    failure.texts = inner.texts := by
  unfold inner? at wraps
  split at wraps <;> cases wraps <;> first | rfl | cases passes

private theorem texts_of_heads (wraps : failure.inner? = some inner) {front : String}
    (heads : failure.heading? = some front) :
    front ≠ "" ∧ failure.texts = (front ++ inner.message) :: inner.texts := by
  unfold inner? at wraps
  -- An invalid address, a failed init and a bad configuration are all that have a heading.
  split at wraps <;> cases wraps <;> cases heads <;> refine ⟨?_, rfl⟩
  · decide
  · simp
  · decide

/-- What holds of the innermost failures, and goes from a failure to those that wrap it, holds of
every failure. -/
theorem layers {motive : Failure → Prop}
    (innermost : ∀ failure : Failure, failure.inner? = none → failure.heading? = none →
      failure.texts = [failure.message] → motive failure)
    (passes : ∀ failure inner : Failure, failure.inner? = some inner → failure.heading? = none →
      failure.texts = inner.texts → motive inner → motive failure)
    (heads : ∀ (failure inner : Failure) (front : String), failure.inner? = some inner →
      failure.heading? = some front → front ≠ "" →
        failure.texts = (front ++ inner.message) :: inner.texts → motive inner → motive failure)
    (failure : Failure) : motive failure := by
  induction failure using path.induct with
  | case1 failure ih =>
    cases wraps : failure.inner? with
    | none =>
      obtain ⟨heading, texts⟩ := of_innermost wraps
      exact innermost failure wraps heading texts
    | some inner =>
      cases heading : failure.heading? with
      | none =>
        exact passes failure inner wraps heading (texts_of_passes wraps heading) (ih inner wraps)
      | some front =>
        obtain ⟨nonempty, texts⟩ := texts_of_heads wraps heading
        exact heads failure inner front wraps heading nonempty texts (ih inner wraps)

/-! ### The texts of a path -/

/-- A text that is the other one behind something more. -/
def EndsIn (text rest : String) : Prop := ∃ front, front ≠ "" ∧ text = front ++ rest

theorem EndsIn.trans {text rest last : String} (first : EndsIn text rest)
    (second : EndsIn rest last) : EndsIn text last := by
  obtain ⟨front, nonempty, rfl⟩ := first
  obtain ⟨middle, -, rfl⟩ := second
  exact ⟨front ++ middle, by simp [nonempty], (String.append_assoc ..).symm⟩

private theorem EndsIn.ne {text rest : String} (ends : EndsIn text rest) : text ≠ rest := by
  obtain ⟨front, nonempty, rfl⟩ := ends
  simpa using nonempty

/-- The causes are what is told by going from a failure to its source, and on to the source of
that. -/
theorem causes_eq (failure : Failure) :
    failure.causes = (failure.source?.map texts).getD [] := by
  induction failure using layers with
  | innermost failure wraps _ texts =>
    rw [source?_eq, wraps]
    exact (List.cons.inj texts).2
  | passes failure inner wraps heading texts ih =>
    rw [source?_eq, wraps, heading, (List.cons.inj texts).2]
    exact ih
  | heads failure inner front wraps heading _ texts _ =>
    rw [source?_eq, wraps, heading]
    exact (List.cons.inj texts).2

private theorem length_texts (failure : Failure) :
    failure.texts.length = failure.path.countP (fun layer => layer.heading?.isSome) + 1 := by
  induction failure using layers with
  | innermost failure wraps heading texts => simp [path_of_innermost wraps, texts, heading]
  | passes failure inner wraps heading texts ih => simp [path_of_wraps wraps, texts, heading, ih]
  | heads failure inner front wraps heading _ texts ih =>
    simp [path_of_wraps wraps, texts, heading, ih]

/-- Each text ends in all those that are told after it. -/
theorem pairwise_texts (failure : Failure) : failure.texts.Pairwise EndsIn := by
  induction failure using layers with
  | innermost failure _ _ texts =>
    rw [texts]
    exact List.pairwise_singleton ..
  | passes failure inner _ _ texts ih =>
    rw [texts]
    exact ih
  | heads failure inner front _ _ nonempty texts ih =>
    have next : EndsIn (front ++ inner.message) inner.message := ⟨front, nonempty, rfl⟩
    rw [texts]
    refine List.pairwise_cons.2 ⟨fun text member => ?_, ih⟩
    obtain rfl | later := List.mem_cons.1 member
    · exact next
    · exact next.trans (List.rel_of_pairwise_cons ih later)

/-- The texts end with the message of the failure that wraps no other one. -/
theorem getLast?_texts (failure : Failure) :
    ∃ innermost, failure.path.getLast? = some innermost ∧ innermost.inner? = none ∧
      failure.texts.getLast? = some innermost.message := by
  induction failure using layers with
  | innermost failure wraps _ texts =>
    exact ⟨failure, by simp [path_of_innermost wraps], wraps, by simp [texts]⟩
  | passes failure inner wraps _ texts ih =>
    obtain ⟨innermost, last, least, told⟩ := ih
    exact ⟨innermost, by simp [path_of_wraps wraps, List.getLast?_cons, last], least,
      by rw [texts, told]⟩
  | heads failure inner front wraps _ _ texts ih =>
    obtain ⟨innermost, last, least, told⟩ := ih
    exact ⟨innermost, by simp [path_of_wraps wraps, List.getLast?_cons, last], least,
      by simp [texts, List.getLast?_cons, told]⟩

private theorem message_mem_texts {layer : Failure} (member : layer ∈ failure.path) :
    layer.message ∈ failure.texts := by
  induction failure using layers with
  | innermost failure wraps _ texts =>
    rw [path_of_innermost wraps, List.mem_singleton] at member
    rw [member, texts]
    exact List.mem_singleton_self _
  | passes failure inner wraps _ texts ih =>
    rw [path_of_wraps wraps] at member
    obtain rfl | deeper := List.mem_cons.1 member
    · exact List.mem_cons_self
    · rw [texts]
      exact ih deeper
  | heads failure inner front wraps _ _ texts ih =>
    rw [path_of_wraps wraps] at member
    obtain rfl | deeper := List.mem_cons.1 member
    · exact List.mem_cons_self
    · rw [texts]
      exact List.mem_cons_of_mem _ (ih deeper)

/-- However deep failures are nested, the causes of a failure are told by following sources. There
are as many as there are headings on its path, each text ends in the next one behind something more,
the last one is the message of the innermost failure, every failure of the path is told, and nothing
is told twice. -/
theorem causes_are_told_once (failure : Failure) :
    failure.causes = (failure.source?.map texts).getD [] ∧
      failure.causes.length = failure.path.countP (fun layer => layer.heading?.isSome) ∧
      failure.texts.IsChain EndsIn ∧
      (∃ innermost, failure.path.getLast? = some innermost ∧ innermost.inner? = none ∧
        failure.texts.getLast? = some innermost.message) ∧
      (∀ layer ∈ failure.path, layer.message ∈ failure.texts) ∧ failure.texts.Nodup :=
  ⟨failure.causes_eq, Nat.succ.inj failure.length_texts, failure.pairwise_texts.isChain,
    failure.getLast?_texts, fun _ => message_mem_texts, failure.pairwise_texts.imp EndsIn.ne⟩

/-- A launch in the init of a launch: the inner module is named, and the reason comes last. -/
example :
    let inner := LaunchError.initFailed "inner" (.failed "no")
    (launch (.initFailed "outer" (.command (.launch inner)))).causes =
      ["Module inner failed to initialize: Initialization failed: no",
        "Initialization failed: no"] := by
  decide

end Failure

end Mailroom
