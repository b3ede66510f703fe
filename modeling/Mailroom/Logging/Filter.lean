import Mailroom.Logging.Directive
/-! # Log filters

Which events are shown. Of the directives about an event the one with the longest target decides,
and of two with that target the one that asks for a field. A later directive takes the place of an
earlier one that asks for the same.

Text that is no directive is passed over, unless it is torn: then there is no filter at all.
-/

namespace Mailroom.Logging

/-- Directives, of which no two ask for the same. -/
structure Filter where
  directives : List Directive
deriving Repr

namespace Filter

/-- A filter with one directive, for all targets. -/
def ofThreshold (threshold : Threshold) : Filter :=
  { directives := [.ofTarget none threshold] }

/-- Adds a directive in place of the one that asks for the same. -/
def add (filter : Filter) (directive : Directive) : Filter :=
  { directives := directive :: filter.directives.filter fun old => !old.asksLike directive }

/-- Adds the directives among texts in order, if no text is torn. -/
def addAll? (filter : Filter) : List (List Char) → Option Filter
  | [] => some filter
  | text :: rest =>
    match Directive.parse text with
    | .ok directive => (filter.add directive).addAll? rest
    | .error .malformed => filter.addAll? rest
    | .error .torn => none

/-- The directive about a target that asks for most. -/
def decisive? (filter : Filter) (target : List Char) : Option Directive :=
  (filter.directives.filter (·.isAbout target)).foldl (fun best? directive =>
    match best? with
    | none => some directive
    | some best => if best.specificity < directive.specificity then some directive else some best)
    none

/-- Whether an event of a level is shown. -/
def admits (filter : Filter) (target : String) (level : Level) : Bool :=
  match (filter.decisive? target.toList).bind (·.threshold) with
  | none => false
  | some threshold => rank level ≤ rank threshold

end Filter

end Mailroom.Logging
