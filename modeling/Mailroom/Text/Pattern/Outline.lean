/-! # Outlines of patterns

What is kept of a part of a pattern once it has been read: how deep it goes and whether it asks for
what cannot be known. Every group, repetition and set is one deeper than what is in it. Of parts
side by side, all are as deep as the deepest, and one deeper if there are at least two of them:
parts in a row, alternatives and the items of a set are such parts. A part without parts has
depth 0.
-/

namespace Mailroom.Text.Pattern

/-- What is kept of a part. -/
structure Outline where
  depth : Nat
  /-- Whether there is a boundary between words in it, if the words have any characters. -/
  boundary : Bool
deriving DecidableEq, Repr

namespace Outline

/-- The outline of a part of some depth without boundaries between words. -/
def ofDepth (depth : Nat) : Outline := { depth, boundary := false }

/-- What is deep in one of two parts or has a boundary is so in both together. -/
def join (left right : Outline) : Outline where
  depth := max left.depth right.depth
  boundary := left.boundary || right.boundary

/-- The outline of a group with one part in it. -/
def group (outline : Outline) : Outline := { outline with depth := outline.depth + 1 }

/-- The outline of a repetition. Nothing is asked for by a part that is never there. -/
def repetition (outline : Outline) (never : Bool) : Outline where
  depth := outline.depth + 1
  boundary := outline.boundary && !never

end Outline

/-- Parts side by side. -/
structure Siblings where
  count : Nat
  /-- All parts but the last one. -/
  front : Outline
  last : Outline
deriving DecidableEq, Repr

namespace Siblings

def none : Siblings := { count := 0, front := .ofDepth 0, last := .ofDepth 0 }

/-- Puts a part behind the others. -/
def add (siblings : Siblings) (part : Outline) : Siblings where
  count := siblings.count + 1
  front := siblings.front.join siblings.last
  last := part

/-- Repeats the last part. -/
def repeatLast (siblings : Siblings) (never : Bool) : Siblings :=
  { siblings with last := siblings.last.repetition never }

/-- The outline of all of them together. -/
def outline (siblings : Siblings) : Outline :=
  let all := siblings.front.join siblings.last
  if siblings.count ≤ 1 then all else all.group

end Siblings

end Mailroom.Text.Pattern
