import SchemaHistory.Text.CharSet

/-!
Regular expressions.

A pattern is built from sets of characters and from assertions about a place in the text, by putting
patterns behind one another, by choosing between them and by repeating them. Letters that match whatever
their case are sets of all their cases, so a pattern carries no flags.
-/

namespace SchemaHistory

/-- What can be asked about a place in a text. Words are runs of characters of the given set. -/
inductive Assertion where
  | textStart | textEnd | lineStart | lineEnd | anyLineStart | anyLineEnd
  | wordBoundary (word : CharSet) | noWordBoundary (word : CharSet)
  | wordStart (word : CharSet) | wordEnd (word : CharSet)
  | noWordBefore (word : CharSet) | noWordAfter (word : CharSet)
  deriving Repr

/-- A regular expression. -/
inductive Pattern where
  | empty
  | set (s : CharSet)
  | assertion (a : Assertion)
  | seq (p q : Pattern)
  | either (p q : Pattern)
  | captured (p : Pattern)
  | repeated (p : Pattern) (least : Nat) (most : Option Nat)
  deriving Repr, Inhabited

namespace Pattern

/-- Patterns behind one another. -/
def sequence : List Pattern → Pattern
  | [] => empty
  | [p] => p
  | p :: ps => seq p (sequence ps)

/-- A choice between patterns, at least one. -/
def choice (p : Pattern) : List Pattern → Pattern
  | [] => p
  | q :: qs => either p (choice q qs)

end Pattern

end SchemaHistory
