import ServicePlacement.Automaton.Assemble
import ServicePlacement.Automaton.Search
import ServicePlacement.Pattern.Reader

/-!
Patterns for names: a text in the syntax of regular expressions, with the automaton that matches it.
-/
namespace ServicePlacement

namespace Pattern

def automaton? (text : String) : Option Automaton := do
  Automaton.ofRegex? (← part? text.toList).regex

end Pattern

structure Pattern where
  text : String
  automaton : Automaton
  automaton_eq : Pattern.automaton? text = some automaton

namespace Pattern

/-- The text decides which pattern it is. -/
theorem ext_text {p q : Pattern} (h : p.text = q.text) : p = q := by
  obtain ⟨text, a, ha⟩ := p
  obtain ⟨_, b, hb⟩ := q
  subst h
  obtain rfl : a = b := Option.some.inj (ha.symm.trans hb)
  rfl

instance : DecidableEq Pattern := fun p q =>
  if h : p.text = q.text then isTrue (ext_text h) else isFalse fun e => h (congrArg text e)

def parse? (s : String) : Option Pattern :=
  match h : automaton? s with
  | some a => some ⟨s, a, h⟩
  | none => none

def isMatch (p : Pattern) (name : String) : Bool := p.automaton.isMatch name

end Pattern

end ServicePlacement
