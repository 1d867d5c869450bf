import ServicePlacement.Unicode.Property

/-!
Conditions on a place in a text, which depend on the characters beside it: ends of the text, of a
line and of a word.
-/
namespace ServicePlacement

inductive Regex.Edge where
  | boundary
  | noBoundary
  | wordStart
  | wordEnd
  | startHalf
  | endHalf
deriving DecidableEq

def Regex.Edge.holds (before after : Bool) : Edge → Bool
  | boundary => before != after
  | noBoundary => before == after
  | wordStart => !before && after
  | wordEnd => before && !after
  | startHalf => !before
  | endHalf => !after

inductive Regex.Look where
  | textStart
  | textEnd
  | lineStart (crlf : Bool)
  | lineEnd (crlf : Bool)
  | word (unicode : Bool) (edge : Regex.Edge)
deriving DecidableEq

namespace Regex

structure Place where
  before : Option Char
  after : Option Char

def asciiWord : CharSet :=
  .unions [.range 0x30 0x39, .range 0x41 0x5A, .singleton '_', .range 0x61 0x7A]

def wordSet (unicode : Bool) : CharSet := if unicode then Unicode.wordCharacters else asciiWord

def Look.holds (p : Place) : Look → Bool
  | textStart => p.before.isNone
  | textEnd => p.after.isNone
  | lineStart false => p.before.isNone || p.before == some '\n'
  | lineStart true =>
    p.before.isNone || p.before == some '\n' || (p.before == some '\r' && p.after != some '\n')
  | lineEnd false => p.after.isNone || p.after == some '\n'
  | lineEnd true =>
    p.after.isNone || p.after == some '\r' || (p.after == some '\n' && p.before != some '\r')
  | word unicode edge =>
    let isWord (c : Option Char) : Bool :=
      match c with
      | some c => (wordSet unicode).contains c
      | none => false
    edge.holds (isWord p.before) (isWord p.after)

end Regex

end ServicePlacement
