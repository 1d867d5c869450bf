import ServicePlacement.CharSet
import ServicePlacement.Text.Blank
import ServicePlacement.Unicode.CaseFold

/-!
The flags of a pattern, how they are written, and the layout that a verbose pattern may have between
its parts: white space, and comments that end with their line.
-/
namespace ServicePlacement.Pattern

structure Flags where
  ignoreCase : Bool := false
  multiLine : Bool := false
  dotAll : Bool := false
  crlf : Bool := false
  swapGreed : Bool := false
  unicode : Bool := true
  verbose : Bool := false

namespace Flags

def set (f : Flags) (letter : Char) (value : Bool) : Flags :=
  match letter with
  | 'i' => { f with ignoreCase := value }
  | 'm' => { f with multiLine := value }
  | 's' => { f with dotAll := value }
  | 'R' => { f with crlf := value }
  | 'U' => { f with swapGreed := value }
  | 'u' => { f with unicode := value }
  | 'x' => { f with verbose := value }
  | _ => f

def isLetter (c : Char) : Bool := "imsRUux".contains c

def setAll (f : Flags) (given : List (Char × Bool)) : Flags :=
  given.foldl (fun f g => f.set g.1 g.2) f

end Flags

/-- Flag letters up to a colon or a closing parenthesis, which is returned with what follows it. No
letter may be repeated, and one `-`, which is not the last of them, turns off those after it. -/
def flagLetters (given : List (Char × Bool)) (value dangling : Bool) :
    List Char → Option (List (Char × Bool) × Char × List Char)
  | [] => none
  | '-' :: rest => if value then flagLetters given false true rest else none
  | c :: rest =>
    if c == ':' || c == ')' then if dangling then none else some (given, c, rest)
    else if Flags.isLetter c && !given.any fun g => g.1 == c then
      flagLetters ((c, value) :: given) value false rest
    else none

def skipLayout (inComment : Bool) : List Char → List Char
  | [] => []
  | c :: rest =>
    if inComment then skipLayout (c != '\n') rest
    else if Text.isBlank c then skipLayout false rest
    else if c == '#' then skipLayout true rest
    else c :: rest

namespace Flags

def skip (f : Flags) (cs : List Char) : List Char := if f.verbose then skipLayout false cs else cs

def takeSpaced (f : Flags) (p : Char → Bool) (inComment : Bool) :
    List Char → List Char × List Char
  | [] => ([], [])
  | c :: rest =>
    if inComment then f.takeSpaced p (c != '\n') rest
    else if f.verbose && Text.isBlank c then f.takeSpaced p false rest
    else if f.verbose && c == '#' then f.takeSpaced p true rest
    else if p c then
      let (taken, rest) := f.takeSpaced p false rest
      (c :: taken, rest)
    else ([], c :: rest)

def closeUnderAsciiCase (s : CharSet) : CharSet :=
  let upper := (s.inter (.range 0x41 0x5A)).switches.map (· + 0x20)
  let lower := (s.inter (.range 0x61 0x7A)).switches.map (· - 0x20)
  .unions [s, ⟨upper⟩, ⟨lower⟩]

def fold (f : Flags) (s : CharSet) : CharSet :=
  if !f.ignoreCase then s
  else if f.unicode then Unicode.closeUnderCase s
  else closeUnderAsciiCase s

end Flags

end ServicePlacement.Pattern
