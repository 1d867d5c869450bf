import ServicePlacement.Unicode.Added

/-!
Texts in double quotes for display. Characters that have no shape of their own, or that attach to
the one before them, are written by their code points.
-/
namespace ServicePlacement.Text

/-- What is not shown as it stands: unassigned and private code points, control and format
characters, all separators but the space, and what is ignored where it cannot be displayed. -/
def unprintable : CharSet :=
  (CharSet.unions
    [Unicode.Latest.unassigned, Unicode.categoryUnion ["cc", "cf", "co", "zl", "zp", "zs"],
      Unicode.having "defaultignorablecodepoint"]).sdiff (.singleton ' ')

def hidden : CharSet := unprintable.union Unicode.Latest.graphemeExtend

def escapeShown (c : Char) : List Char :=
  match c with
  | '\x00' => ['\\', '0']
  | '\t' => ['\\', 't']
  | '\r' => ['\\', 'r']
  | '\n' => ['\\', 'n']
  | '\\' => ['\\', '\\']
  | '"' => ['\\', '"']
  | c =>
    if hidden.contains c then "\\u\x7b".toList ++ Nat.toDigits 16 c.toNat ++ ['}']
    else [c]

def quoted (s : String) : String :=
  String.ofList ('"' :: s.toList.flatMap escapeShown ++ ['"'])

end ServicePlacement.Text
