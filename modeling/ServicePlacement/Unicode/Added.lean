import ServicePlacement.Unicode.Property

/-!
What version 17.0 of the standard adds to version 16.0, as far as it matters for names of groups and
for display. No character of version 16.0 has changed in these respects.
-/
namespace ServicePlacement.Unicode

def added : CharSet := .ofDistances
  "88vh3csh7vhdfivis5dlhadkh7c3niihhh1sh53dh1g1bti3mnb7h1q56rjop2hic6ko24o2skq50bm1pi1p11ul180ho50
   p1m6h7j3f0nj1bt1nv1h17cv1vh1moifdoh9uk15lp17rk3ihjh3phkh1shkh10qhbb3vm176is550i10cq"

def addedAlphabetic : CharSet := .ofDistances
  "88vh3csh7vh9afhiihhh1sh614u1q56rj3iic6ko24o2s50ck1pi1p11ul180ho50p1m6h7j58ct1vh1moid03qm176is55
   0i10cq"

def addedNumbers : CharSet := .ofDistances "11degq520qj"

def addedExtend : CharSet := .ofDistances "1acvvisf40uic6khhjhhcb7shihnilh"

namespace Latest

def alphabetic : CharSet := Unicode.alphabetic.union addedAlphabetic

def alphanumeric : CharSet := .unions [Unicode.alphanumeric, addedAlphabetic, addedNumbers]

def unassigned : CharSet := Unicode.unassigned.sdiff added

def graphemeExtend : CharSet := Unicode.graphemeExtend.union addedExtend

end Latest

end ServicePlacement.Unicode
