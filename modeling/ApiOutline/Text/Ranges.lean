/-!
# Classes of characters as ranges of code points

A class of characters that no short rule describes is a list of closed ranges of code points, in
increasing order. `Ranges.has` decides membership.
-/

namespace ApiOutline.Text

/-- Closed ranges of code points, in increasing order. -/
abbrev Ranges := List (Nat × Nat)

/-- Whether some range holds the code point. -/
def Ranges.has (ranges : Ranges) (code : Nat) : Bool :=
  ranges.any fun range => range.1 ≤ code && code ≤ range.2

end ApiOutline.Text
