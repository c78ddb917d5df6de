/-
# Ranges of code points

Classes of characters as lists of closed ranges of code points.
-/

namespace Keystore
namespace Ranges

/-- Whether a code point lies in one of the ranges. -/
def contain (rs : List (Nat × Nat)) (n : Nat) : Bool :=
  rs.any fun r => r.1 ≤ n && n ≤ r.2

end Ranges
end Keystore
