/-!
# Bounds of integers

The greatest and least integers of 32 and of 64 bits.
-/

namespace Screencast

namespace Bounds

/-- The greatest integer of 32 bits without a sign. -/
def greatestWord : Nat := 4294967295

/-- The greatest integer of 64 bits without a sign. -/
def greatestLong : Nat := 18446744073709551615

/-- The greatest integer of 64 bits with a sign. -/
def greatestSigned : Int := 9223372036854775807

/-- The least integer of 64 bits with a sign. -/
def leastSigned : Int := -9223372036854775808

end Bounds

end Screencast
