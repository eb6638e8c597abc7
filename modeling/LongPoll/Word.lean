/-!
# Words

The limits of numbers that are kept in a fixed number of bits.
-/

namespace LongPoll.Word

/-- The number of values of 16 bits. -/
def values16 : Nat := 65536

/-- The number of values of 32 bits. -/
def values32 : Nat := 4294967296

/-- The number of values of 63 bits. -/
def values63 : Nat := 9223372036854775808

/-- The number of values of 64 bits. -/
def values64 : Nat := 18446744073709551616

end LongPoll.Word
