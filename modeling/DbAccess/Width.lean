/-!
# Widths of machine numbers

One past the greatest number that so many bits hold.
-/

namespace DbAccess

/-- The limit of 16 bits. -/
def limit16 : Nat := 0x10000

/-- The limit of 31 bits, which are the 32 of a signed number without its sign. -/
def limit31 : Nat := 0x80000000

/-- The limit of 63 bits, which are the 64 of a signed number without its sign. -/
def limit63 : Nat := 0x8000000000000000

/-- The limit of 64 bits. -/
def limit64 : Nat := 0x10000000000000000

end DbAccess
