/-! The bounds of integers that fit in machine words. -/
namespace AccessCatalog.Numeric

def wordCount32 : Nat := 0x100000000

def wordCount64 : Nat := 0x10000000000000000

def minInt64 : Int := -0x8000000000000000
def maxInt64 : Int := 0x7fffffffffffffff

/-- Whether an integer fits in 64 bits with a sign. -/
def fitsInt64 (i : Int) : Bool := decide (minInt64 ≤ i ∧ i ≤ maxInt64)

end AccessCatalog.Numeric
