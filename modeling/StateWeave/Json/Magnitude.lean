/-!
# The size of numbers

Numbers may grow as large as binary floating point of 64 bits can hold, and they are
measured in that arithmetic. A number is the product of its leading digits, as many
as fit into 64 bits, and a power of ten. Both factors are rounded to 53 binary
digits, and so is the product. It has to stay below `2 ^ 1024`.

Three roundings are more than one, so a number close to the bound may pass although
its exact value is beyond, and the other way round.
-/

namespace StateWeave.Json.Magnitude

def digitValue (c : Char) : Nat := c.toNat - '0'.toNat

/-- The nearest number with at most 53 binary digits in front of its final zeros. Of
two that are equally near it is the one whose last digit is even. -/
def nearest (n : Nat) : Nat :=
  let unit := 1 <<< (n.log2 - 52)
  let below := n / unit
  let rest := n % unit
  if unit < 2 * rest ∨ (unit = 2 * rest ∧ below % 2 = 1) then (below + 1) * unit
  else below * unit

/-- Numbers of 53 binary digits are not rounded. -/
theorem nearest_of_log2_le {n : Nat} (short : n.log2 ≤ 52) : nearest n = n := by
  have unit : n.log2 - 52 = 0 := Nat.sub_eq_zero_of_le short
  simp [nearest, unit, Nat.mod_one]

/-- Append digits to a number as long as it fits into 64 bits, and give the digits
that are left over. -/
def append (n : Nat) : List Char → Nat × List Char
  | [] => (n, [])
  | c :: rest =>
    let longer := n * 10 + digitValue c
    if longer < UInt64.size then append longer rest else (n, c :: rest)

/-- Whether the digits before and after the point, times a power of ten, make a number
within the bound. Digits that do not fit count as zeros before the point, and
behind it they do not count at all. -/
def isBounded (whole fraction : List Char) (power : Int) : Bool :=
  let (n, zeros) := append 0 whole
  let (n, unread) := append n fraction
  let power := power + zeros.length + unread.length - fraction.length
  n == 0 || power < 0 ||
    (power ≤ 308 && nearest n * nearest (Nat.pow 10 power.toNat) < 1 <<< 1024 - 1 <<< 970)

end StateWeave.Json.Magnitude
