namespace SizedFace.Fixed

/-- The word of 32 bits that a number wraps to. -/
def wrap (i : Int) : Int := Int.bmod i 0x100000000

def ofInt (i : Int) : Int := wrap (i * 0x10000)

def add (a b : Int) : Int := wrap (a + b)

def sub (a b : Int) : Int := wrap (a - b)

/-- The product, a half rounded away from zero. -/
def mul (a b : Int) : Int :=
  let product := a * b
  wrap (Int.fdiv (product + 0x8000 - (if product < 0 then 1 else 0)) 0x10000)

/-- `a * b / c` by magnitudes, a half rounded away from zero; the largest word when `c` is zero. -/
def mulDiv (a b c : Int) : Int :=
  let n := a.natAbs * b.natAbs
  let q : Nat := if c = 0 then 0x7FFFFFFF else (n + c.natAbs / 2) / c.natAbs
  let negative := (a < 0) ^^ (b < 0) ^^ (c < 0)
  wrap (if negative then -(wrap q) else wrap q)

def div (a b : Int) : Int := mulDiv a 0x10000 b

def one : Int := 0x10000

end SizedFace.Fixed
