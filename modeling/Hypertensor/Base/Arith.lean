import Mathlib

/-!
# Hypertensor.Base.Arith — machine integers over `ℕ`

Fixed-width unsigned integers are natural numbers with the operation that the
program performs written out:

* `Arith` is the arithmetic a counter is kept in. `saturating m` clamps every
  sum at `m`, as `saturating_add` does; `unbounded` never clamps. A step "does
  not saturate" when it computes the same state in both, so an invariant is
  proved once, for `unbounded`, and read back on the machine.
* `checkedMulDiv` is the double-width product followed by a quotient.
* `quot` and `rem` take a proof that the divisor is not zero; `quot?` and `rem?`
  abort where the machine would.
* `wrapAdd`, `wrapSub`, `wrapMul` are the plain operators of an optimised
  build, which wrap around.
-/

namespace Hypertensor.Base

/-- The largest value of a `w`-bit unsigned integer. -/
def uMax (w : ℕ) : ℕ := 2 ^ w - 1

abbrev u32Max : ℕ := uMax 32
abbrev u64Max : ℕ := uMax 64
abbrev u128Max : ℕ := uMax 128

/-- The arithmetic of a counter: clamped at a maximum, or exact. -/
inductive Arith where
  | saturating (max : ℕ)
  | unbounded
deriving DecidableEq, Repr

/-- `u128` arithmetic, as the program computes. -/
abbrev u128 : Arith := .saturating u128Max

/-- `x * y / z` with the product in `w` bits: `none` when the product
overflows or the divisor is zero. -/
def checkedMulDiv (w x y z : ℕ) : Option ℕ :=
  if z = 0 then none
  else if x * y ≤ uMax w then some (x * y / z)
  else none

namespace Arith

/-- `saturating_add`. -/
def add : Arith → ℕ → ℕ → ℕ
  | .saturating m, a, b => min (a + b) m
  | .unbounded, a, b => a + b

/-- `x * y / z` through a `w`-bit intermediate, clamped to the maximum when it
does not fit. -/
def mulDiv (w : ℕ) : Arith → ℕ → ℕ → ℕ → ℕ
  | .saturating m, x, y, z =>
      match checkedMulDiv w x y z with
      | some r => if r ≤ m then r else m
      | none => m
  | .unbounded, x, y, z => x * y / z

@[simp] theorem add_unbounded (a b : ℕ) : Arith.add .unbounded a b = a + b := rfl

end Arith

/-- A quotient whose divisor is known not to be zero where it is taken. -/
def quot (a b : ℕ) (_h : b ≠ 0) : ℕ := a / b

/-- A remainder whose divisor is known not to be zero where it is taken. -/
def rem (a b : ℕ) (_h : b ≠ 0) : ℕ := a % b

/-- A quotient that aborts on a zero divisor. -/
def quot? (a b : ℕ) : Option ℕ := if b = 0 then none else some (a / b)

/-- A remainder that aborts on a zero divisor. -/
def rem? (a b : ℕ) : Option ℕ := if b = 0 then none else some (a % b)

theorem quot?_of_ne {a b : ℕ} (h : b ≠ 0) : quot? a b = some (a / b) := if_neg h

theorem rem?_of_ne {a b : ℕ} (h : b ≠ 0) : rem? a b = some (a % b) := if_neg h

theorem rem?_ne_zero {a b r : ℕ} (h : rem? a b = some r) : b ≠ 0 := by
  rintro rfl
  cases h

/-- Addition of an optimised build: modulo `2 ^ w`. -/
def wrapAdd (w a b : ℕ) : ℕ := (a + b) % 2 ^ w

/-- Subtraction of an optimised build: modulo `2 ^ w`. -/
def wrapSub (w a b : ℕ) : ℕ := (a + (2 ^ w - b % 2 ^ w)) % 2 ^ w

/-- Multiplication of an optimised build: modulo `2 ^ w`. -/
def wrapMul (w a b : ℕ) : ℕ := (a * b) % 2 ^ w

theorem wrapAdd_of_lt {w a b : ℕ} (h : a + b < 2 ^ w) : wrapAdd w a b = a + b :=
  Nat.mod_eq_of_lt h

/-- A `u32` counter below its limit is counted up. -/
theorem wrapAdd_one {n : ℕ} (h : n < u32Max) : wrapAdd 32 n 1 = n + 1 := by
  refine wrapAdd_of_lt ?_
  simp only [u32Max, uMax] at h
  omega

/-- Saturating signed arithmetic: the value clamped to `[-2^(w-1), 2^(w-1) - 1]`. -/
def clampSigned (w : ℕ) (x : ℤ) : ℤ :=
  max (-(2 ^ (w - 1) : ℤ)) (min x (2 ^ (w - 1) - 1))

/-- Reading a `w`-bit unsigned value as a signed one of the same width. -/
def asSigned (w a : ℕ) : ℤ :=
  if a % 2 ^ w < 2 ^ (w - 1) then (a % 2 ^ w : ℕ) else (a % 2 ^ w : ℕ) - (2 ^ w : ℤ)

end Hypertensor.Base
