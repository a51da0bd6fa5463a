namespace FrameIngest

/-- What a build makes of a result that does not fit into a machine word: it stops, or it drops
what is too much. -/
inductive Overflow
  | stops
  | wraps
  deriving DecidableEq

namespace Overflow

/-- A result as a machine word; nothing if the build stops. -/
def fit (overflow : Overflow) (result : Nat) : Option Nat :=
  match overflow with
  | .stops => if result < UInt64.size then some result else none
  | .wraps => some (result % UInt64.size)

def add (overflow : Overflow) (a b : Nat) : Option Nat :=
  overflow.fit (a + b)

def mul (overflow : Overflow) (a b : Nat) : Option Nat :=
  overflow.fit (a * b)

def sub (overflow : Overflow) (a b : Nat) : Option Nat :=
  match overflow with
  | .stops => if b ≤ a then some (a - b) else none
  | .wraps => some ((a + (UInt64.size - b)) % UInt64.size)

def sum (overflow : Overflow) (terms : List Nat) : Option Nat :=
  terms.foldlM overflow.add 0

variable {overflow : Overflow} {a b : Nat}

theorem fit_eq_some (fits : a < UInt64.size) : overflow.fit a = some a := by
  cases overflow with
  | stops => exact if_pos fits
  | wraps => exact congrArg some (Nat.mod_eq_of_lt fits)

theorem add_eq_some (fits : a + b < UInt64.size) : overflow.add a b = some (a + b) :=
  fit_eq_some fits

theorem mul_eq_some (fits : a * b < UInt64.size) : overflow.mul a b = some (a * b) :=
  fit_eq_some fits

theorem sub_eq_some (below : b ≤ a) (fits : a < UInt64.size) :
    overflow.sub a b = some (a - b) := by
  cases overflow with
  | stops => exact if_pos below
  | wraps =>
    have around : a + (UInt64.size - b) = a - b + UInt64.size := by omega
    rw [sub, around, Nat.add_mod_right, Nat.mod_eq_of_lt (by omega)]

theorem stops_fit_eq_none (beyond : UInt64.size ≤ a) : stops.fit a = none :=
  if_neg (Nat.not_lt.2 beyond)

theorem foldlM_add_eq_some {terms : List Nat}
    (fits : a + terms.foldr (· + ·) 0 < UInt64.size) :
    terms.foldlM overflow.add a = some (a + terms.foldr (· + ·) 0) := by
  induction terms generalizing a with
  | nil => rfl
  | cons term terms ih =>
    rw [List.foldr_cons, ← Nat.add_assoc] at fits ⊢
    rw [List.foldlM_cons, add_eq_some (by omega)]
    exact ih fits

theorem sum_eq_some {terms : List Nat} (fits : terms.foldr (· + ·) 0 < UInt64.size) :
    overflow.sum terms = some (terms.foldr (· + ·) 0) := by
  rw [← Nat.zero_add (terms.foldr _ _)] at fits
  rw [sum, foldlM_add_eq_some fits, Nat.zero_add]

end Overflow

end FrameIngest
