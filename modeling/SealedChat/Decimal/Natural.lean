/-!
# Decimal figures

Natural numbers are written with the fewest figures and read with any number of leading zeros.
-/

namespace SealedChat.Decimal

-- Powers of natural numbers are the core library's, whatever else a module imports.
attribute [instance (high), default_instance 20000] instPowNat

/-- The figure of a number below ten. -/
def figure (n : Nat) : Char := Char.ofNat (48 + n)

/-- Whether a character is one of the ten figures. -/
def isFigure (c : Char) : Bool := 48 ≤ c.toNat && c.toNat ≤ 57

/-- The figures of a number. -/
def figures (n : Nat) : List Char :=
  if n < 10 then [figure n] else figures (n / 10) ++ [figure (n % 10)]

/-- A number in decimal figures. -/
def ofNat (n : Nat) : String := String.ofList (figures n)

/-- An integer in decimal figures, with a minus if it is below zero. -/
def ofInt (n : Int) : String :=
  if n < 0 then String.ofList ('-' :: figures n.natAbs) else ofNat n.natAbs

/-- The number that figures stand for, behind figures that stand for `high`. -/
def valueFrom (high : Nat) (figures : List Char) : Nat :=
  figures.foldl (fun n c => 10 * n + (c.toNat - 48)) high

/-- The number that figures stand for. -/
def value (figures : List Char) : Nat := valueFrom 0 figures

/-- Reads one or more figures. -/
def parse? (text : List Char) : Option Nat :=
  if !text.isEmpty && text.all isFigure then some (value text) else none

theorem toNat_figure {n : Nat} (h : n < 10) : (figure n).toNat = 48 + n := by
  have : ∀ n < 10, (figure n).toNat = 48 + n := by decide
  exact this n h

theorem isFigure_figure {n : Nat} (h : n < 10) : isFigure (figure n) = true := by
  rw [isFigure, toNat_figure h, Bool.and_eq_true, decide_eq_true_eq, decide_eq_true_eq]
  omega

theorem figures_ne_nil (n : Nat) : figures n ≠ [] := by
  rw [figures]; split <;> simp

theorem all_isFigure_figures (n : Nat) : (figures n).all isFigure = true := by
  fun_induction figures n with
  | case1 n h => simp [isFigure_figure h]
  | case2 n _ ih => simp [ih, isFigure_figure (Nat.mod_lt n (by decide : 10 > 0))]

theorem value_figures (n : Nat) : value (figures n) = n := by
  fun_induction figures n with
  | case1 n h => simp [value, valueFrom, toNat_figure h]
  | case2 n _ ih =>
    rw [value, valueFrom] at ih
    simp [value, valueFrom, ih, toNat_figure (Nat.mod_lt n (by decide : 10 > 0))]
    omega

/-- Writing a number and reading it gives the number back. -/
theorem parse?_figures (n : Nat) : parse? (figures n) = some n := by
  simp only [parse?, all_isFigure_figures, Bool.and_true, value_figures, ite_eq_left_iff]
  simp [figures_ne_nil]

end SealedChat.Decimal
