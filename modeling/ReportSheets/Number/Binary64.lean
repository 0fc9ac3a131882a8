namespace ReportSheets

def roundHalfEven (num den : Nat) : Nat :=
  let quotient := num / den
  let rest := num % den
  if 2 * rest < den then quotient
  else if den < 2 * rest then quotient + 1
  else quotient + quotient % 2

theorem roundHalfEven_bounds (num den : Nat) :
    num / den ≤ roundHalfEven num den ∧ roundHalfEven num den ≤ num / den + 1 := by
  simp only [roundHalfEven]
  split
  · omega
  · split <;> omega

/-- A finite magnitude, `significand * 2 ^ scale` units of `2 ^ -1074`. The significand has 53 bits
at most, and fewer only at the least scale. -/
structure Magnitude where
  significand : Nat
  scale : Nat
  canonical : significand < 0x20000000000000 ∧ scale ≤ 2045 ∧
    (scale = 0 ∨ 0x10000000000000 ≤ significand)
deriving DecidableEq

namespace Magnitude

def unitsPerOne : Nat := Nat.pow 2 1074

def units (m : Magnitude) : Nat := m.significand * Nat.pow 2 m.scale

def zero : Magnitude := ⟨0, 0, by decide⟩

/-- The scale at which a quotient of whole part `whole` has its significand of 53 bits. -/
def scaleOf (whole : Nat) : Nat := whole.log2 - 52

theorem significand_lower {num den : Nat} (h : scaleOf (num / den) ≠ 0) :
    0x10000000000000 ≤ num / (den * Nat.pow 2 (scaleOf (num / den))) := by
  generalize hw : num / den = whole at h ⊢
  have hne : whole ≠ 0 := by
    rintro rfl
    simp [scaleOf] at h
  have hlog : whole.log2 = 52 + scaleOf whole := by
    simp only [scaleOf] at h ⊢
    omega
  have hlow := Nat.log2_self_le hne
  rw [hlog, Nat.pow_add] at hlow
  rw [← Nat.div_div_eq_div_mul, hw]
  exact (Nat.le_div_iff_mul_le (Nat.two_pow_pos _)).2 hlow

def nearest? (num den : Nat) : Option Magnitude :=
  let scale := scaleOf (num / den)
  let significand := roundHalfEven num (den * Nat.pow 2 scale)
  if small : significand < 0x20000000000000 then
    if room : scale ≤ 2045 then
      some ⟨significand, scale, small, room, by
        by_cases h : scale = 0
        · exact .inl h
        · exact .inr (Nat.le_trans (significand_lower h) (roundHalfEven_bounds _ _).1)⟩
    else none
  else if room : scale + 1 ≤ 2045 then
    some ⟨0x10000000000000, scale + 1, by decide, room, .inr (Nat.le_refl _)⟩
  else none

end Magnitude

inductive Binary64
  | nan
  | infinite (negative : Bool)
  | finite (negative : Bool) (magnitude : Magnitude)
deriving DecidableEq

namespace Binary64

def ofRatio (negative : Bool) (num den : Nat) : Binary64 :=
  (Magnitude.nearest? (num * Magnitude.unitsPerOne) den).elim (.infinite negative)
    (.finite negative)

def ofNat (n : Nat) : Binary64 := ofRatio false n 1

def zero : Binary64 := .finite false .zero

instance : Inhabited Binary64 := ⟨zero⟩

def abs : Binary64 → Binary64
  | .nan => .nan
  | .infinite _ => .infinite false
  | .finite _ m => .finite false m

/-- Strictly below zero; negative zero is not. -/
def isNegative : Binary64 → Bool
  | .nan => false
  | .infinite negative => negative
  | .finite negative m => negative && m.significand != 0

def isZero : Binary64 → Bool
  | .finite _ m => m.significand == 0
  | _ => false

def scaleBy (factor : Nat) : Binary64 → Binary64
  | .nan => .nan
  | .infinite negative => if factor = 0 then .nan else .infinite negative
  | .finite negative m =>
    match Magnitude.nearest? (m.units * factor) 1 with
    | some product => .finite negative product
    | none => .infinite negative

def integer? : Binary64 → Option Int
  | .finite negative m =>
    if m.units % Magnitude.unitsPerOne = 0 then
      let n : Int := m.units / Magnitude.unitsPerOne
      some (if negative then -n else n)
    else none
  | _ => none

/-- The nearest natural number, a half going up, held between zero and `greatest`;
what is no number counts as zero. -/
def roundedTo (greatest : Nat) : Binary64 → Nat
  | .nan => 0
  | .infinite negative => if negative then 0 else greatest
  | .finite negative m =>
    if negative then 0
    else min greatest ((2 * m.units + Magnitude.unitsPerOne) / (2 * Magnitude.unitsPerOne))

end Binary64

end ReportSheets
