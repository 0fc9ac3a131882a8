import ReportSheets.Error
import ReportSheets.Sheet.SortedMap
import ReportSheets.Text.Blank

namespace ReportSheets

structure CellAddress where
  row : Nat
  col : Nat
deriving DecidableEq

namespace CellAddress

def maxRow : Nat := 1048575

def maxCol : Nat := 16383

def InBounds (a : CellAddress) : Prop := a.row ≤ maxRow ∧ a.col ≤ maxCol

instance (a : CellAddress) : Decidable a.InBounds := inferInstanceAs (Decidable (_ ∧ _))

def Before (a b : CellAddress) : Prop := a.row < b.row ∨ a.row = b.row ∧ a.col < b.col

instance (a b : CellAddress) : Decidable (a.Before b) := inferInstanceAs (Decidable (_ ∨ _))

theorem Before.irrefl (a : CellAddress) : ¬a.Before a := by
  simp only [Before]
  omega

theorem Before.trans {a b c : CellAddress} : a.Before b → b.Before c → a.Before c := by
  simp only [Before]
  omega

theorem Before.eq_of_neither {a b : CellAddress} : ¬a.Before b → ¬b.Before a → a = b := by
  simp only [Before]
  intro h₁ h₂
  obtain ⟨r, c⟩ := a
  obtain ⟨r', c'⟩ := b
  simp only [mk.injEq] at *
  omega

instance : KeyOrder CellAddress where
  before a b := decide (a.Before b)
  irrefl a := decide_eq_false (Before.irrefl a)
  trans h₁ h₂ := decide_eq_true (Before.trans (of_decide_eq_true h₁) (of_decide_eq_true h₂))
  eq_of_neither h₁ h₂ :=
    Before.eq_of_neither (of_decide_eq_false h₁) (of_decide_eq_false h₂)

def isLetter (c : Char) : Bool := ('A' ≤ c && c ≤ 'Z') || ('a' ≤ c && c ≤ 'z')

def letterValue (c : Char) : Nat := c.toUpper.toNat - 'A'.toNat + 1

def letter (n : Nat) : Char := Char.ofNat ('A'.toNat + n)

/-- Letters read in bijective base 26, counted from one. -/
def columnNumber (letters : List Char) : Nat :=
  letters.foldl (fun n c => 26 * n + letterValue c) 0

def columnLetters (index : Nat) : List Char :=
  if index < 26 then [letter index]
  else columnLetters (index / 26 - 1) ++ [letter (index % 26)]
termination_by index

def dropDollar : List Char → List Char
  | '$' :: rest => rest
  | rest => rest

def read? (reference : List Char) : Option CellAddress :=
  let text := dropDollar (Text.trim reference)
  let letters := text.takeWhile isLetter
  let digits := dropDollar (text.dropWhile isLetter)
  if letters = [] ∨ 3 < letters.length then none
  else
    match Text.readNatural? digits with
    | none => none
    | some row =>
      let col := columnNumber letters
      if row = 0 ∨ maxRow + 1 < row ∨ maxCol + 1 < col then none
      else some ⟨row - 1, col - 1⟩

def parse (reference : String) : Except Error CellAddress :=
  match read? reference.toList with
  | some address => .ok address
  | none => .error (.cellAddress reference)

def text (a : CellAddress) : List Char := columnLetters a.col ++ Text.natural (a.row + 1)

end CellAddress

end ReportSheets
