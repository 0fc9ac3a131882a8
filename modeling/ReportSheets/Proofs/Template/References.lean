import ReportSheets.Proofs.Sheet.Address
import ReportSheets.Proofs.Xml.Events
import ReportSheets.Template.Reference

namespace ReportSheets

open Text (natural byteText)

theorem natural_ne_nil (n : Nat) : natural n ≠ [] := Nat.toDigits_ne_nil

def IsBare (text : List Char) : Prop := ∀ c ∈ text, c.toNat < 128 ∧ c ∉ Xml.marks

namespace IsBare

variable {text front back : List Char}

theorem escape_byteText (bare : IsBare text) : Xml.escape (byteText text) = text := by
  rw [Text.byteText_of_ascii fun c member => (bare c member).1]
  exact Xml.escape_of_plain fun c member => (bare c member).2

theorem append (before : IsBare front) (after : IsBare back) : IsBare (front ++ back) := by
  intro c member
  rcases List.mem_append.mp member with first | last
  · exact before c first
  · exact after c last

theorem natural (n : Nat) : IsBare (natural n) := by
  intro c member
  have bounds := Text.isDigit_iff.1 (Text.isDigit_of_mem_natural member)
  refine ⟨by omega, fun mark => ?_⟩
  simp only [Xml.marks, List.mem_cons, List.not_mem_nil, or_false] at mark
  rcases mark with rfl | rfl | rfl | rfl <;> exact absurd bounds (by decide)

theorem address (a : CellAddress) : IsBare a.text := by
  refine append ?_ (natural _)
  intro c member
  have bounds := CellAddress.isLetter_iff.1 (CellAddress.isLetter_of_mem_columnLetters a.col c member)
  refine ⟨by omega, fun mark => ?_⟩
  simp only [Xml.marks, List.mem_cons, List.not_mem_nil, or_false] at mark
  rcases mark with rfl | rfl | rfl | rfl <;> exact absurd bounds (by decide)

end IsBare

namespace Template

theorem readNatural?_natural (n : Nat) : Text.readNatural? (natural n) = some n :=
  Text.readNatural?_eq_some_iff.2
    ⟨fun _ => Text.isDigit_of_mem_natural, natural_ne_nil n, Text.naturalOf_natural n⟩

theorem rowAndColumn?_append (letters : List Char)
    (each : ∀ c ∈ letters, CellAddress.isLetter c = true) {row : Nat} (small : row + 1 < wordSize) :
    rowAndColumn? (letters ++ natural (row + 1)) =
      some (row, if CellAddress.columnNumber letters % wordSize = 0 then none
        else some (CellAddress.columnNumber letters % wordSize - 1)) := by
  have stops : ∀ c, (natural (row + 1)).head? = some c → CellAddress.isLetter c = false := by
    intro c first
    exact CellAddress.not_isLetter_of_isDigit
      (Text.isDigit_of_mem_natural (List.mem_of_mem_head? first))
  obtain ⟨taken, left⟩ := Text.takeWhile_append_stop each stops
  simp only [rowAndColumn?, taken, left, readNatural?_natural, Option.map_some,
    Nat.mod_eq_of_lt small]

theorem row?_natural {row : Nat} (small : row + 1 < wordSize) :
    row? (natural (row + 1)) = some row := by
  have whole := rowAndColumn?_append [] (by simp) small
  rw [List.nil_append] at whole
  rw [row?, whole]
  rfl

theorem address?_text {a : CellAddress} (inBounds : a.InBounds) : address? a.text = some a := by
  obtain ⟨rows, columns⟩ := inBounds
  rw [CellAddress.maxRow] at rows
  rw [CellAddress.maxCol] at columns
  have small : a.row + 1 < wordSize := by
    rw [wordSize]
    omega
  have whole := rowAndColumn?_append (CellAddress.columnLetters a.col)
    (CellAddress.isLetter_of_mem_columnLetters a.col) small
  rw [CellAddress.columnNumber_columnLetters, Nat.mod_eq_of_lt (by rw [wordSize]; omega),
    if_neg (by omega), Nat.add_sub_cancel] at whole
  rw [address?, CellAddress.text, whole]
  rfl

theorem range?_text {r : MergedRange} (first : r.first.InBounds) (last : r.last.InBounds) :
    range? (r.first.text ++ ':' :: r.last.text) = some r := by
  have unmarked : ∀ a : CellAddress, ∀ c ∈ a.text, (c == ':') = false := by
    intro a c member
    rw [beq_eq_false_iff_ne]
    rintro rfl
    rcases List.mem_append.mp member with letter | digit
    · exact absurd (CellAddress.isLetter_of_mem_columnLetters a.col ':' letter) (by decide)
    · exact absurd (Text.isDigit_of_mem_natural digit) (by decide)
  rw [range?, Text.pieces_append_mark (unmarked r.first) rfl, Text.pieces_unmarked (unmarked r.last)]
  simp only [address?_text first, address?_text last]
  rfl

theorem index?_natural {n : Nat} (counted : n ≤ maxIndex) : index? (natural n) = some n := by
  have digits : (natural n).length ≤ maxIndexDigits := by
    rw [natural, Nat.length_toDigits_le_iff (by decide) (by decide)]
    exact Nat.lt_of_le_of_lt counted (by decide)
  rw [index?, if_neg (Nat.not_lt.mpr digits), readNatural?_natural]
  simp [counted]

end Template

end ReportSheets
