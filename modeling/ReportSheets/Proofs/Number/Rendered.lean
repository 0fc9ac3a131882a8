import ReportSheets.Proofs.Number.Layout
import ReportSheets.Proofs.Number.Pattern
import ReportSheets.Proofs.Number.Rounding

namespace ReportSheets

/-- `body` writes `value`, rounded half to even, in the digits and commas that the shape asks for. A
point is there for fraction digits or where the shape always has one. -/
def DigitShape.Writes (shape : DigitShape) (value : ℚ) (body : List Char) : Prop :=
  ∃ whole fraction,
    body.filter (· != ',') =
      whole ++ (if fraction ≠ [] ∨ shape.barePoint = true then '.' :: fraction else []) ∧
    shape.Fits whole fraction ∧
    ∃ rounded, RoundedHalfEven (value * 10 ^ shape.maxFraction) rounded ∧
      decimalOf whole fraction = rounded / 10 ^ shape.maxFraction

theorem DigitShape.writes_layOut_fixed {shape : DigitShape}
    (ordered : shape.minFraction ≤ shape.maxFraction) (m : Magnitude) :
    shape.Writes m.value
      (shape.layOut (m.fixed shape.maxFraction).1 (m.fixed shape.maxFraction).2) := by
  have each := m.isDigit_of_mem_fixed shape.maxFraction
  have places := m.length_fraction_fixed shape.maxFraction
  have enough : shape.minFraction ≤ (m.fixed shape.maxFraction).2.length := by
    rw [places]
    exact ordered
  refine ⟨_, _, filter_layOut each, fits_layOut each enough places, _,
    m.rounded_fixed shape.maxFraction, ?_⟩
  rw [decimalOf_layOut, decimalOf, places]

namespace NumberPattern

variable {p : NumberPattern}

inductive Surrounds (p : NumberPattern) (body : List Char) : Bool → List Char → Prop
  | positive : Surrounds p body false (p.before ++ body ++ p.after)
  | minus (single : p.negative = none) : Surrounds p body true ('-' :: p.before ++ body ++ p.after)
  | negative {before after : List Char} (own : p.negative = some (before, after)) :
      Surrounds p body true (before ++ body ++ after)

theorem surrounds_affixes (p : NumberPattern) (body : List Char) (negative : Bool) :
    p.Surrounds body negative ((p.affixes negative).1 ++ body ++ (p.affixes negative).2) := by
  unfold affixes
  cases negative with
  | false => exact .positive
  | true =>
    cases own : p.negative with
    | none => exact .minus own
    | some texts => exact .negative own

def core (p : NumberPattern) (n : Binary64) : List Char :=
  match n with
  | .finite .. => p.shape.body (n.abs.scaleBy p.multiplier)
  | _ => ['∞']

theorem render_eq_core {n : Binary64} (number : n ≠ .nan) :
    p.render n = (p.affixes n.isNegative).1 ++ p.core n ++ (p.affixes n.isNegative).2 := by
  cases n with
  | nan => exact absurd rfl number
  | infinite negative => exact (List.append_assoc _ ['∞'] _).symm
  | finite negative m => rfl

theorem core_of_finite_product {n : Binary64} {product : Magnitude}
    (inRange : n.abs.scaleBy p.multiplier = .finite false product) :
    n ≠ .nan ∧ p.core n = p.shape.layOut (product.fixed p.shape.maxFraction).1
      (product.fixed p.shape.maxFraction).2 := by
  cases n with
  | nan => cases inRange
  | infinite negative =>
    rw [Binary64.abs, Binary64.scaleBy_infinite] at inRange
    split at inRange <;> cases inRange
  | finite negative m =>
    refine ⟨Binary64.noConfusion, ?_⟩
    rw [core, inRange, DigitShape.body]

/-- A number is shown between the literal texts for its sign by digits that give its product with the
multiplier, rounded half to even. -/
theorem render_finite {text : String} (parsed : parse text = .ok p) (n : Binary64)
    {product : Magnitude} (inRange : n.abs.scaleBy p.multiplier = .finite false product) :
    ∃ body, p.Surrounds body n.isNegative (p.render n) ∧ p.shape.Writes product.value body := by
  obtain ⟨-, parts, -, shaped, -⟩ := read_eq_ok_iff.mp (parse_eq_ok_iff.mp parsed)
  have ordered := DigitShape.minFraction_le_maxFraction shaped
  obtain ⟨number, written⟩ := core_of_finite_product inRange
  refine ⟨p.core n, ?_, ?_⟩
  · rw [render_eq_core number]
    exact surrounds_affixes p _ _
  · rw [written]
    exact DigitShape.writes_layOut_fixed ordered product

theorem render_finite_of_tie :
    let n := Binary64.ofRatio true 395 32
    ∃ p product, parse "#,##0.0#%" = .ok p ∧
      n.abs.scaleBy p.multiplier = .finite false product ∧
      p.render n = "-1,234.38%".toList ∧
      ∃ body, p.Surrounds body true (p.render n) ∧ p.shape.Writes product.value body := by
  intro n
  let p : NumberPattern := {
    before := []
    after := ['%']
    negative := none
    shape := {
      minWhole := 1
      minFraction := 1
      maxFraction := 2
      grouping := 3
      barePoint := false }
    multiplier := 100 }
  let product : Magnitude := ⟨9875 * 2 ^ 39, 1032, by decide⟩
  have parsed : parse "#,##0.0#%" = .ok p := by decide +kernel
  have inRange : n.abs.scaleBy p.multiplier = .finite false product := by decide +kernel
  have rendered : p.render n = "-1,234.38%".toList := by decide +kernel
  have below : n.isNegative = true := by decide +kernel
  obtain ⟨body, surrounds, writes⟩ := render_finite parsed n inRange
  rw [below] at surrounds
  exact ⟨p, product, parsed, inRange, rendered, body, surrounds, writes⟩

end NumberPattern

end ReportSheets
