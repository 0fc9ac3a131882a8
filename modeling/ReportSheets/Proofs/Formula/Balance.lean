import ReportSheets.Proofs.Formula.Parts

namespace ReportSheets.Expr

open Text

variable {stops text inner : List Char} {pieces : List (List Char)} {e : Expr}

/-- A parenthesis closes outside quotes in the name of the function that is called. -/
def ClosesInName : Expr → Prop
  | .literal _ => False
  | .call name _ => ')' ∈ outside false name.toList

theorem reach?_joined (each : ∀ piece ∈ pieces, IsArgument piece) :
    Level.reach? stops Level.ground.lifted (joined pieces) = some Level.ground.lifted := by
  have separate : ∀ more : List (List Char), (∀ piece ∈ more, IsArgument piece) →
      Level.reach? stops Level.ground.lifted (more.flatMap (',' :: ·)) =
        some Level.ground.lifted := by
    intro more each
    induction more with
    | nil => rfl
    | cons piece more ih =>
      have comma : Level.Steps Level.ground.lifted ',' Level.ground.lifted :=
        .plain 1 (by decide) (by decide) (by decide)
      have high : ¬ (',' ∈ stops ∧ Level.ground.lifted = Level.ground) := by
        rintro ⟨-, low⟩
        cases low
      have first := Level.reach?_lifted stops (each piece List.mem_cons_self)
      rw [List.flatMap_cons, List.cons_append, Level.reach?_cons_iff]
      refine ⟨high, _, comma, ?_⟩
      rw [Level.reach?_append, first]
      exact ih fun other member => each other (List.mem_cons_of_mem piece member)
  cases pieces with
  | nil => rfl
  | cons first more =>
    rw [joined, Level.reach?_append,
      Level.reach?_lifted stops (each first List.mem_cons_self)]
    exact separate more fun piece member => each piece (List.mem_cons_of_mem first member)

theorem reach?_arguments (given : arguments inner = .ok pieces) :
    Level.reach? stops Level.ground.lifted inner = some Level.ground.lifted := by
  rcases arguments_eq_ok_iff.mp given with ⟨⟨-, blank⟩ | ⟨-, rfl⟩, each, -⟩
  · have stays : Level.reach? [] .ground inner = some .ground :=
      Level.reach?_blank (by simp) List.not_mem_nil blank
    exact Level.reach?_lifted stops stays
  · exact reach?_joined each

theorem reach?_parentheses (notStopped : '(' ∉ stops) (given : arguments inner = .ok pieces) :
    Level.reach? stops .ground ('(' :: (inner ++ [')'])) = some .ground := by
  rw [Level.reach?_cons_iff]
  refine ⟨fun stop => notStopped stop.1, Level.ground.lifted, .opening 0, ?_⟩
  rw [Level.reach?_append, reach?_arguments given]
  show Level.reach? stops Level.ground.lifted [')'] = some .ground
  rw [Level.reach?_cons_iff]
  refine ⟨?_, Level.ground, .closing 0, rfl⟩
  rintro ⟨-, low⟩
  cases low

theorem kind_of_read_error (text : List Char) {e : Error} (failed : read text = .error e) :
    e.kind = .parse := by
  rw [read_eq] at failed
  split at failed
  · cases failed
    rfl
  · cases failed
  · rename_i name args taken
    cases each : args.mapM read with
    | error fault =>
      rw [each] at failed
      cases failed
      obtain ⟨arg, member, failed⟩ := of_mapM_error each
      have shorter := length_of_mem_takeApart taken arg member
      exact kind_of_read_error arg failed
    | ok args =>
      rw [each] at failed
      cases failed
termination_by text.length

/-- From the first parenthesis that opens on, what is read is balanced. -/
theorem split_of_read (readable : read text = .ok e) :
    ∃ front rest, text = front ++ rest ∧ '(' ∉ outside false front ∧ Paired front ∧
      Level.reach? [] .ground rest = some .ground ∧ (')' ∈ outside false front ↔ e.ClosesInName) := by
  rcases read_eq_ok readable with ⟨rfl, unopened, unclosed, paired⟩ |
    ⟨front, inner, pieces, args, rfl, first, paired, named, given, -, rfl⟩
  · exact ⟨text, [], (List.append_nil text).symm, unopened, paired, rfl, by
      simp [ClosesInName, unclosed]⟩
  · refine ⟨front, _, rfl, first, paired, reach?_parentheses List.not_mem_nil given, ?_⟩
    rw [ClosesInName, String.toList_ofList]
    exact mem_outside_padded (padded_trim front) (by decide)

theorem balanced_append_iff {front rest : List Char} (unopened : '(' ∉ outside false front)
    (paired : Paired front) (balanced : Level.reach? [] .ground rest = some .ground) :
    Balanced (front ++ rest) ↔ ')' ∉ outside false front := by
  constructor
  · intro whole closes
    have above := whole.above front (List.prefix_append front rest)
    have none := List.count_eq_zero_of_not_mem unopened
    have one := List.count_pos_iff.mpr closes
    rw [rise, none] at above
    omega
  · intro unclosed
    have plain : ∀ c ∈ outside false front, c ≠ '(' ∧ c ≠ ')' ∧ c ∉ [] := by
      intro c member
      refine ⟨?_, ?_, List.not_mem_nil⟩ <;> rintro rfl
      · exact unopened member
      · exact unclosed member
    have stays : Level.reach? [] .ground front = some .ground :=
      Level.reach?_ground List.not_mem_nil paired plain
    apply Level.balanced_of_reach?
    rw [Level.reach?_append, stays]
    exact balanced

theorem split_of_parse {formula : String} (readable : parse formula = .ok e) :
    ∃ front rest, formula.toList = front ++ rest ∧ '(' ∉ outside false front ∧ Paired front ∧
      Level.reach? [] .ground rest = some .ground ∧ (')' ∈ outside false front ↔ e.ClosesInName) := by
  obtain ⟨front, rest, trimmed, unopened, paired, balanced, closes⟩ := split_of_read readable
  obtain ⟨left, right, before, after, whole⟩ := padded_trim formula.toList
  have padded : Padded front (left ++ front) := (padded_self front).append_left before
  refine ⟨left ++ front, rest ++ right, ?_, ?_, (paired_padded padded).mpr paired, ?_, ?_⟩
  · rw [whole, trimmed]
    simp
  · rwa [mem_outside_padded padded (by decide)]
  · rw [Level.reach?_append, balanced]
    exact Level.reach?_blank (by simp) List.not_mem_nil after
  · rwa [mem_outside_padded padded (by decide)]

/-- Without parentheses only the quotes count. -/
theorem parse_of_unparenthesized {formula : String} (unopened : '(' ∉ outside false formula.toList)
    (unclosed : ')' ∉ outside false formula.toList) (paired : Paired formula.toList) :
    parse formula = .ok (.literal (String.ofList (Text.trim formula.toList))) := by
  have padded := padded_trim formula.toList
  have taken : takeApart (Text.trim formula.toList) = .ok none := by
    rw [takeApart_eq_none_iff, ← mem_outside_padded padded (by decide),
      ← mem_outside_padded padded (by decide), ← paired_padded padded]
    exact ⟨unopened, unclosed, paired⟩
  rw [parse, read_eq, taken]

/-- What is read has its quotes paired, and from the first parenthesis that opens on it is balanced.
All of it is, unless a parenthesis closes in the name of the function. What cannot be read fails
with an error of kind parse; a formula without parentheses is read when its quotes are paired. -/
theorem parse_balanced (formula : String) :
    (∀ e, parse formula = .ok e →
      Paired formula.toList ∧ (Balanced formula.toList ↔ ¬ e.ClosesInName) ∧
        ∃ front rest, formula.toList = front ++ rest ∧ '(' ∉ outside false front ∧
          Balanced rest) ∧
      (∀ e, parse formula = .error e → e.kind = .parse) ∧
      ('(' ∉ outside false formula.toList → ')' ∉ outside false formula.toList →
        Paired formula.toList → ∃ text, parse formula = .ok (.literal text)) := by
  refine ⟨?_, fun e => kind_of_read_error _, ?_⟩
  · intro e readable
    obtain ⟨front, rest, whole, unopened, paired, reached, closes⟩ := split_of_parse readable
    have balanced := Level.balanced_of_reach? reached
    rw [whole]
    refine ⟨(paired_append paired).mpr balanced.paired, ?_, front, rest, rfl, unopened, balanced⟩
    rw [balanced_append_iff unopened paired reached, closes]
  · intro unopened unclosed paired
    exact ⟨_, parse_of_unparenthesized unopened unclosed paired⟩

theorem parse_balanced_of_nested :
    Balanced "F(G(a),\")\")".toList ∧ (Error.formula .callNotClosed "F(a").kind = .parse ∧
      ∃ text, parse "\"(\" a" = .ok (.literal text) := by
  have read : parse "F(G(a),\")\")" = .ok (.call "F" [.call "G" [.literal "a"], .literal "\")\""]) := by
    cbv
  have refused : parse "F(a" = .error (.formula .callNotClosed "F(a") := by cbv
  have whole := (parse_balanced "F(G(a),\")\")").1 _ read
  have unclosed : ')' ∉ outside false "F".toList := by decide
  refine ⟨whole.2.1.mpr unclosed, (parse_balanced "F(a").2.1 _ refused, ?_⟩
  exact (parse_balanced "\"(\" a").2.2 (by decide) (by decide) (by decide)

/-- A parenthesis that closes before any opens is read as part of the name. -/
theorem parse_closing_before_opening :
    parse "a)b(c)" = .ok (.call "a)b" [.literal "c"]) ∧ ¬ Balanced "a)b(c)".toList := by
  refine ⟨by cbv, ?_⟩
  intro balanced
  exact absurd (balanced.above "a)".toList (by decide)) (by decide)

end ReportSheets.Expr
