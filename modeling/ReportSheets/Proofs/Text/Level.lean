import Mathlib.Algebra.Group.Nat.Even
import ReportSheets.Proofs.Text.Blank

namespace ReportSheets.Text

def quotedAfter : Bool → List Char → Bool
  | quoted, [] => quoted
  | quoted, c :: rest => quotedAfter (if c = '"' then !quoted else quoted) rest

def outside : Bool → List Char → List Char
  | _, [] => []
  | quoted, c :: rest =>
    if c = '"' then outside (!quoted) rest
    else if quoted then outside quoted rest
    else c :: outside quoted rest

def Paired (text : List Char) : Prop := Even (text.count '"')

instance (text : List Char) : Decidable (Paired text) :=
  Nat.instDecidablePredEven (text.count '"')

def rise (quoted : Bool) (text : List Char) : Int :=
  (outside quoted text).count '(' - (outside quoted text).count ')'

/-- Quotes are paired, and outside them no parenthesis closes before it opens or stays open. -/
structure Balanced (text : List Char) : Prop where
  paired : Paired text
  above : ∀ front, front <+: text → 0 ≤ rise false front
  level : rise false text = 0

variable {quoted : Bool} {c : Char} {text before after rest : List Char}

theorem quotedAfter_eq_self_iff (quoted : Bool) (text : List Char) :
    quotedAfter quoted text = quoted ↔ Paired text := by
  induction text generalizing quoted with
  | nil => simp [quotedAfter, Paired]
  | cons c text ih =>
    by_cases quote : c = '"'
    · subst quote
      have other : quotedAfter (!quoted) text = quoted ↔ ¬ quotedAfter (!quoted) text = !quoted := by
        cases quoted <;> simp
      rw [quotedAfter, if_pos rfl, other, ih, Paired, Paired, List.count_cons_self, Nat.even_add_one]
    · rw [quotedAfter, if_neg quote, ih, Paired, Paired, List.count_cons_of_ne quote]

theorem outside_cons_quote (quoted : Bool) (rest : List Char) :
    outside quoted ('"' :: rest) = outside (!quoted) rest := if_pos rfl

theorem outside_cons_bare (other : c ≠ '"') (rest : List Char) :
    outside false (c :: rest) = c :: outside false rest := if_neg other

theorem outside_cons_quoted (other : c ≠ '"') (rest : List Char) :
    outside true (c :: rest) = outside true rest := if_neg other

theorem outside_append (quoted : Bool) (before after : List Char) :
    outside quoted (before ++ after) =
      outside quoted before ++ outside (quotedAfter quoted before) after := by
  induction before generalizing quoted with
  | nil => rfl
  | cons c before ih =>
    by_cases quote : c = '"'
    · simp [outside, quotedAfter, quote, ih]
    · cases quoted <;> simp [outside, quotedAfter, quote, ih]

theorem rise_append (quoted : Bool) (before after : List Char) :
    rise quoted (before ++ after) = rise quoted before + rise (quotedAfter quoted before) after := by
  simp only [rise, outside_append, List.count_append]
  omega

theorem mem_of_mem_outside (member : c ∈ outside quoted text) : c ∈ text := by
  induction text generalizing quoted with
  | nil => cases member
  | cons d rest ih =>
    by_cases quote : d = '"'
    · rw [quote, outside_cons_quote] at member
      exact List.mem_cons_of_mem d (ih member)
    cases quoted with
    | true =>
      rw [outside_cons_quoted quote] at member
      exact List.mem_cons_of_mem d (ih member)
    | false =>
      rw [outside_cons_bare quote] at member
      rcases List.mem_cons.mp member with rfl | later
      · exact List.mem_cons_self
      · exact List.mem_cons_of_mem d (ih later)

theorem paired_of_unquoted (unquoted : '"' ∉ text) : Paired text := by
  rw [Paired, List.count_eq_zero_of_not_mem unquoted]
  exact Even.zero

theorem Blank.unquoted (blank : Blank text) : '"' ∉ text := fun member =>
  absurd (blank '"' member) (by decide)

theorem paired_append (paired : Paired before) : Paired (before ++ after) ↔ Paired after := by
  rw [Paired, List.count_append, Nat.even_add]
  exact iff_true_left paired

theorem paired_padded {core : List Char} (padded : Padded core text) :
    Paired text ↔ Paired core := by
  obtain ⟨left, right, before, behind, rfl⟩ := padded
  have last := paired_of_unquoted behind.unquoted
  rw [List.append_assoc, paired_append (paired_of_unquoted before.unquoted), Paired,
    List.count_append, Nat.even_add]
  exact iff_true_right last

/-- Blanks around a text do not show in what stands outside quotes. -/
theorem mem_outside_padded {core : List Char} (padded : Padded core text)
    (visible : isBlank c = false) : c ∈ outside false text ↔ c ∈ outside false core := by
  obtain ⟨left, right, before, behind, rfl⟩ := padded
  have notBlank : ∀ {edge : List Char} {quoted : Bool}, Blank edge → c ∉ outside quoted edge := by
    intro edge quoted blank member
    have shown := blank c (mem_of_mem_outside member)
    rw [visible] at shown
    cases shown
  have closed : quotedAfter false left = false :=
    (quotedAfter_eq_self_iff false left).mpr (paired_of_unquoted before.unquoted)
  rw [outside_append, outside_append, closed, List.mem_append, List.mem_append]
  simp only [notBlank before, notBlank behind, false_or, or_false]

structure Level where
  depth : Nat
  quoted : Bool
deriving DecidableEq

namespace Level

def ground : Level := ⟨0, false⟩

def after? (level : Level) (c : Char) : Option Level :=
  if c = '"' then some { level with quoted := !level.quoted }
  else if level.quoted then some level
  else if c = '(' then some ⟨level.depth + 1, false⟩
  else if c = ')' then
    match level.depth with
    | 0 => none
    | outer + 1 => some ⟨outer, false⟩
  else some level

/-- The level after a text in which no `stops` stand on the ground. -/
def reach? (stops : List Char) (level : Level) : List Char → Option Level
  | [] => some level
  | c :: rest =>
    if c ∈ stops ∧ level = ground then none
    else (level.after? c).bind fun next => reach? stops next rest

def lifted (level : Level) : Level := { level with depth := level.depth + 1 }

inductive Steps : Level → Char → Level → Prop
  | quote (depth : Nat) (quoted : Bool) : Steps ⟨depth, quoted⟩ '"' ⟨depth, !quoted⟩
  | quoted (depth : Nat) {c : Char} (other : c ≠ '"') : Steps ⟨depth, true⟩ c ⟨depth, true⟩
  | opening (depth : Nat) : Steps ⟨depth, false⟩ '(' ⟨depth + 1, false⟩
  | closing (depth : Nat) : Steps ⟨depth + 1, false⟩ ')' ⟨depth, false⟩
  | plain (depth : Nat) {c : Char} (other : c ≠ '"') (notOpening : c ≠ '(')
      (notClosing : c ≠ ')') : Steps ⟨depth, false⟩ c ⟨depth, false⟩

variable {stops : List Char} {level next : Level}

theorem Steps.after? (steps : Steps level c next) : level.after? c = some next := by
  cases steps with
  | quote depth quoted => rfl
  | quoted depth other => simp [Level.after?, other]
  | opening depth => rfl
  | closing depth => rfl
  | plain depth other notOpening notClosing => simp [Level.after?, other, notOpening, notClosing]

theorem steps_of_after? (after : level.after? c = some next) : Steps level c next := by
  obtain ⟨depth, quoted⟩ := level
  by_cases quote : c = '"'
  · subst quote
    cases after
    exact .quote depth quoted
  cases quoted with
  | true =>
    simp only [Level.after?, if_neg quote, if_true, Option.some.injEq] at after
    subst after
    exact .quoted depth quote
  | false =>
    by_cases opening : c = '('
    · subst opening
      cases after
      exact .opening depth
    by_cases closing : c = ')'
    · subst closing
      cases depth with
      | zero => cases after
      | succ outer =>
        cases after
        exact .closing outer
    · simp only [Level.after?, if_neg quote, if_neg opening, if_neg closing, Bool.false_eq_true,
        if_false, Option.some.injEq] at after
      subst after
      exact .plain depth quote opening closing

theorem Steps.rise (steps : Steps level c next) :
    (next.depth : Int) = level.depth + Text.rise level.quoted [c] ∧
      next.quoted = quotedAfter level.quoted [c] := by
  cases steps with
  | quote depth quoted => simp [Text.rise, outside, quotedAfter]
  | quoted depth other => simp [Text.rise, outside, quotedAfter, other]
  | opening depth => simp [Text.rise, outside, quotedAfter]
  | closing depth =>
    have down : Text.rise false [')'] = -1 := by decide
    refine ⟨?_, rfl⟩
    show (depth : Int) = (depth + 1 : Nat) + Text.rise false [')']
    omega
  | plain depth other notOpening notClosing =>
    simp [Text.rise, outside, quotedAfter, other, notOpening, notClosing]

theorem Steps.lifted (steps : Steps level c next) : Steps level.lifted c next.lifted := by
  cases steps with
  | quote depth quoted => exact .quote (depth + 1) quoted
  | quoted depth other => exact .quoted (depth + 1) other
  | opening depth => exact .opening (depth + 1)
  | closing depth => exact .closing (depth + 1)
  | plain depth other notOpening notClosing =>
    exact .plain (depth + 1) other notOpening notClosing

theorem reach?_append (stops : List Char) (level : Level) (before after : List Char) :
    reach? stops level (before ++ after) =
      (reach? stops level before).bind fun next => reach? stops next after := by
  induction before generalizing level with
  | nil => rfl
  | cons c before ih =>
    rw [List.cons_append, reach?, reach?]
    split
    · rfl
    · cases level.after? c with
      | none => rfl
      | some next => exact ih next

theorem reach?_cons_iff :
    reach? stops level (c :: rest) = some next ↔
      ¬ (c ∈ stops ∧ level = ground) ∧
        ∃ between, Steps level c between ∧ reach? stops between rest = some next := by
  rw [reach?]
  constructor
  · intro reached
    split at reached
    · cases reached
    · rename_i passes
      obtain ⟨between, first, later⟩ := Option.bind_eq_some_iff.mp reached
      exact ⟨passes, between, steps_of_after? first, later⟩
  · rintro ⟨passes, between, first, later⟩
    rw [if_neg passes, first.after?]
    exact later

/-- No prefix goes below the ground, and where the text ends is told by its rise. -/
theorem reach?_rise (reached : reach? stops level text = some next) :
    (∀ front, front <+: text → 0 ≤ level.depth + rise level.quoted front) ∧
      (next.depth : Int) = level.depth + rise level.quoted text ∧
      next.quoted = quotedAfter level.quoted text := by
  induction text generalizing level with
  | nil =>
    cases reached
    refine ⟨?_, by simp [rise, outside], rfl⟩
    intro front isFront
    rw [List.prefix_nil.mp isFront]
    simp [rise, outside]
  | cons c rest ih =>
    obtain ⟨-, between, first, later⟩ := reach?_cons_iff.1 reached
    obtain ⟨stepped, quotes⟩ := first.rise
    obtain ⟨above, ended, quoted⟩ := ih later
    have joined : ∀ front, rise level.quoted (c :: front) =
        rise level.quoted [c] + rise between.quoted front := by
      intro front
      rw [quotes]
      exact rise_append level.quoted [c] front
    refine ⟨?_, ?_, ?_⟩
    · intro front isFront
      rcases List.prefix_cons_iff.mp isFront with rfl | ⟨front, rfl, isPrefix⟩
      · simp [rise, outside]
      · have bound := above front isPrefix
        rw [joined]
        omega
    · rw [joined]
      omega
    · rw [quoted, quotes]
      rfl

theorem balanced_of_reach? (reached : reach? stops ground text = some ground) : Balanced text := by
  obtain ⟨above, level, quoted⟩ := reach?_rise reached
  refine ⟨(quotedAfter_eq_self_iff false text).mp quoted.symm, ?_, ?_⟩
  · intro front isFront
    have bound := above front isFront
    simpa [ground] using bound
  · simpa [ground] using level.symm

/-- Above the ground nothing stops. -/
theorem reach?_lifted (more : List Char) (reached : reach? stops level text = some next) :
    reach? more level.lifted text = some next.lifted := by
  induction text generalizing level with
  | nil =>
    cases reached
    rfl
  | cons c rest ih =>
    obtain ⟨-, between, first, later⟩ := reach?_cons_iff.1 reached
    refine reach?_cons_iff.2 ⟨?_, between.lifted, first.lifted, ih later⟩
    rintro ⟨-, low⟩
    simp [lifted, ground] at low

/-- A text without parentheses and stops outside quotes stays on its level. -/
theorem reach?_plain (unquoted : '"' ∉ stops)
    (plain : ∀ c ∈ outside quoted text, c ≠ '(' ∧ c ≠ ')' ∧ c ∉ stops) :
    reach? stops ⟨0, quoted⟩ text = some ⟨0, quotedAfter quoted text⟩ := by
  induction text generalizing quoted with
  | nil => rfl
  | cons c rest ih =>
    rw [reach?_cons_iff]
    by_cases quote : c = '"'
    · subst quote
      rw [outside_cons_quote] at plain
      exact ⟨fun stop => unquoted stop.1, _, .quote 0 quoted, ih plain⟩
    · rw [quotedAfter, if_neg quote]
      cases quoted with
      | true =>
        rw [outside_cons_quoted quote] at plain
        exact ⟨by simp [ground], _, .quoted 0 quote, ih plain⟩
      | false =>
        rw [outside_cons_bare quote] at plain
        obtain ⟨notOpening, notClosing, passes⟩ := plain c List.mem_cons_self
        exact ⟨fun stop => passes stop.1, _, .plain 0 quote notOpening notClosing,
          ih fun d member => plain d (List.mem_cons_of_mem c member)⟩

theorem reach?_ground (unquoted : '"' ∉ stops) (paired : Paired text)
    (plain : ∀ c ∈ outside false text, c ≠ '(' ∧ c ≠ ')' ∧ c ∉ stops) :
    reach? stops ground text = some ground := by
  have stays := reach?_plain unquoted plain
  rwa [(quotedAfter_eq_self_iff false text).mpr paired] at stays

theorem reach?_blank (visible : ∀ mark ∈ stops, isBlank mark = false) (unquoted : '"' ∉ stops)
    (blank : Blank text) : reach? stops ground text = some ground := by
  apply reach?_ground unquoted (paired_of_unquoted blank.unquoted)
  intro c member
  have shown := blank c (mem_of_mem_outside member)
  refine ⟨?_, ?_, ?_⟩
  · rintro rfl
    exact absurd shown (by decide)
  · rintro rfl
    exact absurd shown (by decide)
  · intro stop
    rw [visible c stop] at shown
    cases shown

/-- As long as nothing opens, nothing may close either, and no stop may come. -/
theorem of_reach?_unopened (unopened : '(' ∉ outside quoted text)
    (reached : reach? stops ⟨0, quoted⟩ text = some next) :
    next = ⟨0, quotedAfter quoted text⟩ ∧ ∀ c ∈ outside quoted text, c ≠ ')' ∧ c ∉ stops := by
  induction text generalizing quoted with
  | nil =>
    cases reached
    exact ⟨rfl, fun c member => by cases member⟩
  | cons c rest ih =>
    obtain ⟨passes, between, first, later⟩ := reach?_cons_iff.1 reached
    cases first with
    | quote =>
      rw [outside_cons_quote] at unopened ⊢
      exact ih unopened later
    | quoted depth other =>
      rw [outside_cons_quoted other] at unopened ⊢
      rw [quotedAfter, if_neg other]
      exact ih unopened later
    | opening =>
      rw [outside_cons_bare (by decide)] at unopened
      exact absurd List.mem_cons_self unopened
    | plain depth other notOpening notClosing =>
      rw [outside_cons_bare other] at unopened ⊢
      rw [quotedAfter, if_neg other]
      obtain ⟨ended, free⟩ := ih (fun later => unopened (List.mem_cons_of_mem c later)) later
      refine ⟨ended, ?_⟩
      intro d member
      rcases List.mem_cons.mp member with rfl | member
      · exact ⟨notClosing, fun stop => passes ⟨stop, rfl⟩⟩
      · exact free d member

end Level

end ReportSheets.Text
