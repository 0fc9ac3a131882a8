import Mathlib.Tactic.IntervalCases
import ReportSheets.Proofs.Text.Digits
import ReportSheets.Xml.Entity

namespace ReportSheets.Xml

inductive Numeral (base : Nat) : List Char → Nat → Prop
  | digit {c : Char} {d : Nat} (below : d < base)
      (shown : c = Nat.digitChar d ∨ c = (Nat.digitChar d).toUpper) : Numeral base [c] d
  | more {digits : List Char} {c : Char} {n d : Nat} (begun : Numeral base digits n)
      (below : d < base) (shown : c = Nat.digitChar d ∨ c = (Nat.digitChar d).toUpper) :
      Numeral base (digits ++ [c]) (base * n + d)

inductive Names : Char → List Char → Prop
  | ampersand : Names '&' "amp".toList
  | less : Names '<' "lt".toList
  | greater : Names '>' "gt".toList
  | apostrophe : Names '\'' "apos".toList
  | quote : Names '"' "quot".toList
  | decimal {c : Char} {digits : List Char} (numeral : Numeral 10 digits c.toNat)
      (positive : c.toNat ≠ 0) : Names c ('#' :: digits)
  | hexadecimal {c : Char} {digits : List Char} (numeral : Numeral 16 digits c.toNat)
      (positive : c.toNat ≠ 0) : Names c ('#' :: 'x' :: digits)

inductive Quotes (quote : Char) : List Char → List Char → Prop
  | nil : Quotes quote [] []
  | bare {c : Char} {value raw : List Char} (begins : c ≠ '&') (ends : c ≠ quote)
      (rest : Quotes quote value raw) : Quotes quote (c :: value) (c :: raw)
  | reference {c : Char} {name value raw : List Char} (named : Names c name)
      (rest : Quotes quote value raw) : Quotes quote (c :: value) ('&' :: (name ++ ';' :: raw))

variable {c : Char} {digits name value raw : List Char} {n d : Nat}

theorem digit_of_shown (below : d < 10) (shown : c = Nat.digitChar d ∨ c = (Nat.digitChar d).toUpper) :
    Text.isDigit c = true ∧ Text.digitValue c = d := by
  rcases shown with rfl | rfl <;> interval_cases d <;> decide

theorem hexDigit?_of_shown (below : d < 16)
    (shown : c = Nat.digitChar d ∨ c = (Nat.digitChar d).toUpper) : Text.hexDigit? c = some d := by
  rcases shown with rfl | rfl <;> interval_cases d <;> decide

theorem isAlphanum_of_shown (below : d < 16)
    (shown : c = Nat.digitChar d ∨ c = (Nat.digitChar d).toUpper) : c.isAlphanum = true := by
  rcases shown with rfl | rfl <;> interval_cases d <;> decide

namespace Numeral

theorem ne_nil {base : Nat} (numeral : Numeral base digits n) : digits ≠ [] := by
  cases numeral <;> simp

theorem isAlphanum {base : Nat} (small : base ≤ 16) (numeral : Numeral base digits n) :
    ∀ c ∈ digits, c.isAlphanum = true := by
  induction numeral with
  | digit below shown =>
    intro c member
    rw [List.mem_singleton.mp member]
    exact isAlphanum_of_shown (Nat.lt_of_lt_of_le below small) shown
  | more begun below shown ih =>
    intro c member
    rcases List.mem_append.mp member with before | last
    · exact ih c before
    · rw [List.mem_singleton.mp last]
      exact isAlphanum_of_shown (Nat.lt_of_lt_of_le below small) shown

theorem natural (numeral : Numeral 10 digits n) :
    (∀ c ∈ digits, Text.isDigit c = true) ∧ Text.naturalOf digits = n := by
  induction numeral with
  | digit below shown =>
    obtain ⟨digit, value⟩ := digit_of_shown below shown
    refine ⟨by simpa using digit, ?_⟩
    simpa [Text.naturalOf] using value
  | more begun below shown ih =>
    obtain ⟨digit, value⟩ := digit_of_shown below shown
    obtain ⟨each, before⟩ := ih
    refine ⟨?_, by rw [Text.naturalOf_concat, before, value]⟩
    intro c member
    rcases List.mem_append.mp member with before | last
    · exact each c before
    · rw [List.mem_singleton.mp last]
      exact digit

theorem readNatural? (numeral : Numeral 10 digits n) : Text.readNatural? digits = some n := by
  obtain ⟨each, value⟩ := numeral.natural
  have visible := numeral.ne_nil
  rw [Text.readNatural?, value, if_pos]
  simpa [visible] using each

theorem values (numeral : Numeral 16 digits n) : ∃ values, digits.mapM Text.hexDigit? = some values ∧
    values.foldl (fun n d => 16 * n + d) 0 = n := by
  induction numeral with
  | @digit c d below shown =>
    exact ⟨[d], by simp [hexDigit?_of_shown below shown], by simp⟩
  | @more digits c n d begun below shown ih =>
    obtain ⟨values, read, total⟩ := ih
    refine ⟨values ++ [d], ?_, by simp [total]⟩
    simp [List.mapM_append, read, hexDigit?_of_shown below shown]

theorem readHex? (numeral : Numeral 16 digits n) : Text.readHex? digits = some n := by
  obtain ⟨values, read, total⟩ := numeral.values
  rw [Text.readHex?, if_neg numeral.ne_nil, read, Option.map_some, total]

end Numeral

theorem character?_toNat (positive : c.toNat ≠ 0) : character? c.toNat = some c := by
  rw [character?, dif_pos ⟨positive, c.valid⟩]
  rfl

namespace Names

theorem resolves (names : Names c name) : reference? name = some c := by
  cases names with
  | decimal numeral positive =>
    have each := numeral.natural.1
    unfold reference?
    split
    · rename_i same
      cases same
      exact absurd (each 'x' List.mem_cons_self) (by decide)
    · rename_i same
      cases same
      rw [numeral.readNatural?]
      exact character?_toNat positive
    · rename_i other
      exact absurd rfl (other _)
  | hexadecimal numeral positive =>
    rw [reference?, numeral.readHex?]
    exact character?_toNat positive
  | _ => rfl

theorem plain (names : Names c name) : ∀ d ∈ name, d.isAlphanum = true ∨ d = '#' := by
  cases names with
  | decimal numeral positive =>
    have digits := numeral.isAlphanum (by decide)
    intro d member
    rcases List.mem_cons.mp member with rfl | later
    · exact .inr rfl
    · exact .inl (digits d later)
  | hexadecimal numeral positive =>
    have digits := numeral.isAlphanum (by decide)
    intro d member
    rcases List.mem_cons.mp member with rfl | later
    · exact .inr rfl
    rcases List.mem_cons.mp later with rfl | last
    · exact .inl (by decide)
    · exact .inl (digits d last)
  | _ => exact fun d member => .inl (List.all_eq_true.mp (by decide) d member)

theorem not_mem (names : Names c name) (mark : Char) (other : mark.isAlphanum = false)
    (noHash : mark ≠ '#') : mark ∉ name := by
  intro member
  rcases names.plain mark member with letter | hash
  · rw [other] at letter
    cases letter
  · exact noHash hash

end Names

theorem unescapeFrom_reference {begun : List Char} (unended : ';' ∉ name)
    (unbegun : '&' ∉ name) (rest : List Char) : unescapeFrom (some begun) (name ++ ';' :: rest) =
      (reference? (begun.reverse ++ name)).bind fun resolved =>
        (unescapeFrom none rest).map (resolved :: ·) := by
  induction name generalizing begun with
  | nil => simp [unescapeFrom]
  | cons d name ih =>
    rw [List.mem_cons, not_or] at unended unbegun
    rw [List.cons_append, unescapeFrom]
    simp only [if_neg (Ne.symm unended.1), if_neg (Ne.symm unbegun.1), ih unended.2 unbegun.2,
      List.reverse_cons, List.append_assoc, List.singleton_append]

namespace Quotes

variable {quote : Char}

theorem unescape? (quotes : Quotes quote value raw) : unescape? raw = some value := by
  induction quotes with
  | nil => rfl
  | bare begins ends rest ih =>
    rw [Xml.unescape?, unescapeFrom] at *
    simp only [if_neg begins, ih, Option.map_some]
  | reference named rest ih =>
    have unended := named.not_mem ';' (by decide) (by decide)
    have unbegun := named.not_mem '&' (by decide) (by decide)
    rw [Xml.unescape?] at ih
    rw [Xml.unescape?, unescapeFrom]
    simp only [if_true, unescapeFrom_reference unended unbegun, List.reverse_nil, List.nil_append,
      named.resolves, Option.bind_some, ih, Option.map_some]

theorem not_mem (mark : quote = '"' ∨ quote = '\'') (quotes : Quotes quote value raw) :
    quote ∉ raw := by
  have unnamed : quote.isAlphanum = false ∧ quote ≠ '#' ∧ quote ≠ '&' ∧ quote ≠ ';' := by
    rcases mark with rfl | rfl <;> decide
  obtain ⟨noLetter, noHash, noAmpersand, noSemicolon⟩ := unnamed
  induction quotes with
  | nil => exact List.not_mem_nil
  | bare begins ends rest ih =>
    intro member
    rcases List.mem_cons.mp member with rfl | later
    · exact ends rfl
    · exact ih later
  | reference named rest ih =>
    intro member
    rcases List.mem_cons.mp member with rfl | inside
    · exact noAmpersand rfl
    rcases List.mem_append.mp inside with inName | later
    · exact named.not_mem quote noLetter noHash inName
    rcases List.mem_cons.mp later with rfl | last
    · exact noSemicolon rfl
    · exact ih last

theorem escape (value : List Char) : Quotes '"' value (escape value) := by
  induction value with
  | nil => exact .nil
  | cons c value ih =>
    rw [Xml.escape, List.flatMap_cons]
    by_cases ampersand : c = '&'
    · subst ampersand
      exact .reference .ampersand ih
    by_cases less : c = '<'
    · subst less
      exact .reference .less ih
    by_cases greater : c = '>'
    · subst greater
      exact .reference .greater ih
    by_cases mark : c = '"'
    · subst mark
      exact .reference .quote ih
    · rw [if_neg ampersand, if_neg less, if_neg greater, if_neg mark]
      exact .bare ampersand mark ih

end Quotes

end ReportSheets.Xml
