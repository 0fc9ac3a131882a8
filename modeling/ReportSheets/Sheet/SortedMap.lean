namespace ReportSheets

class KeyOrder (κ : Type) where
  before : κ → κ → Bool
  irrefl : ∀ a, before a a = false
  trans : ∀ {a b c}, before a b → before b c → before a c
  eq_of_neither : ∀ {a b}, before a b = false → before b a = false → a = b

instance : KeyOrder Nat where
  before a b := decide (a < b)
  irrefl a := by simp
  trans := by simp only [decide_eq_true_eq]; omega
  eq_of_neither := by simp only [decide_eq_false_iff_not]; omega

variable {κ ν : Type} [KeyOrder κ]

def InKeyOrder (entries : List (κ × ν)) : Prop :=
  entries.Pairwise fun a b => KeyOrder.before a.1 b.1 = true

structure SortedMap (κ ν : Type) [KeyOrder κ] where
  entries : List (κ × ν)
  inOrder : InKeyOrder entries

namespace SortedMap

def empty : SortedMap κ ν := ⟨[], List.Pairwise.nil⟩

instance : Inhabited (SortedMap κ ν) := ⟨empty⟩

instance [DecidableEq κ] [DecidableEq ν] : DecidableEq (SortedMap κ ν) := fun a b =>
  if h : a.entries = b.entries then
    .isTrue (by cases a; cases b; simp only at h; subst h; rfl)
  else .isFalse fun e => h (e ▸ rfl)

def insertEntry (k : κ) (v : ν) : List (κ × ν) → List (κ × ν)
  | [] => [(k, v)]
  | (k', v') :: rest =>
    if KeyOrder.before k k' then (k, v) :: (k', v') :: rest
    else if KeyOrder.before k' k then (k', v') :: insertEntry k v rest
    else (k, v) :: rest

theorem mem_insertEntry {k : κ} {v : ν} {entries : List (κ × ν)} {e : κ × ν}
    (h : e ∈ insertEntry k v entries) : e = (k, v) ∨ e ∈ entries := by
  induction entries with
  | nil => simpa [insertEntry] using h
  | cons first rest ih =>
    simp only [insertEntry] at h
    split at h
    · simpa using h
    · split at h
      · rcases List.mem_cons.1 h with h | h
        · simp [h]
        · rcases ih h with h | h <;> simp [h]
      · rcases List.mem_cons.1 h with h | h <;> simp [h]

theorem inKeyOrder_insertEntry {k : κ} {v : ν} {entries : List (κ × ν)}
    (h : InKeyOrder entries) : InKeyOrder (insertEntry k v entries) := by
  induction entries with
  | nil => simp [insertEntry, InKeyOrder]
  | cons first rest ih =>
    obtain ⟨below, h⟩ := List.pairwise_cons.1 h
    simp only [insertEntry]
    split
    · rename_i hk
      refine List.pairwise_cons.2 ⟨?_, List.pairwise_cons.2 ⟨below, h⟩⟩
      intro e he
      rcases List.mem_cons.1 he with rfl | he
      · exact hk
      · exact KeyOrder.trans hk (below e he)
    · split
      · rename_i hk
        refine List.pairwise_cons.2 ⟨?_, ih h⟩
        intro e he
        rcases mem_insertEntry he with rfl | he
        · exact hk
        · exact below e he
      · rename_i h₁ h₂
        have same : k = first.1 := KeyOrder.eq_of_neither (by simpa using h₁) (by simpa using h₂)
        refine List.pairwise_cons.2 ⟨?_, h⟩
        intro e he
        simpa [same] using below e he

def insert (k : κ) (v : ν) (m : SortedMap κ ν) : SortedMap κ ν :=
  ⟨insertEntry k v m.entries, inKeyOrder_insertEntry m.inOrder⟩

def get? [DecidableEq κ] (m : SortedMap κ ν) (k : κ) : Option ν :=
  (m.entries.find? fun e => e.1 = k).map (·.2)

/-- Later entries win over earlier ones of the same key. -/
def ofList (entries : List (κ × ν)) : SortedMap κ ν :=
  entries.foldl (fun m e => m.insert e.1 e.2) empty

def filterValues (p : ν → Bool) (m : SortedMap κ ν) : SortedMap κ ν :=
  ⟨m.entries.filter fun e => p e.2, m.inOrder.sublist List.filter_sublist⟩

theorem find?_insertEntry [DecidableEq κ] (k a : κ) (v : ν) (entries : List (κ × ν)) :
    ((insertEntry k v entries).find? fun e => e.1 = a).map (·.2) =
      if k = a then some v else (entries.find? fun e => e.1 = a).map (·.2) := by
  induction entries with
  | nil => by_cases h : k = a <;> simp [insertEntry, h]
  | cons first rest ih =>
    simp only [insertEntry]
    split
    · by_cases h : k = a <;> simp [h]
    · split
      · rename_i h₁ h₂
        by_cases hf : first.1 = a
        · have : k ≠ a := by
            rintro rfl
            simp [hf, KeyOrder.irrefl] at h₂
          simp [hf, this]
        · simp only [hf, List.find?_cons, decide_false, ih]
      · rename_i h₁ h₂
        have same : k = first.1 := KeyOrder.eq_of_neither (by simpa using h₁) (by simpa using h₂)
        by_cases h : k = a
        · simp [h]
        · have : first.1 ≠ a := same ▸ h
          simp [h, this]

theorem get?_insert [DecidableEq κ] (m : SortedMap κ ν) (k a : κ) (v : ν) :
    (m.insert k v).get? a = if k = a then some v else m.get? a :=
  find?_insertEntry k a v m.entries

end SortedMap

end ReportSheets
