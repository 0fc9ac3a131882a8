import Mathlib.Data.List.Basic
import Mathlib.Data.List.Induction
import Mathlib.Data.List.Nodup
import ReportSheets.Sheet.SortedMap

namespace ReportSheets.SortedMap

variable {κ ν μ ρ : Type} [KeyOrder κ]

@[ext]
theorem ext {a b : SortedMap κ ν} (same : a.entries = b.entries) : a = b := by
  cases a
  cases b
  cases same
  rfl

theorem insertEntry_of_last {k : κ} {v : ν} {entries : List (κ × ν)}
    (last : ∀ e ∈ entries, KeyOrder.before e.1 k = true) :
    insertEntry k v entries = entries ++ [(k, v)] := by
  induction entries with
  | nil => rfl
  | cons first rest ih =>
    obtain ⟨before, last⟩ := List.forall_mem_cons.mp last
    have after : KeyOrder.before k first.1 = false := by
      cases turned : KeyOrder.before k first.1 with
      | false => rfl
      | true => exact absurd (KeyOrder.trans turned before) (by simp [KeyOrder.irrefl])
    rw [insertEntry, after, before, if_neg Bool.false_ne_true, if_pos rfl, ih last, List.cons_append]

theorem entries_ofList {entries : List (κ × ν)} (ordered : InKeyOrder entries) :
    (ofList entries).entries = entries := by
  induction entries using List.reverseRecOn with
  | nil => rfl
  | append_singleton entries last ih =>
    obtain ⟨before, -, bounds⟩ := List.pairwise_append.mp ordered
    have inserted : (ofList (entries ++ [last])).entries =
        insertEntry last.1 last.2 (ofList entries).entries := by
      simp only [ofList, List.foldl_append, List.foldl_cons, List.foldl_nil, insert]
    rw [inserted, ih before]
    exact insertEntry_of_last fun e member => bounds e member last (List.mem_singleton_self last)

def filterMapValues (f : ν → Option μ) (m : SortedMap κ ν) : SortedMap κ μ :=
  ⟨m.entries.filterMap fun e => (f e.2).map fun value => (e.1, value), by
    refine List.Pairwise.filterMap _ ?_ m.inOrder
    intro a b before a' found b' found'
    obtain ⟨_, -, rfl⟩ := Option.map_eq_some_iff.mp found
    obtain ⟨_, -, rfl⟩ := Option.map_eq_some_iff.mp found'
    exact before⟩

theorem ofList_filterMapValues (f : ν → Option μ) (m : SortedMap κ ν) :
    ofList (m.entries.filterMap fun e => (f e.2).map fun value => (e.1, value)) =
      m.filterMapValues f :=
  SortedMap.ext (entries_ofList (m.filterMapValues f).inOrder)

theorem exists_of_mem_filterMapValues {f : ν → Option μ} {m : SortedMap κ ν} {e : κ × μ}
    (member : e ∈ (m.filterMapValues f).entries) :
    ∃ origin ∈ m.entries, origin.1 = e.1 ∧ f origin.2 = some e.2 := by
  obtain ⟨origin, origins, made⟩ := List.mem_filterMap.mp member
  obtain ⟨value, found, rfl⟩ := Option.map_eq_some_iff.mp made
  exact ⟨origin, origins, rfl, found⟩

theorem filterMapValues_filterMapValues (f : ν → Option μ) (g : μ → Option ρ)
    (m : SortedMap κ ν) :
    (m.filterMapValues f).filterMapValues g = m.filterMapValues fun v => (f v).bind g := by
  refine SortedMap.ext ?_
  simp only [filterMapValues, List.filterMap_filterMap]
  congr 1
  funext e
  cases f e.2 <;> rfl

theorem filterMapValues_eq_filterValues {f : ν → Option ν} {p : ν → Bool} {m : SortedMap κ ν}
    (same : ∀ e ∈ m.entries, f e.2 = if p e.2 then some e.2 else none) :
    m.filterMapValues f = m.filterValues p := by
  refine SortedMap.ext ?_
  show m.entries.filterMap _ = m.entries.filter _
  rw [← List.filterMap_eq_filter]
  refine List.filterMap_congr fun e member => ?_
  rw [same e member]
  cases kept : p e.2 <;> simp [Option.guard, kept]

theorem filterMap_eq_self_iff {α : Type} {f : α → Option α} {items : List α} :
    items.filterMap f = items ↔ ∀ item ∈ items, f item = some item := by
  induction items with
  | nil => simp
  | cons item items ih =>
    rw [List.forall_mem_cons, ← ih]
    cases first : f item with
    | none =>
      have shorter := List.length_filterMap_le f items
      rw [List.filterMap_cons_none first]
      constructor
      · intro same
        rw [same, List.length_cons] at shorter
        omega
      · rintro ⟨kept, -⟩
        cases kept
    | some other => rw [List.filterMap_cons_some first, List.cons.injEq, Option.some.injEq]

theorem filterMapValues_eq_self_iff {f : ν → Option ν} {m : SortedMap κ ν} :
    m.filterMapValues f = m ↔ ∀ e ∈ m.entries, f e.2 = some e.2 := by
  have entries : m.filterMapValues f = m ↔ (m.filterMapValues f).entries = m.entries :=
    ⟨congrArg _, SortedMap.ext⟩
  rw [entries, filterMapValues, filterMap_eq_self_iff]
  refine forall₂_congr fun e _ => ?_
  cases f e.2 with
  | none => simp
  | some value => simp [Prod.ext_iff]

theorem filterValues_filterValues (p : ν → Bool) (m : SortedMap κ ν) :
    (m.filterValues p).filterValues p = m.filterValues p := by
  refine SortedMap.ext ?_
  simp only [filterValues, List.filter_filter, Bool.and_self]

variable [DecidableEq κ]

theorem mem_entries_iff {m : SortedMap κ ν} {k : κ} {v : ν} :
    (k, v) ∈ m.entries ↔ m.get? k = some v := by
  have distinct : (m.entries.map Prod.fst).Nodup := by
    refine List.pairwise_map.mpr (m.inOrder.imp ?_)
    intro a b before same
    rw [same, KeyOrder.irrefl] at before
    cases before
  constructor
  · intro member
    cases found : m.entries.find? fun e => e.1 = k with
    | none => exact absurd (List.find?_eq_none.mp found _ member) (by simp)
    | some e =>
      have key : e.1 = k := by simpa using List.find?_some found
      have same := List.inj_on_of_nodup_map distinct (List.mem_of_find?_eq_some found) member key
      rw [get?, found, same, Option.map_some]
  · intro got
    obtain ⟨e, found, rfl⟩ := Option.map_eq_some_iff.mp got
    have key : e.1 = k := by simpa using List.find?_some found
    exact key ▸ List.mem_of_find?_eq_some found

omit [KeyOrder κ] in
theorem find?_reverse_eq_some_iff {entries : List (κ × ν)} {k : κ} {v : ν} :
    (entries.reverse.find? fun e => e.1 = k).map (·.2) = some v ↔
      ∃ before after, entries = before ++ (k, v) :: after ∧ ∀ e ∈ after, e.1 ≠ k := by
  constructor
  · intro got
    obtain ⟨e, found, rfl⟩ := Option.map_eq_some_iff.mp got
    obtain ⟨key, after, before, split, later⟩ := List.find?_eq_some_iff_append.mp found
    have key : e.1 = k := by simpa using key
    refine ⟨before.reverse, after.reverse, ?_, by simpa using later⟩
    rw [← List.reverse_reverse entries, split, ← key]
    simp
  · rintro ⟨before, after, rfl, later⟩
    refine Option.map_eq_some_iff.mpr ⟨(k, v), List.find?_eq_some_iff_append.mpr ?_, rfl⟩
    exact ⟨by simp, after.reverse, before.reverse, by simp, by simpa using later⟩

theorem get?_ofList (entries : List (κ × ν)) (k : κ) :
    (ofList entries).get? k = (entries.reverse.find? fun e => e.1 = k).map (·.2) := by
  induction entries using List.reverseRecOn with
  | nil => rfl
  | append_singleton entries last ih =>
    have inserted : ofList (entries ++ [last]) = (ofList entries).insert last.1 last.2 := by
      simp only [ofList, List.foldl_append, List.foldl_cons, List.foldl_nil]
    rw [inserted, get?_insert, ih, List.reverse_append, List.reverse_singleton,
      List.singleton_append, List.find?_cons]
    split <;> simp [*]

theorem get?_filterMapValues (f : ν → Option μ) (m : SortedMap κ ν) (k : κ) :
    (m.filterMapValues f).get? k = (m.get? k).bind f := by
  refine Option.ext fun value => ?_
  rw [← mem_entries_iff, Option.bind_eq_some_iff]
  constructor
  · intro member
    obtain ⟨origin, among, rfl, made⟩ := exists_of_mem_filterMapValues member
    exact ⟨origin.2, mem_entries_iff.1 among, made⟩
  · rintro ⟨origin, got, made⟩
    have among := mem_entries_iff.2 got
    exact List.mem_filterMap.mpr ⟨(k, origin), among, by rw [made, Option.map_some]⟩

theorem eq_of_get? {a b : SortedMap κ ν} (same : ∀ k, a.get? k = b.get? k) : a = b := by
  have distinct : ∀ m : SortedMap κ ν, m.entries.Nodup := fun m => m.inOrder.imp (by
    rintro a b before rfl
    rw [KeyOrder.irrefl] at before
    cases before)
  have members : ∀ e, e ∈ a.entries ↔ e ∈ b.entries := by
    rintro ⟨k, v⟩
    rw [mem_entries_iff, mem_entries_iff, same]
  have permuted := (List.perm_ext_iff_of_nodup (distinct a) (distinct b)).mpr members
  refine SortedMap.ext (permuted.eq_of_pairwise ?_ a.inOrder b.inOrder)
  intro e e' _ _ before after
  have round := KeyOrder.trans before after
  rw [KeyOrder.irrefl] at round
  cases round

theorem ofList_append_filterMapValues (f g : ν → Option μ) (m : SortedMap κ ν) :
    ofList ((m.filterMapValues f).entries ++ (m.filterMapValues g).entries) =
      m.filterMapValues fun v => (g v).or (f v) := by
  have remade : ∀ (m : SortedMap κ μ) k, (m.entries.reverse.find? fun e => e.1 = k).map (·.2) =
      m.get? k := by
    intro m k
    rw [← get?_ofList, SortedMap.ext (entries_ofList m.inOrder)]
  refine eq_of_get? fun k => ?_
  rw [get?_ofList, List.reverse_append, List.find?_append, Option.map_or, remade, remade,
    get?_filterMapValues, get?_filterMapValues, get?_filterMapValues]
  cases m.get? k <;> rfl

theorem get?_ofList_eq_some_iff {entries : List (κ × ν)} {k : κ} {v : ν} :
    (ofList entries).get? k = some v ↔
      ∃ before after, entries = before ++ (k, v) :: after ∧ ∀ e ∈ after, e.1 ≠ k := by
  rw [get?_ofList, find?_reverse_eq_some_iff]

end ReportSheets.SortedMap
