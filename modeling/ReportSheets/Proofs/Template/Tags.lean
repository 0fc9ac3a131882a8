import ReportSheets.Proofs.Outcome
import ReportSheets.Template.Dimensions

namespace ReportSheets

variable {α β γ ε : Type} {Gives : α → β → Prop} {items : List α} {results : List β}

inductive Gathered (Gives : α → β → Prop) : List α → List β → Prop
  | nil : Gathered Gives [] []
  | gives {item : α} {result : β} {items : List α} {results : List β}
      (given : Gives item result) (more : Gathered Gives items results) :
      Gathered Gives (item :: items) (result :: results)
  | passes {item : α} {items : List α} {results : List β}
      (nothing : ∀ result, ¬ Gives item result) (more : Gathered Gives items results) :
      Gathered Gives (item :: items) results

namespace Gathered

theorem exists_of_mem (gathered : Gathered Gives items results) {result : β}
    (member : result ∈ results) : ∃ item ∈ items, Gives item result := by
  induction gathered with
  | nil => cases member
  | @gives first found items results given more ih =>
    rcases List.mem_cons.mp member with rfl | later
    · exact ⟨first, List.mem_cons_self, given⟩
    · obtain ⟨item, among, gives⟩ := ih later
      exact ⟨item, List.mem_cons_of_mem first among, gives⟩
  | @passes first items results nothing more ih =>
    obtain ⟨item, among, gives⟩ := ih member
    exact ⟨item, List.mem_cons_of_mem first among, gives⟩

theorem mem_of_gives (gathered : Gathered Gives items results)
    (functional : ∀ {item result other}, Gives item result → Gives item other → result = other)
    {item : α} {result : β} (member : item ∈ items) (gives : Gives item result) :
    result ∈ results := by
  induction gathered with
  | nil => cases member
  | @gives first found items results given more ih =>
    rcases List.mem_cons.mp member with rfl | later
    · exact functional given gives ▸ List.mem_cons_self
    · exact List.mem_cons_of_mem found (ih later)
  | @passes first items results nothing more ih =>
    rcases List.mem_cons.mp member with rfl | later
    · exact absurd gives (nothing result)
    · exact ih later

theorem unique {others : List β} (gathered : Gathered Gives items results)
    (functional : ∀ {item result other}, Gives item result → Gives item other → result = other)
    (again : Gathered Gives items others) : results = others := by
  induction gathered generalizing others with
  | nil =>
    cases again
    rfl
  | gives given more ih =>
    cases again with
    | gives given' more' => rw [functional given given', ih more']
    | passes nothing more' => exact absurd given (nothing _)
  | passes nothing more ih =>
    cases again with
    | gives given' more' => exact absurd given' (nothing _)
    | passes nothing' more' => exact ih more'

theorem congr {Gives' : α → β → Prop} (gathered : Gathered Gives items results)
    (same : ∀ item result, Gives item result ↔ Gives' item result) :
    Gathered Gives' items results := by
  have equal : Gives = Gives' := funext fun item => funext fun result => propext (same item result)
  exact equal ▸ gathered

theorem exists_split {before after : List β} {result : β}
    (gathered : Gathered Gives items (before ++ result :: after)) :
    ∃ front item back, items = front ++ item :: back ∧ Gives item result ∧
      Gathered Gives back after := by
  generalize joined : before ++ result :: after = results at gathered
  induction gathered generalizing before with
  | nil => simp at joined
  | @gives first found items results given more ih =>
    cases before with
    | nil =>
      cases joined
      exact ⟨[], first, items, rfl, given, more⟩
    | cons _ before =>
      obtain ⟨-, rest⟩ := List.cons.inj joined
      obtain ⟨front, item, back, rfl, gives, later⟩ := ih rest
      exact ⟨first :: front, item, back, rfl, gives, later⟩
  | @passes first items results nothing more ih =>
    obtain ⟨front, item, back, rfl, gives, later⟩ := ih joined
    exact ⟨first :: front, item, back, rfl, gives, later⟩

theorem split_at_item {front back : List α} {item : α} {result : β}
    (gathered : Gathered Gives (front ++ item :: back) results)
    (functional : ∀ {item result other}, Gives item result → Gives item other → result = other)
    (gives : Gives item result) :
    ∃ before after, results = before ++ result :: after ∧ Gathered Gives back after := by
  induction front generalizing results with
  | nil =>
    cases gathered with
    | gives given more => exact ⟨[], _, by rw [functional given gives, List.nil_append], more⟩
    | passes nothing more => exact absurd gives (nothing result)
  | cons first front ih =>
    cases gathered with
    | @gives _ found _ _ given more =>
      obtain ⟨before, after, rfl, later⟩ := ih more
      exact ⟨found :: before, after, rfl, later⟩
    | passes nothing more => exact ih more

theorem of_forall₂ {f : α → Except ε (Option β)} {g : β → Option γ} {found : List (Option β)}
    (each : List.Forall₂ (fun item result => f item = .ok result) items found) :
    Gathered (fun item made => ∃ result, f item = .ok (some result) ∧ g result = some made) items
      ((found.filterMap id).filterMap g) := by
  induction each with
  | nil => exact .nil
  | @cons item outcome items found done more ih =>
    have only : ∀ {made}, (∃ result, f item = .ok (some result) ∧ g result = some made) →
        outcome.bind g = some made := by
      rintro made ⟨result, gave, makes⟩
      rw [gave, Except.ok.injEq] at done
      rw [← done, Option.bind_some, makes]
    cases outcome with
    | none =>
      refine .passes ?_ ih
      intro made gives
      cases only gives
    | some result =>
      rw [List.filterMap_cons_some (rfl : id (some result) = some result)]
      cases makes : g result with
      | none =>
        rw [List.filterMap_cons_none makes]
        refine .passes ?_ ih
        intro made gives
        have none := only gives
        rw [Option.bind_some, makes] at none
        cases none
      | some made =>
        rw [List.filterMap_cons_some makes]
        exact .gives ⟨result, done, makes⟩ ih

end Gathered

theorem exists_last {p : α → Prop} (some : ∃ item ∈ items, p item) :
    ∃ before item after, items = before ++ item :: after ∧ p item ∧ ∀ later ∈ after, ¬ p later := by
  induction items with
  | nil =>
    obtain ⟨item, member, -⟩ := some
    cases member
  | cons first items ih =>
    by_cases more : ∃ item ∈ items, p item
    · obtain ⟨before, item, after, rfl, holds, last⟩ := ih more
      exact ⟨first :: before, item, after, rfl, holds, last⟩
    · obtain ⟨item, member, holds⟩ := some
      rcases List.mem_cons.mp member with rfl | later
      · exact ⟨[], item, items, rfl, holds, fun later among again => more ⟨later, among, again⟩⟩
      · exact absurd ⟨item, later, holds⟩ more

namespace Xml

variable {name : String} {content value : List Char}

def Carries (name : String) (content value : List Char) : Prop :=
  ∃ before a after, (tagAttributes content).1 = before ++ a :: after ∧
    localName a.name = name.toList ∧ (∀ b ∈ before, localName b.name ≠ name.toList) ∧
    unescape? a.value = some value

structure Lists (element first second : String) (content : List Char) (entry : String × String) :
    Prop where
  tag : elementName content = element.toList
  first : Carries first content entry.1.toList
  second : Carries second content entry.2.toList

theorem attributeWhere_eq_some_iff {p : List Char → Bool} :
    attributeWhere p content = some (some value) ↔
      ∃ before a after, (tagAttributes content).1 = before ++ a :: after ∧ p a.name = true ∧
        (∀ b ∈ before, p b.name = false) ∧ a.value = value := by
  have first : attributeWhere p content = some (some value) ↔
      ∃ a, (tagAttributes content).1.find? (fun a => p a.name) = some a ∧ a.value = value := by
    simp only [attributeWhere]
    cases (tagAttributes content).1.find? fun a => p a.name with
    | none => cases (tagAttributes content).2 <;> simp
    | some a => simp
  rw [first]
  constructor
  · rintro ⟨a, found, same⟩
    obtain ⟨named, before, after, split, earlier⟩ := List.find?_eq_some_iff_append.mp found
    exact ⟨before, a, after, split, named, by simpa using earlier, same⟩
  · rintro ⟨before, a, after, split, named, earlier, same⟩
    refine ⟨a, List.find?_eq_some_iff_append.mpr ⟨named, before, after, split, ?_⟩, same⟩
    simpa using earlier

end Xml

namespace Package

open Xml

variable {name : String} {content value : List Char}

theorem attribute?_eq_some_iff :
    attribute? name content = .ok (some value) ↔ Carries name content value := by
  have read : attribute? name content = .ok (some value) ↔
      ∃ raw, attributeWhere (fun full => localName full == name.toList) content =
        some (some raw) ∧ unescape? raw = some value := by
    unfold attribute?
    rcases attributeWhere (fun full => localName full == name.toList) content with _ | (_ | raw)
    · simp
    · simp
    · cases resolved : unescape? raw <;> simp [resolved]
  rw [read]
  constructor
  · rintro ⟨raw, found, resolved⟩
    obtain ⟨before, a, after, split, named, earlier, rfl⟩ := attributeWhere_eq_some_iff.1 found
    exact ⟨before, a, after, split, by simpa using named, by simpa using earlier, resolved⟩
  · rintro ⟨before, a, after, split, named, earlier, resolved⟩
    have found : attributeWhere (fun full => localName full == name.toList) content =
        some (some a.value) :=
      attributeWhere_eq_some_iff.2 ⟨before, a, after, split, by simpa using named,
        by simpa using earlier, rfl⟩
    exact ⟨a.value, found, resolved⟩

theorem carries_unique {other : List Char} (carries : Carries name content value)
    (again : Carries name content other) : value = other := by
  rw [← attribute?_eq_some_iff] at carries again
  rw [carries] at again
  cases again
  rfl

theorem lists_unique {element first second : String} {entry other : String × String}
    (lists : Lists element first second content entry)
    (again : Lists element first second content other) : entry = other := by
  have left := carries_unique lists.first again.first
  have right := carries_unique lists.second again.second
  exact Prod.ext (String.toList_inj.mp left) (String.toList_inj.mp right)

theorem both?_eq_some_iff {first second : String} {entry : String × String} :
    both? first second content = .ok (some entry) ↔
      Carries first content entry.1.toList ∧ Carries second content entry.2.toList := by
  rw [← attribute?_eq_some_iff, ← attribute?_eq_some_iff]
  unfold both?
  rcases attribute? first content with e | (_ | a)
  · simp [bind, Except.bind]
  · rcases attribute? second content with e | (_ | b) <;>
      simp [bind, Except.bind, pure, Except.pure]
  · rcases attribute? second content with e | (_ | b)
    · simp [bind, Except.bind]
    · simp [bind, Except.bind, pure, Except.pure]
    · simp only [bind, Except.bind, pure, Except.pure, Except.ok.injEq, Option.some.injEq]
      rw [← String.toList_ofList (l := a), ← String.toList_ofList (l := b)]
      simp only [String.toList_inj, Prod.ext_iff, String.ofList_toList]

theorem gathered_of_gather {α : Type} {f : List Char → Except Error (Option α)}
    {tags : List (List Char)} {found : List α} (done : gather name f tags = .ok found) :
    Gathered (fun content result => elementName content = name.toList ∧
      f content = .ok (some result)) tags found := by
  induction tags generalizing found with
  | nil =>
    cases done
    exact .nil
  | cons content tags ih =>
    rw [gather] at done
    split at done
    · rename_i named
      obtain ⟨outcome, gave, done⟩ := of_bind_ok done
      obtain ⟨more, later, done⟩ := of_bind_ok done
      cases done
      cases outcome with
      | none =>
        refine .passes ?_ (ih later)
        rintro result ⟨-, other⟩
        rw [gave] at other
        cases other
      | some result => exact .gives ⟨named, gave⟩ (ih later)
    · rename_i other
      exact .passes (fun result given => other given.1) (ih done)

theorem gathered_lists {element first second : String} {tags : List (List Char)}
    {entries : List (String × String)}
    (done : gather element (both? first second) tags = .ok entries) :
    Gathered (Lists element first second) tags entries := by
  refine (gathered_of_gather done).congr fun content entry => ?_
  rw [both?_eq_some_iff]
  constructor
  · rintro ⟨tag, left, right⟩
    exact ⟨tag, left, right⟩
  · intro lists
    exact ⟨lists.tag, lists.first, lists.second⟩

theorem gathered_of_sheetRelations {workbook : String} {entries : List (String × String)}
    (done : sheetRelations workbook = .ok entries) :
    Gathered (Lists "sheet" "name" "id") (openings workbook.toList).1 entries := by
  unfold sheetRelations at done
  generalize openings workbook.toList = opened at done ⊢
  obtain ⟨tags, broken⟩ := opened
  obtain ⟨found, gathers, done⟩ := of_bind_ok done
  cases broken <;> cases done
  exact gathered_lists gathers

theorem gathered_of_relationTargets {relationships : String} {entries : List (String × String)}
    (done : relationTargets relationships = .ok entries) :
    Gathered (Lists "Relationship" "Id" "Target") (openings relationships.toList).1 entries := by
  unfold relationTargets at done
  generalize openings relationships.toList = opened at done ⊢
  obtain ⟨tags, broken⟩ := opened
  obtain ⟨found, gathers, done⟩ := of_bind_ok done
  cases broken <;> cases done
  exact gathered_lists gathers

end Package

end ReportSheets
