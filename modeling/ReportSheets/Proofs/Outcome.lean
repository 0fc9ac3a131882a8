import Mathlib.Data.List.Forall2

namespace ReportSheets

variable {α β ε : Type} {f : α → Except ε β}

theorem mapM_eq_ok_iff {items : List α} {results : List β} :
    items.mapM f = .ok results ↔
      List.Forall₂ (fun item result => f item = .ok result) items results := by
  induction items generalizing results with
  | nil =>
    rw [List.mapM_nil, List.forall₂_nil_left_iff]
    show Except.ok [] = Except.ok results ↔ _
    rw [Except.ok.injEq, eq_comm]
  | cons item items ih =>
    rw [List.mapM_cons, List.forall₂_cons_left_iff]
    cases first : f item with
    | error e => simp [bind, Except.bind]
    | ok result =>
      cases later : items.mapM f with
      | error e =>
        have never : ∀ more, ¬ List.Forall₂ (fun item result => f item = .ok result) items more := by
          intro more each
          rw [← ih, later] at each
          cases each
        simp [bind, Except.bind, never]
      | ok more =>
        have only : ∀ others, List.Forall₂ (fun item result => f item = .ok result) items others ↔
            others = more := by
          intro others
          rw [← ih, later, Except.ok.injEq, eq_comm]
        simp [bind, Except.bind, pure, Except.pure, only, eq_comm]

theorem of_mapM_error {items : List α} {e : ε} (failed : items.mapM f = .error e) :
    ∃ item ∈ items, f item = .error e := by
  induction items with
  | nil => cases failed
  | cons item items ih =>
    rw [List.mapM_cons] at failed
    cases first : f item with
    | error e' =>
      rw [first] at failed
      cases failed
      exact ⟨item, List.mem_cons_self, first⟩
    | ok result =>
      cases later : items.mapM f with
      | error e' =>
        rw [first, later] at failed
        cases failed
        obtain ⟨found, member, same⟩ := ih later
        exact ⟨found, List.mem_cons_of_mem item member, same⟩
      | ok more =>
        rw [first, later] at failed
        cases failed

theorem exists_of_mem_right {R : α → β → Prop} {items : List α} {results : List β}
    (each : List.Forall₂ R items results) {result : β} (member : result ∈ results) :
    ∃ item ∈ items, R item result := by
  induction each with
  | nil => cases member
  | @cons item found items results first rest ih =>
    rcases List.mem_cons.mp member with rfl | later
    · exact ⟨item, List.mem_cons_self, first⟩
    · obtain ⟨other, among, related⟩ := ih later
      exact ⟨other, List.mem_cons_of_mem item among, related⟩

theorem imp_of_mem {R S : α → β → Prop} {items : List α} {results : List β}
    (each : List.Forall₂ R items results)
    (imp : ∀ item ∈ items, ∀ result, R item result → S item result) :
    List.Forall₂ S items results :=
  ((List.forall₂_and_left items results).mpr ⟨imp, each⟩).imp
    fun _ result both => both.1 result both.2

theorem forall₂_trans {γ : Type} {R : α → β → Prop} {S : β → γ → Prop} {T : α → γ → Prop}
    {items : List α} {results : List β} {others : List γ} (first : List.Forall₂ R items results)
    (second : List.Forall₂ S results others)
    (both : ∀ {item result other}, R item result → S result other → T item other) :
    List.Forall₂ T items others := by
  induction first generalizing others with
  | nil =>
    cases second
    exact .nil
  | cons related _ ih =>
    cases second with
    | cons next rest => exact .cons (both related next) (ih rest)

theorem mapM_eq_some_iff {f : α → Option β} {items : List α} {results : List β} :
    items.mapM f = some results ↔
      (∀ item ∈ items, (f item).isSome) ∧ items.filterMap f = results := by
  induction items generalizing results with
  | nil => simp
  | cons item items ih =>
    rw [List.mapM_cons, List.forall_mem_cons]
    cases first : f item with
    | none => simp
    | some result =>
      cases later : items.mapM f with
      | none =>
        have never : ¬ ∀ item ∈ items, (f item).isSome := by
          intro each
          have found := ih.mpr ⟨each, rfl⟩
          rw [later] at found
          cases found
        simp [never]
      | some more =>
        obtain ⟨each, same⟩ := ih.mp later
        rw [List.filterMap_cons_some first, same]
        exact ⟨fun found => ⟨⟨rfl, each⟩, Option.some.inj found⟩, fun kept => congrArg some kept.2⟩

theorem mapM_eq_none {f : α → Option β} {items : List α}
    (missing : ¬ ∀ item ∈ items, (f item).isSome) : items.mapM f = none := by
  cases found : items.mapM f with
  | none => rfl
  | some results => exact absurd (mapM_eq_some_iff.mp found).1 missing

theorem mapM_eq_map {γ : Type} {f : α → Option β} {g : β → γ} {h : α → Option γ} (items : List α)
    (each : ∀ item ∈ items, h item = (f item).map g) :
    items.mapM h = (items.mapM f).map (List.map g) := by
  induction items with
  | nil => rfl
  | cons item items ih =>
    rw [List.forall_mem_cons] at each
    rw [List.mapM_cons, List.mapM_cons, each.1, ih each.2]
    cases f item with
    | none => rfl
    | some result => cases items.mapM f <;> rfl

theorem exists_of_map_ok {outcome : Except ε α} {g : α → β} {result : β}
    (done : outcome.map g = .ok result) : ∃ given, outcome = .ok given ∧ g given = result := by
  cases outcome with
  | error e => cases done
  | ok given => exact ⟨given, rfl, Except.ok.inj done⟩

theorem map_eq_ok_iff {outcome : Except ε α} {g : α → β} {result : β} :
    outcome.map g = .ok result ↔ ∃ given, outcome = .ok given ∧ g given = result := by
  constructor
  · exact exists_of_map_ok
  · rintro ⟨given, rfl, rfl⟩
    rfl

theorem of_map_error {outcome : Except ε α} {g : α → β} {e : ε}
    (failed : outcome.map g = .error e) : outcome = .error e := by
  cases outcome with
  | error e' =>
    cases failed
    rfl
  | ok given => cases failed

theorem ok_of_toOption {outcome : Except ε α} {result : α} (done : outcome.toOption = some result) :
    outcome = .ok result := by
  cases outcome with
  | error e => cases done
  | ok given => exact congrArg Except.ok (Option.some.inj done)

theorem of_bind_ok {outcome : Except ε α} {next : α → Except ε β} {result : β}
    (done : outcome.bind next = .ok result) :
    ∃ given, outcome = .ok given ∧ next given = .ok result := by
  cases outcome with
  | error e => cases done
  | ok given => exact ⟨given, rfl, done⟩

theorem of_bind_error {outcome : Except ε α} {next : α → Except ε β} {e : ε}
    (failed : outcome.bind next = .error e) :
    outcome = .error e ∨ ∃ given, outcome = .ok given ∧ next given = .error e := by
  cases outcome with
  | error e' =>
    cases failed
    exact .inl rfl
  | ok given => exact .inr ⟨given, rfl, failed⟩

end ReportSheets
