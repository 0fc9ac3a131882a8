import Mathlib.Data.List.Dedup
import Mathlib.Data.List.Induction
import ReportSheets.Form.Registry

namespace ReportSheets

namespace Registry

variable {registry : Registry} {field : Field} {name : String}

def names (registry : Registry) : List String := registry.fields.map (·.name)

theorem ofFields_concat (fields : List Field) (field : Field) :
    ofFields (fields ++ [field]) = (ofFields fields).insert field := by
  rw [ofFields, List.foldl_append]
  rfl

theorem get?_insert : (registry.insert field).get? name =
    if field.name = name then some field else registry.get? name := by
  have last : [field].find? (·.name == name) = if field.name = name then some field else none := by
    by_cases same : field.name = name <;> simp [same]
  rw [get?, insert, List.find?_append, last]
  split
  · rename_i same
    have taken : (registry.fields.filter (·.name != field.name)).find? (·.name == name) = none := by
      simp [← same]
    rw [taken, Option.none_or]
  · rename_i different
    have kept : (registry.fields.filter (·.name != field.name)).find? (·.name == name) =
        registry.fields.find? (·.name == name) := by
      rw [List.find?_filter]
      congr 1
      funext other
      by_cases here : other.name = name
      · simp [here, Ne.symm different]
      · simp [here]
    rw [kept, Option.or_none, get?]

theorem mem_names_insert : name ∈ (registry.insert field).names ↔
    name ∈ registry.names ∨ name = field.name := by
  simp only [names, insert, List.map_append, List.mem_append, List.mem_map, List.mem_filter,
    List.map_cons, List.map_nil, List.mem_singleton, bne_iff_ne]
  constructor
  · rintro (⟨other, ⟨member, -⟩, rfl⟩ | rfl)
    · exact .inl ⟨other, member, rfl⟩
    · exact .inr rfl
  · rintro (⟨other, member, rfl⟩ | rfl)
    · by_cases same : other.name = field.name
      · exact .inr same
      · exact .inl ⟨other, ⟨member, same⟩, rfl⟩
    · exact .inr rfl

theorem nodup_names_insert (distinct : registry.names.Nodup) :
    (registry.insert field).names.Nodup := by
  have others : ((registry.fields.filter fun other => other.name != field.name).map
      (·.name)).Nodup := distinct.sublist (List.filter_sublist.map _)
  rw [names, insert, List.map_append, List.nodup_append]
  refine ⟨others, List.nodup_singleton _, ?_⟩
  intro other member name last same
  obtain ⟨kept, among, rfl⟩ := List.mem_map.mp member
  rw [List.map_singleton, List.mem_singleton] at last
  have different := (List.mem_filter.mp among).2
  rw [same, last, bne_self_eq_false] at different
  cases different

theorem get?_ofFields (fields : List Field) (name : String) :
    (ofFields fields).get? name = (fields.filter fun field => field.name = name).getLast? := by
  induction fields using List.reverseRecOn with
  | nil => rfl
  | append_singleton fields field ih =>
    rw [ofFields_concat, get?_insert, List.filter_append, List.filter_singleton]
    by_cases same : field.name = name
    · simp [same]
    · simp [same, ih]

theorem mem_names_ofFields (fields : List Field) :
    name ∈ (ofFields fields).names ↔ name ∈ fields.map (·.name) := by
  induction fields using List.reverseRecOn with
  | nil => exact Iff.rfl
  | append_singleton fields field ih =>
    rw [ofFields_concat, mem_names_insert, ih, List.map_append, List.mem_append,
      List.map_singleton, List.mem_singleton]

theorem nodup_names_ofFields (fields : List Field) : (ofFields fields).names.Nodup := by
  induction fields using List.reverseRecOn with
  | nil => exact List.nodup_nil
  | append_singleton fields field ih =>
    rw [ofFields_concat]
    exact nodup_names_insert ih

theorem size_ofFields (fields : List Field) :
    (ofFields fields).size = (fields.map (·.name)).dedup.length := by
  have same : (ofFields fields).names.Perm (fields.map (·.name)).dedup := by
    rw [List.perm_ext_iff_of_nodup (nodup_names_ofFields fields) (List.nodup_dedup _)]
    intro name
    rw [mem_names_ofFields, List.mem_dedup]
  rw [← same.length_eq, names, List.length_map]
  rfl

end Registry

namespace RegistryCache

variable {σ : Type} {source : FieldSource σ} {cache : RegistryCache} {formFile : String}
  {registry : Registry} {fields : List Field} {state after : σ} {e : Error}

theorem getOrLoad_known (known : cache.get? formFile = some registry) :
    cache.getOrLoad source formFile state = (.ok registry, cache, state) := by
  rw [getOrLoad, known]

theorem getOrLoad_failed (unknown : cache.get? formFile = none)
    (failed : source.load formFile state = (.error e, after)) :
    cache.getOrLoad source formFile state = (.error e, cache, after) := by
  rw [getOrLoad, unknown]
  simp only [failed]

def adding (cache : RegistryCache) (formFile : String) (registry : Registry) : RegistryCache :=
  ⟨cache.entries ++ [(formFile, registry)]⟩

theorem getOrLoad_loaded (unknown : cache.get? formFile = none)
    (loaded : source.load formFile state = (.ok fields, after)) :
    cache.getOrLoad source formFile state =
      (.ok (.ofFields fields), cache.adding formFile (.ofFields fields), after) := by
  rw [getOrLoad, unknown]
  simp only [loaded]
  rfl

theorem get?_adding (unknown : cache.get? formFile = none) (other : String) :
    (cache.adding formFile registry).get? other =
      if formFile = other then some registry else cache.get? other := by
  have last : [(formFile, registry)].find? (·.1 == other) =
      if formFile = other then some (formFile, registry) else none := by
    by_cases same : formFile = other <;> simp [same]
  rw [get?, adding, List.find?_append, Option.map_or, last]
  split
  · rename_i same
    subst same
    rw [← get?, unknown]
    rfl
  · exact Option.or_none

structure Requests (σ : Type) where
  answered : List (String × Except Error Registry)
  cache : RegistryCache
  state : σ

namespace Requests

variable {σ : Type} {requests : Requests σ} {formFile : String} {registry : Registry}

def ask (requests : Requests σ) (request : FieldSource σ × String) : Requests σ :=
  match requests.cache.getOrLoad request.1 request.2 requests.state with
  | (answer, cache, state) => ⟨requests.answered ++ [(request.2, answer)], cache, state⟩

def made (asked : List (FieldSource σ × String)) (state : σ) : Requests σ :=
  asked.foldl ask ⟨[], .empty, state⟩

def Settled (requests : Requests σ) : Prop :=
  ∀ formFile registry,
    requests.cache.get? formFile = some registry ↔ (formFile, .ok registry) ∈ requests.answered

theorem Settled.ask (settled : requests.Settled) (request : FieldSource σ × String) :
    (requests.ask request).Settled := by
  obtain ⟨source, formFile⟩ := request
  intro other registry
  cases known : requests.cache.get? formFile with
  | some cached =>
    simp only [Requests.ask, getOrLoad_known known, List.mem_append, List.mem_singleton]
    rw [settled other registry]
    refine ⟨.inl, ?_⟩
    rintro (before | now)
    · exact before
    · cases now
      exact (settled _ _).mp known
  | none =>
    rcases load : source.load formFile requests.state with ⟨answer, after⟩
    cases answer with
    | error e =>
      simp only [Requests.ask, getOrLoad_failed known load, List.mem_append, List.mem_singleton]
      rw [settled other registry]
      simp
    | ok fields =>
      simp only [Requests.ask, getOrLoad_loaded known load, List.mem_append, List.mem_singleton]
      rw [get?_adding known]
      split
      · rename_i same
        subst same
        -- A registry answered before would have been in the cache.
        have fresh : (formFile, .ok registry) ∉ requests.answered := by
          intro before
          rw [(settled _ _).mpr before] at known
          cases known
        simp [fresh, eq_comm]
      · rename_i different
        rw [settled other registry]
        simp [Ne.symm different]

theorem settled_made (asked : List (FieldSource σ × String)) (state : σ) :
    (made asked state).Settled := by
  induction asked using List.reverseRecOn with
  | nil => exact fun formFile registry => iff_of_false nofun List.not_mem_nil
  | append_singleton asked request ih =>
    rw [made, List.foldl_append]
    exact ih.ask request

theorem Settled.unknown_iff (settled : requests.Settled) :
    requests.cache.get? formFile = none ↔
      ∀ registry, (formFile, .ok registry) ∉ requests.answered := by
  constructor
  · intro unknown registry before
    rw [(settled _ _).mpr before] at unknown
    cases unknown
  · intro never
    cases known : requests.cache.get? formFile with
    | none => rfl
    | some registry => exact absurd ((settled _ _).mp known) (never registry)

end Requests

end RegistryCache

end ReportSheets
