import ReportSheets.Form.Field

namespace ReportSheets

structure Registry where
  fields : List Field
deriving DecidableEq

namespace Registry

def empty : Registry := ⟨[]⟩

/-- The field takes the place of an earlier one of the same name. -/
def insert (registry : Registry) (field : Field) : Registry :=
  ⟨registry.fields.filter (fun other => other.name != field.name) ++ [field]⟩

def ofFields (fields : List Field) : Registry := fields.foldl insert empty

def get? (registry : Registry) (name : String) : Option Field :=
  registry.fields.find? fun field => field.name == name

def size (registry : Registry) : Nat := registry.fields.length

def byName (registry : Registry) : List Field :=
  registry.fields.mergeSort fun a b => !decide (b.name < a.name)

end Registry

/-- Where the fields of a form come from. Asking may change the state, so that the answers for one
form may differ from time to time. -/
structure FieldSource (σ : Type) where
  load : String → σ → Except Error (List Field) × σ

structure RegistryCache where
  entries : List (String × Registry)

namespace RegistryCache

def empty : RegistryCache := ⟨[]⟩

def get? (cache : RegistryCache) (formFile : String) : Option Registry :=
  (cache.entries.find? fun entry => entry.1 == formFile).map (·.2)

def contains (cache : RegistryCache) (formFile : String) : Bool := (cache.get? formFile).isSome

def size (cache : RegistryCache) : Nat := cache.entries.length

def getOrLoad {σ : Type} (source : FieldSource σ) (formFile : String) (cache : RegistryCache)
    (state : σ) : Except Error Registry × RegistryCache × σ :=
  match cache.get? formFile with
  | some registry => (.ok registry, cache, state)
  | none =>
    match source.load formFile state with
    | (.error e, state) => (.error e, cache, state)
    | (.ok fields, state) =>
      let registry := Registry.ofFields fields
      (.ok registry, ⟨cache.entries ++ [(formFile, registry)]⟩, state)

end RegistryCache

end ReportSheets
