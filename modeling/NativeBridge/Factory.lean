import NativeBridge.Binding

/-!
Generating binding types on demand, once per interface and configuration.

A factory keeps the types it generated under the interface and configuration
they were generated for, each with the number it was given when generated, so
that two requests for the same key receive the same type. Clearing the cache,
or changing the stages, forgets them; the next request generates a new type with
a new number.
-/

namespace NativeBridge

/-- A factory: its stages, its registry, the types generated so far and the
number of the next one. -/
structure Factory (σ ε : Type) where
  stages : List Stage := Stage.standard
  registry : Registry σ ε := Registry.withDefaults
  cache : List ((InterfaceDecl × BindingConfig) × Nat × BindingType) := []
  generated : Nat := 0

namespace Factory

def input (f : Factory σ ε) (config : BindingConfig) : GenerationInput :=
  ⟨config, fun k => (f.registry.get? k).map (·.lowered)⟩

def generate (f : Factory σ ε) (d : InterfaceDecl) (config : BindingConfig) :
    Except Error ((Nat × BindingType) × Factory σ ε) :=
  match f.cache.lookup (d, config) with
  | some entry => .ok (entry, f)
  | none => do
    let t ← BindingType.generate f.stages (f.input config) d
    let entry := (f.generated, t)
    pure (entry, { f with cache := f.cache ++ [((d, config), entry)], generated := f.generated + 1 })

def cachedTypes (f : Factory σ ε) : Nat := f.cache.length

def clearCache (f : Factory σ ε) : Factory σ ε := { f with cache := [] }

def withPipeline (f : Factory σ ε) (stages : List Stage) : Factory σ ε := { f with stages, cache := [] }

end Factory

end NativeBridge
