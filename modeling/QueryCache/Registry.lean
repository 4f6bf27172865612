import QueryCache.Profile

/-!
# Registries

The shared caches of an application, one per namespace, each built on first use after the
profile of its namespace.
-/

namespace QueryCache

/-- The default profile, the profiles of single namespaces, and the caches built so far. -/
structure Registry where
  standard : Profile := {}
  overrides : Table String Profile := Table.empty
  caches : Table String Stack := Table.empty

namespace Registry

/-- The profile of a namespace. -/
def profileOf (r : Registry) (ns : String) : Profile := (r.overrides.get? ns).getD r.standard

/-- Make sure that a namespace has its cache. -/
def provide (r : Registry) (ns : String) : Reply Registry Unit :=
  if r.caches.contains ns then ⟨(), r, []⟩
  else
    let p := r.profileOf ns
    ⟨(), { r with caches := r.caches.insert ns (p.build ns) },
      [.event (.cacheCreated ns p.eviction.name p.size p.blocking)]⟩

/-- The cache of a namespace, if it has been built. -/
def get? (r : Registry) (ns : String) : Option Stack := r.caches.get? ns

/-- The namespaces with a cache, in ascending order. -/
def namespaces (r : Registry) : List String := r.caches.sorted.map Prod.fst

/-- Whether a cache of the registry keeps a row list alive. -/
def holds (r : Registry) (id : RowsId) : Bool := r.caches.values.any (·.holds id)

/-- The cache of one namespace as a part; a namespace without one stays so. -/
def part (ns : String) (absent : Stack) : Part Registry Stack where
  view r := (r.get? ns).getD absent
  place s r := { r with caches := r.caches.modify ns fun _ => s }
  held r id := r.caches.entries.any fun e => e.1 ≠ ns && e.2.holds id

/-- Clear the caches one after the other; a failure stops. -/
def clearAll (c : Caller) (r : Registry) : Reply Registry (Except CacheFailure Unit) :=
  go r.caches.entries r
where
  go : List (String × Stack) → Registry → Reply Registry (Except CacheFailure Unit)
    | [], r => ⟨.ok (), r, []⟩
    | (ns, s) :: rest, r =>
      ((part ns s).reply c r (Stack.below 0).clear).andThen fun v r =>
        match v with
        | .error f => ⟨.error f, r, []⟩
        | .ok () => go rest r

/-- The written form of the state. -/
def describe (r : Registry) : String :=
  Text.record "CacheRegistry"
    [("default", r.standard.inspect), ("overrides", toString r.overrides.size),
     ("namespaces", Text.list (r.namespaces.map Text.quoted))]

end Registry

end QueryCache
