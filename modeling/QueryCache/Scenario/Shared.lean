import QueryCache.Registry
import QueryCache.Staging.Pending

/-!
# The shared caches of a scenario

All shared caches by number: stacks that were built one by one, registries with their own
stacks, and staged work in front of another cache. A reference names a cache, or what is
left of a stack without its outermost layers. Row lists that one cache keeps are alive for
all the others.
-/

namespace QueryCache.Scenario

/-- A reference to a shared cache. -/
inductive Ref where
  | stack (index depth : Nat)
  | registered (index : Nat) (ns : String)
  | staged (index : Nat) (target : Ref)
  deriving DecidableEq

/-- The shared caches. -/
structure Shared where
  standalone : List Stack := []
  registries : List Registry := []
  pendings : List Pending := []

/-- What a reference leads to: the cache itself, and the one that staged work stands before. -/
def Ref.reach : Ref → List Ref
  | .staged i target => .staged i target :: target.reach
  | r => [r]

/-- Whether an item of a list other than the one at a position has a property. -/
def anyExcept {α : Type} (f : α → Bool) : List α → Nat → Bool
  | [], _ => false
  | _ :: rest, 0 => rest.any f
  | a :: rest, i + 1 => f a || anyExcept f rest i

namespace Shared

private def absent : Stack := Stack.ofStore ""

/-- Whether any shared cache keeps a row list alive. -/
def holds (s : Shared) (id : RowsId) : Bool :=
  s.standalone.any (·.holds id) || s.registries.any (·.holds id) || s.pendings.any (·.holds id)

private def stackPart (i : Nat) : Part Shared Stack where
  view s := (s.standalone[i]?).getD absent
  place t s := { s with standalone := s.standalone.set i t }
  held s id :=
    anyExcept (·.holds id) s.standalone i || s.registries.any (·.holds id)
      || s.pendings.any (·.holds id)

private def registryPart (i : Nat) : Part Shared Registry where
  view s := (s.registries[i]?).getD {}
  place r s := { s with registries := s.registries.set i r }
  held s id :=
    s.standalone.any (·.holds id) || anyExcept (·.holds id) s.registries i
      || s.pendings.any (·.holds id)

private def pendingPart (i : Nat) : Part Shared (Over Pending Shared) where
  view s := ⟨(s.pendings[i]?).getD {}, { s with pendings := s.pendings.set i {} }⟩
  place t _ := { t.inner with pendings := t.inner.pendings.set i t.own }

/-- The cache behind a reference. -/
def cache : Ref → Cache Shared
  | .stack i depth => (Stack.below depth).within (stackPart i)
  | .registered i ns => ((Stack.below 0).within (Registry.part ns absent)).within (registryPart i)
  | .staged i target => (Pending.cache (cache target)).within (pendingPart i)

/-- The name that the cache behind a reference reports. -/
def name (s : Shared) (r : Ref) : String := (cache r).id s

/-- The stack behind a reference and the layers to leave out. -/
def stack? (s : Shared) : Ref → Option (Stack × Nat)
  | .stack i depth => (s.standalone[i]?).map fun t => (t, depth)
  | .registered i ns => ((s.registries[i]?).bind (·.get? ns)).map fun t => (t, 0)
  | .staged .. => none

/-- The staged work behind a reference. -/
def pending? (s : Shared) : Ref → Option Pending
  | .staged i _ => s.pendings[i]?
  | _ => none

/-- Change the layer at the top of what a reference names. -/
def modifyLayer (s : Shared) (f : (l : Layer) → l.Own → l.Own) : Ref → Shared
  | .stack i depth =>
    { s with standalone := s.standalone.modify i fun t =>
        ⟨t.layers, Stack.modifyLayer f t.layers t.state depth⟩ }
  | .registered i ns =>
    { s with registries := s.registries.modify i fun r =>
        { r with caches := r.caches.modify ns fun t =>
            ⟨t.layers, Stack.modifyLayer f t.layers t.state 0⟩ } }
  | .staged .. => s

/-- Change the capacity of the layer at the top of what a reference names. -/
def setCapacity (c : Caller) (n : Capacity) (s : Shared) :
    Ref → Reply Shared (Except CacheFailure Unit)
  | .stack i depth =>
    (stackPart i).reply c s fun c t =>
      t.lift (Stack.setCapacity c n t.layers t.state depth)
  | .registered i ns =>
    (registryPart i).reply c s fun c r =>
      (Registry.part ns absent).reply c r fun c t =>
        t.lift (Stack.setCapacity c n t.layers t.state 0)
  | .staged .. => ⟨.ok (), s, []⟩

/-- Commit the staged work behind a reference. -/
def commit (c : Caller) (s : Shared) : Ref → Reply Shared (Except CacheFailure Unit)
  | .staged i target => (pendingPart i).reply c s (Pending.commit (cache target))
  | _ => ⟨.ok (), s, []⟩

/-- Roll the staged work behind a reference back. -/
def rollback (c : Caller) (s : Shared) : Ref → Reply Shared Unit
  | .staged i target => (pendingPart i).reply c s (Pending.rollback (cache target))
  | _ => ⟨(), s, []⟩

/-- Work on one registry. -/
def onRegistry {α : Type} (i : Nat) (c : Caller) (s : Shared)
    (f : Caller → Registry → Reply Registry α) : Reply Shared α :=
  (registryPart i).reply c s f

/-- The caches to which references lead. Of a stack those layers are left that a reference
still reaches; a stack, a registered cache or staged work without a reference is emptied. A
registry that is in use keeps all its caches. -/
def restrict (s : Shared) (refs : List Ref) (usesRegistry : Nat → Bool) : Shared :=
  let refs := refs.flatMap Ref.reach
  let depths (i : Nat) : List Nat := refs.filterMap fun
    | .stack j depth => if i = j then some depth else none
    | _ => none
  let usesNamespace (i : Nat) (ns : String) : Bool := refs.contains (.registered i ns)
  let usesPending (i : Nat) : Bool := refs.any fun
    | .staged j _ => i = j
    | _ => false
  { standalone := s.standalone.mapIdx fun i t =>
      match (depths i).min? with
      | some depth => t.release depth
      | none => absent
    registries := s.registries.mapIdx fun i r =>
      if usesRegistry i then r
      else { r with caches := ⟨r.caches.entries.filter fun e => usesNamespace i e.1⟩ }
    pendings := s.pendings.mapIdx fun i p => if usesPending i then p else {} }

/-- The written form of the state of the cache behind a reference. -/
def describe (s : Shared) (r : Ref) : String :=
  match r with
  | .staged i target => ((s.pendings[i]?).getD {}).describe (s.name target)
  | r =>
    match s.stack? r with
    | some (t, depth) => t.describe depth
    | none => ""

end Shared

end QueryCache.Scenario
