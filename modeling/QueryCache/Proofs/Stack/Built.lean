import QueryCache.Profile
import QueryCache.Proofs.Stack.Contents

/-!
# Stacks before their first use

A stack is laid from setups, outermost first: each says of which kind a layer is and how it is
configured. The stack of a profile is one of these; nothing is in it, its name is the one it was
built with, and all its layers pass their calls on.
-/

namespace QueryCache

/-- A layer before its first use. -/
inductive Setup where
  | lru (capacity : Capacity)
  | fifo (size : Nat)
  | weak (hardLinks : Nat)
  | logging
  | blocking (timeout : Option Duration)

namespace Setup

/-- The kind of the layer. -/
def layer : Setup → Layer
  | lru _ => .lru
  | fifo _ => .fifo
  | weak _ => .weak
  | logging => .logging
  | blocking _ => .blocking

/-- The state in which the layer begins. -/
def own : (x : Setup) → x.layer.Own
  | lru capacity => ({ capacity } : Lru)
  | fifo size => ({ size } : Fifo)
  | weak hardLinks => ({ hardLinks } : Weak)
  | logging => ({} : Tally)
  | blocking timeout => Blocking.withTimeout timeout

/-- The capacity of the layer, if it evicts. -/
def capacity? : Setup → Option Nat
  | lru capacity => some capacity.size
  | fifo size => some size
  | weak _ | logging | blocking _ => none

/-- The kinds of several layers. -/
def layers (xs : List Setup) : List Layer := xs.map layer

/-- No setup is that of a layer which answers in place of the layers inside. -/
theorem probe_not_mem_layers (xs : List Setup) : .probe ∉ layers xs := by
  intro h
  obtain ⟨x, _, hx⟩ := List.mem_map.mp h
  cases x <;> exact nomatch hx

end Setup

/-- A stack before its first use. -/
def Stack.laid (name : String) : (xs : List Setup) → State (Setup.layers xs)
  | [] => ({ name } : Store)
  | x :: xs => (⟨x.own, laid name xs⟩ : Over x.layer.Own (State (Setup.layers xs)))

namespace Profile

variable (p : Profile) (name : String)

/-- No profile asks for a layer that answers in place of the layers inside. -/
theorem no_probe : .probe ∉ (p.build name).layers := by
  unfold build evicting
  cases p.eviction <;> cases p.logging <;> cases p.blocking <;> simp [Stack.push, Stack.ofStore]

/-- A built stack has its name. -/
theorem id_build : (Stack.cache (p.build name).layers).id (p.build name).state = name := by
  unfold build evicting
  cases p.eviction <;> cases p.logging <;> cases p.blocking <;> rfl

/-- A built stack has nothing in its store. -/
theorem store_build : Stack.store (p.build name).layers (p.build name).state = { name } := by
  unfold build evicting
  cases p.eviction <;> cases p.logging <;> cases p.blocking <;> rfl

/-- A built stack has no rows. -/
theorem not_has_build (k : Key) (r : RowList) :
    ¬ Stack.has (p.build name).layers (p.build name).state k r := by
  rw [Stack.has, store_build]
  rintro ⟨e, he, _⟩
  rw [Table.get?_empty] at he
  exact nomatch he

end Profile

end QueryCache
