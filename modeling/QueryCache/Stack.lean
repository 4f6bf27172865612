import QueryCache.Layer.Store
import QueryCache.Layer.Lru
import QueryCache.Layer.Fifo
import QueryCache.Layer.Weak
import QueryCache.Layer.Logging
import QueryCache.Layer.Blocking
import QueryCache.Layer.Probe

/-!
# Stacks of layers

A shared cache is a store under any number of layers in any order. The kinds of the layers
determine the type of the state and the capability over it, both by recursion on the list of
kinds, outermost first.
-/

namespace QueryCache

/-- The kinds of layers. -/
inductive Layer where
  | lru
  | fifo
  | weak
  | logging
  | blocking
  | probe
  deriving DecidableEq, Inhabited

namespace Layer

/-- The state that a layer of a kind keeps for itself. -/
def Own : Layer → Type
  | lru => Lru
  | fifo => Fifo
  | weak => Weak
  | logging => Tally
  | blocking => Blocking
  | probe => Probe

/-- A layer of a kind over a cache. -/
def cache {σ : Type} : (l : Layer) → Cache σ → Cache (Over l.Own σ)
  | lru => Lru.cache
  | fifo => Fifo.cache
  | weak => Weak.cache
  | logging => Logging.cache
  | blocking => Blocking.cache
  | probe => Probe.cache

/-- Whether a layer itself keeps a row list alive. -/
def held : (l : Layer) → l.Own → RowsId → Bool
  | weak => Weak.pins
  | lru | fifo | logging | blocking | probe => fun _ _ => false

/-- Let go of the row lists that a layer itself keeps alive. -/
def release : (l : Layer) → l.Own → l.Own
  | weak => Weak.release
  | lru | fifo | logging | blocking | probe => id

/-- The written form of a layer's state, given that of the cache inside. -/
def describe : (l : Layer) → l.Own → String → String
  | lru => Lru.describe
  | fifo => Fifo.describe
  | weak => Weak.describe
  | logging => Logging.describe
  | blocking => Blocking.describe
  | probe => fun _ inner => inner

end Layer

namespace Stack

/-- The state of a stack. -/
def State : List Layer → Type
  | [] => Store
  | l :: ls => Over l.Own (State ls)

/-- A stack as a cache. -/
def cache : (ls : List Layer) → Cache (State ls)
  | [] => Store.cache
  | l :: ls => l.cache (cache ls)

/-- What is left of a stack without its outermost layers, as a cache on the whole state. -/
def cacheBelow : (ls : List Layer) → Nat → Cache (State ls)
  | ls, 0 => cache ls
  | [], _ + 1 => cache []
  | l :: ls, depth + 1 => (cacheBelow ls depth).within (Over.part l.held)

/-- The written form of a stack's state without its outermost layers. -/
def describeBelow : (ls : List Layer) → State ls → Nat → String
  | [], s, _ => Store.describe s
  | l :: ls, s, 0 => l.describe s.own (describeBelow ls s.inner 0)
  | _ :: ls, s, depth + 1 => describeBelow ls s.inner depth

/-- The kind and state of the layer at a depth. -/
def layer? : (ls : List Layer) → State ls → Nat → Option ((l : Layer) × l.Own)
  | [], _, _ => none
  | l :: _, s, 0 => some ⟨l, s.own⟩
  | _ :: ls, s, depth + 1 => layer? ls s.inner depth

/-- Change the state of the layer at a depth. -/
def modifyLayer (f : (l : Layer) → l.Own → l.Own) :
    (ls : List Layer) → State ls → Nat → State ls
  | [], s, _ => s
  | l :: _, s, 0 => { s with own := f l s.own }
  | _ :: ls, s, depth + 1 => { s with inner := modifyLayer f ls s.inner depth }

/-- The innermost store. -/
def store : (ls : List Layer) → State ls → Store
  | [], s => s
  | _ :: ls, s => store ls s.inner

/-- Let the outermost layers, as many as the number says, let go of their row lists. -/
def releaseAbove : (ls : List Layer) → State ls → Nat → State ls
  | [], s, _ => s
  | _ :: _, s, 0 => s
  | l :: ls, s, depth + 1 => ⟨l.release s.own, releaseAbove ls s.inner depth⟩

/-- Change the capacity of the layer at a depth, if it is one with a capacity to change. -/
def setCapacity (c : Caller) (n : Capacity) :
    (ls : List Layer) → State ls → Nat → Reply (State ls) (Except CacheFailure Unit)
  | [], s, _ => ⟨.ok (), s, []⟩
  | .lru :: ls, s, 0 => Lru.setCapacity (cache ls) c n s
  | _ :: _, s, 0 => ⟨.ok (), s, []⟩
  | l :: ls, s, depth + 1 =>
    (Over.part l.held : Part (State (l :: ls)) (State ls)).reply c s fun c i =>
      setCapacity c n ls i depth

end Stack

/-- A stack with its state. -/
structure Stack where
  layers : List Layer
  state : Stack.State layers

namespace Stack

/-- A bare store. -/
def ofStore (name : String) : Stack := ⟨[], { name }⟩

/-- Add a layer on the outside. -/
def push (s : Stack) (l : Layer) (own : l.Own) : Stack := ⟨l :: s.layers, ⟨own, s.state⟩⟩

/-- Answer an operation on the state as one on the stack. -/
def lift {α : Type} (s : Stack) (r : Reply (State s.layers) α) : Reply Stack α :=
  ⟨r.value, ⟨s.layers, r.state⟩, r.notes⟩

/-- The state of a stack as a part, for stacks of the given layers. -/
def part (ls : List Layer) (fallback : State ls) : Part Stack (State ls) where
  view s := if h : s.layers = ls then h ▸ s.state else fallback
  place i _ := ⟨ls, i⟩

/-- Stacks as caches: the stack without its outermost layers answers. -/
def below (depth : Nat) : Cache Stack where
  id s := (cacheBelow s.layers depth).id s.state
  size c s := s.lift ((cacheBelow s.layers depth).size c s.state)
  put c k e s := s.lift ((cacheBelow s.layers depth).put c k e s.state)
  get c k s := ((cacheBelow s.layers depth).get c k s.state).within (part s.layers s.state) s
  remove c k s := s.lift ((cacheBelow s.layers depth).remove c k s.state)
  clear c s := s.lift ((cacheBelow s.layers depth).clear c s.state)
  holds s id := (cacheBelow s.layers depth).holds s.state id

/-- Whether any layer or the store keeps a row list alive. -/
def holds (s : Stack) (id : RowsId) : Bool := (cache s.layers).holds s.state id

/-- A stack whose outermost layers are used no more, as many as the number says. -/
def release (s : Stack) (depth : Nat) : Stack := ⟨s.layers, releaseAbove s.layers s.state depth⟩

/-- The written form of a stack without its outermost layers. -/
def describe (s : Stack) (depth : Nat) : String := describeBelow s.layers s.state depth

end Stack

end QueryCache
