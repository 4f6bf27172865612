import QueryCache.Stack
import QueryCache.Text.Blank
import QueryCache.Text.Lower

/-!
# Stack profiles

The configured shape of a shared cache: how it evicts, whether it counts hits and whether it
locks keys. `Profile.build` layers a stack accordingly, from the inside out: store,
eviction, hit counting, key locks.
-/

namespace QueryCache

/-- How a shared cache makes room. -/
inductive Eviction where
  | lru
  | fifo
  | weak
  | none
  deriving DecidableEq, Inhabited

namespace Eviction

/-- The name of a policy in configurations. -/
def name : Eviction → String
  | lru => "lru"
  | fifo => "fifo"
  | weak => "weak"
  | none => "none"

/-- The detailed written form. -/
def inspect : Eviction → String
  | lru => "Lru"
  | fifo => "Fifo"
  | weak => "Weak"
  | none => "None"

/-- The wording for a name that is no policy. -/
def unknown (name : String) : String :=
  "Unknown eviction policy '" ++ name ++ "', expected one of: lru, fifo, weak, none"

/-- A policy that bounds the number of entries, for which there has to be room. -/
def NeedsRoom (e : Eviction) : Prop := e = lru ∨ e = fifo

/-- Read a policy, in any letter case and between blanks. A failure keeps the lowered name. -/
def parse (s : String) : Except String Eviction :=
  match Text.lower (Text.trim s) with
  | "lru" => .ok lru
  | "fifo" => .ok fifo
  | "weak" | "soft" => .ok weak
  | "none" | "perpetual" => .ok none
  | other => .error other

/-- A policy reads back from its name. -/
theorem parse_name (e : Eviction) : parse e.name = .ok e := by
  cases e <;> rfl

end Eviction

/-- The shape of a shared cache. The size is the capacity of an evicting layer, or the
number of pinned row lists of a weak one. -/
structure Profile where
  eviction : Eviction := .lru
  size : Nat := 1024
  blocking : Bool := false
  timeout : Option Duration := none
  logging : Bool := true
  deriving DecidableEq, Inhabited

namespace Profile

/-- Whether the eviction policy needs room for an entry and has none. -/
def hasNoRoom (p : Profile) : Bool :=
  (p.eviction = .lru || p.eviction = .fifo) && p.size = 0

/-- A profile has no room just if its policy needs some and its size is zero. -/
theorem hasNoRoom_iff (p : Profile) :
    p.hasNoRoom = true ↔ p.eviction.NeedsRoom ∧ p.size = 0 := by
  simp [hasNoRoom, Eviction.NeedsRoom]

/-- A store with the eviction layer of a profile. -/
def evicting (p : Profile) (name : String) : Stack :=
  let store := Stack.ofStore name
  match p.eviction with
  | .lru => store.push .lru { capacity := .atLeastOne p.size }
  | .fifo => store.push .fifo { size := max p.size 1 }
  | .weak => store.push .weak { hardLinks := p.size }
  | .none => store

/-- The stack of a profile. -/
def build (p : Profile) (name : String) : Stack :=
  let s := p.evicting name
  let s := if p.logging then s.push .logging {} else s
  if p.blocking then s.push .blocking (.withTimeout p.timeout) else s

/-- The detailed written form. -/
def inspect (p : Profile) : String :=
  Text.record "CacheConfig"
    [("eviction", p.eviction.inspect), ("size", toString p.size),
     ("blocking", Text.bool p.blocking),
     ("blocking_timeout", Text.option (p.timeout.map (·.display))),
     ("logging", Text.bool p.logging)]

end Profile

end QueryCache
