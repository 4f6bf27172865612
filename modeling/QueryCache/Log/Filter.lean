import QueryCache.Log.Pattern
import QueryCache.Text.Count

/-!
# Log filters

A filter is a list of directives between commas. A directive sets how much is logged: by
everyone, by the targets whose names begin in a certain way, inside certain spans, or for
records with certain fields. Of the directives that concern a record the most specific
decides, and of two that are equally specific the later.
-/

namespace QueryCache.Log

/-- How much is logged. -/
inductive Verbosity where
  | off
  | error
  | warn
  | info
  | debug
  | trace
  deriving DecidableEq, Inhabited

namespace Verbosity

/-- The place in the order from `off` to `trace`. -/
def rank : Verbosity → Nat
  | off => 0
  | error => 1
  | warn => 2
  | info => 3
  | debug => 4
  | trace => 5

/-- All degrees, in ascending order. -/
def all : List Verbosity := [off, error, warn, info, debug, trace]

/-- The name in filters. -/
def name : Verbosity → String
  | off => "off"
  | error => "error"
  | warn => "warn"
  | info => "info"
  | debug => "debug"
  | trace => "trace"

/-- Read a name, in any letter case, or a rank. -/
def parse? (s : String) : Option Verbosity :=
  match (Text.count? s).bind (all[·]?) with
  | some v => some v
  | none => all.find? fun v => s.toLower = v.name

/-- Every degree has its rank as its place in the list of all. -/
theorem all_get_rank (v : Verbosity) : all[v.rank]? = some v := by
  cases v <;> rfl

end Verbosity

/-- A field that a record or span has to have, perhaps with a value. The value is a number or
a pattern. -/
structure FieldMatch where
  name : String
  value : Option String := none
  deriving DecidableEq

/-- One rule of a filter. -/
structure Directive where
  target : Option String := none
  span : Option String := none
  fields : List FieldMatch := []
  level : Verbosity := .trace
  deriving DecidableEq

namespace Directive

/-- How far the reading of a directive has come, with the place where the current part
began. -/
private inductive Stage where
  | start
  | word (first : Nat)
  | span (first : Nat)
  | field (first : Nat)
  | fields
  | target
  | level (first : Nat)

/-- Split a text at a place that is counted in bytes. -/
private def splitBytes : Nat → List Char → List Char × List Char
  | n + 1, c :: cs =>
    let (before, after) := splitBytes (n + 1 - c.utf8Size) cs
    (c :: before, after)
  | _, cs => ([], cs)

private def cut (cs : List Char) (first last : Nat) : String :=
  String.ofList (splitBytes (last - first) (splitBytes first cs).2).1

private def fieldMatch? (s : String) : Option FieldMatch :=
  let (name, rest) := s.toList.span (· ≠ '=')
  let value := String.ofList ((rest.drop 1).takeWhile (· ≠ '='))
  if rest.isEmpty then some { name := String.ofList name }
  else if Text.isNumber value.toList || isPattern value then
    some { name := String.ofList name, value }
  else none

private def opensWord (c : Char) : Bool :=
  c = '-' || c = ':' || c = '_' || Text.inRanges Text.wordRanges c.toNat

private def step (cs : List Char) (i : Nat) (c : Char) (d : Directive) :
    Stage → Option (Directive × Stage)
  | .start =>
    if c = '[' then some (d, .span (i + 1))
    else if opensWord c then some (d, .word i)
    else none
  | .word first =>
    if c = '=' then some ({ d with target := cut cs first i }, .level (i + 1))
    else if c = '[' then some ({ d with target := cut cs first i }, .span (i + 1))
    else some (d, .word first)
  | .span first =>
    let name := cut cs first i
    if c = ']' then some ({ d with span := name }, .target)
    else if c = '\x7b' then
      some ({ d with span := if name = "" then none else some name }, .field (i + 1))
    else some (d, .span first)
  | .field first =>
    let text := cut cs first i
    if c ≠ '\x7d' then some (d, .field first)
    else if text = "" then none
    else (fieldMatch? text).map fun f => ({ d with fields := d.fields ++ [f] }, .fields)
  | .fields => if c = ']' then some (d, .target) else none
  | .target => if c = '=' then some (d, .level (i + 1)) else none
  | .level first => some (d, .level first)

private def rest (cs : List Char) (first : Nat) : String := String.ofList (splitBytes first cs).2

private def finish (cs : List Char) (d : Directive) : Stage → Option Directive
  | .word first =>
    let word := rest cs first
    match Verbosity.parse? word with
    | some v => some { d with level := v }
    | none => some { d with target := if word = "" then none else some word }
  | .level first =>
    let word := rest cs first
    if word = "" then some d else (Verbosity.parse? word).map fun v => { d with level := v }
  | .target => some d
  | _ => none

private def scan (cs : List Char) : Nat → List Char → Directive → Stage → Option Directive
  | _, [], d, s => finish cs d s
  | i, c :: after, d, s => do
    let (d, s) ← step cs i c d s
    scan cs (i + c.utf8Size) after d s

/-- Read a directive. Blanks at its ends are not looked at, but places are counted in bytes
without those in front, and parts are taken with them; so a directive between blanks does not
say what it seems to. -/
def parse? (s : String) : Option Directive :=
  scan s.toList 0 (Text.trim s).toList {} .start

/-- Whether the directive does not depend on the span in which a record is made. -/
def isGlobal (d : Directive) : Bool := d.span.isNone && d.fields.all (·.value.isNone)

/-- Whether the directive concerns the records of a target with certain fields. -/
def concerns (d : Directive) (target : String) (fields : List String) : Bool :=
  d.target.all (·.isPrefixOf target) && d.fields.all fun f => fields.contains f.name

/-- Whether a directive is at least as specific as another one: first by its target, then by
the number of its fields, then by their names. -/
def isAsSpecific (d e : Directive) : Bool :=
  let weight (x : Directive) : Nat := (x.target.map fun t => t.utf8ByteSize + 1).getD 0
  let names (x : Directive) : List String := x.fields.map (·.name)
  if weight d ≠ weight e then weight e < weight d
  else if d.fields.length ≠ e.fields.length then e.fields.length < d.fields.length
  else !(decide (names d < names e))

end Directive

/-- The directives of a filter. -/
structure Filter where
  directives : List Directive := []

namespace Filter

private def parts (s : String) : List String := (s.splitOn ",").filter (· ≠ "")

/-- A filter without any directive lets errors through. -/
private def ofDirectives (ds : List Directive) : Filter :=
  if ds.isEmpty then ⟨[{ level := .error }]⟩ else ⟨ds⟩

/-- Read a filter all of whose directives can be read. -/
def parse? (s : String) : Option Filter := (parts s).mapM Directive.parse? |>.map ofDirectives

/-- Read a filter, leaving out the directives that cannot be read. -/
def parseSome (s : String) : Filter := ofDirectives ((parts s).filterMap Directive.parse?)

/-- The directive that decides about a record made outside all spans. -/
def deciding? (f : Filter) (target : String) (fields : List String) : Option Directive :=
  (f.directives.filter fun d => d.isGlobal && d.concerns target fields).foldl
    (fun best d =>
      match best with
      | none => some d
      | some b => if d.isAsSpecific b then some d else some b)
    none

/-- Whether a record made outside all spans is logged. -/
def admits (f : Filter) (v : Verbosity) (target : String) (fields : List String) : Bool :=
  (f.deciding? target fields).any fun d => v.rank ≤ d.level.rank

end Filter

end QueryCache.Log
