import QueryCache.Config.File
import QueryCache.Text.Count

/-!
# Environment variables

The variables that override a configuration file. A variable that does not hold text counts
as unset, and so does a number that cannot be read. A switch is on for `true`, `1`, `yes` and
`on` in any letter case, and off for everything else.
-/

namespace QueryCache.Config

/-- The bytes that environment variables hold. -/
structure Variables where
  bytes : Table String (List UInt8) := Table.empty

namespace Variables

/-- The text of a variable. -/
def text? (v : Variables) (name : String) : Option String :=
  (v.bytes.get? name).bind fun bs => String.fromUTF8? ⟨bs.toArray⟩

/-- Whether a switch is on. -/
def isOn (s : String) : Bool := ["true", "1", "yes", "on"].contains (Text.lower s)

/-- The state of a switch. -/
def switch? (v : Variables) (name : String) : Option Bool := (v.text? name).map isOn

/-- The count that a variable holds. -/
def count? (v : Variables) (name : String) : Option Nat := (v.text? name).bind Text.count?

/-- What the name in a variable stands for. -/
def named? {α : Type} (v : Variables) (name : String) (parse : String → Except String α)
    (unknown : String → String) : Except Failure (Option α) :=
  (v.text? name).mapM (named parse unknown ("Invalid " ++ name ++ ": "))

/-- Take over what the variables say. -/
def apply (v : Variables) (d : Draft) : Except Failure Draft := do
  let scope ← v.named? "SQLMAP_LOCAL_CACHE_SCOPE" Scope.parse Scope.unknown
  let eviction ← v.named? "SQLMAP_CACHE_EVICTION" Eviction.parse Eviction.unknown
  let environment := (v.text? "SQLMAP_ENVIRONMENT").map fun s => if s = "" then none else some s
  let timeout := (v.count? "SQLMAP_CACHE_BLOCKING_TIMEOUT_MS").map limitOfMillis
  return { d with
    session := {
      cacheEnabled := (v.switch? "SQLMAP_CACHE_ENABLED").getD d.session.cacheEnabled
      scope := scope.getD d.session.scope
      environment := environment.getD d.session.environment }
    logLevel := (v.text? "RUST_LOG").getD d.logLevel
    jsonLogs := (v.switch? "SQLMAP_JSON_LOGS").getD d.jsonLogs
    standard := { d.standard with
      eviction := eviction.getD d.standard.eviction
      size := (v.count? "SQLMAP_CACHE_SIZE").getD d.standard.size
      blocking := (v.switch? "SQLMAP_CACHE_BLOCKING").getD d.standard.blocking
      timeout := timeout.getD d.standard.timeout } }

end Variables

end QueryCache.Config
