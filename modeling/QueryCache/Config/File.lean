import QueryCache.Config.Basic
import QueryCache.Toml.Document

/-!
# Configuration files

What a configuration file says: sections on sessions, on the log, on the shared caches and on
single namespaces, all of whose keys may be left out. A namespace takes what its section
leaves out from the section on the shared caches. Unknown keys count for nothing.
-/

namespace QueryCache.Config

/-- The section on sessions. -/
structure SessionSection where
  cacheEnabled : Option Bool := none
  scope : Option String := none
  environment : Option String := none
  deriving DecidableEq

/-- The section on the log. -/
structure LogSection where
  level : Option String := none
  json : Option Bool := none
  deriving DecidableEq

/-- A section on shared caches. The time limit is in milliseconds; zero is none. -/
structure ProfileSection where
  eviction : Option String := none
  size : Option Nat := none
  blocking : Option Bool := none
  timeout : Option Nat := none
  logging : Option Bool := none
  deriving DecidableEq

/-- The sections of a file. -/
structure File where
  session : Option SessionSection := none
  log : Option LogSection := none
  profile : Option ProfileSection := none
  namespaces : Table String ProfileSection := Table.empty

/-- Read what may be missing. -/
def optionally {α : Type} (read? : Toml.Value → Option α) :
    Option Toml.Value → Option (Option α)
  | none => some none
  | some v => (read? v).map some

/-- Read the section on sessions. -/
def SessionSection.ofTree? (v : Toml.Value) : Option SessionSection := do
  let field ← v.fields? ["cache_enabled", "local_cache_scope", "environment_id"]
  return {
    cacheEnabled := ← optionally Toml.Value.truth? (field "cache_enabled")
    scope := ← optionally Toml.Value.text? (field "local_cache_scope")
    environment := ← optionally Toml.Value.text? (field "environment_id") }

/-- Read the section on the log. -/
def LogSection.ofTree? (v : Toml.Value) : Option LogSection := do
  let field ← v.fields? ["log_level", "json_logs"]
  return {
    level := ← optionally Toml.Value.text? (field "log_level")
    json := ← optionally Toml.Value.truth? (field "json_logs") }

/-- Read a section on shared caches. -/
def ProfileSection.ofTree? (v : Toml.Value) : Option ProfileSection := do
  let field ← v.fields? ["eviction", "size", "blocking", "blocking_timeout_ms", "logging"]
  return {
    eviction := ← optionally Toml.Value.text? (field "eviction")
    size := ← optionally Toml.Value.count? (field "size")
    blocking := ← optionally Toml.Value.truth? (field "blocking")
    timeout := ← optionally Toml.Value.count? (field "blocking_timeout_ms")
    logging := ← optionally Toml.Value.truth? (field "logging") }

/-- Read the sections of single namespaces. -/
def namespaces? (v : Toml.Value) : Option (Table String ProfileSection) := do
  let sections ← (← v.entries?).mapM fun e => do
    return (e.1, ← ProfileSection.ofTree? e.2)
  return .ofList sections

/-- Read the sections of a file. -/
def File.ofTree? (v : Toml.Value) : Option File := do
  let field ← v.fields? ["settings", "logging", "cache", "namespaces"]
  return {
    session := ← optionally SessionSection.ofTree? (field "settings")
    log := ← optionally LogSection.ofTree? (field "logging")
    profile := ← optionally ProfileSection.ofTree? (field "cache")
    namespaces := (← optionally namespaces? (field "namespaces")).getD .empty }

/-- A name that stands for something, or the wording of the failure if it does not. -/
def named {α : Type} (parse : String → Except String α) (unknown : String → String)
    (context : String) (s : String) : Except Failure α :=
  (parse s).mapError fun name => .config (context ++ unknown name)

/-- A waiting time of zero milliseconds is no limit. -/
def limitOfMillis (n : Nat) : Option Duration := if n = 0 then none else some (.ofMillis n)

/-- The profile that a section makes of another one. -/
def ProfileSection.apply (s : ProfileSection) (p : Profile) : Except Failure Profile := do
  let eviction ← s.eviction.mapM (named Eviction.parse Eviction.unknown "")
  return {
    eviction := eviction.getD p.eviction
    size := s.size.getD p.size
    blocking := s.blocking.getD p.blocking
    timeout := (s.timeout.map limitOfMillis).getD p.timeout
    logging := s.logging.getD p.logging }

/-- Take over the section of a namespace, which starts from the default profile. -/
def applyNamespace (p : Profile) (d : Draft) (ns : String) (s : ProfileSection) :
    Except Failure Draft := do
  let profile ← (s.apply p).mapError fun f =>
    .config ("namespace '" ++ ns ++ "': " ++ f.message)
  return { d with namespaces := d.namespaces.insert ns profile }

/-- Take over what a file says. -/
def File.apply (f : File) (d : Draft) : Except Failure Draft := do
  let session := f.session.getD {}
  let log := f.log.getD {}
  let scope ← session.scope.mapM (named Scope.parse Scope.unknown "settings.local_cache_scope: ")
  let standard ← (f.profile.getD {}).apply {}
  let d : Draft := { d with
    session := {
      cacheEnabled := session.cacheEnabled.getD d.session.cacheEnabled
      scope := scope.getD d.session.scope
      environment := session.environment.or d.session.environment }
    logLevel := log.level.getD d.logLevel
    jsonLogs := log.json.getD d.jsonLogs
    standard := if f.profile.isSome then standard else d.standard }
  f.namespaces.entries.foldlM (fun d e => applyNamespace standard d e.1 e.2) d

end QueryCache.Config
