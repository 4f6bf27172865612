import QueryCache.Registry
import QueryCache.Session.Basic

/-!
# Configurations

The settings of an application: its sessions, its log, the profile of its shared caches and
the profiles of single namespaces. A draft takes values from any number of sources; building
it checks the profiles.
-/

namespace QueryCache

/-- The settings of the log. -/
structure LogSettings where
  level : String := "info"
  json : Bool := false
  deriving DecidableEq, Inhabited

/-- A checked configuration. -/
structure Config where
  session : SessionSettings := {}
  log : LogSettings := {}
  standard : Profile := {}
  namespaces : Table String Profile := Table.empty

namespace Config

/-- The registry of the configured caches. -/
def registry (c : Config) : Registry := { standard := c.standard, overrides := c.namespaces }

/-- A configuration in the making. -/
structure Draft where
  session : SessionSettings := {}
  logLevel : String := ""
  jsonLogs : Bool := false
  standard : Profile := {}
  namespaces : Table String Profile := Table.empty

/-- A profile that needs room has some. -/
def checkRoom (name : String) (p : Profile) : Except Failure Unit :=
  if p.hasNoRoom then
    .error (.config ("cache '" ++ name ++ "': " ++ p.eviction.name ++
      " eviction size must be greater than zero"))
  else .ok ()

/-- Check a draft. Without a log level the usual one is taken. -/
def Draft.build (d : Draft) : Except Failure Config := do
  checkRoom "default" d.standard
  d.namespaces.entries.forM fun e => checkRoom e.1 e.2
  return {
    session := d.session
    log := { level := if d.logLevel = "" then "info" else d.logLevel, json := d.jsonLogs }
    standard := d.standard
    namespaces := d.namespaces }

end Config

end QueryCache
