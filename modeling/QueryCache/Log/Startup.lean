import QueryCache.Config.Basic
import QueryCache.Log.Filter

/-!
# Starting the log

The log is started once per process. Its filter is the one in the environment if there is one
that can be read, and otherwise the configured level. The first record says that it has
started.
-/

namespace QueryCache.Log

/-- What a field of a record holds. -/
inductive FieldValue where
  | text (s : String)
  | truth (b : Bool)

/-- A record of the log. -/
structure Record where
  level : Verbosity
  target : String
  message : String
  fields : List (String × FieldValue)

namespace Record

private def fieldText (f : String × FieldValue) : String :=
  " " ++ f.1 ++ "=" ++
    match f.2 with
    | .text s => Text.quoted s
    | .truth b => Text.bool b

/-- The written form of a level. -/
def levelName (r : Record) : String := r.level.name.toUpper

/-- The line of a record, after its time. -/
def line (r : Record) : String :=
  let pad := String.ofList (List.replicate (5 - r.levelName.length) ' ')
  pad ++ r.levelName ++ " " ++ r.target ++ ": " ++ r.message ++
    String.join (r.fields.map fieldText)

end Record

/-- The record that says that the log has started. -/
def started (json : Bool) : Record where
  level := .info
  target := "sqlmap_cache::observability"
  message := "Logging initialized"
  fields := [("service", .text "sqlmap-cache"), ("json", .truth json)]

/-- The filter in force. -/
def filterOf (settings : LogSettings) (chosen? : Option String) : Filter :=
  (chosen?.bind Filter.parse?).getD (Filter.parseSome settings.level)

/-- Start the log: its first records, or the failure if it runs already. -/
def start (running : Bool) (settings : LogSettings) (chosen? : Option String) :
    Except Failure (List Record) :=
  if running then
    .error (.config ("Failed to install tracing subscriber: " ++
      "a global default trace dispatcher has already been set"))
  else
    let r := started settings.json
    let names := "message" :: r.fields.map Prod.fst
    .ok (if (filterOf settings chosen?).admits r.level r.target names then [r] else [])

end QueryCache.Log
