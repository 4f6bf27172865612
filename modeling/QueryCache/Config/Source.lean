import QueryCache.Config.Variables

/-!
# Loading a configuration

A configuration is loaded from a file at a given path, or from the first file at the usual
paths, and the variables override it.
-/

namespace QueryCache.Config

/-- What is found at a path. -/
inductive Source where
  | missing
  | directory
  | file (bytes : List UInt8)

namespace Source

/-- Whether anything is found. -/
def isFound : Source → Bool
  | missing => false
  | _ => true

/-- The text of a file, or why there is none. -/
def text : Source → Except String String
  | missing => .error "No such file or directory (os error 2)"
  | directory => .error "Is a directory (os error 21)"
  | file bytes =>
    match String.fromUTF8? ⟨bytes.toArray⟩ with
    | some s => .ok s
    | none => .error "stream did not contain valid UTF-8"

end Source

/-- The configuration that a file and the variables give. -/
def load (files : String → Source) (path : String) (v : Variables) : Except Failure Draft := do
  let text ← (files path).text.mapError fun cause =>
    .config ("Failed to read config file " ++ path ++ ": " ++ cause)
  match (Toml.parse? text).bind File.ofTree? with
  | none => .error (.config ("Failed to parse config file " ++ path))
  | some f => v.apply (← f.apply {})

/-- The usual paths, in the order in which they are tried. -/
def usualPaths (v : Variables) : List String :=
  ["./sqlmap-cache.toml"] ++
    (v.text? "HOME").toList.map (· ++ "/.config/sqlmap-cache/config.toml") ++
    ["/etc/sqlmap-cache/config.toml"]

/-- The configuration that the first file at the usual paths and the variables give. There
may be no file. -/
def search (files : String → Source) (v : Variables) : Except Failure Draft :=
  match (usualPaths v).find? fun path => (files path).isFound with
  | some path => load files path v
  | none => v.apply {}

end QueryCache.Config
