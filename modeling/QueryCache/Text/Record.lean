/-!
# Record notation

The written form of a structured value: a name with its fields between braces, lists
between brackets and maps between braces. An open record ends in two dots, which stand for
fields that are not written.
-/

namespace QueryCache.Text

private def listed (items : List String) : String := ", ".intercalate items

private def fieldTexts (fields : List (String × String)) : List String :=
  fields.map fun f => f.1 ++ ": " ++ f.2

/-- A record with all its fields. -/
def record (name : String) (fields : List (String × String)) : String :=
  name ++ " \x7b " ++ listed (fieldTexts fields) ++ " \x7d"

/-- A record with some of its fields. -/
def openRecord (name : String) (fields : List (String × String)) : String :=
  name ++ " \x7b " ++ listed (fieldTexts fields ++ [".."]) ++ " \x7d"

/-- A constructor with one argument. -/
def applied (name : String) (argument : String) : String := name ++ "(" ++ argument ++ ")"

/-- A list. -/
def list (items : List String) : String := "[" ++ listed items ++ "]"

/-- A map. -/
def map (entries : List (String × String)) : String :=
  "\x7b" ++ listed (fieldTexts entries) ++ "\x7d"

/-- An optional value. -/
def option : Option String → String
  | none => "None"
  | some s => applied "Some" s

/-- A truth value. -/
def bool (b : Bool) : String := if b then "true" else "false"

end QueryCache.Text
