/-!
# Dates and times

A date, a time of day, or a date with a time and perhaps its distance from universal time,
written with fixed numbers of digits. Seconds may be left out, and a minute may have a leap
second.
-/

namespace QueryCache.Toml

/-- A day of the calendar. -/
structure Date where
  year : Nat
  month : Nat
  day : Nat
  deriving DecidableEq

/-- A time of day. The fraction is in units of its last digit. -/
structure Time where
  hour : Nat
  minute : Nat
  second : Nat := 0
  fraction : List Char := []
  deriving DecidableEq

/-- A distance from universal time. -/
inductive Offset where
  | universal
  | minutes (m : Int)
  deriving DecidableEq

/-- A date, a time, or both. -/
structure Moment where
  date : Option Date := none
  time : Option Time := none
  offset : Option Offset := none
  deriving DecidableEq

private def digit? (c : Char) : Option Nat :=
  if c.isDigit then some (c.toNat - '0'.toNat) else none

private def two? : List Char → Option (Nat × List Char)
  | a :: b :: r => do some (10 * (← digit? a) + (← digit? b), r)
  | _ => none

namespace Date

/-- Whether the year has a leap day. -/
def isLeap (year : Nat) : Bool := year % 4 = 0 && (year % 100 ≠ 0 || year % 400 = 0)

/-- The number of days of a month. -/
def daysIn (year month : Nat) : Nat :=
  if month = 2 then (if isLeap year then 29 else 28)
  else if month = 4 ∨ month = 6 ∨ month = 9 ∨ month = 11 then 30
  else 31

/-- Read a date and what follows it. -/
def read? (cs : List Char) : Option (Date × List Char) := do
  let (century, cs) ← two? cs
  let (rest, cs) ← two? cs
  let year := 100 * century + rest
  match cs with
  | '-' :: cs =>
    let (month, cs) ← two? cs
    match cs with
    | '-' :: cs =>
      let (day, cs) ← two? cs
      guard (1 ≤ month ∧ month ≤ 12 ∧ 1 ≤ day ∧ day ≤ daysIn year month)
      some (⟨year, month, day⟩, cs)
    | _ => none
  | _ => none

end Date

namespace Time

private def fraction? : List Char → Option (List Char × List Char)
  | '.' :: cs =>
    let ds := cs.takeWhile Char.isDigit
    if ds.isEmpty then none else some (ds, cs.dropWhile Char.isDigit)
  | cs => some ([], cs)

/-- Read a time and what follows it. -/
def read? (cs : List Char) : Option (Time × List Char) := do
  let (hour, cs) ← two? cs
  match cs with
  | ':' :: cs =>
    let (minute, cs) ← two? cs
    guard (hour ≤ 23 ∧ minute ≤ 59)
    match cs with
    | ':' :: cs =>
      let (second, cs) ← two? cs
      guard (second ≤ 60)
      let (fraction, cs) ← fraction? cs
      some ({ hour, minute, second, fraction }, cs)
    | cs => some ({ hour, minute }, cs)
  | _ => none

end Time

/-- Read the distance from universal time, up to the end. -/
def Offset.read? (cs : List Char) : Option (Option Offset) :=
  let distance (sign : Int) (cs : List Char) : Option (Option Offset) := do
    match ← two? cs with
    | (h, ':' :: cs) =>
      let (m, cs) ← two? cs
      guard (h ≤ 23 ∧ m ≤ 59 ∧ cs = [])
      some (some (.minutes (sign * (60 * h + m : Nat))))
    | _ => none
  match cs with
  | [] => some none
  | ['Z'] | ['z'] => some (some .universal)
  | '+' :: cs => distance 1 cs
  | '-' :: cs => distance (-1) cs
  | _ => none

/-- Read a moment from all of a text. Between date and time stands a `T` or a space. -/
def Moment.ofChars? (cs : List Char) : Option Moment :=
  match Date.read? cs with
  | some (date, []) => some { date }
  | some (date, mark :: cs) => do
    guard (mark = 'T' ∨ mark = 't' ∨ mark = ' ')
    let (time, cs) ← Time.read? cs
    some { date, time, offset := ← Offset.read? cs }
  | none => do
    let (time, cs) ← Time.read? cs
    guard (cs = [])
    some { time }

end QueryCache.Toml
