import QueryCache.Trace.Note

/-!
# Reports

Notes as an observer sees them: spans when they open, events with the spans around them, and
counters with their totals. Every thread has its own open spans.
-/

namespace QueryCache

/-- What an observer sees of a note that is no counter. -/
inductive Report where
  | opened (span : Span)
  | happened (within : List String) (event : Event)

namespace Report

/-- The reports of some notes, given the names of the spans open before, outermost first,
and the spans open after. -/
def ofNotes : List Note → List String → List Report × List String
  | [], spans => ([], spans)
  | .count .. :: rest, spans => ofNotes rest spans
  | .enter s :: rest, spans =>
    let (reports, after) := ofNotes rest (spans ++ [s.name])
    (.opened s :: reports, after)
  | .leave :: rest, spans => ofNotes rest spans.dropLast
  | .event e :: rest, spans =>
    let (reports, after) := ofNotes rest spans
    (.happened spans e :: reports, after)

end Report

/-- The totals of the counters that were ever touched. -/
structure Counters where
  totals : Table Metric (Table String Nat) := Table.empty

namespace Counters

/-- Count once for a cache. -/
def add (c : Counters) (m : Metric) (cache : String) : Counters :=
  let t := (c.totals.get? m).getD Table.empty
  ⟨c.totals.insert m (t.insert cache ((t.get? cache).getD 0 + 1))⟩

/-- Count all that some notes count. -/
def addNotes (c : Counters) (notes : List Note) : Counters :=
  notes.foldl
    (fun c n =>
      match n with
      | .count m cache => c.add m cache
      | _ => c)
    c

/-- The total of a metric of a cache. -/
def total (c : Counters) (m : Metric) (cache : String) : Nat :=
  ((c.totals.get? m).bind (·.get? cache)).getD 0

end Counters

end QueryCache
