import QueryCache.Cache

/-!
# The store

The innermost cache: an unbounded table that never fails and never forgets by itself.

Here as in all other layers, tables find keys by equality. `Key.agrees`, by which keys compare,
says the same of all keys whose sizes differ by less than 2^32, where the count of a key comes
round (`Key.agrees_ofComponents`).
-/

namespace QueryCache

/-- A named table of entries. -/
structure Store where
  name : String
  entries : Table Key Entry := Table.empty

namespace Store

/-- Whether an entry of the store keeps a row list alive. -/
def holds (s : Store) (id : RowsId) : Bool := s.entries.values.any (·.holds id)

/-- The store as a cache. -/
def cache : Cache Store where
  id s := s.name
  size _ s := ⟨s.entries.size, s, []⟩
  put _ k e s := ⟨.ok (), { s with entries := s.entries.insert k e }, []⟩
  get _ k s := .done ⟨.ok (s.entries.get? k), s, []⟩
  remove _ k s := ⟨.ok (s.entries.get? k), { s with entries := s.entries.erase k }, []⟩
  clear _ s := ⟨.ok (), { s with entries := Table.empty }, []⟩
  holds := holds

/-- The written form of the state. -/
def describe (s : Store) : String :=
  Text.openRecord "PerpetualCache"
    [("id", Text.quoted s.name), ("entry_count", toString s.entries.size)]

end Store

end QueryCache
