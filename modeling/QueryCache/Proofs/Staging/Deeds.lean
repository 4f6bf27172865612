import QueryCache.Proofs.Table
import QueryCache.Layer.Probe
import QueryCache.Staging.Pending

/-!
# What a transaction did with a shared cache

The calls that the end of a transaction owes a shared cache, read off the list of what the
transaction did with it, and the proof that staged work holds just these calls. A staged
clear overtakes the writes before it, but no miss.
-/

namespace QueryCache

/-- One thing a transaction did with a shared cache; a lookup with what the cache answered. -/
inductive Deed where
  | got (key : Key) (answer : Except CacheFailure (Option Entry))
  | put (key : Key) (entry : Entry)
  | clear

namespace Deed

/-- Whether a clear was staged. -/
def isClear : Deed → Bool
  | clear => true
  | _ => false

/-- The writes that no clear overtook, in order. -/
def puts : List Deed → List (Key × Entry)
  | [] => []
  | put k e :: rest => if rest.any isClear then puts rest else (k, e) :: puts rest
  | _ :: rest => puts rest

/-- The key of a lookup that found nothing, or an explicit null. -/
def missed? : Deed → Option Key
  | got k (.ok none) | got k (.ok (some .null)) => some k
  | _ => none

/-- The keys looked up in vain, in order. -/
def misses (ds : List Deed) : List Key := ds.filterMap missed?

/-- The calls of a commit: a staged clear; each key written since then, in the order of the
first writes, with its last value; and an explicit null for each other key that was looked
up in vain, in the order of the first misses. -/
def commitCalls (ds : List Deed) : List Call :=
  (if ds.any isClear then [.clear] else []) ++
    (((puts ds).map Prod.fst).eraseDups.filterMap fun k =>
      (Table.find k (puts ds).reverse).map (.put k ·)) ++
    ((misses ds).eraseDups.filter fun k => k ∉ (puts ds).map Prod.fst).map (.put · .null)

/-- The calls of a rollback: each key looked up in vain is removed. -/
def rollbackCalls (ds : List Deed) : List Call := (misses ds).eraseDups.map .remove

/-! ### One more deed -/

theorem puts_got (ds : List Deed) (k : Key) (a : Except CacheFailure (Option Entry)) :
    puts (ds ++ [got k a]) = puts ds := by
  induction ds with
  | nil => rfl
  | cons d rest ih => cases d <;> simp [puts, isClear, ih]

theorem puts_put (ds : List Deed) (k : Key) (e : Entry) :
    puts (ds ++ [put k e]) = puts ds ++ [(k, e)] := by
  induction ds with
  | nil => rfl
  | cons d rest ih =>
    cases d with
    | got a b => exact ih
    | clear => exact ih
    | put a b =>
      rw [List.cons_append, puts, puts, ih]
      by_cases h : rest.any isClear = true
      · simp [h, isClear]
      · simp [h, isClear]

theorem puts_clear (ds : List Deed) : puts (ds ++ [clear]) = [] := by
  induction ds with
  | nil => rfl
  | cons d rest ih => cases d <;> simp [puts, isClear, ih]

theorem misses_concat (ds : List Deed) (d : Deed) :
    misses (ds ++ [d]) = misses ds ++ (missed? d).toList := by
  rw [misses, List.filterMap_append]
  cases h : missed? d <;> simp [misses, h]

/-! ### The calls at the end -/

/-- Every missed key is written to by a commit. -/
theorem put_mem_commitCalls {ds : List Deed} {k : Key} (hk : k ∈ misses ds) :
    ∃ e, Call.put k e ∈ commitCalls ds := by
  by_cases hput : k ∈ (puts ds).map Prod.fst
  · obtain ⟨e, he⟩ : ∃ e, Table.find k (puts ds).reverse = some e := by
      rw [← Option.isSome_iff_exists, Table.find_isSome, List.map_reverse, List.mem_reverse]
      exact hput
    have hmem : Call.put k e ∈ ((puts ds).map Prod.fst).eraseDups.filterMap fun k =>
        (Table.find k (puts ds).reverse).map (Call.put k ·) := by
      refine List.mem_filterMap.mpr ⟨k, List.mem_eraseDups.mpr hput, ?_⟩
      rw [he]
      rfl
    exact ⟨e, List.mem_append_left _ (List.mem_append_right _ hmem)⟩
  · have hmem : k ∈ (misses ds).eraseDups.filter fun k => k ∉ (puts ds).map Prod.fst :=
      List.mem_filter.mpr ⟨List.mem_eraseDups.mpr hk, decide_eq_true hput⟩
    exact ⟨.null, List.mem_append_right _ (List.mem_map_of_mem hmem)⟩

/-- A commit looks nothing up. -/
theorem get_not_mem_commitCalls {ds : List Deed} {k : Key} :
    Call.get k ∉ commitCalls ds := by
  intro hcall
  rcases List.mem_append.mp hcall with hcall | hcall
  · rcases List.mem_append.mp hcall with hcall | hcall
    · split at hcall
      · exact nomatch List.mem_singleton.mp hcall
      · exact nomatch hcall
    · obtain ⟨a, _, hput⟩ := List.mem_filterMap.mp hcall
      obtain ⟨e, _, heq⟩ := Option.map_eq_some_iff.mp hput
      exact nomatch heq
  · obtain ⟨a, _, heq⟩ := List.mem_map.mp hcall
    exact nomatch heq

/-- A rollback looks nothing up. -/
theorem get_not_mem_rollbackCalls {ds : List Deed} {k : Key} :
    Call.get k ∉ rollbackCalls ds := by
  intro hcall
  obtain ⟨a, _, heq⟩ := List.mem_map.mp hcall
  exact nomatch heq

end Deed

namespace Pending

/-- The call that a step makes. -/
def Step.call : Step → Call
  | .clear => .clear
  | .put k e => .put k e
  | .putNull k => .put k .null

/-- The staged work is that of the deeds. -/
structure Reflects (p : Pending) (ds : List Deed) : Prop where
  clearFirst : p.clearFirst = ds.any Deed.isClear
  writes : p.writes = Table.ofList (Deed.puts ds)
  misses : p.misses.keys = (Deed.misses ds).eraseDups

/-- No work is staged before the first deed. -/
theorem reflects_nil : Reflects {} [] := ⟨rfl, rfl, rfl⟩

theorem Reflects.stage {p : Pending} {ds : List Deed} (h : p.Reflects ds) (k : Key)
    (e : Entry) : (p.stage k e).Reflects (ds ++ [.put k e]) where
  clearFirst := by simp [Pending.stage, h.clearFirst, Deed.isClear]
  writes := by rw [Pending.stage, Deed.puts_put, Table.ofList_append, ← h.writes]
  misses := by simp [Pending.stage, Deed.misses_concat, Deed.missed?, h.misses]

theorem Reflects.stageClear {p : Pending} {ds : List Deed} (h : p.Reflects ds) :
    p.stageClear.Reflects (ds ++ [.clear]) where
  clearFirst := by simp [Pending.stageClear, Deed.isClear]
  writes := by rw [Deed.puts_clear]; rfl
  misses := by simp [Pending.stageClear, Deed.misses_concat, Deed.missed?, h.misses]

/-- What a lookup leaves staged, given what the shared cache answered. -/
def learn (p : Pending) (k : Key) : Except CacheFailure (Option Entry) → Pending
  | .ok e => if e.all (·.isNull) then p.noteMiss k else p
  | .error _ => p

/-- Learning stages no write and no clear. -/
theorem learn_kept (p : Pending) (k : Key) (a : Except CacheFailure (Option Entry)) :
    (p.learn k a).writes = p.writes ∧ (p.learn k a).clearFirst = p.clearFirst := by
  cases a with
  | error f => exact ⟨rfl, rfl⟩
  | ok e =>
    rw [learn]
    split <;> exact ⟨rfl, rfl⟩

theorem Reflects.learn {p : Pending} {ds : List Deed} (h : p.Reflects ds) (k : Key)
    (a : Except CacheFailure (Option Entry)) : (p.learn k a).Reflects (ds ++ [.got k a]) := by
  have hc : (ds ++ [Deed.got k a]).any Deed.isClear = ds.any Deed.isClear := by
    simp [Deed.isClear]
  have kept (hm : Deed.missed? (.got k a) = none) : p.Reflects (ds ++ [.got k a]) :=
    ⟨by rw [hc, h.clearFirst], by rw [Deed.puts_got, h.writes], by
      rw [Deed.misses_concat, hm, h.misses, Option.toList_none, List.append_nil]⟩
  have noted (hm : Deed.missed? (.got k a) = some k) :
      (p.noteMiss k).Reflects (ds ++ [.got k a]) :=
    ⟨by rw [hc, ← h.clearFirst]; rfl, by rw [Deed.puts_got, ← h.writes]; rfl, by
      rw [Deed.misses_concat, hm, Option.toList_some, Table.eraseDups_concat, noteMiss,
        Table.keys_insertNew, h.misses]
      simp only [List.mem_eraseDups]⟩
  match a with
  | .error f => exact kept rfl
  | .ok none => exact noted rfl
  | .ok (some .null) => exact noted rfl
  | .ok (some (.rows r)) => exact kept rfl
  | .ok (some (.reclaimable r)) => exact kept rfl

/-- The steps of a commit make the calls that the deeds owe. -/
theorem Reflects.steps {p : Pending} {ds : List Deed} (h : p.Reflects ds) :
    p.steps.map Step.call = Deed.commitCalls ds := by
  have hw : p.writes.entries.map (fun e => Call.put e.1 e.2) =
      ((Deed.puts ds).map Prod.fst).eraseDups.filterMap fun k =>
        (Table.find k (Deed.puts ds).reverse).map (.put k ·) := by
    rw [h.writes, Table.entries_ofList, List.map_filterMap]
    simp only [Option.map_map, Function.comp_def]
  have hu : p.unwritten =
      (Deed.misses ds).eraseDups.filter fun k => k ∉ (Deed.puts ds).map Prod.fst := by
    rw [unwritten, h.misses, h.writes]
    refine List.filter_congr fun k _ => ?_
    have hc : (Table.ofList (Deed.puts ds)).contains k =
        decide (k ∈ (Deed.puts ds).map Prod.fst) := by
      rw [Bool.eq_iff_iff, Table.contains_iff, Table.keys_ofList, List.mem_eraseDups,
        decide_eq_true_iff]
    rw [hc, decide_not]
  rw [Pending.steps, List.map_append, List.map_append, List.map_map, List.map_map, h.clearFirst,
    hu, Deed.commitCalls]
  congr 1
  congr 1
  · split <;> rfl

end Pending

end QueryCache
