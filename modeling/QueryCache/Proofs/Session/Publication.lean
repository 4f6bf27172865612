import QueryCache.Proofs.Session.Staged

/-!
# What a session publishes

Until its transaction ends, a session does nothing but lookups in the shared caches. A commit
then writes to each of them the rows that runners answered to the queries that feed it: for
every key the latest ones since the transaction began and since the last clear of the cache was
staged, whatever else the runners did meanwhile, be it that they ended transactions themselves.
-/

namespace QueryCache

variable {ρ σ τ : Type} [DecidableEq ρ]

namespace Happening

/-- What there is to publish to a shared cache, when something more has happened. -/
def adds (ref : ρ) (news : List (Key × RowList)) : Happening ρ → List (Key × RowList)
  | answered r k (.ok out) => if r.feeds? = some ref then news ++ [(k, out.rows)] else news
  | told r .. | asked r _ => if r.statement.clears? = some ref then [] else news
  | updated st _ => if st.clears? = some ref then [] else news
  | did a _ => if a.ends then [] else news
  | _ => news

/-- The answers that are to be published to a shared cache, in order: those since the last
transaction ended and since the last clear of the cache was staged. -/
def news (ref : ρ) (es : List (Happening ρ)) : List (Key × RowList) := es.foldl (adds ref) []

theorem news_concat (ref : ρ) (es : List (Happening ρ)) (e : Happening ρ) :
    news ref (es ++ [e]) = adds ref (news ref es) e := by
  rw [news, List.foldl_append]
  rfl

end Happening

/-- For each key its latest rows, in the order in which the keys came first. -/
def latest (news : List (Key × RowList)) : List (Key × RowList) :=
  (news.map Prod.fst).eraseDups.filterMap fun k => (Table.find k news.reverse).map (k, ·)

/-- No key comes twice. -/
theorem nodup_latest (news : List (Key × RowList)) : ((latest news).map Prod.fst).Nodup := by
  rw [latest, ← Table.entries_ofList]
  exact Table.nodup_ofList news

/-- The key and the rows of a call that writes rows. -/
def Call.rows? : Call → Option (Key × RowList)
  | put k (.rows list) => some (k, list)
  | _ => none

/-- The key and the rows of a call that writes rows to a shared cache. -/
def rowsPut (ref : ρ) (x : ρ × Call) : Option (Key × RowList) :=
  if x.1 = ref then x.2.rows? else none

/-- Answers as staged writes. -/
def asWrites (news : List (Key × RowList)) : List (Key × Entry) :=
  news.map fun e => (e.1, .rows e.2)

/-! ### From staged writes to answers -/

/-- What is found among writes is the entry of what is found among the answers. -/
private theorem find_asWrites (k : Key) (news : List (Key × RowList)) :
    Table.find k (asWrites news) = (Table.find k news).map .rows := by
  induction news with
  | nil => rfl
  | cons e rest ih =>
    rw [asWrites, List.map_cons, Table.find, Table.find]
    split
    · rfl
    · exact ih

/-- The rows that a commit writes are the latest ones of every key. -/
theorem Deed.rows_commitCalls {ds : List Deed} {news : List (Key × RowList)}
    (h : puts ds = asWrites news) : (commitCalls ds).filterMap Call.rows? = latest news := by
  have hkeys : (puts ds).map Prod.fst = news.map Prod.fst := by
    rw [h, asWrites, List.map_map]
    rfl
  have hclear : (if ds.any isClear then [Call.clear] else []).filterMap Call.rows? = [] := by
    split <;> rfl
  have hnull (keys : List Key) : (keys.map (Call.put · .null)).filterMap Call.rows? = [] := by
    rw [List.filterMap_map]
    exact List.filterMap_eq_nil_iff.mpr fun _ _ => rfl
  have hfind (k : Key) : Table.find k (puts ds).reverse =
      (Table.find k news.reverse).map .rows := by
    rw [h, asWrites, ← List.map_reverse]
    exact find_asWrites k news.reverse
  rw [commitCalls, List.filterMap_append, List.filterMap_append, hclear, hnull, List.nil_append,
    List.append_nil, hkeys, List.filterMap_filterMap, latest]
  refine List.filterMap_congr fun k _ => ?_
  rw [hfind]
  cases Table.find k news.reverse <;> rfl

namespace Transaction

variable {ref : ρ} {h ds : List (ρ × Deed)} {news : List (Key × RowList)}

/-- Of a list without repetitions, no more than one member is the given one. -/
private theorem flatMap_single {α : Type} {l : List ρ} (hn : l.Nodup) (ref : ρ) (x : List α) :
    l.flatMap (fun r => if r = ref then x else []) = if ref ∈ l then x else [] := by
  induction l with
  | nil => rfl
  | cons r rest ih =>
    obtain ⟨hr, hrest⟩ := List.nodup_cons.mp hn
    rw [List.flatMap_cons, ih hrest]
    by_cases heq : r = ref
    · subst heq
      rw [if_pos rfl, if_neg hr, if_pos List.mem_cons_self, List.append_nil]
    · have hmem : ref ∈ r :: rest ↔ ref ∈ rest := by
        rw [List.mem_cons]
        exact or_iff_right fun h => heq h.symm
      rw [if_neg heq, List.nil_append]
      simp only [hmem]

/-- The rows that a commit writes to a shared cache. -/
theorem rows_commitCalls (hn : Deed.puts (deedsOn ref h) = asWrites news) :
    (commitCalls h).filterMap (rowsPut ref) = latest news := by
  have hpart (r : ρ) : ((Deed.commitCalls (deedsOn r h)).map (r, ·)).filterMap (rowsPut ref) =
      if r = ref then (Deed.commitCalls (deedsOn ref h)).filterMap Call.rows? else [] := by
    rw [List.filterMap_map]
    split
    · next heq =>
      subst heq
      refine List.filterMap_congr fun x _ => ?_
      rw [Function.comp_apply, rowsPut, if_pos rfl]
    · next hne =>
      refine List.filterMap_eq_nil_iff.mpr fun x _ => ?_
      rw [Function.comp_apply, rowsPut, if_neg hne]
  have hnodup : (order h).Nodup := Table.nodup_eraseDups _
  rw [commitCalls, List.filterMap_flatMap]
  simp only [hpart]
  rw [flatMap_single hnodup, Deed.rows_commitCalls hn]
  split
  · rfl
  · next hnot =>
    rw [deedsOn_eq_nil hnot] at hn
    rw [List.map_eq_nil_iff.mp hn.symm]
    rfl

/-- A rollback writes nothing. -/
theorem put_not_mem_rollbackCalls {k : Key} {e : Entry} :
    (ref, Call.put k e) ∉ rollbackCalls h := by
  intro hmem
  obtain ⟨a, _, heq⟩ := List.mem_map.mp (mem_rollbackCalls.mp hmem)
  exact nomatch heq

/-- Lookups do not matter for the writes to a shared cache. -/
theorem puts_stagings (ref : ρ) (h ds : List (ρ × Deed)) :
    Deed.puts (deedsOn ref (h ++ ds)) = Deed.puts (deedsOn ref (h ++ stagings ds)) := by
  have hstagings : deedsOn ref (stagings ds) = (deedsOn ref ds).filter (!·.isGot) := by
    rw [deedsOn, stagings, List.filter_filter, deedsOn, List.filter_map, List.filter_filter]
    refine congrArg _ (List.filter_congr fun x _ => ?_)
    exact Bool.and_comm _ _
  rw [deedsOn_append, deedsOn_append, hstagings, ← Deed.puts_filter, List.filter_append,
    ← Deed.puts_filter (deedsOn ref h ++ _), List.filter_append, List.filter_filter]
  simp only [Bool.and_self]

/-- A staged clear overtakes what there was to publish to its shared cache. -/
theorem puts_clearing (ref : ρ) (h : List (ρ × Deed)) (st : Statement ρ) :
    Deed.puts (deedsOn ref (h ++ st.clearing)) =
      if st.clears? = some ref then [] else Deed.puts (deedsOn ref h) := by
  unfold Statement.clearing
  cases st.clears? with
  | none =>
    rw [Option.toList_none, List.map_nil, List.append_nil]
    rfl
  | some r =>
    rw [Option.toList_some, List.map_singleton, deedsOn_concat]
    by_cases hr : r = ref
    · rw [if_pos hr, if_pos (congrArg some hr), Deed.puts_clear]
    · rw [if_neg hr, if_neg fun h => hr (Option.some.inj h)]

/-- A staged write is one more thing to publish to its shared cache. -/
theorem puts_feeding (ref : ρ) (h : List (ρ × Deed)) (target : Option ρ) (k : Key)
    (out : Output) : Deed.puts (deedsOn ref (h ++ feeding target k (.ok out))) =
      if target = some ref then Deed.puts (deedsOn ref h) ++ [(k, .rows out.rows)]
      else Deed.puts (deedsOn ref h) := by
  rw [feeding]
  cases target with
  | none =>
    rw [Option.toList_none, List.map_nil, List.append_nil]
    rfl
  | some r =>
    rw [Option.toList_some, List.map_singleton, deedsOn_concat]
    by_cases hr : r = ref
    · rw [if_pos hr, if_pos (congrArg some hr), Deed.puts_put]
    · rw [if_neg hr, if_neg fun h => hr (Option.some.inj h)]

/-- What happens stages what it adds to what there is to publish. -/
theorem puts_stages {e : Happening ρ} (he : e.ends = false)
    (hn : Deed.puts (deedsOn ref h) = asWrites news) :
    Deed.puts (deedsOn ref (h ++ e.stages)) = asWrites (e.adds ref news) := by
  have hnone : Deed.puts (deedsOn ref (h ++ [])) = asWrites news := by
    rw [List.append_nil]
    exact hn
  have hclear (st : Statement ρ) : Deed.puts (deedsOn ref (h ++ st.clearing)) =
      asWrites (if st.clears? = some ref then [] else news) := by
    rw [puts_clearing]
    split
    · rfl
    · exact hn
  cases e with
  | told r k o => exact hclear r.statement
  | asked r k => exact hclear r.statement
  | updated st x => exact hclear st
  | answered r k a =>
    cases a with
    | error f => exact hnone
    | ok out =>
      rw [Happening.stages, puts_feeding, Happening.adds]
      split
      · rw [hn, asWrites, asWrites, List.map_append]
        rfl
      · exact hn
  | did a x =>
    rw [Happening.adds, if_neg (by rw [show a.ends = false from he]; exact Bool.false_ne_true)]
    exact hnone
  | others => exact hnone
  | looked => exact hnone
  | refused r => exact hnone

end Transaction

namespace Moment

variable {name : ρ → String} {shared : ρ → Cache σ} {g : Setting ρ (Over (Journal ρ) σ) τ}
  {callers : Caller → Prop}
  {others : Scene ρ (Over (Journal ρ) σ) τ → Scene ρ (Over (Journal ρ) σ) τ → Prop}
  {m m' : Moment ρ (Over (Journal ρ) σ) τ} {e : Happening ρ} {es : List (Happening ρ)}
  {h : List (ρ × Deed)}

/-- With shared caches switched on, the deeds of the transaction are what is staged, and they
are to publish just the news, as long as the session is open. -/
structure Prepared (name : ρ → String) (es : List (Happening ρ)) (h : List (ρ × Deed))
    (m : Moment ρ (Over (Journal ρ) σ) τ) : Prop where
  enabled : m.scene.session.settings.cacheEnabled = true
  feeds : ∀ f ∈ m.frames, f.shared = f.request.feeds?
  reflects : m.scene.session.staged.Reflects name h
  writes : m.scene.session.closed = false →
    ∀ ref, Deed.puts (Transaction.deedsOn ref h) = asWrites (Happening.news ref es)

theorem prepared_opened {settings : SessionSettings} (hon : settings.cacheEnabled = true)
    (talk : Talk ρ τ) (start : Over (Journal ρ) σ) (client : τ) :
    (opened settings talk start client).Prepared name [] [] where
  enabled := hon
  feeds := fun _ hf => nomatch hf
  reflects := Transaction.reflects_empty
  writes := fun _ _ => rfl

omit [DecidableEq ρ] in
/-- A query asks its runner on behalf of the shared cache that it feeds. -/
theorem Step.feeds (hothers : ∀ s s', others s s' → s'.session = s.session)
    (step : Step g callers others m e m') (hon : m.scene.session.settings.cacheEnabled = true)
    (hf : ∀ f ∈ m.frames, f.shared = f.request.feeds?) :
    ∀ f ∈ m'.frames, f.shared = f.request.feeds? := by
  cases step with
  | others moved => exact hf
  | look => exact hf
  | update e => exact hf
  | act hc e => exact hf
  | refuse closed => exact hf
  | tell isOpen e => exact hf
  | answer e => exact fun f hin => hf f (List.mem_cons_of_mem _ hin)
  | @ask fs r y runner next s target s' isOpen e =>
    intro f hin
    rcases List.mem_cons.mp hin with rfl | hin
    · refine Session.cacheFor_feeds ?_ (e.asks hothers).2.2
      rw [(Scene.alike_enter g r.statement { s with client := y }).settings,
        Session.settings_entered]
      exact hon
    · exact hf f hin

variable (hname : Function.Injective name) (hid : ∀ ref s, (shared ref).id s = name ref)
  (hg : g.cache = Journal.caches id shared)
  (hothers : ∀ s s', others s s' → s'.session = s.session ∧ s'.shared.own = s.shared.own)

include hname hid hg hothers

/-- What a step leaves is prepared as what was before. -/
theorem Step.prepared (step : Step g callers others m e m') (hp : m.Prepared name es h) :
    ∃ h', m'.Prepared name (es ++ [e]) h' := by
  have hsession := fun s s' moved => (hothers s s' moved).1
  have hon : m'.scene.session.settings.cacheEnabled = true := by
    rw [step.settings hsession]
    exact hp.enabled
  have hfeeds := step.feeds hsession hp.enabled hp.feeds
  have hwas (hopen : m'.scene.session.closed = false) : m.scene.session.closed = false := by
    cases hm : m.scene.session.closed with
    | false => rfl
    | true => exact Bool.noConfusion (hopen.symm.trans (step.closed hsession hm))
  by_cases he : e.ends = false ∨ m.scene.session.closed = true
  · obtain ⟨ds, d, hds, _⟩ := step.does hname hid hg hothers hp.reflects he
    refine ⟨h ++ ds, hon, hfeeds, d.reflects, fun hopen ref => ?_⟩
    have hno : e.ends = false :=
      he.resolve_right fun hm => Bool.noConfusion (hm.symm.trans (hwas hopen))
    rw [Transaction.puts_stagings, hds hp.enabled (hwas hopen) hp.feeds, Happening.news_concat]
    exact Transaction.puts_stages hno (hp.writes (hwas hopen) ref)
  · obtain ⟨he, hopen⟩ := not_or.mp he
    obtain ⟨a, x, rfl, ha⟩ := Happening.did_of_ends he
    obtain ⟨_, _, _, hstaged⟩ :=
      step.ended hname hg hp.reflects ha (eq_false_of_ne_true hopen)
    -- The next transaction has done nothing yet, and there is no news for it.
    refine ⟨[], hon, hfeeds, ?_, fun _ ref => ?_⟩
    · rw [hstaged]
      exact Transaction.reflects_empty
    · rw [Happening.news_concat, Happening.adds, if_pos ha]
      rfl

theorem Course.prepared {settings : SessionSettings} (hon : settings.cacheEnabled = true)
    {talk : Talk ρ τ} {start : Over (Journal ρ) σ} {client : τ}
    (c : Course g callers others (opened settings talk start client) es m) :
    ∃ h, m.Prepared name es h := by
  induction c with
  | start => exact ⟨[], prepared_opened hon talk start client⟩
  | step c step ih =>
    obtain ⟨h, hp⟩ := ih
    exact step.prepared hname hid hg hothers hp

/-- Between two ends of transactions a session only looks up. A commit writes to each shared
cache the latest rows of every key that runners answered to queries that feed it, since the
transaction began and since the last clear was staged; a rollback writes nothing. -/
theorem published_exactly {settings : SessionSettings} (hon : settings.cacheEnabled = true)
    {talk : Talk ρ τ} {start : Over (Journal ρ) σ} {client : τ}
    (c : Course g callers others (opened settings talk start client) es m)
    (step : Step g callers others m e m') :
    ∃ j, m'.scene.shared.own = m.scene.shared.own ++ j ∧
      (e.ends = false ∨ m.scene.session.closed = true → ∀ x ∈ j, ∃ k, x.call = .get k) ∧
      (m.scene.session.closed = false →
        ∀ r, e = .did .commit r ∨ e = .did (.close false) r → ∀ ref,
          j.calls.filterMap (rowsPut ref) = latest (Happening.news ref es) ∧
            ((latest (Happening.news ref es)).map Prod.fst).Nodup) ∧
      ∀ r, e = .did .rollback r ∨ e = .did (.close true) r →
        ∀ x ∈ j, ∀ k entry, x.call ≠ .put k entry := by
  obtain ⟨h, hp⟩ := c.prepared hname hid hg hothers hon
  by_cases he : e.ends = false ∨ m.scene.session.closed = true
  · obtain ⟨ds, d, _⟩ := step.does hname hid hg hothers hp.reflects he
    refine ⟨_, d.journal, fun _ x hx => Transaction.get_of_mem_lookups hx, ?_, ?_⟩
    · intro hopen r hcommit
      have hno : e.ends = false := he.resolve_right fun hm => Bool.noConfusion (hm.symm.trans hopen)
      rcases hcommit with rfl | rfl <;> exact nomatch hno
    · intro r _ x hx k entry hput
      obtain ⟨k', hget⟩ := Transaction.get_of_mem_lookups hx
      exact nomatch hget.symm.trans hput
  · obtain ⟨hno, hopen⟩ := not_or.mp he
    obtain ⟨a, x, rfl, ha⟩ := Happening.did_of_ends hno
    obtain ⟨j, hj, hcalls, _⟩ :=
      step.ended hname hg hp.reflects ha (eq_false_of_ne_true hopen)
    refine ⟨j, hj, fun hno => absurd hno he, fun hopen r hcommit ref => ⟨?_, nodup_latest _⟩, ?_⟩
    · have hcommits : a.calls h = Transaction.commitCalls h := by
        rcases hcommit with heq | heq <;> cases heq <;> rfl
      rw [hcalls, hcommits]
      exact Transaction.rows_commitCalls (hp.writes hopen ref)
    · intro r hrollback x hx k entry hput
      have hremoves : a.calls h = Transaction.rollbackCalls h := by
        rcases hrollback with heq | heq <;> cases heq <;> rfl
      have hmem : (x.target, x.call) ∈ j.calls := List.mem_map_of_mem hx
      rw [hcalls, hremoves, hput] at hmem
      exact Transaction.put_not_mem_rollbackCalls hmem

end Moment

/-- Two journaled stores, under a client that has nothing to do. -/
def twoJournaled : Setting Bool (Over (Journal Bool) (Bool → Store)) Unit where
  cache := Journal.caches id Transaction.twoStores
  deliver _ _ _ := ()

/-- A query whose runner makes another one, commits and only then answers; and a commit. -/
def committingInside : Talk Bool Unit :=
  .query (leftRequest {}) ()
    (fun _ => .query (leftRequest { hashcode := 1 }) ()
      (fun _ => .finish (.ok { rows := ⟨1, []⟩ }) ())
      fun _ _ => .act .commit () fun _ _ => .finish (.ok { rows := ⟨2, []⟩ }) ())
    fun _ _ => .act .commit () fun _ _ => .finish (.error .closed) ()

namespace Moment

/-- The answer that came after the inner commit is all that the outer one publishes. -/
theorem published_exactly_twice :
    ∃ (m m' : Moment Bool (Over (Journal Bool) (Bool → Store)) Unit) (es : List (Happening Bool))
      (j : Journal Bool),
      Course twoJournaled (fun _ => True) Eq
        (opened {} committingInside ⟨[], fun _ => { name := "" }⟩ ()) es m ∧ es.length = 5 ∧
      Step twoJournaled (fun _ => True) Eq m (.did .commit (.ok ())) m' ∧
      m'.scene.shared.own = m.scene.shared.own ++ j ∧
      j.calls.filterMap (rowsPut false) = [({}, ⟨2, []⟩)] := by
  have begun : Course twoJournaled (fun _ => True) Eq
      (opened {} committingInside ⟨[], fun _ => { name := "" }⟩ ()) [] _ := .start
  have asked := begun.step (.ask rfl (.missed (c := {}) rfl rfl True.intro (.done _) nofun))
  have inside := asked.step (.ask rfl (.missed (c := {}) rfl rfl True.intro (.done _) nofun))
  have told := inside.step (.answer (c := {}) rfl)
  have committed := told.step (.act (c := {}) True.intro rfl)
  have answered := committed.step (.answer (c := {}) rfl)
  obtain ⟨j, hj, _, hputs, _⟩ := published_exactly Transaction.injective_twoStores
    (fun _ _ => rfl) rfl (fun s s' h => by rw [h]; exact ⟨rfl, rfl⟩) rfl answered
    (.act (c := {}) True.intro rfl)
  exact ⟨_, _, _, j, answered, rfl, .act (c := {}) True.intro rfl, hj,
    (hputs rfl _ (.inl rfl) false).1⟩

end Moment

end QueryCache
