import QueryCache.Scenario.World

/-!
# What steps do

What each step of a scenario does to the world, and what it answers. A step that refers to an
object under a name that it does not have is answered so and changes nothing.
-/

namespace QueryCache.Scenario.World

private def unitAnswer : Except CacheFailure Unit → Answer
  | .ok () => .ok
  | .error f => .refused f

private def entryReply (hold : Option String)
    (r : Reply World (Except CacheFailure (Option Entry))) : Reply World Answer :=
  match r.value with
  | .error f => ⟨.refused f, r.state, r.notes⟩
  | .ok e =>
    let w :=
      match e with
      | some (.rows list) => { r.state with desk := r.state.desk.hold hold list }
      | _ => r.state
    ⟨.entry (w.shownAs e), w, r.notes⟩

private def answerNow (a : Answer) (w : World) : Run World Answer := .done ⟨a, w, []⟩

private def layerAnswer (w : World) (ref : Ref) (f : (l : Layer) → l.Own → Option Answer) :
    Answer :=
  match w.shared.stack? ref with
  | none => .unknown "layer"
  | some (t, depth) =>
    match Stack.layer? t.layers t.state depth with
    | none => .unknown "layer"
    | some ⟨l, own⟩ => (f l own).getD (.unknown "layer")

private def capacityOf : (l : Layer) → l.Own → Option Answer
  | .lru, own => let own : Lru := own; some (.number own.capacity.size)
  | .fifo, own => let own : Fifo := own; some (.number own.size)
  | .weak, own => let own : Weak := own; some (.number own.hardLinks)
  | _, _ => none

private def lockCountOf : (l : Layer) → l.Own → Option Answer
  | .blocking, own => let own : Blocking := own; some (.number own.locks.size)
  | _, _ => none

private def timeoutOf : (l : Layer) → l.Own → Option Answer
  | .blocking, own => let own : Blocking := own; some (.time own.timeout)
  | _, _ => none

private def tallyOf : (l : Layer) → l.Own → Option Answer
  | .logging, own => let own : Tally := own; some (.tally own)
  | _, _ => none

private def callsOf : (l : Layer) → l.Own → Option Answer
  | .probe, own => let own : Probe := own; some (.texts (own.calls.map (·.display)))
  | _, _ => none

private def interrupted : (l : Layer) → l.Own → l.Own
  | .blocking, own => Blocking.interrupt own
  | _, own => own

private def emptied : (l : Layer) → l.Own → l.Own
  | .probe, own => let own : Probe := own; { own with calls := [] }
  | _, own => own

private def refusing (op : Refusable) (cause : Option CacheFailure) : (l : Layer) → l.Own → l.Own
  | .probe, own =>
    let own : Probe := own
    match op with
    | .put => { own with put := cause }
    | .get => { own with get := cause }
    | .remove => { own with remove := cause }
    | .clear => { own with clear := cause }
  | _, own => own

/-- A step on a shared cache. -/
def cacheStep (ref : Ref) (step : CacheStep) (c : Caller) (w : World) : Run World Answer :=
  let cache := (Shared.cache ref).within sharedPart
  let withKey (spec : KeySpec) (f : Key → Run World Answer) : Run World Answer :=
    match w.desk.key? spec with
    | some k => f k
    | none => answerNow (.unknown "key") w
  let onLayer (f : (l : Layer) → l.Own → l.Own) (a : Answer) : Run World Answer :=
    answerNow a { w with shared := w.shared.modifyLayer f ref }
  match step with
  | .put spec value =>
    withKey spec fun k =>
      match w.desk.entry? value with
      | none => answerNow (.unknown "rows") w
      | some (e, desk) => .done ((cache.put c k e { w with desk }).map unitAnswer)
  | .get spec hold => withKey spec fun k => (cache.get c k w).mapReply (entryReply hold)
  | .remove spec => withKey spec fun k => .done (entryReply none (cache.remove c k w))
  | .clear => .done ((cache.clear c w).map unitAnswer)
  | .size => .done ((cache.size c w).map .number)
  | .id => answerNow (.text (cache.id w)) w
  | .describe => answerNow (.text (w.shared.describe ref)) w
  | .contains spec =>
    withKey spec fun k =>
      answerNow (match w.shared.stack? ref with
        | some (t, _) => .truth ((Stack.store t.layers t.state).entries.contains k)
        | none => .unknown "layer") w
  | .capacity => answerNow (w.layerAnswer ref capacityOf) w
  | .setCapacity n =>
    .done ((sharedPart.reply c w fun c s => s.setCapacity c n ref).map unitAnswer)
  | .lockCount => answerNow (w.layerAnswer ref lockCountOf) w
  | .timeout => answerNow (w.layerAnswer ref timeoutOf) w
  | .interrupt => onLayer interrupted .ok
  | .stats => answerNow (w.layerAnswer ref tallyOf) w
  | .refuse op cause => onLayer (refusing op cause) .ok
  | .calls => onLayer emptied (w.layerAnswer ref callsOf)
  | .commit => .done ((sharedPart.reply c w fun c s => s.commit c ref).map unitAnswer)
  | .rollback => .done ((sharedPart.reply c w fun c s => s.rollback c ref).map fun _ => .ok)
  | .pending =>
    answerNow (match w.shared.pending? ref with
      | some p => .pending p (cache.id w)
      | none => .unknown "layer") w

/-- A step on a transaction. -/
def transactionStep (i : Nat) (step : TransactionStep) (c : Caller) (w : World) :
    Run World Answer :=
  let part := transactionPart i
  let withCache (cache : String) (f : Ref → Run World Answer) : Run World Answer :=
    match w.cache? cache with
    | some ref => f ref
    | none => answerNow (.unknown cache) w
  let withKey (spec : KeySpec) (f : Key → Run World Answer) : Run World Answer :=
    match w.desk.key? spec with
    | some k => f k
    | none => answerNow (.unknown "key") w
  match step with
  | .get cache spec hold =>
    withCache cache fun ref => withKey spec fun k =>
      (part.run c w fun c s => Transaction.get Shared.cache c ref k s).mapReply (entryReply hold)
  | .put cache spec value =>
    withCache cache fun ref => withKey spec fun k =>
      match w.desk.entry? value with
      | none => answerNow (.unknown "rows") w
      | some (e, desk) =>
        let w := { w with desk }
        answerNow .ok (part.place (Transaction.put Shared.cache ref k e (part.view w)) w)
  | .clear cache =>
    withCache cache fun ref =>
      answerNow .ok (part.place (Transaction.clear Shared.cache ref (part.view w)) w)
  | .commit => .done ((part.reply c w (Transaction.commitAll Shared.cache)).map unitAnswer)
  | .rollback => .done ((part.reply c w (Transaction.rollbackAll Shared.cache)).map fun _ => .ok)
  | .count => answerNow (.number (part.view w).own.size) w

/-- A step on a registry. -/
def registryStep (index : Nat) (step : RegistryStep) (c : Caller) (w : World) : Run World Answer :=
  let on {α : Type} (f : Caller → Registry → Reply Registry α) : Reply World α :=
    sharedPart.reply c w fun c s => s.onRegistry index c f
  let registry := (w.shared.registries[index]?).getD {}
  match step with
  | .provide ns as =>
    let r := on fun _ r => r.provide ns
    let ref := Ref.registered index ns
    let w := r.state
    let w :=
      match as with
      | some n => w.bind n (.cache ref)
      | none => w
    .done ⟨.text (w.shared.name ref), w, r.notes⟩
  | .find ns as =>
    let ref := Ref.registered index ns
    answerNow (match registry.get? ns with
      | none => .missing
      | some _ =>
        .found (w.shared.name ref) (w.shared.describe ref)
          (as.bind w.cache? |>.map (· = ref))) w
  | .namespaces => answerNow (.texts registry.namespaces) w
  | .profileOf ns => answerNow (.profile (registry.profileOf ns)) w
  | .clearAll => .done ((on Registry.clearAll).map unitAnswer)

/-- A step of a session. -/
def sessionStep (i : Nat) (step : SessionStep) (c : Caller) (w : World) : Run World Answer :=
  let talk (d : Desk) : Talk Ref Desk :=
    step.talk w.caches (runQuery w.caches nestingLimit) d fun answer d =>
      .finish (.error .closed) { d with answer }
  let part := scenePart i
  (part.run c w fun c s => Scene.converse setting (talk s.client) c s).mapReply fun r =>
    ⟨r.state.desk.answer, r.state, r.notes⟩

private def LayerSpec.push (t : Stack) : LayerSpec → Stack
  | .lru capacity => t.push .lru { capacity }
  | .fifo size => t.push .fifo { size }
  | .weak hardLinks => t.push .weak { hardLinks }
  | .logging => t.push .logging {}
  | .blocking timeout => t.push .blocking (.withTimeout timeout)
  | .probe => t.push .probe {}

private def addStack (as : String) (sublayers : Bool) (t : Stack) (w : World) : World :=
  let i := w.shared.standalone.length
  let depth := t.layers.length
  let names := if sublayers then
      (List.range (depth + 1)).map fun n => (as ++ "." ++ toString n, Ref.stack i (depth - n))
    else []
  ((as, Ref.stack i 0) :: names).foldl (fun w e => w.bind e.1 (.cache e.2))
    { w with shared := { w.shared with standalone := w.shared.standalone ++ [t] } }

/-- A step of a scenario, other than waiting for a thread. -/
def step (s : Step) (c : Caller) (counters : Counters) (w : World) : Run World Answer :=
  match s with
  | .hold as rows =>
    let (list, desk) := w.desk.list rows
    answerNow .ok { w with desk := desk.hold (some as) list }
  | .drop name =>
    answerNow (.truth (w.desk.held.contains name))
      { w with desk := { w.desk with held := w.desk.held.erase name } }
  | .dropObject name =>
    answerNow (.truth (w.number? name).isSome) (w.unbind name)
  | .same a b =>
    answerNow (match w.desk.held.get? a, w.desk.held.get? b with
      | some x, some y => .truth (x.id = y.id)
      | _, _ => .unknown "rows") w
  | .keysAgree a b =>
    answerNow (match w.desk.key? a, w.desk.key? b with
      | some x, some y => .truth (x.agrees y)
      | _, _ => .unknown "key") w
  | .describe name =>
    answerNow (match w.describe? name with
      | some text => .text text
      | none => .unknown name) w
  | .counters => answerNow (.counters counters) w
  | .stack as id layers =>
    let t := layers.foldl LayerSpec.push (Stack.ofStore id)
    answerNow (.text (t.describe 0)) (w.addStack as true t)
  | .build as id profile =>
    let t := profile.build id
    answerNow (.text (t.describe 0)) (w.addStack as false t)
  | .staged as on =>
    match w.cache? on with
    | none => answerNow (.unknown on) w
    | some target =>
      let ref := Ref.staged w.shared.pendings.length target
      let w : World := { w with shared := { w.shared with pendings := w.shared.pendings ++ [{}] } }
      answerNow .ok (w.bind as (.cache ref))
  | .transaction as => answerNow .ok (w.bind as (.transaction {}))
  | .registry as standard overrides =>
    let i := w.shared.registries.length
    let w : World := { w with shared := { w.shared with
      registries := w.shared.registries ++ [{ standard, overrides }] } }
    answerNow .ok (w.bind as (.registry i))
  | .connect as settings => answerNow (.settings settings) (w.bind as (.session { settings }))
  | .plans plans => answerNow .ok { w with desk := { w.desk with plans } }
  | .onCache name s =>
    match w.cache? name with
    | some ref => cacheStep ref s c w
    | none => answerNow (.unknown name) w
  | .onTransaction name s =>
    match w.number? name, w.object? name with
    | some i, some (.transaction _) => transactionStep i s c w
    | _, _ => answerNow (.unknown name) w
  | .onRegistry name s =>
    match w.object? name with
    | some (.registry i) => registryStep i s c w
    | _ => answerNow (.unknown name) w
  | .onSession name s =>
    match w.number? name, w.object? name with
    | some i, some (.session _) => sessionStep i s c w
    | _, _ => answerNow (.unknown name) w
  | .join _ => answerNow .ok w

end QueryCache.Scenario.World
