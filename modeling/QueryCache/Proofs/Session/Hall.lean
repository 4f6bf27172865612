import Mathlib.Logic.Function.Basic
import QueryCache.Proofs.Session.Stretch
import QueryCache.Proofs.Staging.Calls
import QueryCache.Stack

/-!
# Several sessions over one stack

Any number of sessions share one stack behind a journal, in which every call stands under
the session that made it. A session is given whole errands, one at a time. An errand that
has to wait for a key gives way to the errands of others and is resumed in a later turn.

Row lists are numbered in the order in which runners answer them, whoever asked.
-/

namespace QueryCache

/-- The client of several sessions: how many row lists runners have answered, how often each
session was asked to drop what it had staged, and what the runners keep for themselves. -/
structure Counted (ι κ : Type) where
  answered : Nat := 0
  withdrawn : ι → Nat := fun _ => 0
  own : κ

variable {ι κ : Type} [DecidableEq ι]

namespace Counted

/-- Count an act that drops staged work. -/
def heed (i : ι) (a : Act) (x : Counted ι κ) : Counted ι κ :=
  if a.withdraws then
    { x with withdrawn := Function.update x.withdrawn i (x.withdrawn i + 1) }
  else x

/-- What a runner does to its own part. -/
def onOwn {α : Type} (f : κ → α × κ) (x : Counted ι κ) : α × Counted ι κ :=
  ((f x.own).1, { x with own := (f x.own).2 })

/-- Numbers only grow, and that of an act that drops staged work does grow. -/
structure Step (i : ι) (a? : Option Act) (x y : Counted ι κ) : Prop where
  answered : x.answered ≤ y.answered
  withdrawn : ∀ j, x.withdrawn j ≤ y.withdrawn j
  heeded : ∀ a, a? = some a → a.withdraws = true → x.withdrawn i < y.withdrawn i

/-- A row list with a number that had not been given yet. -/
def Fresh (x : Counted ι κ) (list : RowList) : Prop := x.answered ≤ list.id

omit [DecidableEq ι] in
/-- The runners' own part does not count. -/
theorem step_own (i : ι) (x : Counted ι κ) (y : κ) : Step i none x { x with own := y } :=
  ⟨Nat.le_refl _, fun _ => Nat.le_refl _, nofun⟩

theorem step_heed (i : ι) (a : Act) (x : Counted ι κ) (y : κ) :
    Step i (some a) x (heed i a { x with own := y }) := by
  unfold heed
  split
  · next hw =>
    refine ⟨Nat.le_refl _, ?_, ?_⟩
    · intro j
      by_cases hj : j = i
      · subst hj
        simp only [Function.update_self]
        omega
      · simp only [Function.update_of_ne hj]
        omega
    · intro b hb _
      simp only [Function.update_self]
      omega
  · next hw =>
    refine ⟨Nat.le_refl _, fun _ => Nat.le_refl _, ?_⟩
    intro b hb hwb
    injection hb with hb
    exact absurd (hb ▸ hwb) hw

end Counted

/-- A conversation whose answer is numbered and whose acts are counted. -/
def Talk.counted (i : ι) : Talk Unit κ → Counted ι κ → Talk Unit (Counted ι κ)
  | .finish (.error f) y, x => .finish (.error f) { x with own := y }
  | .finish (.ok out) y, x =>
    .finish (.ok { out with rows := ⟨x.answered, out.rows.rows⟩ })
      { x with answered := x.answered + 1, own := y }
  | .query r y runner next, x =>
    .query r { x with own := y } (fun z => (runner z.own).counted i z)
      fun o z => (next o z.own).counted i z
  | .update st y runner next, x =>
    .update st { x with own := y } (Counted.onOwn runner) fun a z => (next a z.own).counted i z
  | .act a y next, x =>
    .act a (Counted.heed i a { x with own := y }) fun e z => (next e z.own).counted i z
  | .look y next, x => .look { x with own := y } fun w z => (next w z.own).counted i z

/-- A counted conversation only counts, and its answer has a number of its own. -/
theorem Talk.obeys_counted (i : ι) (t : Talk Unit κ) (x : Counted ι κ) :
    (t.counted i x).Obeys (Counted.Step i) Counted.Fresh x := by
  induction t generalizing x with
  | finish answer y =>
    cases answer with
    | error f => exact ⟨Counted.step_own i x y, nofun⟩
    | ok out =>
      refine ⟨⟨Nat.le_succ _, fun _ => Nat.le_refl _, nofun⟩, ?_⟩
      intro out' hout
      injection hout with hout
      subst hout
      exact Nat.le_refl _
  | query r y runner next ihr ihn =>
    exact ⟨Counted.step_own i x y, fun z => ihr z.own z, fun o z => ihn o z.own z⟩
  | update st y runner next ihn =>
    exact ⟨Counted.step_own i x y, fun z => Counted.step_own i z _, fun a z => ihn a z.own z⟩
  | act a y next ihn => exact ⟨Counted.step_heed i a x y, fun e z => ihn e z.own z⟩
  | look y next ihn => exact ⟨Counted.step_own i x y, fun w z => ihn w z.own z⟩

/-- How the rows of a deferred load reach the client, and which row lists it keeps alive. -/
structure Customs (κ : Type) where
  deliver : String → RowList → κ → κ
  keeps : κ → RowsId → Bool

/-- The stack behind the journal. -/
abbrev Ledger (ι : Type) (ls : List Layer) := Over (Journal ι) (Stack.State ls)

/-- What one session sees: its calls go down in the journal under its name. -/
def Customs.setting (u : Customs κ) (ls : List Layer) (i : ι) :
    Setting Unit (Ledger ι ls) (Counted ι κ) where
  cache := Journal.caches (fun _ => i) fun _ => Stack.cache ls
  deliver label list x := { x with own := u.deliver label list x.own }
  keeps x := u.keeps x.own

/-- A scene of one of the sessions. -/
abbrev Stage (ι κ : Type) (ls : List Layer) := Scene Unit (Ledger ι ls) (Counted ι κ)

/-- What a session is asked from outside. -/
inductive Errand (κ : Type) where
  | query (request : Request Unit) (runner : κ → Talk Unit κ)
  | update (statement : Statement Unit) (runner : κ → Except Failure Nat × κ)
  | act (a : Act)

/-- Carry out an errand. -/
def Errand.run (u : Customs κ) {ls : List Layer} (i : ι) (c : Caller) (s : Stage ι κ ls) :
    Errand κ → Run (Stage ι κ ls) Unit
  | .query r runner =>
    (Scene.queryWith (u.setting ls i) (fun x => (runner x.own).counted i x) r c s).mapReply
      (·.map fun _ => ())
  | .update st runner =>
    .done ((Scene.update (u.setting ls i) (Counted.onOwn runner) st s).map fun _ => ())
  | .act a =>
    .done ((Scene.perform (u.setting ls i) c a { s with client := s.client.heed i a }).map
      fun _ => ())

/-- Sessions over one stack, with the errands that wait. -/
structure Hall (ι κ : Type) (ls : List Layer) where
  sessions : ι → Session Unit
  shared : Ledger ι ls
  client : Counted ι κ
  waiting : ι → Option (Run (Stage ι κ ls) Unit) := fun _ => none

namespace Hall

variable {ls : List Layer}

/-- The scene of a session. -/
def scene (h : Hall ι κ ls) (i : ι) : Stage ι κ ls := ⟨h.sessions i, h.shared, h.client⟩

/-- Put back the scene in which a session has stopped. An errand that has not ended waits. -/
def settle (h : Hall ι κ ls) (i : ι) (run : Run (Stage ι κ ls) Unit) : Hall ι κ ls where
  sessions := Function.update h.sessions i run.state.session
  shared := run.state.shared
  client := run.state.client
  waiting := Function.update h.waiting i (if run.reply?.isSome then none else some run)

/-- A session begins an errand, or goes on with the one that waits. -/
inductive Turn (ι κ : Type) where
  | start (who : ι) (caller : Caller) (errand : Errand κ)
  | resume (who : ι) (caller : Caller)

/-- Let a session have its turn. Nothing happens while it waits for something that has not
come. -/
def turn (u : Customs κ) (h : Hall ι κ ls) : Turn ι κ → Hall ι κ ls
  | .start i c errand =>
    match h.waiting i with
    | some _ => h
    | none => h.settle i (errand.run u i c (h.scene i))
  | .resume i c =>
    match h.waiting i with
    | some (.wait _ _ _ ready resume) =>
      if come : ready c (h.scene i) = true then h.settle i (resume c (h.scene i) come) else h
    | _ => h

/-- Let sessions have their turns, in order. -/
def run (u : Customs κ) (h : Hall ι κ ls) (turns : List (Turn ι κ)) : Hall ι κ ls :=
  turns.foldl (turn u) h

/-- New sessions over a stack that nobody has used. -/
def opened (settings : ι → SessionSettings) (stack : Stack.State ls) (own : κ) :
    Hall ι κ ls where
  sessions i := { settings := settings i }
  shared := ⟨[], stack⟩
  client := { own }

end Hall

end QueryCache
