import Mathlib
import QueryCache.Proofs.Config.Names

/-!
# Which source wins

Nine settings have a variable, a key in the file and a default, and they win in this order.
`Effective` says so for each of them. `Faulty` lists what a configuration is refused for: names
that stand for nothing, wherever they stand, and a stack without room, for which the size and the
policy may come from different sources. `refused_iff_faulty_and_effective` says that loading and
building refuses the faulty configurations and gives every other one its effective settings.

Both speak of what the texts of a configuration mean, and not of the functions that read them.
-/

namespace QueryCache

namespace Config

variable {α : Type}

/-! ### Sources -/

/-- A key in the file that is there. -/
def Given (field : Option α) (a : α) : Prop := field = some a

theorem given_iff (field : Option α) (a : α) : field = some a ↔ Given field a := Iff.rfl

/-- A source holds a text, and this stands for a value. -/
def Conveys (source : String → Prop) (means : String → α → Prop) (a : α) : Prop :=
  ∃ s, source s ∧ means s a

/-- A source holds a text, and this stands for nothing. -/
def Meaningless (source : String → Prop) (means : String → α → Prop) : Prop :=
  ∃ s, source s ∧ ∀ a, ¬ means s a

/-- What a setting comes to: what the source of its own says, else what the one behind that says,
else the default. -/
inductive Settles (own behind : α → Prop) (standard : α) : α → Prop
  | own {a : α} (h : own a) : Settles own behind standard a
  | behind {a : α} (hown : ∀ b, ¬ own b) (h : behind a) : Settles own behind standard a
  | standard (hown : ∀ b, ¬ own b) (hbehind : ∀ b, ¬ behind b) :
    Settles own behind standard standard

section

variable {own behind : α → Prop} {ofOwn ofBehind : Option α}

private theorem eq_none_of_forall_not (ho : ∀ a, ofOwn = some a ↔ own a) (h : ∀ a, ¬ own a) :
    ofOwn = none :=
  Option.eq_none_iff_forall_ne_some.mpr fun a ha => h a ((ho a).mp ha)

/-- With sources that say one thing at most a setting comes to just one value. -/
theorem settles_iff (ho : ∀ a, ofOwn = some a ↔ own a) (hb : ∀ a, ofBehind = some a ↔ behind a)
    {standard a : α} :
    Settles own behind standard a ↔ a = ofOwn.getD (ofBehind.getD standard) := by
  constructor
  · intro h
    cases h with
    | own h => rw [(ho a).mpr h, Option.getD_some]
    | behind hown h =>
      rw [eq_none_of_forall_not ho hown, (hb a).mpr h, Option.getD_none, Option.getD_some]
    | standard hown hbehind =>
      rw [eq_none_of_forall_not ho hown, eq_none_of_forall_not hb hbehind, Option.getD_none,
        Option.getD_none]
  · rintro rfl
    cases hown : ofOwn with
    | some a => exact .own ((ho a).mp hown)
    | none =>
      have hno : ∀ b, ¬ own b := fun b hb' => by simp [(ho b).mpr hb'] at hown
      cases hbehind : ofBehind with
      | some a => exact .behind hno ((hb a).mp hbehind)
      | none => exact .standard hno fun b hb' => by simp [(hb b).mpr hb'] at hbehind

end

section

variable {source : String → Prop} {means : String → α → Prop} {text : Option String}

/-- What a text is read as is what its source conveys. -/
theorem bind_eq_some_iff_conveys {read : String → Option α}
    (hs : ∀ s, text = some s ↔ source s) (hr : ∀ s a, read s = some a ↔ means s a) (a : α) :
    text.bind read = some a ↔ Conveys source means a := by
  simp only [Option.bind_eq_some_iff, hs, hr]
  rfl

variable {parse : String → Except String α}

/-- What a name is read as is what its source conveys. -/
theorem meaning?_eq_some_iff (hs : ∀ s, text = some s ↔ source s)
    (hp : ∀ s a, parse s = .ok a ↔ means s a) (a : α) :
    meaning? parse text = some a ↔ Conveys source means a := by
  refine bind_eq_some_iff_conveys hs (fun s a => ?_) a
  rw [← hp]
  cases parse s <;> simp [Except.toOption]

theorem unknown_iff_meaningless (hs : ∀ s, text = some s ↔ source s)
    (hp : ∀ s a, parse s = .ok a ↔ means s a) : Unknown parse text ↔ Meaningless source means := by
  simp only [Unknown, ne_eq, hs, hp]
  rfl

end

/-! ### Settings -/

section

variable (f : File) (v : Variables)

/-- The policy of the default stack. -/
def StandardEviction : Eviction → Prop :=
  Settles (Conveys (v.Says "SQLMAP_CACHE_EVICTION") (Text.Denotes Eviction.words))
    (Conveys (Given (f.profile.bind (·.eviction))) (Text.Denotes Eviction.words)) .lru

/-- The size of the default stack. -/
def StandardSize : Nat → Prop :=
  Settles (Conveys (v.Says "SQLMAP_CACHE_SIZE") Text.Numeral)
    (Given (f.profile.bind (·.size))) 1024

/-- The policy of a namespace with a section. -/
def SectionEviction (s : ProfileSection) : Eviction → Prop :=
  Settles (Conveys (Given s.eviction) (Text.Denotes Eviction.words))
    (Conveys (Given (f.profile.bind (·.eviction))) (Text.Denotes Eviction.words)) .lru

/-- The size of a namespace with a section. -/
def SectionSize (s : ProfileSection) : Nat → Prop :=
  Settles (Given s.size) (Given (f.profile.bind (·.size))) 1024

/-- What a configuration is refused for. -/
inductive Faulty : Prop
  | fileScope
      (h : Meaningless (Given (f.session.bind (·.scope))) (Text.Denotes Scope.words))
  | fileEviction
      (h : Meaningless (Given (f.profile.bind (·.eviction))) (Text.Denotes Eviction.words))
  | sectionEviction (ns : String) (s : ProfileSection) (hs : f.namespaces.get? ns = some s)
      (h : Meaningless (Given s.eviction) (Text.Denotes Eviction.words))
  | variableScope
      (h : Meaningless (v.Says "SQLMAP_LOCAL_CACHE_SCOPE") (Text.Denotes Scope.words))
  | variableEviction
      (h : Meaningless (v.Says "SQLMAP_CACHE_EVICTION") (Text.Denotes Eviction.words))
  | standardRoom (e : Eviction) (he : StandardEviction f v e) (hneeds : e.NeedsRoom)
      (hsize : StandardSize f v 0)
  | sectionRoom (ns : String) (s : ProfileSection) (hs : f.namespaces.get? ns = some s)
      (e : Eviction) (he : SectionEviction f s e) (hneeds : e.NeedsRoom)
      (hsize : SectionSize f s 0)

/-- Every setting of a configuration is what the variables, the file and the defaults come to. -/
structure Effective (c : Config) : Prop where
  cacheEnabled :
    Settles (Conveys (v.Says "SQLMAP_CACHE_ENABLED") Text.Switches)
      (Given (f.session.bind (·.cacheEnabled))) true c.session.cacheEnabled
  scope :
    Settles (Conveys (v.Says "SQLMAP_LOCAL_CACHE_SCOPE") (Text.Denotes Scope.words))
      (Conveys (Given (f.session.bind (·.scope))) (Text.Denotes Scope.words))
      .session c.session.scope
  /-- An empty name in the variable asks for no environment, whatever the file says. -/
  environment :
    Settles (Conveys (v.Says "SQLMAP_ENVIRONMENT") fun s e =>
        (if s = "" then none else some s) = e)
      (Conveys (Given (f.session.bind (·.environment))) fun s e => some s = e)
      none c.session.environment
  logLevel :
    ∃ level, Settles (v.Says "RUST_LOG") (Given (f.log.bind (·.level))) "" level ∧
      c.log.level = if level = "" then "info" else level
  jsonLogs :
    Settles (Conveys (v.Says "SQLMAP_JSON_LOGS") Text.Switches)
      (Given (f.log.bind (·.json))) false c.log.json
  eviction : StandardEviction f v c.standard.eviction
  size : StandardSize f v c.standard.size
  blocking :
    Settles (Conveys (v.Says "SQLMAP_CACHE_BLOCKING") Text.Switches)
      (Given (f.profile.bind (·.blocking))) false c.standard.blocking
  /-- Zero milliseconds are no limit. -/
  timeout :
    ∃ n, Settles (Conveys (v.Says "SQLMAP_CACHE_BLOCKING_TIMEOUT_MS") Text.Numeral)
        (Given (f.profile.bind (·.timeout))) 0 n ∧
      c.standard.timeout = if n = 0 then none else some (.ofMillis n)

end

/-! ### The settings of a draft -/

section

variable {f : File} {v : Variables}

private theorem base_eviction :
    f.base.eviction = (meaning? Eviction.parse (f.profile.bind (·.eviction))).getD .lru := by
  unfold File.base
  cases f.profile <;> rfl

private theorem base_size : f.base.size = (f.profile.bind (·.size)).getD 1024 := by
  unfold File.base
  cases f.profile <;> rfl

private theorem base_blocking : f.base.blocking = (f.profile.bind (·.blocking)).getD false := by
  unfold File.base
  cases f.profile <;> rfl

private theorem base_timeout :
    f.base.timeout = ((f.profile.bind (·.timeout)).map limitOfMillis).getD none := by
  unfold File.base
  cases f.profile <;> rfl

/-- The state that a variable gives a switch. -/
theorem switch?_eq_some_iff (name : String) (on : Bool) :
    v.switch? name = some on ↔ Conveys (v.Says name) Text.Switches on := by
  simp only [Variables.switch?, Option.map_eq_some_iff, Variables.text?_eq_some_iff,
    Variables.isOn_eq_iff]
  rfl

/-- The count that a variable holds. -/
theorem count?_eq_some_iff (name : String) (n : Nat) :
    v.count? name = some n ↔ Conveys (v.Says name) Text.Numeral n :=
  bind_eq_some_iff_conveys (v.text?_eq_some_iff name) Text.count?_eq_some_iff_numeral n

/-- The scope that a source names. -/
theorem scope_eq_some_iff {text : Option String} {source : String → Prop}
    (hs : ∀ s, text = some s ↔ source s) (a : Scope) :
    meaning? Scope.parse text = some a ↔ Conveys source (Text.Denotes Scope.words) a :=
  meaning?_eq_some_iff hs Scope.parse_eq_ok_iff a

/-- The policy that a source names. -/
theorem eviction_eq_some_iff {text : Option String} {source : String → Prop}
    (hs : ∀ s, text = some s ↔ source s) (e : Eviction) :
    meaning? Eviction.parse text = some e ↔ Conveys source (Text.Denotes Eviction.words) e :=
  meaning?_eq_some_iff hs Eviction.parse_eq_ok_iff e

/-- The scope of the sessions. -/
theorem scope_iff {a : Scope} :
    Settles (Conveys (v.Says "SQLMAP_LOCAL_CACHE_SCOPE") (Text.Denotes Scope.words))
        (Conveys (Given (f.session.bind (·.scope))) (Text.Denotes Scope.words)) .session a ↔
      a = (v.laidOver f.draft).session.scope :=
  settles_iff (scope_eq_some_iff (v.text?_eq_some_iff _)) (scope_eq_some_iff (given_iff _))

/-- The size and the policy that the variables leave the default stack. -/
theorem standardEviction_iff {e : Eviction} :
    StandardEviction f v e ↔ e = (v.laidOver f.draft).standard.eviction := by
  show _ ↔ e = (meaning? _ _).getD f.base.eviction
  rw [base_eviction]
  exact settles_iff (eviction_eq_some_iff (v.text?_eq_some_iff _))
    (eviction_eq_some_iff (given_iff _))

theorem standardSize_iff {n : Nat} :
    StandardSize f v n ↔ n = (v.laidOver f.draft).standard.size := by
  show _ ↔ n = (v.count? _).getD f.base.size
  rw [base_size]
  exact settles_iff (count?_eq_some_iff _) (given_iff _)

/-- The size and the policy that the section of a namespace comes to. -/
theorem sectionEviction_iff {s : ProfileSection} {e : Eviction} :
    SectionEviction f s e ↔ e = (s.laidOver f.base).eviction := by
  show _ ↔ e = (meaning? _ _).getD f.base.eviction
  rw [base_eviction]
  exact settles_iff (eviction_eq_some_iff (given_iff _)) (eviction_eq_some_iff (given_iff _))

theorem sectionSize_iff {s : ProfileSection} {n : Nat} :
    SectionSize f s n ↔ n = (s.laidOver f.base).size := by
  show _ ↔ n = s.size.getD f.base.size
  rw [base_size]
  exact settles_iff (given_iff _) (given_iff _)

/-- The default stack is left without room by its policy and its size, wherever these come
from. -/
theorem standard_hasNoRoom_iff :
    (v.laidOver f.draft).standard.hasNoRoom = true ↔
      ∃ e, StandardEviction f v e ∧ e.NeedsRoom ∧ StandardSize f v 0 := by
  simp only [Profile.hasNoRoom_iff, standardEviction_iff, standardSize_iff, exists_eq_left,
    @eq_comm _ 0]

/-- So is the stack of a section. -/
theorem section_hasNoRoom_iff {s : ProfileSection} :
    (s.laidOver f.base).hasNoRoom = true ↔
      ∃ e, SectionEviction f s e ∧ e.NeedsRoom ∧ SectionSize f s 0 := by
  simp only [Profile.hasNoRoom_iff, sectionEviction_iff, sectionSize_iff, exists_eq_left,
    @eq_comm _ 0]

/-- Some stack of a configuration has no room just if the default one or that of a section has
none. -/
theorem cramped_iff (hn : f.namespaces.keys.Nodup) :
    (v.laidOver f.draft).Cramped ↔
      (v.laidOver f.draft).standard.hasNoRoom = true ∨
        ∃ ns s, f.namespaces.get? ns = some s ∧ (s.laidOver f.base).hasNoRoom = true := by
  apply or_congr_right
  constructor
  · rintro ⟨e, he, hroom⟩
    obtain ⟨entry, hentry, rfl⟩ := List.mem_map.mp he
    exact ⟨entry.1, entry.2, Table.get?_of_mem_entries hn hentry, hroom⟩
  · rintro ⟨ns, s, hs, hroom⟩
    exact ⟨(ns, s.laidOver f.base), List.mem_map.mpr ⟨(ns, s), Table.mem_entries_of_get? hs, rfl⟩,
      hroom⟩

/-! ### Names without a meaning -/

theorem unknown_scope_iff {text : Option String} {source : String → Prop}
    (hs : ∀ s, text = some s ↔ source s) :
    Unknown Scope.parse text ↔ Meaningless source (Text.Denotes Scope.words) :=
  unknown_iff_meaningless hs Scope.parse_eq_ok_iff

theorem unknown_eviction_iff {text : Option String} {source : String → Prop}
    (hs : ∀ s, text = some s ↔ source s) :
    Unknown Eviction.parse text ↔ Meaningless source (Text.Denotes Eviction.words) :=
  unknown_iff_meaningless hs Eviction.parse_eq_ok_iff

/-- A configuration is faulty just if a name in it stands for nothing or a stack of it is left
without room. -/
theorem faulty_iff (hn : f.namespaces.keys.Nodup) :
    Faulty f v ↔ f.Misnamed ∨ v.Misnamed ∨ (v.laidOver f.draft).Cramped := by
  have hheld := v.text?_eq_some_iff
  rw [cramped_iff hn, standard_hasNoRoom_iff]
  constructor
  · intro h
    cases h with
    | fileScope h => exact .inl (.inl ((unknown_scope_iff (given_iff _)).mpr h))
    | fileEviction h => exact .inl (.inr (.inl ((unknown_eviction_iff (given_iff _)).mpr h)))
    | sectionEviction ns s hs h =>
      exact .inl (.inr (.inr ⟨(ns, s), Table.mem_entries_of_get? hs,
        (unknown_eviction_iff (given_iff _)).mpr h⟩))
    | variableScope h => exact .inr (.inl (.inl ((unknown_scope_iff (hheld _)).mpr h)))
    | variableEviction h => exact .inr (.inl (.inr ((unknown_eviction_iff (hheld _)).mpr h)))
    | standardRoom e he hneeds hsize => exact .inr (.inr (.inl ⟨e, he, hneeds, hsize⟩))
    | sectionRoom ns s hs e he hneeds hsize =>
      exact .inr (.inr (.inr ⟨ns, s, hs, section_hasNoRoom_iff.mpr ⟨e, he, hneeds, hsize⟩⟩))
  · rintro ((h | h | ⟨e, he, h⟩) | (h | h) | ⟨e, he, hneeds, hsize⟩ | ⟨ns, s, hs, hroom⟩)
    · exact .fileScope ((unknown_scope_iff (given_iff _)).mp h)
    · exact .fileEviction ((unknown_eviction_iff (given_iff _)).mp h)
    · exact .sectionEviction e.1 e.2 (Table.get?_of_mem_entries hn he)
        ((unknown_eviction_iff (given_iff _)).mp h)
    · exact .variableScope ((unknown_scope_iff (hheld _)).mp h)
    · exact .variableEviction ((unknown_eviction_iff (hheld _)).mp h)
    · exact .standardRoom e he hneeds hsize
    · obtain ⟨e, he, hneeds, hsize⟩ := section_hasNoRoom_iff.mp hroom
      exact .sectionRoom ns s hs e he hneeds hsize

/-- The settings of the checked draft. -/
theorem effective_checked : Effective f v (v.laidOver f.draft).checked where
  cacheEnabled := (settles_iff (switch?_eq_some_iff _) (given_iff _)).mpr rfl
  scope := scope_iff.mpr rfl
  environment := by
    have hown (e : Option String) : v.environment? = some e ↔
        Conveys (v.Says "SQLMAP_ENVIRONMENT") (fun s e =>
          (if s = "" then none else some s) = e) e := by
      simp only [Variables.environment?, Option.map_eq_some_iff, Variables.text?_eq_some_iff]
      rfl
    have hfile (e : Option String) : (f.session.bind (·.environment)).map some = some e ↔
        Conveys (Given (f.session.bind (·.environment))) (fun s e => some s = e) e :=
      Option.map_eq_some_iff
    refine (settles_iff hown hfile).mpr ?_
    show v.environment?.getD (f.session.bind (·.environment)) = _
    cases f.session.bind (·.environment) <;> rfl
  logLevel := ⟨_, (settles_iff (v.text?_eq_some_iff _) (given_iff _)).mpr rfl, rfl⟩
  jsonLogs := (settles_iff (switch?_eq_some_iff _) (given_iff _)).mpr rfl
  eviction := standardEviction_iff.mpr rfl
  size := standardSize_iff.mpr rfl
  blocking := by
    refine (settles_iff (switch?_eq_some_iff _) (given_iff _)).mpr ?_
    show (v.switch? _).getD f.base.blocking = _
    rw [base_blocking]
  timeout := by
    refine ⟨_, (settles_iff (count?_eq_some_iff _) (given_iff _)).mpr rfl, ?_⟩
    show ((v.count? _).map limitOfMillis).getD f.base.timeout = _
    rw [base_timeout]
    cases v.count? "SQLMAP_CACHE_BLOCKING_TIMEOUT_MS" with
    | some n => rfl
    | none => cases f.profile.bind (·.timeout) <;> rfl

/-- Loading and building refuses the faulty configurations, and no others. What it does not
refuse has its effective settings. -/
theorem refused_iff_faulty_and_effective {files : String → Source} {path : String}
    (h : Reads files path f) :
    (Refused (load files path v >>= Draft.build) ↔ Faulty f v) ∧
      (¬ Faulty f v →
        ∃ c, (load files path v >>= Draft.build) = .ok c ∧ Effective f v c) := by
  have hfaulty := faulty_iff (v := v) h.nodup
  have hgood (hnot : ¬ Faulty f v) :
      (load files path v >>= Draft.build) = .ok (v.laidOver f.draft).checked := by
    rw [hfaulty, not_or, not_or] at hnot
    exact h.build_eq hnot.1 hnot.2.1 hnot.2.2
  constructor
  · constructor
    · rintro ⟨cause, hcause⟩
      by_contra hnot
      rw [hgood hnot] at hcause
      exact nomatch hcause
    · intro hf
      exact h.build_of_faulty (hfaulty.mp hf)
  · intro hnot
    exact ⟨_, hgood hnot, effective_checked⟩

end

/-! ### A file and its variables -/

/-- A file with a default stack and a section on one namespace. -/
def tuned : String :=
  "[cache]\neviction = \"fifo\"\nsize = 8\n[namespaces.users]\nsize = 2\n"

/-- The sections of the file. -/
def tunedFile : File where
  profile := some { eviction := some "fifo", size := some 8 }
  namespaces := .ofList [("users", { size := some 2 })]

/-- At the only path there is the file. -/
def onlyTuned (path : String) : Source :=
  if path = "sqlmap-cache.toml" then .file tuned.toUTF8.data.toList else .missing

/-- Three variables are set, one of them to a switch in capitals, and one to a scope between
blanks. -/
def tunedVariables : Variables where
  bytes := .ofList [("SQLMAP_CACHE_SIZE", "+16".toUTF8.data.toList),
    ("SQLMAP_CACHE_BLOCKING", "YES".toUTF8.data.toList),
    ("SQLMAP_LOCAL_CACHE_SCOPE", " Statement ".toUTF8.data.toList)]

/-- A variable names a scope that there is not. -/
def misnamedVariables : Variables where
  bytes := .ofList [("SQLMAP_LOCAL_CACHE_SCOPE", "global".toUTF8.data.toList)]

theorem reads_tuned : Reads onlyTuned "sqlmap-cache.toml" tunedFile :=
  ⟨tuned, Source.text_utf8 tuned, by cbv⟩

theorem size_tuned : tunedVariables.count? "SQLMAP_CACHE_SIZE" = some 16 := by
  have htext : tunedVariables.text? "SQLMAP_CACHE_SIZE" = some "+16" :=
    Variables.text?_utf8 (by decide)
  rw [Variables.count?, htext]
  decide

theorem blocking_tuned : tunedVariables.switch? "SQLMAP_CACHE_BLOCKING" = some true := by
  have htext : tunedVariables.text? "SQLMAP_CACHE_BLOCKING" = some "YES" :=
    Variables.text?_utf8 (by decide)
  rw [Variables.switch?, htext]
  rfl

theorem scope_text_tuned :
    tunedVariables.text? "SQLMAP_LOCAL_CACHE_SCOPE" = some " Statement " :=
  Variables.text?_utf8 (by decide)

/-- The draft of the file and the variables. -/
def tunedDraft : Draft where
  session := { scope := .statement }
  standard := { eviction := .fifo, size := 16, blocking := true }
  namespaces := .ofList [("users", { eviction := .fifo, size := 2 })]

theorem laidOver_tuned : tunedVariables.laidOver tunedFile.draft = tunedDraft := by
  unfold Variables.laidOver
  rw [size_tuned, blocking_tuned, scope_text_tuned]
  rfl

theorem not_faulty_tuned : ¬ Faulty tunedFile tunedVariables := by
  have hentries : tunedFile.namespaces.entries = [("users", { size := some 2 })] := by decide
  rw [faulty_iff (by decide)]
  rintro ((h | h | ⟨e, he, h⟩) | (h | h) | h)
  · exact not_unknown rfl h
  · obtain ⟨s, hs, hbad⟩ := h
    exact hbad .fifo (Option.some.inj hs ▸ Eviction.parse_name .fifo)
  · rw [hentries, List.mem_singleton] at he
    rw [he] at h
    exact not_unknown rfl h
  · rw [scope_text_tuned] at h
    obtain ⟨s, hs, hbad⟩ := h
    exact hbad .statement (Option.some.inj hs ▸ rfl)
  · exact not_unknown (by decide) h
  · rw [laidOver_tuned, Draft.Cramped] at h
    exact absurd h (by decide)

theorem faulty_misnamed : Faulty tunedFile misnamedVariables := by
  refine .variableScope ⟨"global", by unfold Variables.Says; decide, fun a ha => ?_⟩
  have hparse : Scope.parse "global" = .ok a := (Scope.parse_eq_ok_iff _ a).mpr ha
  exact nomatch hparse

/-- The variables win for the size, the switch and the scope, the file for the policy. With a
variable for a scope that there is not, the same file is refused. -/
theorem refused_iff_faulty_and_effective_tuned :
    (∃ c, (load onlyTuned "sqlmap-cache.toml" tunedVariables >>= Draft.build) = .ok c ∧
      c.standard.size = 16 ∧ c.standard.blocking = true ∧ c.standard.eviction = .fifo ∧
        c.session.scope = .statement) ∧
      Refused (load onlyTuned "sqlmap-cache.toml" misnamedVariables >>= Draft.build) := by
  constructor
  · obtain ⟨c, hc, heff⟩ :=
      (refused_iff_faulty_and_effective (v := tunedVariables) reads_tuned).2 not_faulty_tuned
    refine ⟨c, hc, ?_, ?_, ?_, ?_⟩
    · rw [standardSize_iff.mp heff.size, laidOver_tuned]
      rfl
    · rw [(settles_iff (switch?_eq_some_iff _) (given_iff _)).mp heff.blocking, blocking_tuned]
      rfl
    · rw [standardEviction_iff.mp heff.eviction, laidOver_tuned]
      rfl
    · rw [scope_iff.mp heff.scope, laidOver_tuned]
      rfl
  · exact (refused_iff_faulty_and_effective (v := misnamedVariables) reads_tuned).1.mpr
      faulty_misnamed

end Config

end QueryCache
