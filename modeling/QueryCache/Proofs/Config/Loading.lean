import QueryCache.Config.Source
import QueryCache.Proofs.Table

/-!
# What loading comes to

Loading and building a configuration fails for names that stand for nothing and for stacks that
need room and have none, and for nothing else. Where no step fails, every step has a plain form:
`File.draft` is what a file says over the defaults, `Variables.laidOver` lays the variables over a
draft, and `Draft.checked` is the configuration of a draft. `Reads.build_eq` says that loading and
building a file comes to these three.
-/

namespace QueryCache.Config

variable {α β : Type}

/-- A configuration is refused. -/
def Refused (r : Except Failure α) : Prop := ∃ cause, r = .error (.config cause)

/-- What has been refused is not gone on with. -/
theorem Refused.bind {r : Except Failure α} (h : Refused r) (next : α → Except Failure β) :
    Refused (r >>= next) := by
  obtain ⟨cause, rfl⟩ := h
  exact ⟨cause, rfl⟩

/-! ### Names -/

section Names

variable {parse : String → Except String α} {unknown : String → String} {context : String}
  {name : Option String}

/-- What a name stands for, if there is one. -/
def meaning? (parse : String → Except String α) (name : Option String) : Option α :=
  name.bind fun s => (parse s).toOption

/-- There is a name, and it stands for nothing. -/
def Unknown (parse : String → Except String α) (name : Option String) : Prop :=
  ∃ s, name = some s ∧ ∀ a, parse s ≠ .ok a

/-- Where there is no name, none stands for nothing. -/
theorem not_unknown (h : name = none) : ¬ Unknown parse name := by
  rintro ⟨s, hs, -⟩
  rw [h] at hs
  cases hs

theorem mapM_named_of_unknown (h : Unknown parse name) :
    Refused (name.mapM (named parse unknown context)) := by
  obtain ⟨s, rfl, hs⟩ := h
  cases hp : parse s with
  | error other => exact ⟨context ++ unknown other, by simp [named, hp, Except.mapError]⟩
  | ok a => exact absurd hp (hs a)

theorem mapM_named (h : ¬ Unknown parse name) :
    name.mapM (named parse unknown context) = .ok (meaning? parse name) := by
  cases name with
  | none => rfl
  | some s =>
    cases hp : parse s with
    | error other => exact absurd ⟨s, rfl, by simp [hp]⟩ h
    | ok a => simp [meaning?, named, hp, Except.mapError, Except.toOption]

end Names

/-! ### Sections on shared caches -/

namespace ProfileSection

variable (s : ProfileSection) (p : Profile)

/-- The profile that a section makes of another one. -/
def laidOver : Profile where
  eviction := (meaning? Eviction.parse s.eviction).getD p.eviction
  size := s.size.getD p.size
  blocking := s.blocking.getD p.blocking
  timeout := (s.timeout.map limitOfMillis).getD p.timeout
  logging := s.logging.getD p.logging

theorem apply_of_unknown (h : Unknown Eviction.parse s.eviction) : Refused (s.apply p) :=
  (mapM_named_of_unknown h).bind _

theorem apply_eq (h : ¬ Unknown Eviction.parse s.eviction) : s.apply p = .ok (s.laidOver p) := by
  unfold apply
  rw [mapM_named h]
  rfl

end ProfileSection

/-- The namespaces of a file are refused if one of them names an unknown policy. -/
theorem applyNamespaces_of_unknown {l : List (String × ProfileSection)}
    (h : ∃ e ∈ l, Unknown Eviction.parse e.2.eviction) (p : Profile) (d : Draft) :
    Refused (l.foldlM (fun d e => applyNamespace p d e.1 e.2) d) := by
  induction l generalizing d with
  | nil => simp at h
  | cons e rest ih =>
    rw [List.foldlM_cons]
    by_cases he : Unknown Eviction.parse e.2.eviction
    · have hsection : Refused (applyNamespace p d e.1 e.2) := by
        obtain ⟨cause, hcause⟩ := e.2.apply_of_unknown p he
        unfold applyNamespace
        rw [hcause]
        exact ⟨_, rfl⟩
      exact hsection.bind _
    · unfold applyNamespace
      rw [e.2.apply_eq p he]
      apply ih
      simpa [he] using h

/-- If all policies are known, every namespace gets the profile that its section makes of the
default one. -/
theorem applyNamespaces_eq {l : List (String × ProfileSection)}
    (h : ∀ e ∈ l, ¬ Unknown Eviction.parse e.2.eviction) (p : Profile) (d : Draft) :
    l.foldlM (fun d e => applyNamespace p d e.1 e.2) d =
      .ok { d with
        namespaces := l.foldl (fun t e => t.insert e.1 (e.2.laidOver p)) d.namespaces } := by
  induction l generalizing d with
  | nil => rfl
  | cons e rest ih =>
    have hrest := ih fun e he => h e (List.mem_cons_of_mem _ he)
    rw [List.foldlM_cons, List.foldl_cons]
    unfold applyNamespace
    rw [e.2.apply_eq p (h e List.mem_cons_self)]
    exact hrest _

/-! ### Files -/

namespace File

variable (f : File)

/-- The default profile as far as the file determines it. -/
def base : Profile := (f.profile.getD {}).laidOver {}

/-- What a file says, over the defaults. -/
def draft : Draft where
  session :=
    { cacheEnabled := (f.session.bind (·.cacheEnabled)).getD true
      scope := (meaning? Scope.parse (f.session.bind (·.scope))).getD .session
      environment := f.session.bind (·.environment) }
  logLevel := (f.log.bind (·.level)).getD ""
  jsonLogs := (f.log.bind (·.json)).getD false
  standard := f.base
  namespaces := f.namespaces.map fun s => s.laidOver f.base

/-- Some name in the file stands for nothing. -/
def Misnamed : Prop :=
  Unknown Scope.parse (f.session.bind (·.scope)) ∨
    Unknown Eviction.parse (f.profile.bind (·.eviction)) ∨
    ∃ e ∈ f.namespaces.entries, Unknown Eviction.parse e.2.eviction

theorem scope_getD : (f.session.getD {}).scope = f.session.bind (·.scope) := by
  cases f.session <;> rfl

theorem eviction_getD : (f.profile.getD {}).eviction = f.profile.bind (·.eviction) := by
  cases f.profile <;> rfl

variable {f}

theorem apply_of_misnamed (h : f.Misnamed) (d : Draft) : Refused (f.apply d) := by
  unfold Misnamed at h
  unfold apply
  dsimp only
  rw [scope_getD]
  by_cases hs : Unknown Scope.parse (f.session.bind (·.scope))
  · exact (mapM_named_of_unknown hs).bind _
  · rw [mapM_named hs]
    by_cases he : Unknown Eviction.parse (f.profile.bind (·.eviction))
    · rw [← eviction_getD] at he
      exact ((f.profile.getD {}).apply_of_unknown {} he).bind _
    · have hrest := h.resolve_left hs |>.resolve_left he
      rw [← eviction_getD] at he
      rw [ProfileSection.apply_eq _ _ he]
      exact applyNamespaces_of_unknown hrest _ _

theorem apply_eq (h : ¬ f.Misnamed) (hn : f.namespaces.keys.Nodup) : f.apply {} = .ok f.draft := by
  simp only [Misnamed, not_or, not_exists, not_and] at h
  obtain ⟨hs, he, hns⟩ := h
  rw [← eviction_getD] at he
  unfold apply
  dsimp only
  rw [scope_getD, mapM_named hs, ProfileSection.apply_eq _ _ he]
  refine (applyNamespaces_eq hns _ _).trans ?_
  have hfold := Table.foldl_insert_eq_map hn fun s => s.laidOver f.base
  unfold draft
  rw [← hfold]
  unfold base
  cases f.session <;> cases f.log <;> cases f.profile <;> simp [ProfileSection.laidOver, meaning?]

end File

/-! ### Variables -/

namespace Variables

variable (v : Variables)

/-- Some name in the variables stands for nothing. -/
def Misnamed : Prop :=
  Unknown Scope.parse (v.text? "SQLMAP_LOCAL_CACHE_SCOPE") ∨
    Unknown Eviction.parse (v.text? "SQLMAP_CACHE_EVICTION")

/-- The environment that the variables ask for. The empty name asks for none. -/
def environment? : Option (Option String) :=
  (v.text? "SQLMAP_ENVIRONMENT").map fun s => if s = "" then none else some s

/-- A draft with the variables laid over it. -/
def laidOver (d : Draft) : Draft where
  session :=
    { cacheEnabled := (v.switch? "SQLMAP_CACHE_ENABLED").getD d.session.cacheEnabled
      scope := (meaning? Scope.parse (v.text? "SQLMAP_LOCAL_CACHE_SCOPE")).getD d.session.scope
      environment := v.environment?.getD d.session.environment }
  logLevel := (v.text? "RUST_LOG").getD d.logLevel
  jsonLogs := (v.switch? "SQLMAP_JSON_LOGS").getD d.jsonLogs
  standard :=
    { eviction :=
        (meaning? Eviction.parse (v.text? "SQLMAP_CACHE_EVICTION")).getD d.standard.eviction
      size := (v.count? "SQLMAP_CACHE_SIZE").getD d.standard.size
      blocking := (v.switch? "SQLMAP_CACHE_BLOCKING").getD d.standard.blocking
      timeout :=
        ((v.count? "SQLMAP_CACHE_BLOCKING_TIMEOUT_MS").map limitOfMillis).getD d.standard.timeout
      logging := d.standard.logging }
  namespaces := d.namespaces

variable {v}

theorem apply_of_misnamed (h : v.Misnamed) (d : Draft) : Refused (v.apply d) := by
  unfold apply named?
  by_cases hs : Unknown Scope.parse (v.text? "SQLMAP_LOCAL_CACHE_SCOPE")
  · exact (mapM_named_of_unknown hs).bind _
  · rw [mapM_named hs]
    exact (mapM_named_of_unknown (h.resolve_left hs)).bind _

theorem apply_eq (h : ¬ v.Misnamed) (d : Draft) : v.apply d = .ok (v.laidOver d) := by
  simp only [Misnamed, not_or] at h
  unfold apply named?
  rw [mapM_named h.1, mapM_named h.2]
  rfl

end Variables

/-! ### Drafts -/

/-- The check of a profile refuses it just if it needs room and has none. -/
theorem checkRoom_of_hasNoRoom {p : Profile} (h : p.hasNoRoom = true) (name : String) :
    Refused (checkRoom name p) :=
  ⟨_, if_pos h⟩

theorem checkRoom_eq {p : Profile} (h : p.hasNoRoom = false) (name : String) :
    checkRoom name p = .ok () :=
  if_neg (by simp [h])

theorem checkRooms_of_hasNoRoom {l : List (String × Profile)} (h : ∃ e ∈ l, e.2.hasNoRoom = true) :
    Refused (l.forM fun e => checkRoom e.1 e.2) := by
  induction l with
  | nil => simp at h
  | cons e rest ih =>
    rw [List.forM]
    cases he : e.2.hasNoRoom with
    | true => exact (checkRoom_of_hasNoRoom he e.1).bind _
    | false =>
      rw [checkRoom_eq he]
      apply ih
      simpa [he] using h

theorem checkRooms_eq {l : List (String × Profile)} (h : ∀ e ∈ l, e.2.hasNoRoom = false) :
    (l.forM fun e => checkRoom e.1 e.2) = .ok () := by
  induction l with
  | nil => rfl
  | cons e rest ih =>
    rw [List.forM, checkRoom_eq (h e List.mem_cons_self)]
    exact ih fun e he => h e (List.mem_cons_of_mem _ he)

namespace Draft

variable (d : Draft)

/-- Some profile of a draft needs room and has none. -/
def Cramped : Prop :=
  d.standard.hasNoRoom = true ∨ ∃ e ∈ d.namespaces.entries, e.2.hasNoRoom = true

/-- The configuration of a draft. -/
def checked : Config where
  session := d.session
  log := { level := if d.logLevel = "" then "info" else d.logLevel, json := d.jsonLogs }
  standard := d.standard
  namespaces := d.namespaces

variable {d}

theorem build_of_cramped (h : d.Cramped) : Refused d.build := by
  unfold build
  cases hs : d.standard.hasNoRoom with
  | true => exact (checkRoom_of_hasNoRoom hs "default").bind _
  | false =>
    rw [checkRoom_eq hs]
    exact (checkRooms_of_hasNoRoom (by simpa [Cramped, hs] using h)).bind _

theorem build_eq (h : ¬ d.Cramped) : d.build = .ok d.checked := by
  simp only [Cramped, not_or, not_exists, not_and, Bool.not_eq_true] at h
  unfold build
  rw [checkRoom_eq h.1, checkRooms_eq h.2]
  rfl

/-- What has been built has room wherever it is needed. -/
theorem not_cramped_of_build {c : Config} (h : d.build = .ok c) : ¬ d.Cramped ∧ c = d.checked := by
  by_cases hd : d.Cramped
  · obtain ⟨cause, hcause⟩ := build_of_cramped hd
    rw [hcause] at h
    exact nomatch h
  · rw [build_eq hd] at h
    exact ⟨hd, (Except.ok.inj h).symm⟩

end Draft

/-! ### Loading and building -/

/-- The bytes of a text are those of a text. -/
theorem fromUTF8?_toUTF8 (s : String) :
    String.fromUTF8? ⟨s.toUTF8.data.toList.toArray⟩ = some s := by
  show String.fromUTF8? s.toUTF8 = some s
  unfold String.fromUTF8? String.toUTF8
  rw [dif_pos s.isValidUTF8]
  rfl

/-- A file with the bytes of a text holds the text. -/
theorem Source.text_utf8 (s : String) : (Source.file s.toUTF8.data.toList).text = .ok s := by
  rw [text, fromUTF8?_toUTF8]

/-- A variable with the bytes of a text holds the text. -/
theorem Variables.text?_utf8 {v : Variables} {name s : String}
    (h : v.bytes.get? name = some s.toUTF8.data.toList) : v.text? name = some s := by
  rw [text?, h]
  exact fromUTF8?_toUTF8 s

/-- At a path there is a text, and it parses as this file. -/
def Reads (files : String → Source) (path : String) (f : File) : Prop :=
  ∃ text, (files path).text = .ok text ∧ (Toml.parse? text).bind File.ofTree? = some f

private theorem nodup_of_namespaces? {v : Toml.Value} {t : Table String ProfileSection}
    (h : namespaces? v = some t) : t.keys.Nodup := by
  simp only [namespaces?, Option.bind_eq_bind, Option.bind_eq_some_iff] at h
  obtain ⟨entries, -, sections, -, ht⟩ := h
  rw [← Option.some.inj ht]
  exact Table.nodup_ofList sections

/-- The sections of a file that was read are about one namespace each. -/
theorem File.nodup_of_ofTree {tree : Toml.Value} {f : File} (h : ofTree? tree = some f) :
    f.namespaces.keys.Nodup := by
  simp only [ofTree?, Option.bind_eq_bind, Option.bind_eq_some_iff] at h
  obtain ⟨field, -, session, -, log, -, profile, -, namespaces, hns, hf⟩ := h
  rw [← Option.some.inj hf]
  cases hfield : field "namespaces" with
  | none =>
    rw [hfield] at hns
    rw [← Option.some.inj hns]
    exact List.nodup_nil
  | some tree =>
    rw [hfield] at hns
    obtain ⟨t, ht, rfl⟩ := Option.map_eq_some_iff.mp hns
    exact nodup_of_namespaces? ht

namespace Reads

variable {files : String → Source} {path : String} {f : File} (h : Reads files path f)

include h

theorem nodup : f.namespaces.keys.Nodup := by
  obtain ⟨text, -, hparse⟩ := h
  obtain ⟨tree, -, htree⟩ := Option.bind_eq_some_iff.mp hparse
  exact File.nodup_of_ofTree htree

theorem load_eq (v : Variables) : load files path v = f.apply {} >>= v.apply := by
  obtain ⟨text, htext, hparse⟩ := h
  unfold load
  rw [htext]
  simp only [Except.mapError, bind, Except.bind, hparse]

/-- Loading and building is refused for names that stand for nothing and for profiles without the
room that they need. -/
theorem build_of_faulty {v : Variables}
    (hv : f.Misnamed ∨ v.Misnamed ∨ (v.laidOver f.draft).Cramped) :
    Refused (load files path v >>= Draft.build) := by
  rw [h.load_eq]
  by_cases hf : f.Misnamed
  · exact ((File.apply_of_misnamed hf {}).bind _).bind _
  · rw [File.apply_eq hf h.nodup]
    by_cases hm : v.Misnamed
    · exact (Variables.apply_of_misnamed hm f.draft).bind _
    · have hroom := hv.resolve_left hf |>.resolve_left hm
      show Refused (v.apply f.draft >>= Draft.build)
      rw [Variables.apply_eq hm]
      exact Draft.build_of_cramped hroom

/-- For nothing else it is. -/
theorem build_eq {v : Variables} (hf : ¬ f.Misnamed) (hv : ¬ v.Misnamed)
    (hroom : ¬ (v.laidOver f.draft).Cramped) :
    (load files path v >>= Draft.build) = .ok (v.laidOver f.draft).checked := by
  rw [h.load_eq, File.apply_eq hf h.nodup]
  show v.apply f.draft >>= Draft.build = _
  rw [Variables.apply_eq hv]
  exact Draft.build_eq hroom

/-- What was loaded and built is the checked draft of the file and the variables, and nothing in
them was wrong. -/
theorem of_build {v : Variables} {c : Config} (hc : (load files path v >>= Draft.build) = .ok c) :
    ¬ f.Misnamed ∧ ¬ v.Misnamed ∧ ¬ (v.laidOver f.draft).Cramped ∧
      c = (v.laidOver f.draft).checked := by
  by_cases hv : f.Misnamed ∨ v.Misnamed ∨ (v.laidOver f.draft).Cramped
  · obtain ⟨cause, hcause⟩ := h.build_of_faulty hv
    rw [hcause] at hc
    exact nomatch hc
  · simp only [not_or] at hv
    obtain ⟨hf, hm, hroom⟩ := hv
    rw [h.build_eq hf hm hroom] at hc
    exact ⟨hf, hm, hroom, (Except.ok.inj hc).symm⟩

end Reads

end QueryCache.Config
