import Mathlib
import QueryCache.Proofs.Config.Precedence

/-!
# What a namespace inherits

The section of a namespace leaves fields of its stack to the default stack. It means the default
stack of the file: the sections are taken over before the variables are, so that a variable which
changes the default stack changes no stack with a section. `section_inherits` says field by field
when such a stack still agrees with the default one.
-/

namespace QueryCache.Config

/-- What the stack of a section has in common with the default stack: every field which the section
leaves out and no variable sets. -/
structure Inherits (s : ProfileSection) (v : Variables) (p standard : Profile) : Prop where
  eviction : s.eviction = none → v.text? "SQLMAP_CACHE_EVICTION" = none →
    p.eviction = standard.eviction
  size : s.size = none → v.count? "SQLMAP_CACHE_SIZE" = none → p.size = standard.size
  blocking : s.blocking = none → v.text? "SQLMAP_CACHE_BLOCKING" = none →
    p.blocking = standard.blocking
  timeout : s.timeout = none → v.count? "SQLMAP_CACHE_BLOCKING_TIMEOUT_MS" = none →
    p.timeout = standard.timeout
  /-- No variable is about this field. -/
  logging : s.logging = none → p.logging = standard.logging

variable {files : String → Source} {path : String} {f : File} {v : Variables} {c : Config}

/-- A section laid over the default stack of the file agrees with the stack that the variables
make of that. -/
theorem inherits_over (s : ProfileSection) :
    Inherits s v (s.laidOver f.base) (v.laidOver f.draft).standard where
  eviction hs hv := by
    simp [ProfileSection.laidOver, Variables.laidOver, File.draft, meaning?, hs, hv]
  size hs hv := by simp [ProfileSection.laidOver, Variables.laidOver, File.draft, hs, hv]
  blocking hs hv := by
    simp [ProfileSection.laidOver, Variables.laidOver, File.draft, Variables.switch?, hs, hv]
  timeout hs hv := by simp [ProfileSection.laidOver, Variables.laidOver, File.draft, hs, hv]
  logging hs := by simp [ProfileSection.laidOver, Variables.laidOver, File.draft, hs]

/-- A namespace with a section gets what the section makes of the default stack of the file, and
agrees with the default stack in what neither the section nor a variable sets. -/
theorem section_inherits (h : Reads files path f)
    (hc : (load files path v >>= Draft.build) = .ok c) {ns : String} {s : ProfileSection}
    (hs : f.namespaces.get? ns = some s) :
    ∃ p, c.namespaces.get? ns = some p ∧ p = s.laidOver f.base ∧ Inherits s v p c.standard := by
  obtain ⟨-, -, -, hchecked⟩ := h.of_build hc
  have hp : c.namespaces.get? ns = some (s.laidOver f.base) := by
    rw [hchecked]
    show (f.namespaces.map fun s => s.laidOver f.base).get? ns = _
    rw [Table.get?_map, hs]
    rfl
  have hinherits : Inherits s v (s.laidOver f.base) c.standard := by
    rw [hchecked]
    exact inherits_over s
  exact ⟨_, hp, rfl, hinherits⟩

/-! ### A variable that reaches one stack only -/

/-- A file with a section on one namespace that leaves out the size. -/
def locking : String := "[namespaces.users]\nblocking = true\n"

/-- The section of the file. -/
def lockingFile : File where
  namespaces := .ofList [("users", { blocking := some true })]

/-- At the only path there is the file. -/
def onlyLocking (path : String) : Source :=
  if path = "sqlmap-cache.toml" then .file locking.toUTF8.data.toList else .missing

/-- The variable for the size is set. -/
def sized : Variables where
  bytes := .ofList [("SQLMAP_CACHE_SIZE", "32".toUTF8.data.toList)]

theorem reads_locking : Reads onlyLocking "sqlmap-cache.toml" lockingFile :=
  ⟨locking, Source.text_utf8 locking, by cbv⟩

theorem size_sized : sized.count? "SQLMAP_CACHE_SIZE" = some 32 := by
  have htext : sized.text? "SQLMAP_CACHE_SIZE" = some "32" := Variables.text?_utf8 (by decide)
  rw [Variables.count?, htext]
  decide

/-- The draft of the file and the variable. -/
def lockingDraft : Draft where
  standard := { size := 32 }
  namespaces := .ofList [("users", { blocking := true })]

theorem laidOver_sized : sized.laidOver lockingFile.draft = lockingDraft := by
  unfold Variables.laidOver
  rw [size_sized]
  rfl

theorem not_misnamed_locking : ¬ lockingFile.Misnamed := by
  have hentries : lockingFile.namespaces.entries = [("users", { blocking := some true })] := by
    decide
  rintro (h | h | ⟨e, he, h⟩)
  · exact not_unknown rfl h
  · exact not_unknown rfl h
  · rw [hentries, List.mem_singleton] at he
    rw [he] at h
    exact not_unknown rfl h

theorem not_misnamed_sized : ¬ sized.Misnamed := by
  rintro (h | h) <;> exact not_unknown (by decide) h

/-- The configuration of the file and the variable. -/
def lockingConfig : Config where
  standard := { size := 32 }
  namespaces := .ofList [("users", { blocking := true })]

theorem build_locking :
    (load onlyLocking "sqlmap-cache.toml" sized >>= Draft.build) = .ok lockingConfig := by
  have hroom : ¬ (sized.laidOver lockingFile.draft).Cramped := by
    rw [laidOver_sized, Draft.Cramped]
    decide
  rw [reads_locking.build_eq not_misnamed_locking not_misnamed_sized hroom, laidOver_sized]
  rfl

/-- No variable is about locking or counting, so these fields are what the section and the default
stack say. -/
theorem section_inherits_users :
    ∃ p, lockingConfig.namespaces.get? "users" = some p ∧ p.blocking = true ∧
      p.timeout = lockingConfig.standard.timeout ∧ p.logging = lockingConfig.standard.logging := by
  have hs : lockingFile.namespaces.get? "users" = some { blocking := some true } := by decide
  obtain ⟨p, hp, hover, hinherits⟩ := section_inherits reads_locking build_locking hs
  have htimeout : sized.count? "SQLMAP_CACHE_BLOCKING_TIMEOUT_MS" = none := by decide
  refine ⟨p, hp, ?_, hinherits.timeout rfl htimeout, hinherits.logging rfl⟩
  rw [hover]
  rfl

/-- The section leaves out the size, and its stack keeps the built-in size although the variable
gives the default stack another one. -/
theorem section_misses_variable :
    Reads onlyLocking "sqlmap-cache.toml" lockingFile ∧
      (load onlyLocking "sqlmap-cache.toml" sized >>= Draft.build) = .ok lockingConfig ∧
      (lockingFile.namespaces.get? "users").map (·.size) = some none ∧
      (lockingConfig.namespaces.get? "users").map (·.size) = some 1024 ∧
      lockingConfig.standard.size = 32 := by
  refine ⟨reads_locking, build_locking, ?_, ?_, rfl⟩
  · decide
  · decide

end QueryCache.Config
