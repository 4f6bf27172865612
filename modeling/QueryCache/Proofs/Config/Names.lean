import Mathlib
import QueryCache.Proofs.Config.Loading

/-!
# What the texts of a configuration mean

Scopes, policies, switches and counts stand in a configuration as texts. Here each kind of text
has its meaning as a relation that knows nothing of the functions which read it: the words for a
scope or a policy stand in a list, in any letter case and between blanks; a count is a row of
decimal digits. One lemma for each function says that it finds this meaning, and no other.
-/

namespace QueryCache

/-! ### Words -/

namespace Text

/-- A text is a word, in any letter case and between any blanks. -/
def Spells (s w : String) : Prop :=
  ∃ before name after : List Char, s.toList = before ++ name ++ after ∧
    (∀ c ∈ before, isBlank c = true) ∧ (∀ c ∈ after, isBlank c = true) ∧
    name.map small = w.toList

/-- A text stands for a value if it is one of its words. -/
def Denotes {α : Type} (words : α → List String) (s : String) (a : α) : Prop :=
  ∃ w ∈ words a, Spells s w

/-- A character of a word that case and blanks do not change. -/
def isSteady (c : Char) : Bool := isPlain c && !isBlank c

/-- Blanks have no letter case. -/
theorem small_of_isBlank {c : Char} (h : isBlank c = true) : small c = c := by
  have hkelvin : c ≠ '\u212A' := by
    rintro rfl
    exact absurd h (by decide)
  rw [small, if_neg hkelvin, Char.toLower]
  split
  · next hcapital =>
    -- No range of blanks reaches into the capital letters.
    have hlow : 65 ≤ c.toNat := hcapital.1
    have hhigh : c.toNat ≤ 90 := hcapital.2
    obtain ⟨r, hr, hmin, hmax⟩ := inRanges_iff.mp h
    have hapart : ∀ r ∈ blankRanges, r.2 < 65 ∨ 90 < r.1 := by decide
    have := hapart r hr
    omega
  · rfl

/-- A text comes down to a word of steady characters just if it spells the word. -/
theorem lower_trim_eq_iff {s w : String} (hw : w.toList.all isSteady = true) :
    lower (trim s) = w ↔ Spells s w := by
  have hsteady : ∀ c ∈ w.toList, isPlain c = true ∧ isBlank c = false := by
    simpa [isSteady] using hw
  rw [lower_eq_iff (List.all_eq_true.mpr fun c hc => (hsteady c hc).1)]
  constructor
  · intro h
    obtain ⟨before, after, hs, hbefore, hafter⟩ := exists_trim s
    exact ⟨before, _, after, hs, hbefore, hafter, h⟩
  · rintro ⟨before, name, after, hs, hbefore, hafter, hname⟩
    have hunblank : ∀ c ∈ name, isBlank c = false := by
      intro c hc
      have hmem : small c ∈ w.toList := hname ▸ List.mem_map_of_mem hc
      apply eq_false_of_ne_true
      intro hblank
      rw [small_of_isBlank hblank] at hmem
      exact absurd hblank (by simp [(hsteady c hmem).2])
    rw [toList_trim hs hbefore hafter hunblank, hname]

/-- With words of steady characters a text stands for a value just if it comes down to a word
for it. -/
theorem denotes_iff {α : Type} {words : α → List String} {s : String} {a : α}
    (hw : ∀ w ∈ words a, w.toList.all isSteady = true) :
    Denotes words s a ↔ lower (trim s) ∈ words a := by
  constructor
  · rintro ⟨w, hmem, hs⟩
    rwa [(lower_trim_eq_iff (hw w hmem)).mpr hs]
  · intro hmem
    exact ⟨_, hmem, (lower_trim_eq_iff (hw _ hmem)).mp rfl⟩

end Text

namespace Eviction

/-- The words for a policy. -/
def words : Eviction → List String
  | lru => ["lru"]
  | fifo => ["fifo"]
  | weak => ["weak", "soft"]
  | none => ["none", "perpetual"]

/-- A text is read as a policy just if it is one of the words for it. -/
theorem parse_eq_ok_iff (s : String) (e : Eviction) :
    parse s = .ok e ↔ Text.Denotes words s e := by
  rw [Text.denotes_iff (by cases e <;> decide)]
  unfold parse
  split <;> cases e <;> simp_all [words]

end Eviction

namespace Scope

/-- The words for a scope. -/
def words : Scope → List String
  | session => ["session"]
  | statement => ["statement"]

/-- A text is read as a scope just if it is the word for it. -/
theorem parse_eq_ok_iff (s : String) (a : Scope) :
    parse s = .ok a ↔ Text.Denotes words s a := by
  rw [Text.denotes_iff (by cases a <;> decide)]
  unfold parse
  split <;> cases a <;> simp_all [words]

end Scope

/-! ### Switches and counts -/

namespace Text

/-- A text is the state of a switch. For on there are four words, in any letter case; everything
else is off. -/
def Switches (s : String) (on : Bool) : Prop :=
  on = true ↔ s.toLower ∈ ["true", "1", "yes", "on"]

/-- A text is the decimal form of a number of 64 bits, perhaps after a plus sign. -/
def Numeral (s : String) (n : Nat) : Prop :=
  ∃ ds : List Char, (s.toList = ds ∨ s.toList = '+' :: ds) ∧ ds ≠ [] ∧
    (∀ c ∈ ds, c.isDigit = true) ∧
    Nat.ofDigits 10 (ds.reverse.map fun c => c.toNat - '0'.toNat) = n ∧ n < 2 ^ 64

/-- The number of digits that are taken in from the left. -/
theorem foldl_digits (ds : List Char) :
    ds.foldl (fun n c => 10 * n + (c.toNat - '0'.toNat)) 0 =
      Nat.ofDigits 10 (ds.reverse.map fun c => c.toNat - '0'.toNat) := by
  rw [Nat.ofDigits_eq_foldr, List.foldr_map, List.foldr_reverse]
  simp only [Nat.cast_id, Nat.add_comm]

/-- A text is read as a count just if it is the numeral of it. -/
theorem count?_eq_some_iff_numeral (s : String) (n : Nat) : count? s = some n ↔ Numeral s n := by
  simp only [count?_eq_some_iff, foldl_digits]
  rfl

end Text

/-! ### Variables -/

namespace Config.Variables

/-- A switch is read as on just if its text says so. The words for on are told by their ASCII
letters alone. -/
theorem isOn_eq_iff (s : String) (on : Bool) : isOn s = on ↔ Text.Switches s on := by
  have htrue := Text.lower_eq_iff_toLower (s := s) (w := "true") (by decide) (by decide)
  have hone := Text.lower_eq_iff_toLower (s := s) (w := "1") (by decide) (by decide)
  have hyes := Text.lower_eq_iff_toLower (s := s) (w := "yes") (by decide) (by decide)
  have hon := Text.lower_eq_iff_toLower (s := s) (w := "on") (by decide) (by decide)
  have hwords : isOn s = true ↔ s.toLower ∈ ["true", "1", "yes", "on"] := by
    simp [isOn, htrue, hone, hyes, hon]
  rw [Text.Switches, ← hwords, Bool.eq_iff_iff]
  exact Iff.comm

/-- A variable holds a text if it holds its bytes. -/
def Says (v : Variables) (name s : String) : Prop :=
  v.bytes.get? name = some s.toUTF8.data.toList

/-- The text of a variable is the one that it holds. What is no text counts as unset. -/
theorem text?_eq_some_iff (v : Variables) (name s : String) :
    v.text? name = some s ↔ v.Says name s := by
  constructor
  · intro h
    obtain ⟨bs, hbs, hs⟩ := Option.bind_eq_some_iff.mp h
    unfold String.fromUTF8? at hs
    split at hs
    · rw [Says, hbs, ← Option.some.inj hs]
      rfl
    · exact nomatch hs
  · exact text?_utf8

end Config.Variables

end QueryCache
