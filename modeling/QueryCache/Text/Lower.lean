import QueryCache.Text.CaseTable
import QueryCache.Text.Range

/-!
# Lower case

Lower-casing of whole texts. Two rules look beyond the single character: a capital sigma
becomes the final form at the end of a word, and the dotted capital I keeps its dot as a
combining mark.
-/

namespace QueryCache.Text

private def isCased (c : Char) : Bool := inRanges casedRanges c.toNat

private def isCaseIgnorable (c : Char) : Bool := inRanges caseIgnorableRanges c.toNat

private def shiftOf (n : Nat) : Int :=
  match lowerRuns.find? fun r => r.1 ≤ n && n ≤ r.2.1 && (n - r.1) % r.2.2.1 == 0 with
  | some r => r.2.2.2
  | none => 0

/-- The lower-case form of one character taken alone. -/
def lowerChar (c : Char) : Char := Char.ofNat (c.toNat + shiftOf c.toNat).toNat

private def facesLetter (cs : List Char) : Bool :=
  match cs.dropWhile isCaseIgnorable with
  | [] => false
  | c :: _ => isCased c

private def lowerFrom (before : List Char) : List Char → List Char
  | [] => []
  | c :: rest =>
    let lowered :=
      if c = 'Σ' then
        if facesLetter before && !facesLetter rest then ['ς'] else ['σ']
      else if c = 'İ' then ['i', '\u0307']
      else [lowerChar c]
    lowered ++ lowerFrom (c :: before) rest

/-- The lower-case form of a text. -/
def lower (s : String) : String := String.ofList (lowerFrom [] s.toList)

/-! ### Words of plain letters -/

/-- The small form of a character as far as words of ASCII characters can tell. Besides the
capital ASCII letters only the Kelvin sign has an ASCII character for its small form. -/
def small (c : Char) : Char := if c = '\u212A' then 'k' else c.toLower

/-- An ASCII character that is its own small form, and that of no characters but those which
`small` takes to it. -/
def isPlain (c : Char) : Bool :=
  0 < c.toNat && c.toNat < 128 && small c = c && lowerRuns.all fun r =>
    let n := (c.toNat - r.2.2.2).toNat
    !(r.1 ≤ n && n ≤ r.2.1 && (n - r.1) % r.2.2.1 == 0) || small (Char.ofNat n) = c

/-- A code point that no character has becomes the character zero. -/
private theorem toNat_ofNat_of_pos {n : Nat} (h : 0 < (Char.ofNat n).toNat) :
    (Char.ofNat n).toNat = n := by
  unfold Char.ofNat at h ⊢
  by_cases hvalid : n.isValidChar
  · rw [dif_pos hvalid]
    rfl
  · rw [dif_neg hvalid] at h
    exact absurd h (by decide)

/-- In the ASCII range every character is lowered as an ASCII letter is. -/
private theorem lowerChar_ascii : ∀ n < 128, lowerChar (Char.ofNat n) = (Char.ofNat n).toLower := by
  decide +kernel

/-- Only ASCII characters become others by the lowering of ASCII letters. -/
private theorem toNat_lt_of_toLower {c d : Char} (hc : c.toNat < 128) (h : d.toLower = c) :
    d.toNat < 128 := by
  unfold Char.toLower at h
  split at h
  · next hd =>
    have hle : d.toNat ≤ 90 := hd.2
    omega
  · rw [h]
    exact hc

/-- Both ways of lowering agree on what becomes a plain character. -/
theorem lowerChar_eq_iff {c : Char} (hc : isPlain c = true) (d : Char) :
    lowerChar d = c ↔ small d = c := by
  simp only [isPlain, Bool.and_eq_true, decide_eq_true_eq, List.all_eq_true] at hc
  obtain ⟨⟨⟨hpos, hascii⟩, hself⟩, hruns⟩ := hc
  constructor
  · intro h
    have hcode : c.toNat = (d.toNat + shiftOf d.toNat).toNat := by
      rw [← h] at hpos
      rw [← h]
      exact toNat_ofNat_of_pos hpos
    unfold shiftOf at hcode
    split at hcode
    · next r hr =>
      have hmatch := List.find?_some hr
      have hrun := hruns r (List.mem_of_find?_eq_some hr)
      have hn : (c.toNat - r.2.2.2 : Int).toNat = d.toNat := by omega
      simp only [hn, hmatch, Bool.not_true, Bool.false_or, decide_eq_true_eq,
        Char.ofNat_toNat] at hrun
      exact hrun
    · have hd : d = c := by
        apply Char.toNat_inj.mp
        omega
      rw [hd, hself]
  · intro h
    unfold small at h
    split at h
    · next hkelvin =>
      rw [hkelvin, ← h]
      decide +kernel
    · have hd := lowerChar_ascii d.toNat (toNat_lt_of_toLower hascii h)
      rw [Char.ofNat_toNat] at hd
      rw [hd, h]

private theorem lowerFrom_eq_iff {w : List Char} (hw : ∀ c ∈ w, isPlain c = true)
    (before cs : List Char) : lowerFrom before cs = w ↔ cs.map small = w := by
  induction cs generalizing before w with
  | nil => simp [lowerFrom]
  | cons d rest ih =>
    have halien (x : Char) (hx : isPlain x = false) : x ∉ w := by
      intro hmem
      simp [hw x hmem] at hx
    rw [lowerFrom, List.map_cons]
    by_cases hsigma : d = 'Σ'
    · -- Neither form of the small letter is plain, nor is the capital itself.
      rw [if_pos hsigma, hsigma]
      apply iff_of_false
      · rintro rfl
        split at halien
        · exact halien 'ς' (by decide) (by simp)
        · exact halien 'σ' (by decide) (by simp)
      · rintro rfl
        exact halien 'Σ' (by decide) (by simp [show small 'Σ' = 'Σ' by decide])
    · by_cases hdotted : d = 'İ'
      · rw [if_neg hsigma, if_pos hdotted, hdotted]
        apply iff_of_false
        · rintro rfl
          exact halien '̇' (by decide) (by simp)
        · rintro rfl
          exact halien 'İ' (by decide) (by simp [show small 'İ' = 'İ' by decide])
      · rw [if_neg hsigma, if_neg hdotted, List.singleton_append]
        cases w with
        | nil => simp
        | cons c w =>
          have hc := lowerChar_eq_iff (hw c List.mem_cons_self) d
          have hrest := ih (fun c hc => hw c (List.mem_cons_of_mem _ hc)) (d :: before)
          rw [List.cons.injEq, List.cons.injEq, hc, hrest]

/-- A text becomes a word of plain characters just if it does so character by character. -/
theorem lower_eq_iff {s w : String} (hw : w.toList.all isPlain = true) :
    lower s = w ↔ s.toList.map small = w.toList := by
  have hlower : (lower s).toList = lowerFrom [] s.toList := String.toList_ofList
  rw [← String.toList_inj, hlower]
  exact lowerFrom_eq_iff (List.all_eq_true.mp hw) [] s.toList

/-- Without the letter k a word of plain characters is told by the ASCII letters alone. -/
theorem lower_eq_iff_toLower {s w : String} (hw : w.toList.all isPlain = true)
    (hk : 'k' ∉ w.toList) : lower s = w ↔ s.toLower = w := by
  have hascii : s.toLower.toList = s.toList.map Char.toLower := String.toList_map
  have hmap (hno : '\u212A' ∉ s.toList) : s.toList.map small = s.toList.map Char.toLower := by
    apply List.map_congr_left
    intro c hc
    rw [small, if_neg]
    rintro rfl
    exact hno hc
  rw [lower_eq_iff hw, ← String.toList_inj, hascii]
  constructor
  · intro h
    have hno : '\u212A' ∉ s.toList := fun hmem =>
      hk (h ▸ List.mem_map_of_mem (f := small) hmem)
    rw [← hmap hno, h]
  · intro h
    have hno : '\u212A' ∉ s.toList := fun hmem =>
      absurd (List.all_eq_true.mp hw _ (h ▸ List.mem_map_of_mem (f := Char.toLower) hmem))
        (by decide)
    rw [hmap hno, h]

end QueryCache.Text
