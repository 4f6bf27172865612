import QueryCache.Text.Range

/-!
# Blanks

The characters with the white-space property, and texts freed of them at both ends.
-/

namespace QueryCache.Text

/-- The ranges of the white-space property. -/
def blankRanges : List (Nat × Nat) := [
  (0x0009, 0x000D), (0x0020, 0x0020), (0x0085, 0x0085), (0x00A0, 0x00A0), (0x1680, 0x1680),
  (0x2000, 0x200A), (0x2028, 0x2029), (0x202F, 0x202F), (0x205F, 0x205F), (0x3000, 0x3000)]

/-- Whether a character is white space. -/
def isBlank (c : Char) : Bool := inRanges blankRanges c.toNat

/-- Every character that the core library calls white space is blank. -/
theorem isBlank_of_isWhitespace {c : Char} (h : c.isWhitespace = true) : isBlank c = true := by
  simp only [Char.isWhitespace, Bool.or_eq_true, decide_eq_true_eq] at h
  rcases h with ((h | h) | h) | h <;> subst h <;> decide

/-- Drop the blanks at both ends. -/
def trim (s : String) : String :=
  String.ofList ((s.toList.dropWhile isBlank).reverse.dropWhile isBlank).reverse

/-- What is dropped stands at the ends, and is blank. -/
theorem exists_trim (s : String) :
    ∃ before after, s.toList = before ++ (trim s).toList ++ after ∧
      (∀ c ∈ before, isBlank c = true) ∧ ∀ c ∈ after, isBlank c = true := by
  refine ⟨s.toList.takeWhile isBlank,
    ((s.toList.dropWhile isBlank).reverse.takeWhile isBlank).reverse, ?_, ?_, ?_⟩
  · rw [trim, String.toList_ofList, List.append_assoc, ← List.reverse_append,
      List.takeWhile_append_dropWhile, List.reverse_reverse, List.takeWhile_append_dropWhile]
  · exact List.all_eq_true.mp List.all_takeWhile
  · intro c hc
    exact List.all_eq_true.mp List.all_takeWhile c (List.mem_reverse.mp hc)

private theorem dropWhile_append {before rest : List Char}
    (hbefore : ∀ c ∈ before, isBlank c = true) (hrest : ∀ c ∈ rest.head?, isBlank c = false) :
    (before ++ rest).dropWhile isBlank = rest := by
  rw [List.dropWhile_append_of_pos hbefore]
  cases rest with
  | nil => rfl
  | cons c rest => exact List.dropWhile_cons_of_neg (by simp [hrest c rfl])

/-- A text between blanks that has none itself is what trimming leaves. -/
theorem toList_trim {s : String} {before name after : List Char}
    (hs : s.toList = before ++ name ++ after) (hbefore : ∀ c ∈ before, isBlank c = true)
    (hafter : ∀ c ∈ after, isBlank c = true) (hname : ∀ c ∈ name, isBlank c = false) :
    (trim s).toList = name := by
  rw [trim, String.toList_ofList, hs, List.append_assoc]
  cases name with
  | nil =>
    have hall : (before ++ after ++ []).dropWhile isBlank = [] := dropWhile_append
      (fun c hc => (List.mem_append.mp hc).elim (hbefore c) (hafter c)) (by simp)
    rw [List.append_nil] at hall
    rw [List.nil_append, hall]
    rfl
  | cons c name =>
    have hlast : ∀ d ∈ (c :: name).reverse.head?, isBlank d = false := fun d hd =>
      hname d (List.mem_reverse.mp (List.mem_of_mem_head? hd))
    rw [dropWhile_append hbefore (by simp [hname c List.mem_cons_self]), List.reverse_append,
      dropWhile_append (fun d hd => hafter d (List.mem_reverse.mp hd)) hlast,
      List.reverse_reverse]

end QueryCache.Text
