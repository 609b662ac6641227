/-
# Blank characters

The characters with the property White_Space, and what a text is without those at its ends.
-/

namespace RegionalDial
namespace Text
namespace Blank

/-- The ranges of the code points with the property White_Space. -/
def ranges : List (Nat × Nat) :=
  [(0x9, 0xD), (0x20, 0x20), (0x85, 0x85), (0xA0, 0xA0), (0x1680, 0x1680), (0x2000, 0x200A),
    (0x2028, 0x2029), (0x202F, 0x202F), (0x205F, 0x205F), (0x3000, 0x3000)]

/-- Does the character have the property White_Space? -/
def isBlank (c : Char) : Bool :=
  ranges.any fun (low, high) => low ≤ c.toNat && c.toNat ≤ high

/-- A text is blank when every character of it is; the empty text is. -/
def isBlankText (s : String) : Bool := s.toList.all isBlank

/-- The characters between the first and the last that is not blank. -/
def trimmed (cs : List Char) : List Char :=
  ((cs.dropWhile isBlank).reverse.dropWhile isBlank).reverse

/-- The text without the blank characters at its two ends. -/
def trim (s : String) : String := String.ofList (trimmed s.toList)

/-! ## What trimming leaves -/

theorem dropWhile_isBlank_of_all {cs : List Char} (h : ∀ c ∈ cs, isBlank c = true) :
    cs.dropWhile isBlank = [] := by
  rw [← List.append_nil cs, List.dropWhile_append_of_pos h, List.dropWhile_nil]

/-- A text of blank characters only trims to nothing. -/
theorem trimmed_of_all {cs : List Char} (h : cs.all isBlank = true) : trimmed cs = [] := by
  rw [trimmed, dropWhile_isBlank_of_all (List.all_eq_true.mp h)]
  rfl

theorem dropWhile_isBlank_of_head? {cs : List Char} (h : ∀ c ∈ cs.head?, isBlank c = false) :
    cs.dropWhile isBlank = cs := by
  cases cs with
  | nil => rfl
  | cons c cs => exact List.dropWhile_cons_of_neg (by simp [h c rfl])

theorem isBlank_of_head?_dropWhile {cs : List Char} :
    ∀ c ∈ (cs.dropWhile isBlank).head?, isBlank c = false := by
  intro c hc
  have hhead := List.head?_dropWhile_not isBlank cs
  rw [Option.mem_def.mp hc] at hhead
  exact hhead

/-- Blank characters before and after a text do not count. -/
theorem trimmed_between {before after : List Char} (hbefore : ∀ c ∈ before, isBlank c = true)
    (hafter : ∀ c ∈ after, isBlank c = true) (cs : List Char) :
    trimmed (before ++ cs ++ after) = trimmed cs := by
  have hreverse : ∀ c ∈ after.reverse, isBlank c = true := fun c hc =>
    hafter c (List.mem_reverse.mp hc)
  rw [trimmed, trimmed, List.append_assoc, List.dropWhile_append_of_pos hbefore,
    List.dropWhile_append]
  split
  · rename_i hempty
    rw [List.isEmpty_iff.mp hempty, dropWhile_isBlank_of_all hafter]
  · rw [List.reverse_append, List.dropWhile_append_of_pos hreverse]

/-- A text that neither starts nor ends with a blank character is left as it is. -/
theorem trimmed_of_bare {cs : List Char} (hhead : ∀ c ∈ cs.head?, isBlank c = false)
    (hlast : ∀ c ∈ cs.getLast?, isBlank c = false) : trimmed cs = cs := by
  have hreverse : ∀ c ∈ cs.reverse.head?, isBlank c = false := by
    rwa [List.head?_reverse]
  rw [trimmed, dropWhile_isBlank_of_head? hhead, dropWhile_isBlank_of_head? hreverse,
    List.reverse_reverse]

theorem isBlank_of_mem_takeWhile {cs : List Char} : ∀ c ∈ cs.takeWhile isBlank, isBlank c = true :=
  fun c hc => List.all_eq_true.mp List.all_takeWhile c hc

/-- What trimming takes away at the end is blank. -/
theorem exists_dropWhile_eq_trimmed_append (cs : List Char) :
    ∃ after, cs.dropWhile isBlank = trimmed cs ++ after ∧ ∀ c ∈ after, isBlank c = true := by
  let rest := cs.dropWhile isBlank
  refine ⟨(rest.reverse.takeWhile isBlank).reverse, ?_, fun c hc =>
    isBlank_of_mem_takeWhile c (List.mem_reverse.mp hc)⟩
  rw [trimmed, ← List.reverse_append, List.takeWhile_append_dropWhile, List.reverse_reverse]

/-- What trimming takes away is blank, and stood at the two ends. -/
theorem exists_eq_trimmed_between (cs : List Char) : ∃ before after,
    cs = before ++ trimmed cs ++ after ∧
      (∀ c ∈ before, isBlank c = true) ∧ ∀ c ∈ after, isBlank c = true := by
  obtain ⟨after, hrest, hafter⟩ := exists_dropWhile_eq_trimmed_append cs
  refine ⟨cs.takeWhile isBlank, after, ?_, isBlank_of_mem_takeWhile, hafter⟩
  rw [List.append_assoc, ← hrest, List.takeWhile_append_dropWhile]

theorem isBlank_of_head?_trimmed {cs : List Char} :
    ∀ c ∈ (trimmed cs).head?, isBlank c = false := by
  intro c hc
  obtain ⟨after, hrest, -⟩ := exists_dropWhile_eq_trimmed_append cs
  have hhead : c ∈ (cs.dropWhile isBlank).head? := by
    rw [hrest, List.head?_append, Option.mem_def.mp hc]
    rfl
  exact isBlank_of_head?_dropWhile c hhead

theorem isBlank_of_getLast?_trimmed {cs : List Char} :
    ∀ c ∈ (trimmed cs).getLast?, isBlank c = false := by
  rw [trimmed, List.getLast?_reverse]
  exact isBlank_of_head?_dropWhile

theorem trimmed_eq_nil_iff {cs : List Char} : trimmed cs = [] ↔ ∀ c ∈ cs, isBlank c = true := by
  constructor
  · intro h c hc
    obtain ⟨before, after, hcs, hbefore, hafter⟩ := exists_eq_trimmed_between cs
    rw [hcs, h, List.append_nil] at hc
    exact (List.mem_append.mp hc).elim (hbefore c) (hafter c)
  · exact fun h => trimmed_of_all (List.all_eq_true.mpr h)

end Blank
end Text
end RegionalDial
