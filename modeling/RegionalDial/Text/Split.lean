/-
# Splitting at a separator

The parts of a list between the places where a separator stands.  There is always one part more
than there are separators, so the empty list has one empty part.
-/

namespace RegionalDial
namespace Text

variable {α : Type} [DecidableEq α]

/-- The parts between the separators. -/
def splitOn (separator : α) : List α → List (List α)
  | [] => [[]]
  | c :: rest =>
    if c = separator then [] :: splitOn separator rest
    else
      match splitOn separator rest with
      | [] => [[c]]
      | part :: parts => (c :: part) :: parts

/-- The parts with the separator between them. -/
def joinWith (separator : α) : List (List α) → List α
  | [] => []
  | [part] => part
  | part :: parts => part ++ separator :: joinWith separator parts

theorem splitOn_ne_nil (separator : α) (cs : List α) : splitOn separator cs ≠ [] := by
  cases cs with
  | nil => simp [splitOn]
  | cons c cs =>
    simp only [splitOn]
    split
    · simp
    · split <;> simp

/-- Joining the parts again gives the list back. -/
theorem joinWith_splitOn (separator : α) (cs : List α) :
    joinWith separator (splitOn separator cs) = cs := by
  induction cs with
  | nil => rfl
  | cons c cs ih =>
    have hne := splitOn_ne_nil separator cs
    simp only [splitOn]
    split
    · rename_i h
      cases hs : splitOn separator cs with
      | nil => exact absurd hs hne
      | cons part parts => rw [hs] at ih; simp [joinWith, ih, h]
    · cases hs : splitOn separator cs with
      | nil => exact absurd hs hne
      | cons part parts =>
        rw [hs] at ih
        cases parts with
        | nil => simpa [joinWith] using ih
        | cons part' parts => simpa [joinWith] using ih

/-- There is one part more than there are separators. -/
theorem length_splitOn (separator : α) (cs : List α) :
    (splitOn separator cs).length = cs.count separator + 1 := by
  induction cs with
  | nil => rfl
  | cons c cs ih =>
    simp only [splitOn]
    split
    · rename_i h
      rw [h, List.length_cons, ih, List.count_cons_self]
    · rename_i h
      rw [List.count_cons_of_ne h, ← ih]
      cases hs : splitOn separator cs with
      | nil => exact absurd hs (splitOn_ne_nil separator cs)
      | cons part parts => rfl

/-- The first part goes up to the first separator. -/
theorem head?_splitOn (separator : α) (cs : List α) :
    (splitOn separator cs).head? = some (cs.takeWhile (· ≠ separator)) := by
  induction cs with
  | nil => rfl
  | cons c cs ih =>
    simp only [splitOn]
    split
    · rename_i h
      simp [h]
    · rename_i h
      cases hs : splitOn separator cs with
      | nil => exact absurd hs (splitOn_ne_nil separator cs)
      | cons part parts =>
        rw [hs, List.head?_cons] at ih
        rw [List.takeWhile_cons_of_pos (by simpa using h), List.head?_cons, Option.some.inj ih]

/-- No part holds the separator. -/
theorem not_mem_of_mem_splitOn {separator : α} {cs part : List α}
    (h : part ∈ splitOn separator cs) : separator ∉ part := by
  induction cs generalizing part with
  | nil => simp [splitOn] at h; simp [h]
  | cons c cs ih =>
    simp only [splitOn] at h
    split at h
    · rcases List.mem_cons.mp h with h | h
      · simp [h]
      · exact ih h
    · rename_i hc
      cases hs : splitOn separator cs with
      | nil => exact absurd hs (splitOn_ne_nil separator cs)
      | cons head parts =>
        rw [hs] at h ih
        rcases List.mem_cons.mp h with h | h
        · subst h
          simp [Ne.symm hc, ih List.mem_cons_self]
        · exact ih (List.mem_cons_of_mem _ h)

/-- A list without the separator is its own only part. -/
theorem splitOn_of_not_mem {separator : α} {cs : List α} (h : separator ∉ cs) :
    splitOn separator cs = [cs] := by
  induction cs with
  | nil => rfl
  | cons c cs ih =>
    simp only [List.mem_cons, not_or] at h
    simp [splitOn, Ne.symm h.1, ih h.2]

/-- A part without the separator, then the separator: the rest is split on its own. -/
theorem splitOn_append {separator : α} {part : List α} (h : separator ∉ part) (rest : List α) :
    splitOn separator (part ++ separator :: rest) = part :: splitOn separator rest := by
  induction part with
  | nil => simp [splitOn]
  | cons c part ih =>
    simp only [List.mem_cons, not_or] at h
    simp [splitOn, Ne.symm h.1, ih h.2]

/-- Joined parts that hold no separator are split into the same parts. -/
theorem splitOn_joinWith {separator : α} {parts : List (List α)} (hne : parts ≠ [])
    (h : ∀ part ∈ parts, separator ∉ part) :
    splitOn separator (joinWith separator parts) = parts := by
  induction parts with
  | nil => exact absurd rfl hne
  | cons part parts ih =>
    have hpart := h part List.mem_cons_self
    cases parts with
    | nil => exact splitOn_of_not_mem hpart
    | cons next more =>
      rw [joinWith, splitOn_append hpart,
        ih (by simp) fun part hmem => h part (List.mem_cons_of_mem _ hmem)]
      simp

omit [DecidableEq α] in
/-- What is joined is separators and what the parts hold. -/
theorem mem_joinWith {separator c : α} {parts : List (List α)}
    (h : c ∈ joinWith separator parts) : c = separator ∨ ∃ part ∈ parts, c ∈ part := by
  induction parts with
  | nil => exact absurd h (by simp [joinWith])
  | cons part parts ih =>
    cases parts with
    | nil => exact .inr ⟨part, List.mem_cons_self, h⟩
    | cons next more =>
      rcases List.mem_append.mp h with h | h
      · exact .inr ⟨part, List.mem_cons_self, h⟩
      rcases List.mem_cons.mp h with rfl | h
      · exact .inl rfl
      rcases ih h with rfl | ⟨other, hother, hc⟩
      · exact .inl rfl
      · exact .inr ⟨other, List.mem_cons_of_mem _ hother, hc⟩

omit [DecidableEq α] in
/-- What holds of the separator and of all that the parts hold holds of all that is joined. -/
theorem forall_mem_joinWith {separator : α} {parts : List (List α)} {p : α → Prop}
    (hseparator : p separator) (hparts : ∀ part ∈ parts, ∀ c ∈ part, p c) :
    ∀ c ∈ joinWith separator parts, p c := by
  intro c hc
  rcases mem_joinWith hc with rfl | ⟨part, hpart, hmem⟩
  · exact hseparator
  · exact hparts part hpart c hmem

omit [DecidableEq α] in
/-- What a part holds is there when the parts are joined. -/
theorem subset_joinWith {separator : α} {part : List α} {parts : List (List α)}
    (h : part ∈ parts) : part ⊆ joinWith separator parts := by
  induction parts with
  | nil => exact absurd h List.not_mem_nil
  | cons head parts ih =>
    cases parts with
    | nil => exact List.mem_singleton.mp h ▸ List.Subset.refl part
    | cons next more =>
      rcases List.mem_cons.mp h with rfl | h
      · exact List.subset_append_left part _
      · exact List.Subset.trans (ih h)
          (List.Subset.trans (List.subset_cons_self separator _) (List.subset_append_right head _))

section Writing

variable {β : Type} {f : α → List β} {separator : α} {written : β}

omit [DecidableEq α] in
theorem flatMap_joinWith (h : f separator = [written]) (parts : List (List α)) :
    (joinWith separator parts).flatMap f = joinWith written (parts.map (·.flatMap f)) := by
  induction parts with
  | nil => rfl
  | cons part parts ih =>
    cases parts with
    | nil => rfl
    | cons next more =>
      rw [joinWith, List.flatMap_append, List.flatMap_cons, h, ih]
      · rfl
      · simp

/-- **What is written element by element is split as it was before**, if nothing but the separator
is written with the separator of what is written. -/
theorem splitOn_flatMap [DecidableEq β] (h : f separator = [written])
    (hother : ∀ c, written ∈ f c → c = separator) (cs : List α) :
    splitOn written (cs.flatMap f) = (splitOn separator cs).map (·.flatMap f) := by
  have hparts : ∀ part ∈ (splitOn separator cs).map (·.flatMap f), written ∉ part := by
    intro part hpart hmem
    obtain ⟨before, hbefore, rfl⟩ := List.mem_map.mp hpart
    obtain ⟨c, hc, hwritten⟩ := List.mem_flatMap.mp hmem
    exact not_mem_of_mem_splitOn hbefore (hother c hwritten ▸ hc)
  have hne : (splitOn separator cs).map (·.flatMap f) ≠ [] :=
    mt List.map_eq_nil_iff.mp (splitOn_ne_nil separator cs)
  calc splitOn written (cs.flatMap f)
      = splitOn written (joinWith written ((splitOn separator cs).map (·.flatMap f))) := by
        rw [← flatMap_joinWith h, joinWith_splitOn]
    _ = (splitOn separator cs).map (·.flatMap f) := splitOn_joinWith hne hparts

end Writing

end Text
end RegionalDial
