import Mathlib.Data.List.DropRight

/-!
# Lines, and texts without their ends

`lines` cuts a text at its line ends; `trim` takes the characters of a class from both ends.
-/

namespace Text

/-! ## Lines -/

/-- A line end may be a carriage return and a newline. -/
def stripReturn (line : List Char) : List Char :=
  if line.getLast? = some '\r' then line.dropLast else line

/-- `text.lines()`: the last line may be without an end. -/
def lines (cs : List Char) : List (List Char) :=
  let pieces := cs.splitOn '\n'
  pieces.dropLast.map stripReturn ++ (pieces.getLast?.toList.filter fun line => !line.isEmpty)

/-- A text of lines. -/
def unlines (ls : List (List Char)) : List Char := ls.flatMap fun line => line ++ ['\n']

theorem unlines_eq (ls : List (List Char)) : unlines ls = ['\n'].intercalate (ls ++ [[]]) := by
  induction ls with
  | nil => rfl
  | cons line ls ih =>
    have hcons : unlines (line :: ls) = line ++ ['\n'] ++ unlines ls := rfl
    rw [hcons, ih, List.cons_append, List.intercalate_cons_of_ne_nil (by simp)]

theorem lines_unlines {ls : List (List Char)} (h : ∀ line ∈ ls, '\n' ∉ line) :
    lines (unlines ls) = ls.map stripReturn := by
  have hsplit : (unlines ls).splitOn '\n' = ls ++ [[]] := by
    rw [unlines_eq]
    refine List.splitOn_intercalate '\n' (fun line hline => ?_) (by simp)
    rcases List.mem_append.mp hline with hline | hline
    · exact h line hline
    · rw [List.mem_singleton.mp hline]
      exact List.not_mem_nil
  unfold lines
  simp [hsplit]

/-! ## The ends of a text -/

variable {α : Type} {p : α → Bool}

/-- The text without what `p` holds of at its two ends. -/
def trim (p : α → Bool) (cs : List α) : List α := (cs.dropWhile p).rdropWhile p

theorem rdropWhile_append {cs end' : List α} (hend : ∀ c ∈ end', p c = true) :
    (cs ++ end').rdropWhile p = cs.rdropWhile p := by
  induction end' using List.reverseRecOn with
  | nil => rw [List.append_nil]
  | append_singleton end' c ih =>
    obtain ⟨hinit, hlast⟩ := List.forall_mem_append.mp hend
    rw [← List.append_assoc, List.rdropWhile_concat_pos _ _ _ (hlast c (List.mem_singleton_self c)),
      ih hinit]

/-- What stands around a text does not count, as long as the text neither begins nor ends with it. -/
theorem trim_between (start cs end' : List α) (hstart : ∀ c ∈ start, p c = true)
    (hend : ∀ c ∈ end', p c = true) (hhead : ∀ c, cs.head? = some c → p c = false)
    (hlast : ∀ c, cs.getLast? = some c → p c = false) : trim p (start ++ cs ++ end') = cs := by
  unfold trim
  rw [List.append_assoc, List.dropWhile_append_of_pos hstart]
  cases cs with
  | nil =>
    have hnil : end'.dropWhile p = [] := List.dropWhile_eq_nil_iff.mpr hend
    rw [List.nil_append, hnil]
    rfl
  | cons c cs =>
    have hc : ¬p c = true := Bool.eq_false_iff.mp (hhead c rfl)
    rw [List.cons_append, List.dropWhile_cons_of_neg hc, ← List.cons_append, rdropWhile_append hend]
    refine List.rdropWhile_eq_self_iff.mpr fun hne => Bool.eq_false_iff.mp (hlast _ ?_)
    exact List.getLast?_eq_some_getLast hne

theorem trim_concat {c : α} (hc : p c = true) (cs : List α) : trim p (cs ++ [c]) = trim p cs := by
  unfold trim
  rw [List.dropWhile_append, List.dropWhile_cons_of_pos hc]
  cases hcs : cs.dropWhile p with
  | nil => rfl
  | cons c' rest => exact rdropWhile_append (List.forall_mem_singleton.mpr hc)

/-- The mark of a line end goes with the white space around the line. -/
theorem trim_stripReturn {p : Char → Bool} (hp : p '\r' = true) (line : List Char) :
    trim p (stripReturn line) = trim p line := by
  unfold stripReturn
  split
  next hlast =>
    obtain ⟨init, rfl⟩ := List.getLast?_eq_some_iff.mp hlast
    rw [List.dropLast_concat, trim_concat hp]
  next => rfl

theorem trim_eq_self {cs : List α} (hhead : ∀ c, cs.head? = some c → p c = false)
    (hlast : ∀ c, cs.getLast? = some c → p c = false) : trim p cs = cs := by
  have h := trim_between [] cs [] (List.forall_mem_nil _) (List.forall_mem_nil _) hhead hlast
  rwa [List.append_nil, List.nil_append] at h

/-- The first character that stays is the first one that is not in the class. -/
theorem head?_trim_append {start : List α} {c : α} (hstart : ∀ c ∈ start, p c = true)
    (hc : p c = false) (cs : List α) : (trim p (start ++ c :: cs)).head? = some c := by
  unfold trim
  rw [List.dropWhile_append_of_pos hstart, List.dropWhile_cons_of_neg (Bool.eq_false_iff.mp hc)]
  cases hrest : (c :: cs).rdropWhile p with
  | nil =>
    have hall := List.rdropWhile_eq_nil_iff.mp hrest c List.mem_cons_self
    exact absurd hall (Bool.eq_false_iff.mp hc)
  | cons c' rest =>
    have hbeginning : (c :: cs).rdropWhile p <+: c :: cs := List.rdropWhile_prefix p _
    rw [hrest, List.cons_prefix_cons] at hbeginning
    rw [hbeginning.1]
    rfl

end Text
