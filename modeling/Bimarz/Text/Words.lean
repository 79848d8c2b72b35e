import Bimarz.Text.Partition

/-!
# Words of a line

`words` splits a line at the separators and drops the empty pieces; `replace` replaces a text from
left to right. A line whose words stand one separator apart is taken apart by both word by word.
-/

namespace Text

variable {α : Type}

/-- `s.split_whitespace()`, of the characters that `p` counts as white space. -/
def words (p : α → Bool) (cs : List α) : List (List α) :=
  (cs.splitOnP p).filter fun w => !w.isEmpty

/-- A line of words. -/
def unwords (sep : α) (ws : List (List α)) : List α := [sep].intercalate ws

@[simp] theorem unwords_singleton (sep : α) (w : List α) : unwords sep [w] = w :=
  List.intercalate_singleton

@[simp] theorem unwords_cons_cons (sep : α) (w w' : List α) (ws : List (List α)) :
    unwords sep (w :: w' :: ws) = w ++ sep :: unwords sep (w' :: ws) := by
  unfold unwords
  rw [List.intercalate_cons_cons, List.append_assoc]
  rfl

theorem unwords_cons (sep : α) (w : List α) (ws : List (List α)) :
    unwords sep (w :: ws) = w ++ ws.flatMap fun w => sep :: w := by
  induction ws generalizing w with
  | nil => simp
  | cons w' ws ih => rw [unwords_cons_cons, ih, List.flatMap_cons, List.cons_append]

theorem unwords_append (sep : α) {ws ws' : List (List α)} (h : ws ≠ []) (h' : ws' ≠ []) :
    unwords sep (ws ++ ws') = unwords sep ws ++ sep :: unwords sep ws' := by
  obtain ⟨w, ws, rfl⟩ := List.exists_cons_of_ne_nil h
  obtain ⟨w', ws', rfl⟩ := List.exists_cons_of_ne_nil h'
  rw [List.cons_append, unwords_cons, unwords_cons, unwords_cons, List.flatMap_append,
    List.flatMap_cons]
  simp

/-- A nonempty word without white space. -/
def IsWord (p : α → Bool) (w : List α) : Prop := w ≠ [] ∧ ∀ c ∈ w, p c = false

theorem isWord_iff_all {p : α → Bool} {w : List α} :
    IsWord p w ↔ (!w.isEmpty && w.all fun c => !p c) = true := by
  simp [IsWord]

/-- The words of a line come back. -/
theorem words_unwords {p : α → Bool} {sep : α} (hsep : p sep = true) {ws : List (List α)}
    (hws : ∀ w ∈ ws, IsWord p w) : words p (unwords sep ws) = ws := by
  induction ws with
  | nil => rfl
  | cons w ws ih =>
    obtain ⟨⟨hne, hw⟩, hrest⟩ := List.forall_mem_cons.mp hws
    have hkept : ∀ ws, (w :: ws).filter (fun w => !w.isEmpty) =
        w :: ws.filter fun w => !w.isEmpty := fun ws =>
      List.filter_cons_of_pos (by simpa using hne)
    cases ws with
    | nil =>
      unfold words
      rw [unwords_singleton, List.splitOnP_eq_singleton hw, hkept]
      rfl
    | cons w' ws =>
      have hwords := ih hrest
      unfold words at hwords ⊢
      rw [unwords_cons_cons, List.splitOnP_append_cons_of_forall_mem hw sep hsep,
        hkept, hwords]

/-! ## Replacing -/

section Replace

variable [DecidableEq α]

/-- The rest of a replacement after `skip` characters that were replaced already. -/
def replaceFrom (old new : List α) : ℕ → List α → List α
  | _, [] => []
  | skip + 1, _ :: cs => replaceFrom old new skip cs
  | 0, c :: cs =>
    if old.isPrefixOf (c :: cs) then new ++ replaceFrom old new (old.length - 1) cs
    else c :: replaceFrom old new 0 cs

/-- `s.replace(old, new)`, of a nonempty text. -/
def replace (old new cs : List α) : List α := replaceFrom old new 0 cs

variable {old new : List α}

theorem replaceFrom_length (skipped cs : List α) :
    replaceFrom old new skipped.length (skipped ++ cs) = replace old new cs := by
  induction skipped with
  | nil => rfl
  | cons c skipped ih => exact ih

/-- A text that is found is replaced. -/
theorem replace_append (hold : old ≠ []) (cs : List α) :
    replace old new (old ++ cs) = new ++ replace old new cs := by
  obtain ⟨c, rest, rfl⟩ := List.exists_cons_of_ne_nil hold
  unfold replace
  rw [List.cons_append, replaceFrom, if_pos (by simp)]
  exact congrArg (new ++ ·) (replaceFrom_length rest cs)

theorem replace_cons {c : α} {cs : List α} (h : old.isPrefixOf (c :: cs) = false) :
    replace old new (c :: cs) = c :: replace old new cs := by
  unfold replace
  rw [replaceFrom, if_neg (by simp [h])]

variable {sep : α} {word : List α}

/-- A word between two separators is not found within a word. -/
theorem replace_word_append {w : List α} (hw : sep ∉ w) (cs : List α) :
    replace (sep :: (word ++ [sep])) new (w ++ cs) =
      w ++ replace (sep :: (word ++ [sep])) new cs := by
  induction w with
  | nil => rfl
  | cons c w ih =>
    obtain ⟨hc, hw⟩ := List.ne_and_not_mem_of_not_mem_cons hw
    rw [List.cons_append, replace_cons, ih hw, List.cons_append]
    simp [List.isPrefixOf, hc]

/-- A word that another one is not is not found where that one stands. -/
theorem isPrefixOf_word {w : List α} (hw : sep ∉ w) (hword : sep ∉ word) (hne : w ≠ word)
    (cs : List α) : (sep :: (word ++ [sep])).isPrefixOf (sep :: (w ++ sep :: cs)) = false := by
  rw [← Bool.not_eq_true, List.isPrefixOf_iff_prefix]
  rintro ⟨rest, hrest⟩
  rw [List.cons_append, List.append_assoc, List.cons.injEq] at hrest
  have hcut := congrArg (partition sep) hrest.2
  rw [partition_append hw, List.singleton_append, partition_append hword] at hcut
  exact hne (congrArg Prod.fst hcut).symm

/-- Nor is a word found at the end of a line. -/
theorem isPrefixOf_last {w : List α} (hw : sep ∉ w) :
    (sep :: (word ++ [sep])).isPrefixOf (sep :: w) = false := by
  rw [← Bool.not_eq_true, List.isPrefixOf_iff_prefix]
  rintro ⟨rest, hrest⟩
  rw [List.cons_append, List.append_assoc, List.cons.injEq] at hrest
  rw [← hrest.2] at hw
  simp at hw

/-- The words of a line, after the first, in which a word is replaced. The one after a replaced word
is passed over, as its separator is gone, and so is the last one. -/
def replaceWords (word word' : List α) : List (List α) → List (List α)
  | w :: w' :: ws =>
    if w = word then word' :: w' :: replaceWords word word' ws
    else w :: replaceWords word word' (w' :: ws)
  | ws => ws

theorem replace_flatMap {word' : List α} (hword : sep ∉ word) {ws : List (List α)}
    (hws : ∀ w ∈ ws, sep ∉ w) :
    replace (sep :: (word ++ [sep])) (sep :: (word' ++ [sep])) (ws.flatMap fun w => sep :: w) =
      (replaceWords word word' ws).flatMap fun w => sep :: w := by
  induction ws using replaceWords.induct word with
  | case1 w' ws ih =>
    obtain ⟨-, hw', hrest⟩ := by simpa using hws
    have hline : ((word :: w' :: ws).flatMap fun w => sep :: w) =
        (sep :: (word ++ [sep])) ++ (w' ++ ws.flatMap fun w => sep :: w) := by simp
    rw [hline, replace_append (List.cons_ne_nil _ _), replace_word_append hw', ih hrest,
      replaceWords, if_pos rfl]
    simp
  | case2 w w' ws hne ih =>
    obtain ⟨hw, hrest⟩ := List.forall_mem_cons.mp hws
    have hline : ((w :: w' :: ws).flatMap fun w => sep :: w) =
        sep :: (w ++ sep :: (w' ++ ws.flatMap fun w => sep :: w)) := by simp
    have hnext : sep :: (w' ++ ws.flatMap fun w => sep :: w) =
        (w' :: ws).flatMap fun w => sep :: w := by simp
    rw [hline, replace_cons (isPrefixOf_word hw hword hne _), replace_word_append hw, hnext,
      ih hrest, replaceWords, if_neg hne, List.flatMap_cons, List.cons_append]
  | case3 ws hshort =>
    match ws with
    | [] => rfl
    | [w] =>
      have hw : sep ∉ w := hws w List.mem_cons_self
      have hlast := @replace_word_append _ _ (sep :: (word' ++ [sep])) sep word w hw []
      rw [List.append_nil] at hlast
      rw [List.flatMap_singleton, replace_cons (isPrefixOf_last hw), hlast]
      simp [replaceWords, replace, replaceFrom]
    | w :: w' :: ws => exact absurd rfl (hshort w w' ws)

/-- **Replacing** a word between separators replaces it in the list of words. -/
theorem replace_unwords {word' : List α} (hword : sep ∉ word) {w : List α} {ws : List (List α)}
    (hws : ∀ v ∈ w :: ws, sep ∉ v) :
    replace (sep :: (word ++ [sep])) (sep :: (word' ++ [sep])) (unwords sep (w :: ws)) =
      unwords sep (w :: replaceWords word word' ws) := by
  obtain ⟨hw, hrest⟩ := List.forall_mem_cons.mp hws
  rw [unwords_cons, replace_word_append hw, replace_flatMap hword hrest, unwords_cons]

end Replace

end Text
