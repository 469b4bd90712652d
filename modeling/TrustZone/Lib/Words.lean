import Mathlib.Data.List.DropRight

/-!
# The words of a text

The words that a separator leaves of a text, each with the place where it starts. A run of separators is one
gap, and those at the ends are none.

* `wordsAt_sep`, `wordsAt_word`, `wordsAt_append`: the words of a text from the words of its rest.
* `words_induction`: every text is built by these three.
* `mem_wordsAt`: where a word starts, the text goes on with it.
* `intercalate_words`: the words joined by one separator are the text with its gaps closed.
-/

namespace Lib

variable {α : Type*} [DecidableEq α] {sep : α} {pos : Nat} {w s : List α}

/-- The words of `s`, and where each of them starts when `s` starts at `pos`. -/
def wordsAt (sep : α) (pos : Nat) : List α → List (Nat × List α)
  | [] => []
  | c :: s =>
    if c = sep then wordsAt sep (pos + 1) s
    else
      let w := c :: s.takeWhile (· ≠ sep)
      (pos, w) :: wordsAt sep (pos + w.length) (s.dropWhile (· ≠ sep))
termination_by s => s.length
decreasing_by
  · exact Nat.lt_succ_self _
  · exact Nat.lt_succ_of_le (List.length_dropWhile_le ..)

/-- The words of `s`. -/
def words (sep : α) (s : List α) : List (List α) := (wordsAt sep 0 s).map Prod.snd

theorem wordsAt_nil (sep : α) (pos : Nat) : wordsAt sep pos [] = [] := by rw [wordsAt]

theorem wordsAt_sep (sep : α) (pos : Nat) (s : List α) :
    wordsAt sep pos (sep :: s) = wordsAt sep (pos + 1) s := by
  rw [wordsAt, if_pos rfl]

theorem wordsAt_cons {c : α} (hc : c ≠ sep) (pos : Nat) (s : List α) :
    wordsAt sep pos (c :: s) = (pos, c :: s.takeWhile (· ≠ sep)) ::
      wordsAt sep (pos + (c :: s.takeWhile (· ≠ sep)).length) (s.dropWhile (· ≠ sep)) := by
  rw [wordsAt, if_neg hc]

theorem ne_of_notMem (h : sep ∉ w) : ∀ x ∈ w, decide (x ≠ sep) = true := fun _ hx =>
  decide_eq_true fun he => h (he ▸ hx)

theorem wordsAt_word (hw : w ≠ []) (hsep : sep ∉ w) (pos : Nat) : wordsAt sep pos w = [(pos, w)] := by
  cases w with
  | nil => exact absurd rfl hw
  | cons c w =>
    obtain ⟨hc, hw⟩ := not_or.1 (mt List.mem_cons.2 hsep)
    rw [wordsAt_cons (Ne.symm hc), List.takeWhile_eq_self_iff.2 (ne_of_notMem hw),
      List.dropWhile_eq_nil_iff.2 (ne_of_notMem hw), wordsAt_nil]

theorem wordsAt_append (hw : w ≠ []) (hsep : sep ∉ w) (pos : Nat) (s : List α) :
    wordsAt sep pos (w ++ sep :: s) = (pos, w) :: wordsAt sep (pos + w.length + 1) s := by
  cases w with
  | nil => exact absurd rfl hw
  | cons c w =>
    obtain ⟨hc, hw⟩ := not_or.1 (mt List.mem_cons.2 hsep)
    rw [List.cons_append, wordsAt_cons (Ne.symm hc), List.takeWhile_append_of_pos (ne_of_notMem hw),
      List.dropWhile_append_of_pos (ne_of_notMem hw), List.takeWhile_cons_of_neg (by simp),
      List.dropWhile_cons_of_neg (by simp), wordsAt_sep, List.append_nil]

/-- A text is empty, starts with a separator, or with a word that ends it or is followed by a separator. -/
theorem words_induction (sep : α) {motive : List α → Prop} (nil : motive [])
    (sep_cons : ∀ s, motive s → motive (sep :: s))
    (word : ∀ w, w ≠ [] → sep ∉ w → motive w)
    (append : ∀ w s, w ≠ [] → sep ∉ w → motive s → motive (w ++ sep :: s)) (s : List α) : motive s := by
  induction hn : s.length using Nat.strong_induction_on generalizing s with
  | _ n ih =>
    subst hn
    cases s with
    | nil => exact nil
    | cons c s =>
      by_cases hc : c = sep
      · subst hc
        exact sep_cons s (ih _ (Nat.lt_succ_self _) s rfl)
      · have hw : sep ∉ c :: s.takeWhile (· ≠ sep) := by
          rw [List.mem_cons, not_or]
          exact ⟨Ne.symm hc, fun hm => by simpa using List.mem_takeWhile_imp hm⟩
        have hs := List.takeWhile_append_dropWhile (p := (· ≠ sep)) (l := s)
        have hlen := List.length_dropWhile_le (· ≠ sep) s
        cases hd : s.dropWhile (· ≠ sep) with
        | nil =>
          rw [hd, List.append_nil] at hs
          rw [hs] at hw
          exact word _ (List.cons_ne_nil _ _) hw
        | cons d t =>
          obtain rfl : d = sep := by
            have hne := List.head?_dropWhile_not (· ≠ sep) s
            rw [hd] at hne
            simpa using hne
          rw [hd] at hs hlen
          have h := append _ t (List.cons_ne_nil _ _) hw
            (ih _ (by simp only [List.length_cons] at hlen ⊢; omega) t rfl)
          rwa [List.cons_append, hs] at h

/-! ## Words and places -/

theorem map_snd_wordsAt (sep : α) (pos : Nat) (s : List α) :
    (wordsAt sep pos s).map Prod.snd = words sep s := by
  induction s using words_induction sep generalizing pos with
  | nil => rw [words, wordsAt_nil, wordsAt_nil]
  | sep_cons s ih => rw [words, wordsAt_sep, wordsAt_sep, ih, ← ih]
  | word w hw hsep =>
    rw [words, wordsAt_word hw hsep, wordsAt_word hw hsep, List.map_singleton, List.map_singleton]
  | append w s hw hsep ih =>
    rw [words, wordsAt_append hw hsep, wordsAt_append hw hsep, List.map_cons, List.map_cons, ih, ih]

theorem words_nil (sep : α) : words sep [] = [] := by rw [words, wordsAt_nil, List.map_nil]

theorem words_sep (sep : α) (s : List α) : words sep (sep :: s) = words sep s := by
  rw [words, wordsAt_sep, map_snd_wordsAt]

theorem words_word (hw : w ≠ []) (hsep : sep ∉ w) : words sep w = [w] := by
  rw [words, wordsAt_word hw hsep, List.map_singleton]

theorem words_append (hw : w ≠ []) (hsep : sep ∉ w) (s : List α) :
    words sep (w ++ sep :: s) = w :: words sep s := by
  rw [words, wordsAt_append hw hsep, List.map_cons, map_snd_wordsAt]

theorem length_wordsAt (sep : α) (pos : Nat) (s : List α) :
    (wordsAt sep pos s).length = (words sep s).length := by
  rw [← map_snd_wordsAt sep pos s, List.length_map]

/-- Where a word starts, the text goes on with it. -/
theorem mem_wordsAt {p : Nat} (h : (p, w) ∈ wordsAt sep pos s) : ∃ i, p = pos + i ∧ w <+: s.drop i := by
  induction s using words_induction sep generalizing pos with
  | nil =>
    rw [wordsAt_nil] at h
    cases h
  | sep_cons s ih =>
    rw [wordsAt_sep] at h
    obtain ⟨i, rfl, hi⟩ := ih h
    exact ⟨i + 1, by omega, by rwa [List.drop_succ_cons]⟩
  | word v hv hsep =>
    rw [wordsAt_word hv hsep, List.mem_singleton] at h
    cases h
    exact ⟨0, rfl, List.prefix_rfl⟩
  | append v s hv hsep ih =>
    rw [wordsAt_append hv hsep] at h
    rcases List.mem_cons.1 h with h | h
    · cases h
      exact ⟨0, rfl, List.prefix_append _ _⟩
    · obtain ⟨i, rfl, hi⟩ := ih h
      refine ⟨v.length + 1 + i, by omega, ?_⟩
      rw [Nat.add_assoc, ← List.drop_drop, List.drop_left, Nat.add_comm 1, List.drop_succ_cons]
      exact hi

/-- A word is not empty and has no separator, and its characters are of the text. -/
theorem mem_words (h : w ∈ words sep s) : w ≠ [] ∧ sep ∉ w ∧ w ⊆ s := by
  induction s using words_induction sep with
  | nil =>
    rw [words_nil] at h
    cases h
  | sep_cons s ih =>
    rw [words_sep] at h
    obtain ⟨hne, hsep, hsub⟩ := ih h
    exact ⟨hne, hsep, List.subset_cons_of_subset sep hsub⟩
  | word v hv hsep =>
    rw [words_word hv hsep] at h
    obtain rfl := List.mem_singleton.1 h
    exact ⟨hv, hsep, List.Subset.refl w⟩
  | append v s hv hsep ih =>
    rw [words_append hv hsep] at h
    rcases List.mem_cons.1 h with rfl | h
    · exact ⟨hv, hsep, List.subset_append_left w _⟩
    · obtain ⟨hne, hw, hsub⟩ := ih h
      exact ⟨hne, hw, fun x hx => List.mem_append_right v (List.mem_cons_of_mem sep (hsub hx))⟩

/-! ## Closing the gaps -/

/-- Every run of separators becomes one. -/
def collapse (sep : α) : List α → List α
  | a :: b :: s => if a = sep ∧ b = sep then collapse sep (b :: s) else a :: collapse sep (b :: s)
  | s => s

/-- Without the separators at its end. -/
def trimEnd (sep : α) (s : List α) : List α := s.rdropWhile (· = sep)

theorem collapse_nil (sep : α) : collapse sep [] = [] := rfl

theorem collapse_cons {c : α} (hc : c ≠ sep) (s : List α) : collapse sep (c :: s) = c :: collapse sep s := by
  cases s with
  | nil => rfl
  | cons d s => exact if_neg fun h => hc h.1

theorem collapse_append (hsep : sep ∉ w) (s : List α) : collapse sep (w ++ s) = w ++ collapse sep s := by
  induction w with
  | nil => rfl
  | cons c w ih =>
    obtain ⟨hc, hw⟩ := not_or.1 (mt List.mem_cons.2 hsep)
    rw [List.cons_append, collapse_cons (Ne.symm hc), ih hw, List.cons_append]

theorem collapse_word (hsep : sep ∉ w) : collapse sep w = w := by
  have h := collapse_append hsep []
  rwa [List.append_nil, collapse_nil, List.append_nil] at h

theorem collapse_sep (sep : α) (s : List α) :
    collapse sep (sep :: sep :: s) = collapse sep (sep :: s) := if_pos ⟨rfl, rfl⟩

theorem trimEnd_append (a s : List α) :
    trimEnd sep (a ++ s) = if trimEnd sep s = [] then trimEnd sep a else a ++ trimEnd sep s := by
  simp only [trimEnd, List.rdropWhile, List.reverse_append, List.dropWhile_append,
    List.isEmpty_iff, List.reverse_eq_nil_iff]
  split
  · rfl
  · rw [List.reverse_append, List.reverse_reverse]

theorem trimEnd_word (hsep : sep ∉ w) : trimEnd sep w = w := by
  rw [trimEnd, List.rdropWhile_eq_self_iff]
  intro hw
  rw [decide_eq_true_eq]
  intro h
  exact hsep (h ▸ List.getLast_mem hw)

/-- A text has words unless it is made of separators. -/
theorem trimEnd_eq_nil (sep : α) (s : List α) : trimEnd sep s = [] ↔ words sep s = [] := by
  induction s using words_induction sep with
  | nil => exact iff_of_true rfl (words_nil sep)
  | sep_cons s ih =>
    rw [words_sep, ← ih, show sep :: s = [sep] ++ s from rfl, trimEnd_append]
    have hsep : trimEnd sep [sep] = [] := by simp [trimEnd]
    by_cases hs : trimEnd sep s = []
    · simp [hs, hsep]
    · simp [hs]
  | word w hw hsep =>
    rw [trimEnd_word hsep, words_word hw hsep]
    exact iff_of_false hw (List.cons_ne_nil _ _)
  | append w s hw hsep ih =>
    rw [words_append hw hsep, trimEnd_append]
    refine iff_of_false ?_ (List.cons_ne_nil _ _)
    split
    · rwa [trimEnd_word hsep]
    · simp [hw]

theorem trimEnd_sep (hs : words sep s ≠ []) : trimEnd sep (sep :: s) = sep :: trimEnd sep s := by
  rw [ne_eq, ← trimEnd_eq_nil] at hs
  rw [show sep :: s = [sep] ++ s from rfl, trimEnd_append, if_neg hs]
  rfl

/-- A word with the rest of the text behind it. -/
theorem trimEnd_words (hsep : sep ∉ w) (s : List α) : trimEnd sep (w ++ sep :: s) =
    if words sep s = [] then w else w ++ sep :: trimEnd sep s := by
  have hcons : trimEnd sep (sep :: s) = [] ↔ words sep s = [] := by rw [trimEnd_eq_nil, words_sep]
  rw [trimEnd_append, trimEnd_word hsep]
  by_cases hs : words sep s = []
  · rw [if_pos (hcons.2 hs), if_pos hs]
  · rw [if_neg (mt hcons.1 hs), if_neg hs, trimEnd_sep hs]

omit [DecidableEq α] in
theorem intercalate_cons (sep : α) (w : List α) {ws : List (List α)} (hws : ws ≠ []) :
    [sep].intercalate (w :: ws) = w ++ sep :: [sep].intercalate ws := by
  cases ws with
  | nil => exact absurd rfl hws
  | cons v ws => simp [List.intercalate, List.intersperse]

omit [DecidableEq α] in
theorem intercalate_singleton (sep : α) (w : List α) : [sep].intercalate [w] = w := by
  simp [List.intercalate, List.intersperse]

/-- The words behind a separator, when there are some. -/
theorem collapse_trimEnd_sep (hs : words sep s ≠ []) :
    collapse sep (sep :: trimEnd sep s) = sep :: [sep].intercalate (words sep s) := by
  have hword : ∀ {w : List α}, w ≠ [] → sep ∉ w → ∀ t, collapse sep (sep :: (w ++ t)) =
      sep :: (w ++ collapse sep t) := by
    intro w hw hsep t
    rw [← collapse_append hsep]
    cases w with
    | nil => exact absurd rfl hw
    | cons c w => exact if_neg fun h : sep = sep ∧ c = sep => hsep (h.2 ▸ List.mem_cons_self)
  induction s using words_induction sep with
  | nil => exact absurd (words_nil sep) hs
  | sep_cons s ih =>
    rw [words_sep] at hs ⊢
    rw [trimEnd_sep hs, collapse_sep, ih hs]
  | word w hw hsep =>
    have h := hword hw hsep []
    rw [List.append_nil, collapse_nil, List.append_nil] at h
    rw [words_word hw hsep, trimEnd_word hsep, intercalate_singleton, h]
  | append w s hw hsep ih =>
    rw [trimEnd_words hsep, words_append hw hsep]
    by_cases hws : words sep s = []
    · have h := hword hw hsep []
      rw [List.append_nil, collapse_nil, List.append_nil] at h
      rw [if_pos hws, hws, intercalate_singleton, h]
    · rw [if_neg hws, intercalate_cons sep w hws, hword hw hsep, ih hws]

/-- **The words joined by one separator** are the text with its gaps closed and without the one at its end,
for a text that starts with a word. -/
theorem intercalate_words (hs : s.head? ≠ some sep) :
    [sep].intercalate (words sep s) = collapse sep (trimEnd sep s) := by
  induction s using words_induction sep with
  | nil => rw [words_nil]; rfl
  | sep_cons s => exact absurd rfl hs
  | word w hw hsep => rw [words_word hw hsep, trimEnd_word hsep, intercalate_singleton, collapse_word hsep]
  | append w s hw hsep =>
    rw [words_append hw hsep, trimEnd_words hsep]
    by_cases hws : words sep s = []
    · rw [if_pos hws, hws, intercalate_singleton, collapse_word hsep]
    · rw [if_neg hws, intercalate_cons sep w hws, collapse_append hsep, collapse_trimEnd_sep hws]

end Lib
