import WikiPress.Proofs.Text.Basic
import WikiPress.Text.Split

/-!
# Proofs/Text/Lines — splitting undoes joining, and trimming touches two lines

Splitting at a separator and joining with it are inverse to one another, and splitting turns the
concatenation around a separator into the concatenation of the pieces (`splitOn_append_cons`).

Read on lines, trimming drops the blank lines at both ends and the blanks at the outer side of the
two lines that then stand first and last (`splitOn_trim`); every other line stays as it is.
-/

namespace WikiPress.Text

variable {c : Char}

/-! ## Splitting and joining -/

theorem splitOn_ne_nil (c : Char) (t : Text) : splitOn c t ≠ [] := by
  cases t with
  | nil => simp [splitOn]
  | cons d t =>
    rw [splitOn]
    split
    · simp
    · split <;> simp

@[simp] theorem splitOn_nil : splitOn c [] = [[]] := rfl

@[simp] theorem splitOn_cons_self (t : Text) : splitOn c (c :: t) = [] :: splitOn c t := by
  simp [splitOn]

/-- A character that is no separator goes to the first piece. -/
theorem splitOn_cons_of_ne {d : Char} (h : d ≠ c) {t piece : Text} {rest : List Text}
    (ht : splitOn c t = piece :: rest) : splitOn c (d :: t) = (d :: piece) :: rest := by
  simp [splitOn, h, ht]

/-- **Splitting around a separator** splits both sides. -/
theorem splitOn_append_cons (s t : Text) :
    splitOn c (s ++ c :: t) = splitOn c s ++ splitOn c t := by
  induction s with
  | nil => simp
  | cons d s ih =>
    by_cases h : d = c
    · subst h
      simp [ih]
    · obtain ⟨piece, rest, hs⟩ := List.exists_cons_of_ne_nil (splitOn_ne_nil c s)
      rw [hs, List.cons_append] at ih
      rw [List.cons_append, splitOn_cons_of_ne h ih, splitOn_cons_of_ne h hs, List.cons_append]

theorem splitOn_of_not_mem {t : Text} (h : c ∉ t) : splitOn c t = [t] := by
  induction t with
  | nil => rfl
  | cons d t ih =>
    rw [List.mem_cons, not_or] at h
    exact splitOn_cons_of_ne (Ne.symm h.1) (ih h.2)

/-- What holds no separator goes to the last piece. -/
theorem exists_splitOn_append {s : Text} (hs : c ∉ s) (t : Text) :
    ∃ init last, splitOn c (t ++ s) = init ++ [last ++ s] := by
  induction t with
  | nil => exact ⟨[], [], splitOn_of_not_mem hs⟩
  | cons d t ih =>
    obtain ⟨init, last, ih⟩ := ih
    rw [List.cons_append]
    by_cases hd : d = c
    · subst hd
      exact ⟨[] :: init, last, by rw [splitOn_cons_self, ih, List.cons_append]⟩
    · rcases init with _ | ⟨piece, init⟩
      · exact ⟨[], d :: last, splitOn_cons_of_ne hd ih⟩
      · exact ⟨(d :: piece) :: init, last, splitOn_cons_of_ne hd ih⟩

theorem not_mem_of_mem_splitOn {t piece : Text} (h : piece ∈ splitOn c t) : c ∉ piece := by
  induction t generalizing piece with
  | nil =>
    obtain rfl : piece = [] := by simpa using h
    exact List.not_mem_nil
  | cons d t ih =>
    by_cases hd : d = c
    · subst hd
      rw [splitOn_cons_self, List.mem_cons] at h
      rcases h with rfl | h
      · exact List.not_mem_nil
      · exact ih h
    · obtain ⟨first, rest, ht⟩ := List.exists_cons_of_ne_nil (splitOn_ne_nil c t)
      rw [splitOn_cons_of_ne hd ht, List.mem_cons] at h
      rw [ht] at ih
      rcases h with rfl | h
      · rw [List.mem_cons, not_or]
        exact ⟨Ne.symm hd, ih List.mem_cons_self⟩
      · exact ih (List.mem_cons_of_mem _ h)

@[simp] theorem join_singleton (sep t : Text) : join sep [t] = t := rfl

theorem join_cons_of_ne_nil (sep t : Text) {ts : List Text} (h : ts ≠ []) :
    join sep (t :: ts) = t ++ sep ++ join sep ts := by
  obtain ⟨u, us, rfl⟩ := List.exists_cons_of_ne_nil h
  rfl

/-- Joining adds nothing but the separator. -/
theorem count_join {c d : Char} (h : d ≠ c) (ts : List Text) :
    (join [c] ts).count d = ts.flatten.count d := by
  induction ts with
  | nil => rfl
  | cons t ts ih =>
    have hsep : [c].count d = 0 := List.count_eq_zero.2 (by simpa using h)
    by_cases hts : ts = []
    · subst hts
      simp
    · rw [join_cons_of_ne_nil _ _ hts, List.count_append, List.count_append, ih, hsep,
        List.flatten_cons, List.count_append, Nat.add_zero]

/-- **Joining the pieces gives the text back.** -/
@[simp] theorem join_splitOn (c : Char) (t : Text) : join [c] (splitOn c t) = t := by
  induction t with
  | nil => rfl
  | cons d t ih =>
    by_cases h : d = c
    · subst h
      rw [splitOn_cons_self, join_cons_of_ne_nil _ _ (splitOn_ne_nil d t), ih]
      rfl
    · obtain ⟨piece, rest, ht⟩ := List.exists_cons_of_ne_nil (splitOn_ne_nil c t)
      rw [splitOn_cons_of_ne h ht]
      rw [ht] at ih
      cases rest with
      | nil => rw [← ih]; rfl
      | cons next rest => rw [← ih]; rfl

/-- **The pieces of joined texts** are the pieces of each, in order. -/
theorem splitOn_join {ts : List Text} (h : ts ≠ []) :
    splitOn c (join [c] ts) = ts.flatMap (splitOn c) := by
  induction ts with
  | nil => exact absurd rfl h
  | cons t ts ih =>
    by_cases hts : ts = []
    · subst hts
      simp
    · rw [join_cons_of_ne_nil _ _ hts, List.append_assoc, List.singleton_append,
        splitOn_append_cons, ih hts, List.flatMap_cons]

theorem splitOn_join_of_not_mem {ts : List Text} (h : ts ≠ []) (hc : ∀ t ∈ ts, c ∉ t) :
    splitOn c (join [c] ts) = ts := by
  have hmap : ts.flatMap (splitOn c) = ts.flatMap fun t => [t] :=
    List.flatMap_congr fun t ht => splitOn_of_not_mem (hc t ht)
  rw [splitOn_join h, hmap, List.flatMap_singleton']

theorem join_append (sep : Text) {ts us : List Text} (hts : ts ≠ []) (hus : us ≠ []) :
    join sep (ts ++ us) = join sep ts ++ sep ++ join sep us := by
  induction ts with
  | nil => exact absurd rfl hts
  | cons t ts ih =>
    by_cases hnil : ts = []
    · subst hnil
      exact join_cons_of_ne_nil _ _ hus
    · rw [List.cons_append, join_cons_of_ne_nil _ _ (by simp [hnil]), ih hnil,
        join_cons_of_ne_nil _ _ hnil]
      simp only [List.append_assoc]

theorem join_append_singleton (sep t : Text) {ts : List Text} (h : ts ≠ []) :
    join sep (ts ++ [t]) = join sep ts ++ sep ++ t :=
  join_append sep h (List.cons_ne_nil t [])

theorem reverse_join (c : Char) (ts : List Text) :
    (join [c] ts).reverse = join [c] (ts.reverse.map List.reverse) := by
  induction ts with
  | nil => rfl
  | cons t ts ih =>
    by_cases hts : ts = []
    · subst hts
      rfl
    · rw [join_cons_of_ne_nil _ _ hts, List.reverse_cons, List.map_append, List.map_singleton,
        join_append_singleton _ _ (by simpa using hts), ← ih]
      simp

/-- What holds no separator goes to the first piece where it stands in front… -/
theorem splitOn_append_of_not_mem {s t piece : Text} {rest : List Text} (hs : c ∉ s)
    (ht : splitOn c t = piece :: rest) : splitOn c (s ++ t) = (s ++ piece) :: rest := by
  induction s with
  | nil => exact ht
  | cons d s ih =>
    rw [List.mem_cons, not_or] at hs
    exact splitOn_cons_of_ne (Ne.symm hs.1) (ih hs.2)

/-- …and to the last one where it stands behind. -/
theorem splitOn_append_of_not_mem_right {s t last : Text} {init : List Text} (hs : c ∉ s)
    (ht : splitOn c t = init ++ [last]) : splitOn c (t ++ s) = init ++ [last ++ s] := by
  have hpieces : ∀ piece ∈ init ++ [last], c ∉ piece := fun piece hpiece =>
    not_mem_of_mem_splitOn (ht ▸ hpiece)
  have hlast : c ∉ last ++ s := by
    rw [List.mem_append, not_or]
    exact ⟨hpieces last (by simp), hs⟩
  have hjoin : t = join [c] (init ++ [last]) := by rw [← ht, join_splitOn]
  by_cases hnil : init = []
  · subst hnil
    rw [hjoin]
    exact splitOn_of_not_mem hlast
  · rw [hjoin, join_append_singleton _ _ hnil, List.append_assoc, List.append_assoc,
      List.singleton_append, splitOn_append_cons, splitOn_of_not_mem hlast,
      splitOn_join_of_not_mem hnil fun piece hpiece => hpieces piece (List.mem_append_left _ hpiece)]

/-- The pieces of a text read backwards. -/
theorem splitOn_reverse (c : Char) (t : Text) :
    splitOn c t.reverse = (splitOn c t).reverse.map List.reverse := by
  have hrev : t.reverse = join [c] ((splitOn c t).reverse.map List.reverse) := by
    rw [← reverse_join, join_splitOn]
  rw [hrev]
  refine splitOn_join_of_not_mem (by simpa using splitOn_ne_nil c t) fun piece hp => ?_
  obtain ⟨p, hmem, rfl⟩ := List.mem_map.1 hp
  rw [List.mem_reverse]
  exact not_mem_of_mem_splitOn (List.mem_reverse.1 hmem)

theorem mem_join {sep : Text} {d : Char} {ts : List Text} (h : d ∈ join sep ts) :
    d ∈ sep ∨ ∃ t ∈ ts, d ∈ t := by
  induction ts with
  | nil => exact absurd h List.not_mem_nil
  | cons t ts ih =>
    by_cases hts : ts = []
    · subst hts
      exact .inr ⟨t, List.mem_cons_self, h⟩
    · rw [join_cons_of_ne_nil _ _ hts, List.append_assoc, List.mem_append, List.mem_append] at h
      rcases h with h | h | h
      · exact .inr ⟨t, List.mem_cons_self, h⟩
      · exact .inl h
      · obtain h | ⟨u, hu, hd⟩ := ih h
        · exact .inl h
        · exact .inr ⟨u, List.mem_cons_of_mem _ hu, hd⟩

/-- A piece holds characters of the text only. -/
theorem mem_of_mem_splitOn {t piece : Text} (h : piece ∈ splitOn c t) {d : Char}
    (hd : d ∈ piece) : d ∈ t := by
  induction t generalizing piece with
  | nil =>
    obtain rfl : piece = [] := by simpa using h
    exact absurd hd List.not_mem_nil
  | cons e t ih =>
    by_cases he : e = c
    · subst he
      rw [splitOn_cons_self, List.mem_cons] at h
      rcases h with rfl | h
      · exact absurd hd List.not_mem_nil
      · exact List.mem_cons_of_mem _ (ih h hd)
    · obtain ⟨first, rest, ht⟩ := List.exists_cons_of_ne_nil (splitOn_ne_nil c t)
      rw [splitOn_cons_of_ne he ht, List.mem_cons] at h
      rw [ht] at ih
      rcases h with rfl | h
      · rcases List.mem_cons.1 hd with rfl | hd
        · exact List.mem_cons_self
        · exact List.mem_cons_of_mem _ (ih List.mem_cons_self hd)
      · exact List.mem_cons_of_mem _ (ih (List.mem_cons_of_mem _ h) hd)

/-- A text that is cut is what stands before, the separator, and what stands behind. -/
theorem eq_of_cut? {sep t before after : Text} (h : cut? sep t = some (before, after)) :
    t = before ++ (sep ++ after) := by
  induction t generalizing before with
  | nil =>
    rw [cut?, Option.map_eq_some_iff] at h
    obtain ⟨rest, hrest, h⟩ := h
    rw [Prod.mk.injEq] at h
    obtain ⟨rfl, rfl⟩ := h
    rw [List.nil_append]
    exact strip?_eq_some_iff.1 hrest
  | cons c t ih =>
    rw [cut?] at h
    split at h
    · next rest hrest =>
      rw [Option.some.injEq, Prod.mk.injEq] at h
      obtain ⟨rfl, rfl⟩ := h
      rw [List.nil_append]
      exact strip?_eq_some_iff.1 hrest
    · obtain ⟨⟨front, back⟩, hcut, h⟩ := Option.map_eq_some_iff.1 h
      rw [Prod.mk.injEq] at h
      obtain ⟨rfl, rfl⟩ := h
      exact congrArg (c :: ·) (ih hcut)

theorem eq_of_cutLast? {sep t before after : Text} (h : cutLast? sep t = some (before, after)) :
    t = before ++ (sep ++ after) := by
  obtain ⟨⟨back, front⟩, hcut, h⟩ := Option.map_eq_some_iff.1 h
  rw [Prod.mk.injEq] at h
  obtain ⟨rfl, rfl⟩ := h
  rw [← List.reverse_inj, eq_of_cut? hcut]
  simp

/-! ## Complete lines -/

/-- **Joining complete lines gives the text back.** -/
@[simp] theorem flatten_completeLines (t : Text) : (completeLines t).flatten = t := by
  induction t with
  | nil => rfl
  | cons d t ih =>
    rw [completeLines.eq_def]
    split
    · next heq => exact absurd heq (List.cons_ne_nil _ _)
    · next heq =>
      obtain ⟨rfl, rfl⟩ := List.cons.inj heq
      rw [List.flatten_cons, ih, List.singleton_append]
    · next heq =>
      obtain ⟨rfl, rfl⟩ := List.cons.inj heq
      split
      · next hnil =>
        rw [hnil] at ih
        rw [← ih]
        rfl
      · next hcons =>
        rw [hcons, List.flatten_cons] at ih
        rw [List.flatten_cons, List.cons_append, ih]

theorem completeLines_newline_cons (t : Text) :
    completeLines ('\n' :: t) = ['\n'] :: completeLines t := rfl

/-- A character that ends no line goes to the first line. -/
theorem completeLines_cons_of_ne {d : Char} (h : d ≠ '\n') {t line : Text} {rest : List Text}
    (ht : completeLines t = line :: rest) :
    completeLines (d :: t) = (d :: line) :: rest := by
  rw [completeLines.eq_3 _ _ h, ht]

theorem completeLines_ne_nil {t : Text} (h : t ≠ []) : completeLines t ≠ [] := by
  intro hnil
  rw [← flatten_completeLines t, hnil] at h
  exact h rfl

/-- **Complete lines, one text after the other**: what ends with a newline ends a line. -/
theorem completeLines_append_newline (s t : Text) :
    completeLines (s ++ '\n' :: t) = completeLines (s ++ ['\n']) ++ completeLines t := by
  induction s with
  | nil => rfl
  | cons d s ih =>
    by_cases hd : d = '\n'
    · subst hd
      rw [List.cons_append, List.cons_append, completeLines_newline_cons,
        completeLines_newline_cons, ih, List.cons_append]
    · obtain ⟨line, rest, hs⟩ :=
        List.exists_cons_of_ne_nil (completeLines_ne_nil (t := s ++ ['\n']) (by simp))
      rw [hs, List.cons_append] at ih
      rw [List.cons_append, List.cons_append, completeLines_cons_of_ne hd ih,
        completeLines_cons_of_ne hd hs, List.cons_append]

theorem completeLines_append {s : Text} (h : s.getLast? = some '\n') (t : Text) :
    completeLines (s ++ t) = completeLines s ++ completeLines t := by
  obtain ⟨s, rfl⟩ := List.getLast?_eq_some_iff.1 h
  rw [List.append_assoc, List.singleton_append, completeLines_append_newline]

/-- One line is one line. -/
theorem completeLines_of_not_mem {line : Text} (h : '\n' ∉ line) :
    completeLines (line ++ ['\n']) = [line ++ ['\n']] := by
  induction line with
  | nil => rfl
  | cons d line ih =>
    rw [List.mem_cons, not_or] at h
    exact completeLines_cons_of_ne (Ne.symm h.1) (ih h.2)

/-- …also without a line end. -/
theorem completeLines_of_unended {line : Text} (h : '\n' ∉ line) (hne : line ≠ []) :
    completeLines line = [line] := by
  induction line with
  | nil => exact absurd rfl hne
  | cons d line ih =>
    rw [List.mem_cons, not_or] at h
    rcases line with _ | ⟨e, line⟩
    · exact completeLines.eq_3 _ _ (Ne.symm h.1)
    · exact completeLines_cons_of_ne (Ne.symm h.1) (ih h.2 (List.cons_ne_nil _ _))

/-- **Joined lines** are the complete lines, but for the line end of the last one. -/
theorem completeLines_join {lines : List Text} {last : Text} (hlines : ∀ line ∈ lines, '\n' ∉ line)
    (hlast : '\n' ∉ last) (hne : last ≠ []) :
    completeLines (join ['\n'] (lines ++ [last])) = lines.map (· ++ ['\n']) ++ [last] := by
  induction lines with
  | nil => exact completeLines_of_unended hlast hne
  | cons line lines ih =>
    obtain ⟨hline, hlines⟩ := List.forall_mem_cons.1 hlines
    rw [List.cons_append, join_cons_of_ne_nil _ _ (List.append_ne_nil_of_right_ne_nil _ (by simp)),
      List.append_assoc, List.singleton_append, completeLines_append_newline,
      completeLines_of_not_mem hline, ih hlines]
    rfl

/-! ## Trimming, line by line -/

/-- Lines without the blank ones in front and without the blanks the first of the rest begins
with. -/
def trimFront : List Text → List Text
  | [] => [[]]
  | l :: ls => if allBlank l then trimFront ls else trimStart l :: ls

/-- The same at the other end. -/
def trimBack (ls : List Text) : List Text :=
  (trimFront (ls.reverse.map List.reverse)).reverse.map List.reverse

/-- A first line that trimming keeps stays, and the lines behind it. -/
theorem trimFront_cons_of_trimStart {l : Text} (hblank : allBlank l = false)
    (h : trimStart l = l) (ls : List Text) : trimFront (l :: ls) = l :: ls := by
  rw [trimFront, if_neg (by simp [hblank]), h]

theorem splitOn_trimStart_join (ls : List Text) (h : ∀ l ∈ ls, '\n' ∉ l) :
    splitOn '\n' (trimStart (join ['\n'] ls)) = trimFront ls := by
  induction ls with
  | nil => rfl
  | cons l ls ih =>
    have hls : ∀ m ∈ ls, '\n' ∉ m := fun m hm => h m (List.mem_cons_of_mem _ hm)
    have hl : '\n' ∉ trimStart l := fun hmem =>
      h l List.mem_cons_self ((trimStart_suffix l).subset hmem)
    by_cases hnil : ls = []
    · subst hnil
      by_cases hb : allBlank l = true
      · simp [trimFront, hb, trimStart_of_allBlank hb]
      · simp [trimFront, hb, splitOn_of_not_mem hl]
    · rw [join_cons_of_ne_nil _ _ hnil, trimFront]
      by_cases hb : allBlank l = true
      · have hblank : allBlank (l ++ ['\n']) = true := by
          simp only [allBlank, List.all_append, Bool.and_eq_true] at hb ⊢
          exact ⟨hb, by decide⟩
        rw [if_pos hb, trimStart_append_of_allBlank hblank, ih hls]
      · rw [if_neg hb, List.append_assoc, trimStart_append_of_not_allBlank (by simpa using hb),
          List.singleton_append, splitOn_append_cons, splitOn_of_not_mem hl,
          splitOn_join_of_not_mem hnil hls]
        rfl

/-- The lines of a text trimmed in front. -/
theorem splitOn_trimStart (t : Text) :
    splitOn '\n' (trimStart t) = trimFront (splitOn '\n' t) := by
  conv_lhs => rw [← join_splitOn '\n' t]
  exact splitOn_trimStart_join _ fun l hl => not_mem_of_mem_splitOn hl

/-- …and at the end. -/
theorem splitOn_trimEnd (t : Text) :
    splitOn '\n' (trimEnd t) = trimBack (splitOn '\n' t) := by
  rw [trimEnd_eq_reverse, splitOn_reverse, splitOn_trimStart, splitOn_reverse]
  rfl

/-- **The lines of a trimmed text.** -/
theorem splitOn_trim (t : Text) :
    splitOn '\n' (trim t) = trimBack (trimFront (splitOn '\n' t)) := by
  rw [trim, splitOn_trimEnd, splitOn_trimStart]

/-- A line that is not blank survives the trimming in front, but for the blanks before it. -/
theorem mem_trimFront {l : Text} (hl : allBlank l = false) {ls : List Text} (h : l ∈ ls) :
    l ∈ trimFront ls ∨ trimStart l ∈ trimFront ls := by
  induction ls with
  | nil => exact absurd h List.not_mem_nil
  | cons m ls ih =>
    rw [trimFront]
    by_cases hm : allBlank m = true
    · rw [if_pos hm]
      rcases List.mem_cons.1 h with rfl | h
      · rw [hm] at hl
        exact absurd hl (by decide)
      · exact ih h
    · rw [if_neg hm]
      rcases List.mem_cons.1 h with rfl | h
      · exact .inr List.mem_cons_self
      · exact .inl (List.mem_cons_of_mem _ h)

/-- …and the trimming at the end, but for the blanks after it. -/
theorem mem_trimBack {l : Text} (hl : allBlank l = false) {ls : List Text} (h : l ∈ ls) :
    l ∈ trimBack ls ∨ trimEnd l ∈ trimBack ls := by
  have hrev : l.reverse ∈ ls.reverse.map List.reverse :=
    List.mem_map_of_mem (List.mem_reverse.2 h)
  rcases mem_trimFront (by rw [allBlank_reverse]; exact hl) hrev with hmem | hmem
  · exact .inl (List.mem_map.2 ⟨l.reverse, List.mem_reverse.2 hmem, l.reverse_reverse⟩)
  · exact .inr (List.mem_map.2 ⟨trimStart l.reverse, List.mem_reverse.2 hmem, rfl⟩)

/-- Trimming in front removes blank lines, when blanks at the beginning of lines do not count. -/
theorem map_trimStart_trimFront {ls : List Text} (h : ls ≠ []) :
    ∃ k, ls.map trimStart = List.replicate k [] ++ (trimFront ls).map trimStart := by
  induction ls with
  | nil => exact absurd rfl h
  | cons l ls ih =>
    rw [trimFront]
    split
    · next hl =>
      rw [List.map_cons, trimStart_of_allBlank hl]
      by_cases hls : ls = []
      · rw [hls]
        exact ⟨0, rfl⟩
      · obtain ⟨k, hk⟩ := ih hls
        exact ⟨k + 1, by rw [hk, List.replicate_succ, List.cons_append]⟩
    · exact ⟨0, by rw [List.map_cons, List.map_cons, trimStart_trimStart]; rfl⟩

/-- **Trimming at the end removes blank lines**, when blanks at the end of lines do not count. -/
theorem map_trimEnd_splitOn (t : Text) :
    ∃ k, (splitOn '\n' t).map trimEnd =
      (splitOn '\n' (trimEnd t)).map trimEnd ++ List.replicate k [] := by
  have hend : ∀ ls : List Text, (ls.reverse.map List.reverse).map trimEnd =
      ((ls.map trimStart).map List.reverse).reverse := by
    intro ls
    rw [List.map_map, List.map_map, ← List.map_reverse]
    exact List.map_congr_left fun l _ => by
      rw [Function.comp_apply, Function.comp_apply, trimEnd_eq_reverse, List.reverse_reverse]
  have hlines : splitOn '\n' t =
      ((splitOn '\n' t).reverse.map List.reverse).reverse.map List.reverse := by simp
  have hne : (splitOn '\n' t).reverse.map List.reverse ≠ [] := by
    simpa using splitOn_ne_nil '\n' t
  obtain ⟨k, hk⟩ := map_trimStart_trimFront hne
  refine ⟨k, ?_⟩
  rw [splitOn_trimEnd, trimBack, hend, ← List.reverse_replicate, hlines, hend, hk]
  simp

end WikiPress.Text
