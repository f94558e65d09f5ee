import WikiPress.Proofs.Excerpt.Windows
import WikiPress.Proofs.Text.Basic

/-!
# Proofs/Excerpt/Reading — a fragment read back shows its run

    …the cat s…   ──render──▸   the <span class="highlight">cat</span> s   ──read──▸   the cat s
                                                                                       ····×××··

Taking the tags out of a rendered fragment and reading its references gives characters, each marked
by whether it stood in a highlight element (`read`).  They are those of the run of the fragment, each
once and marked by whether it belongs to an occurrence, but for the blanks before the first
occurrence and behind the last one (`read_render`).
-/

namespace WikiPress.Excerpt

/-! ## Reading HTML -/

/-- The tag that opens a highlight element, without its brackets. -/
def highlightTag : Text := lit "span class=\"highlight\""

/-- The characters outside of tags, each with whether the last tag before it opens a highlight.
`tag` holds what was read of a tag. -/
def untagged : (tag : Option Text) → (inside : Bool) → Text → List (Char × Bool)
  | _, _, [] => []
  | none, inside, c :: t =>
    if c = '<' then untagged (some []) inside t else (c, inside) :: untagged none inside t
  | some tag, inside, c :: t =>
    if c = '>' then untagged none (tag == highlightTag) t
    else untagged (some (tag ++ [c])) inside t

/-- Marked characters with the references among them read. -/
def unescaped : List (Char × Bool) → List (Char × Bool)
  | ('&', m) :: ('a', _) :: ('m', _) :: ('p', _) :: (';', _) :: t => ('&', m) :: unescaped t
  | ('&', m) :: ('l', _) :: ('t', _) :: (';', _) :: t => ('<', m) :: unescaped t
  | ('&', m) :: ('g', _) :: ('t', _) :: (';', _) :: t => ('>', m) :: unescaped t
  | c :: t => c :: unescaped t
  | [] => []

/-- What HTML shows that begins inside a highlight element, or outside of one. -/
def readFrom (inside : Bool) (html : Text) : List (Char × Bool) :=
  unescaped (untagged none inside html)

/-- **What HTML shows**: its characters without the tags and with the references read, each with
whether it stands in a highlight element. -/
def read (html : Text) : List (Char × Bool) := readFrom false html

section Read

variable {inside : Bool} {s t : Text}

/-- Text without an angle bracket is read as it is, -/
theorem untagged_append (h : '<' ∉ s) :
    untagged none inside (s ++ t) = s.map (·, inside) ++ untagged none inside t := by
  induction s with
  | nil => rfl
  | cons c s ih =>
    rw [List.mem_cons, not_or] at h
    rw [List.cons_append, untagged, if_neg (Ne.symm h.1), ih h.2]
    rfl

/-- …and a tag is read to its end, -/
theorem untagged_some {tag : Text} (h : '>' ∉ s) :
    untagged (some tag) inside (s ++ '>' :: t) = untagged none (tag ++ s == highlightTag) t := by
  induction s generalizing tag with
  | nil => rw [List.append_nil, List.nil_append, untagged, if_pos rfl]
  | cons c s ih =>
    rw [List.mem_cons, not_or] at h
    rw [List.cons_append, untagged, if_neg (Ne.symm h.1), ih h.2, List.append_assoc,
      List.singleton_append]

/-- …and taken out. -/
theorem untagged_tag {tag : Text} (htag : tag = '<' :: (s ++ ['>'])) (h : '>' ∉ s) (t : Text) :
    untagged none inside (tag ++ t) = untagged none (s == highlightTag) t := by
  have hsplit : tag ++ t = '<' :: (s ++ '>' :: t) := by rw [htag]; simp
  rw [hsplit, untagged.eq_def]
  exact untagged_some h

theorem unescaped_cons {c : Char} (h : c ≠ '&') (l : List (Char × Bool)) :
    unescaped ((c, inside) :: l) = (c, inside) :: unescaped l := by
  rw [unescaped.eq_def]
  split <;> simp_all

/-- What a character is escaped to. -/
theorem escapeChar_cases (c : Char) :
    (c = '&' ∧ Text.escapeChar c = ['&', 'a', 'm', 'p', ';']) ∨
      (c = '<' ∧ Text.escapeChar c = ['&', 'l', 't', ';']) ∨
      (c = '>' ∧ Text.escapeChar c = ['&', 'g', 't', ';']) ∨
      (c ≠ '&' ∧ c ≠ '<' ∧ Text.escapeChar c = [c]) := by
  have hand : lit "&amp;" = ['&', 'a', 'm', 'p', ';'] := by decide +kernel
  have hless : lit "&lt;" = ['&', 'l', 't', ';'] := by decide +kernel
  have hgreater : lit "&gt;" = ['&', 'g', 't', ';'] := by decide +kernel
  rw [Text.escapeChar.eq_def]
  split <;> simp_all

theorem not_mem_escape (s : Text) : '<' ∉ Text.escape s := by
  rw [Text.escape, List.mem_flatMap]
  rintro ⟨c, -, hc⟩
  rcases escapeChar_cases c with ⟨-, h⟩ | ⟨-, h⟩ | ⟨-, h⟩ | ⟨-, hne, h⟩
  · exact absurd (h ▸ hc) (by decide)
  · exact absurd (h ▸ hc) (by decide)
  · exact absurd (h ▸ hc) (by decide)
  · rw [h, List.mem_singleton] at hc
    exact hne hc.symm

/-- **Escaped characters are read as they were.** -/
theorem unescaped_escape (s : Text) (l : List (Char × Bool)) :
    unescaped ((Text.escape s).map (·, inside) ++ l) = s.map (·, inside) ++ unescaped l := by
  induction s with
  | nil => rfl
  | cons c s ih =>
    have hescape : Text.escape (c :: s) = Text.escapeChar c ++ Text.escape s := List.flatMap_cons
    rw [hescape, List.map_append, List.append_assoc]
    rcases escapeChar_cases c with ⟨rfl, h⟩ | ⟨rfl, h⟩ | ⟨rfl, h⟩ | ⟨hne, -, h⟩
    · simp [h, unescaped, ih]
    · simp [h, unescaped, ih]
    · simp [h, unescaped, ih]
    · rw [h, List.map_singleton, List.singleton_append, unescaped_cons hne, ih]
      rfl

/-! ### A rendering, piece by piece -/

theorem readFrom_escape_append (s t : Text) :
    readFrom inside (Text.escape s ++ t) = s.map (·, inside) ++ readFrom inside t := by
  rw [readFrom, untagged_append (not_mem_escape s), unescaped_escape, readFrom]

theorem readFrom_escape (s : Text) : readFrom inside (Text.escape s) = s.map (·, inside) := by
  have hnil : readFrom inside [] = [] := rfl
  rw [← List.append_nil (Text.escape s), readFrom_escape_append, hnil, List.append_nil]

theorem readFrom_open (t : Text) :
    readFrom inside (lit "<span class=\"highlight\">" ++ t) = readFrom true t := by
  have htag : lit "<span class=\"highlight\">" = '<' :: (highlightTag ++ ['>']) := by decide +kernel
  rw [readFrom, untagged_tag htag (by decide +kernel), beq_self_eq_true]
  rfl

theorem readFrom_close (t : Text) : readFrom inside (lit "</span>" ++ t) = readFrom false t := by
  have htag : lit "</span>" = '<' :: (lit "/span" ++ ['>']) := by decide +kernel
  have hother : (lit "/span" == highlightTag) = false := by decide +kernel
  rw [readFrom, untagged_tag htag (by decide +kernel), hother]
  rfl

/-- **What is highlighted is read inside the element.** -/
theorem readFrom_highlighted_append (s t : Text) :
    readFrom inside (highlighted s ++ t) = s.map (·, true) ++ readFrom false t := by
  have hpieces : highlighted s ++ t =
      lit "<span class=\"highlight\">" ++ (Text.escape s ++ (lit "</span>" ++ t)) := by
    unfold highlighted
    rw [List.append_assoc (lit "<span class=\"highlight\">" ++ Text.escape s),
      List.append_assoc (lit "<span class=\"highlight\">")]
  rw [hpieces, readFrom_open, readFrom_escape_append, readFrom_close]

end Read

/-! ## Marked text -/

/-- An occurrence of the given size covers a position. -/
def Covered (size : Nat) (hits : List Nat) (p : Nat) : Prop :=
  ∃ hit ∈ hits, hit ≤ p ∧ p < hit + size

instance (size : Nat) (hits : List Nat) (p : Nat) : Decidable (Covered size hits p) :=
  inferInstanceAs (Decidable (∃ hit ∈ hits, hit ≤ p ∧ p < hit + size))

/-- The characters of a text between two positions, each with whether its position is inside an
occurrence. -/
def marked (inside : Nat → Bool) (text : Text) (a b : Nat) : List (Char × Bool) :=
  ((slice text a b).zipIdx a).map fun (c, p) => (c, inside p)

/-- A blank outside of occurrences. -/
def isMargin (x : Char × Bool) : Bool := Text.isBlank x.1 && !x.2

/-- Marked characters without the blanks before the first occurrence and behind the last one. -/
def trimmed (l : List (Char × Bool)) : List (Char × Bool) :=
  (l.rdropWhile isMargin).dropWhile isMargin

section Marked

variable {inside : Nat → Bool} {text : Text} {a b c : Nat}

theorem marked_append_marked (hab : a ≤ b) (hbc : b ≤ c) (hlength : b ≤ text.length) :
    marked inside text a b ++ marked inside text b c = marked inside text a c := by
  have hsize : a + (slice text a b).length = b := by rw [length_slice hlength]; omega
  rw [marked, marked, marked, ← List.map_append, ← slice_append_slice hab hbc, List.zipIdx_append,
    hsize]

/-- Text that lies inside an occurrence, or outside of all, has one mark. -/
theorem marked_eq_map {m : Bool} (hlength : b ≤ text.length)
    (h : ∀ p, a ≤ p → p < b → inside p = m) :
    marked inside text a b = (slice text a b).map (·, m) := by
  have hmark : ∀ x ∈ (slice text a b).zipIdx a, (x.1, inside x.2) = (x.1, m) := by
    intro x hx
    have hge := List.le_snd_of_mem_zipIdx hx
    have hlt := List.snd_lt_add_of_mem_zipIdx hx
    rw [length_slice hlength] at hlt
    rw [h x.2 hge (by omega)]
  have hfst : ((slice text a b).zipIdx a).map Prod.fst = slice text a b := List.zipIdx_map_fst a _
  rw [marked, List.map_congr_left hmark, ← hfst, List.map_map, hfst]
  rfl

/-! ### Trimming it -/

theorem dropWhile_isMargin (s : Text) :
    (s.map (·, false)).dropWhile isMargin = (Text.trimStart s).map (·, false) := by
  rw [List.dropWhile_map, Text.trimStart]
  congr 2
  funext d
  rw [Function.comp_apply, isMargin, Bool.not_false, Bool.and_true]

theorem rdropWhile_isMargin (s : Text) :
    (s.map (·, false)).rdropWhile isMargin = (Text.trimEnd s).map (·, false) := by
  rw [List.rdropWhile, ← List.map_reverse, dropWhile_isMargin, ← List.map_reverse,
    ← Text.trimEnd_eq_reverse]

/-- Trimming in front stops at an occurrence, -/
theorem dropWhile_isMargin_append {s : Text} (hs : s ≠ []) (l l' : List (Char × Bool)) :
    (l ++ (s.map (·, true) ++ l')).dropWhile isMargin =
      l.dropWhile isMargin ++ (s.map (·, true) ++ l') := by
  obtain ⟨d, s, rfl⟩ := List.exists_cons_of_ne_nil hs
  have hstop : isMargin (d, true) = false := by rw [isMargin, Bool.not_true, Bool.and_false]
  induction l with
  | nil => simp [hstop]
  | cons x l ih =>
    rw [List.cons_append, List.dropWhile_cons, List.dropWhile_cons]
    split
    · exact ih
    · rfl

/-- …and so does trimming behind. -/
theorem rdropWhile_isMargin_append {s : Text} (hs : s ≠ []) (l l' : List (Char × Bool)) :
    (l ++ (s.map (·, true) ++ l')).rdropWhile isMargin =
      l ++ (s.map (·, true) ++ l'.rdropWhile isMargin) := by
  have hreverse : s.reverse ≠ [] := fun hnil => hs (List.reverse_eq_nil_iff.1 hnil)
  have h := dropWhile_isMargin_append hreverse l'.reverse l.reverse
  rw [List.rdropWhile, List.reverse_append, List.reverse_append, List.append_assoc,
    ← List.map_reverse, h]
  simp [List.rdropWhile]

end Marked

/-! ## A run cut at its occurrences -/

/-- **A stretch of text up to `stop` is cut at these occurrences**: they lie in it in order, and the
positions inside are those that they cover. -/
inductive Cut (inside : Nat → Bool) (size stop : Nat) : (cursor : Nat) → (hits : List Nat) → Prop
  /-- Nothing is left to show but text. -/
  | last {cursor : Nat} (hle : cursor ≤ stop)
      (hout : ∀ p, cursor ≤ p → p < stop → inside p = false) : Cut inside size stop cursor []
  /-- There is an occurrence, and text before it. -/
  | hit {cursor hit : Nat} {rest : List Nat} (hle : cursor ≤ hit)
      (hout : ∀ p, cursor ≤ p → p < hit → inside p = false)
      (hin : ∀ p, hit ≤ p → p < hit + size → inside p = true)
      (hrest : Cut inside size stop (hit + size) rest) : Cut inside size stop cursor (hit :: rest)

section Cut

variable {inside : Nat → Bool} {size stop cursor : Nat} {hits : List Nat}

theorem Cut.le (h : Cut inside size stop cursor hits) : cursor ≤ stop := by
  induction h with
  | last hle _ => exact hle
  | hit hle _ _ _ ih => omega

theorem covered_cons {hit p : Nat} {rest : List Nat} :
    Covered size (hit :: rest) p ↔ (hit ≤ p ∧ p < hit + size) ∨ Covered size rest p :=
  List.exists_mem_cons_iff _ _ _

/-- Occurrences that stand apart cut what they lie in. -/
theorem cut_of_apart (hcursor : cursor ≤ stop) (hapart : hits.Pairwise fun p r => p + size ≤ r)
    (hwithin : ∀ hit ∈ hits, cursor ≤ hit ∧ hit + size ≤ stop)
    (hinside : ∀ p, cursor ≤ p → p < stop → (inside p = true ↔ Covered size hits p)) :
    Cut inside size stop cursor hits := by
  induction hits generalizing cursor with
  | nil =>
    refine .last hcursor fun p hge hlt => Bool.eq_false_iff.2 fun htrue => ?_
    obtain ⟨hit, hmem, -⟩ := (hinside p hge hlt).1 htrue
    exact absurd hmem List.not_mem_nil
  | cons hit rest ih =>
    obtain ⟨⟨hge, hstop⟩, hrest⟩ := List.forall_mem_cons.1 hwithin
    obtain ⟨hbehind, hapart⟩ := List.pairwise_cons.1 hapart
    refine .hit hge (fun p hp hlt => Bool.eq_false_iff.2 fun htrue => ?_) (fun p hp hlt => ?_)
      (ih hstop hapart (fun r hr => ⟨hbehind r hr, (hrest r hr).2⟩) fun p hp hlt => ?_)
    · rcases covered_cons.1 ((hinside p hp (by omega)).1 htrue) with hself | ⟨r, hr, hrp, -⟩
      · omega
      · have hle := hbehind r hr
        omega
    · exact (hinside p (by omega) (by omega)).2 (covered_cons.2 (.inl ⟨hp, hlt⟩))
    · have hnot : ¬ (hit ≤ p ∧ p < hit + size) := by omega
      rw [hinside p (by omega) hlt, covered_cons, or_iff_right hnot]

end Cut

/-- **A fragment is cut at the occurrences that it holds.** -/
theorem Merged.cut {length size : Nat} {hits : List Nat} {fs : List Fragment} {f : Fragment}
    (h : Merged length size hits fs) (hf : f ∈ fs) (hsize : 0 < size)
    (hlength : ∀ hit ∈ hits, hit + size ≤ length)
    (hapart : hits.Pairwise fun p r => p + size ≤ r) :
    Cut (fun p => decide (Covered size hits p)) size f.stop f.start (hits.filter (f.Holds ·)) := by
  have hwindow : ∀ hit ∈ hits, ∀ p, hit ≤ p → p < hit + size → f.Holds p →
      f.Holds hit ∧ hit + size ≤ f.stop := by
    intro hit hhit p hge hlt hfp
    have hle := hlength hit hhit
    have hwhole : ∀ q, hit ≤ q → q < hit + size → f.Holds q := fun q hgeq hltq =>
      h.holds_of_inWindow hf hhit ⟨by omega, by omega⟩ hfp ⟨by omega, by omega⟩
    have hend := (hwhole (hit + size - 1) (by omega) (by omega)).2
    exact ⟨hwhole hit (Nat.le_refl _) (by omega), by omega⟩
  refine cut_of_apart (Nat.le_of_lt (h.bounded f hf).1) (hapart.filter _) (fun hit hhit => ?_)
    fun p hge hlt => ?_
  · obtain ⟨hhit, hholds⟩ := List.mem_filter.1 hhit
    have hholds := of_decide_eq_true hholds
    exact ⟨hholds.1, (hwindow hit hhit hit (Nat.le_refl _) (by omega) hholds).2⟩
  · rw [decide_eq_true_iff]
    constructor
    · rintro ⟨hit, hhit, hgep, hltp⟩
      have hholds := (hwindow hit hhit p hgep hltp ⟨hge, hlt⟩).1
      exact ⟨hit, List.mem_filter.2 ⟨hhit, decide_eq_true hholds⟩, hgep, hltp⟩
    · rintro ⟨hit, hhit, hgep⟩
      exact ⟨hit, (List.mem_filter.1 hhit).1, hgep⟩

/-- A fragment holds an occurrence. -/
theorem Merged.filter_ne_nil {length size : Nat} {hits : List Nat} {fs : List Fragment}
    {f : Fragment} (h : Merged length size hits fs) (hf : f ∈ fs) (hsize : 0 < size)
    (hlength : ∀ hit ∈ hits, hit + size ≤ length) : hits.filter (f.Holds ·) ≠ [] := by
  have hfirst : f.Holds f.start := ⟨Nat.le_refl _, (h.bounded f hf).1⟩
  obtain ⟨hit, hhit, hwindow⟩ := h.shown f hf _ hfirst
  have hholds := h.holds_of_inWindow hf hhit hwindow hfirst (inWindow_self hsize (hlength hit hhit))
  exact List.ne_nil_of_mem (List.mem_filter.2 ⟨hhit, decide_eq_true hholds⟩)

/-- **Every fragment of a text is cut at occurrences**, of which there is one. -/
theorem exists_cut_of_mem_fragments {text query : Text} {f : Fragment} (hquery : query ≠ [])
    (hf : f ∈ fragments text query) :
    f.stop ≤ text.length ∧ ∃ hits ≠ [],
      f.matched.reverse = hits.map (fun hit => (hit, hit + query.length)) ∧
        Cut (fun p => decide (Covered query.length (occurrences query 0 0 text) p)) query.length
          f.stop f.start hits := by
  have hmerged := merged_fragments hquery text
  have hleftmost := leftmost_occurrences hquery text
  have hmem := List.mem_reverse.2 hf
  have hpos := List.length_pos_of_ne_nil hquery
  have hlength : ∀ hit ∈ occurrences query 0 0 text, hit + query.length ≤ text.length :=
    fun hit hhit => (hleftmost.occurs hit hhit).2.add_length_le hquery
  exact ⟨(hmerged.bounded f hmem).2, _, hmerged.filter_ne_nil hmem hpos hlength,
    hmerged.matched f hmem, hmerged.cut hmem hpos hlength hleftmost.apart⟩

/-! ## Renderings -/

section Render

variable {inside : Nat → Bool} {size stop cursor : Nat} {hits : List Nat} {text : Text}

/-- The pieces up to the end of an occurrence are read as its stretch of the text. -/
theorem marked_eq_of_hit {hit : Nat} (hle : cursor ≤ hit) (hstop : hit + size ≤ stop)
    (hlength : stop ≤ text.length) (hout : ∀ p, cursor ≤ p → p < hit → inside p = false)
    (hin : ∀ p, hit ≤ p → p < hit + size → inside p = true) :
    marked inside text cursor stop = (slice text cursor hit).map (·, false) ++
      ((slice text hit (hit + size)).map (·, true) ++ marked inside text (hit + size) stop) := by
  rw [← marked_eq_map (by omega) hout, ← marked_eq_map (by omega) hin,
    marked_append_marked (Nat.le_add_right _ _) hstop (by omega),
    marked_append_marked hle (by omega) (by omega)]

theorem slice_ne_nil {a b : Nat} (hlt : a < b) (hlength : b ≤ text.length) : slice text a b ≠ [] :=
  List.ne_nil_of_length_pos (by rw [length_slice hlength]; omega)

/-- What is rendered from an occurrence on is read as the text there, trimmed behind. -/
theorem readFrom_renderFrom (hsize : 0 < size) (hlength : stop ≤ text.length)
    (h : Cut inside size stop cursor hits) :
    readFrom false (renderFrom text stop cursor (hits.map fun hit => (hit, hit + size))) =
      (marked inside text cursor stop).rdropWhile isMargin := by
  induction h with
  | last hle hout =>
    rw [List.map_nil, renderFrom, readFrom_escape, marked_eq_map hlength hout, rdropWhile_isMargin]
  | hit hle hout hin hrest ih =>
    have hstop := hrest.le
    rw [List.map_cons, renderFrom, List.append_assoc, readFrom_escape_append,
      readFrom_highlighted_append, ih, marked_eq_of_hit hle hstop hlength hout hin,
      rdropWhile_isMargin_append (slice_ne_nil (by omega) (by omega))]

/-- **A rendered fragment is read as the text of its run**, with what its occurrences cover marked
and the blanks at its ends trimmed. -/
theorem read_render {f : Fragment} (hsize : 0 < size) (hlength : f.stop ≤ text.length)
    (hmatched : f.matched.reverse = hits.map fun hit => (hit, hit + size)) (hhits : hits ≠ [])
    (h : Cut inside size f.stop f.start hits) :
    read (f.render text) = trimmed (marked inside text f.start f.stop) := by
  cases h with
  | last => exact absurd rfl hhits
  | hit hle hout hin hrest =>
    have hstop := hrest.le
    rw [Fragment.render, hmatched, List.map_cons]
    dsimp only
    rw [List.append_assoc, read, readFrom_escape_append,
      readFrom_highlighted_append, readFrom_renderFrom hsize hlength hrest, trimmed,
      marked_eq_of_hit hle hstop hlength hout hin,
      rdropWhile_isMargin_append (slice_ne_nil (by omega) (by omega)),
      dropWhile_isMargin_append (slice_ne_nil (by omega) (by omega)), dropWhile_isMargin]

end Render

end WikiPress.Excerpt
