import WikiPress.Proofs.Excerpt.Reading
import WikiPress.Proofs.Text.Lines

/-!
# Proofs/Excerpt/MaximalRuns — an excerpt is the maximal runs of its windows

    windows       ├──────────┤             ├───────┤
    excerpt   ... ┌ fragment ┐     ...     ┌ fragm…┐ ...

The pieces of an excerpt are the fragments, joined by one ellipsis each; one more stands in front if
the text does not begin with a fragment, and one behind if it does not end with one
(`joinPieces_eq`).  With what fragments are and how they read this says all of an excerpt
(`excerpt_maximalRuns`).
-/

namespace WikiPress.Excerpt

/-!
## Byte offsets, with every slice checked

    bytes      ┊ n  a  ï  v  e ┊           ┊ n  a  ï  v  e ┊
               ╰── counted ────╯─ counted ─╯── counted ────╯
    positions    0…5             5…12        12…17

A search tells an occurrence by its byte offsets, while fragments are made of positions.  Counting
characters forward, from the end of one occurrence to the beginning of the next, gives the positions
(`countFrom_byteRange`).  Every slice taken on the way, and in rendering, begins before it ends, lies
within the text and cuts no character (`checkedExcerpt_eq`).
-/

/-! ## Checked slices -/

/-- What stands behind a number of bytes; none if there are fewer, or if they end inside a
character. -/
def dropBytes? : (bytes : Nat) → Text → Option Text
  | 0, t => some t
  | _ + 1, [] => none
  | n + 1, c :: t => if c.utf8Size ≤ n + 1 then dropBytes? (n + 1 - c.utf8Size) t else none

/-- The characters of a number of bytes; none if there are fewer, or if they end inside a
character. -/
def takeBytes? : (bytes : Nat) → Text → Option Text
  | 0, _ => some []
  | _ + 1, [] => none
  | n + 1, c :: t =>
    if c.utf8Size ≤ n + 1 then (takeBytes? (n + 1 - c.utf8Size) t).map (c :: ·) else none

/-- The text between two byte offsets. -/
def byteSlice? (text : Text) (start stop : Nat) : Option Text :=
  if start ≤ stop then (dropBytes? start text).bind (takeBytes? (stop - start)) else none

/-- The text between two positions. -/
def slice? (text : Text) (start stop : Nat) : Option Text :=
  if start ≤ stop ∧ stop ≤ text.length then some (slice text start stop) else none

/-! ## An excerpt made with them -/

/-- The positions of occurrences given by their byte offsets; `position` is that of the character at
the offset `bytes`, behind the occurrence before. -/
def countFrom (text : Text) : (bytes position : Nat) → List (Nat × Nat) → Option (List (Nat × Nat))
  | _, _, [] => some []
  | bytes, position, (start, stop) :: rest => do
    let before ← byteSlice? text bytes start
    let found ← byteSlice? text start stop
    let hit := position + before.length
    let ranges ← countFrom text stop (hit + found.length) rest
    return (hit, hit + found.length) :: ranges

/-- What is rendered from `cursor` on, if every slice can be taken. -/
def renderFrom? (text : Text) (stop : Nat) : (cursor : Nat) → List (Nat × Nat) → Option Text
  | cursor, [] => do
    let rest ← slice? text cursor stop
    return Text.escape (Text.trimEnd rest)
  | cursor, (a, b) :: rest => do
    let before ← slice? text cursor a
    let found ← slice? text a b
    let behind ← renderFrom? text stop b rest
    return Text.escape before ++ highlighted found ++ behind

/-- The rendering of a fragment, if every slice can be taken. -/
def Fragment.render? (text : Text) (f : Fragment) : Option Text :=
  match f.matched.reverse with
  | [] => renderFrom? text f.stop f.start []
  | (a, b) :: rest => do
    let before ← slice? text f.start a
    let found ← slice? text a b
    let behind ← renderFrom? text f.stop b rest
    return Text.escape (Text.trimStart before) ++ highlighted found ++ behind

/-- The windows of occurrences, merged. -/
def mergeWindows (length : Nat) (ranges : List (Nat × Nat)) : List Fragment :=
  (ranges.foldl (fun fs range => addWindow length fs range.1 range.2) []).reverse

/-- **The excerpt around occurrences given by their byte offsets**, if every slice can be taken. -/
def checkedExcerpt (text : Text) (found : List (Nat × Nat)) : Option (Option Text) := do
  let ranges ← countFrom text 0 0 found
  let merged := mergeWindows text.length ranges
  match merged.head?, merged.getLast? with
  | some first, some last => do
    let pieces ← merged.mapM (Fragment.render? text)
    return some (joinPieces ((if first.start > 0 then [[]] else []) ++ pieces
      ++ (if last.stop < text.length then [[]] else [])))
  | _, _ => return none

/-- The byte offset of a position. -/
def byteOffset (text : Text) (p : Nat) : Nat := Text.byteLength (text.take p)

/-- The byte offsets of an occurrence, where it begins and where it ends. -/
def byteRange (text : Text) (size hit : Nat) : Nat × Nat :=
  (byteOffset text hit, byteOffset text (hit + size))

/-! ## Byte offsets -/

section Bytes

variable {s t text : Text} {a b : Nat}

theorem foldl_utf8Size (n : Nat) (t : Text) :
    t.foldl (fun n c => n + c.utf8Size) n = n + Text.byteLength t := by
  induction t generalizing n with
  | nil => rfl
  | cons c t ih => rw [Text.byteLength, List.foldl_cons, List.foldl_cons, ih, ih]; omega

theorem byteLength_cons (c : Char) (t : Text) :
    Text.byteLength (c :: t) = c.utf8Size + Text.byteLength t := by
  rw [Text.byteLength, List.foldl_cons, foldl_utf8Size, Nat.zero_add]

theorem byteLength_append (s t : Text) :
    Text.byteLength (s ++ t) = Text.byteLength s + Text.byteLength t := by
  rw [Text.byteLength, List.foldl_append, foldl_utf8Size, foldl_utf8Size, Nat.zero_add]

/-- A character is no shorter than a byte. -/
theorem byteLength_cons_eq_succ (c : Char) (t : Text) :
    ∃ n, Text.byteLength (c :: t) = n + 1 ∧ c.utf8Size ≤ n + 1 ∧
      n + 1 - c.utf8Size = Text.byteLength t := by
  have hcons := byteLength_cons c t
  have hpos := c.utf8Size_pos
  exact ⟨c.utf8Size + Text.byteLength t - 1, by omega, by omega, by omega⟩

theorem dropBytes?_byteLength (s t : Text) : dropBytes? (Text.byteLength s) (s ++ t) = some t := by
  induction s with
  | nil => rw [List.nil_append, Text.byteLength, List.foldl_nil, dropBytes?]
  | cons c s ih =>
    obtain ⟨n, hn, hle, hrest⟩ := byteLength_cons_eq_succ c s
    rw [hn, List.cons_append, dropBytes?, if_pos hle, hrest, ih]

theorem takeBytes?_byteLength (s t : Text) : takeBytes? (Text.byteLength s) (s ++ t) = some s := by
  induction s with
  | nil => rw [List.nil_append, Text.byteLength, List.foldl_nil, takeBytes?]
  | cons c s ih =>
    obtain ⟨n, hn, hle, hrest⟩ := byteLength_cons_eq_succ c s
    rw [hn, List.cons_append, takeBytes?, if_pos hle, hrest, ih, Option.map_some]

/-- **The slice between the byte offsets of two positions is the slice between them.** -/
theorem byteSlice?_byteOffset (hab : a ≤ b) :
    byteSlice? text (byteOffset text a) (byteOffset text b) = some (slice text a b) := by
  have htake : text.take b = text.take a ++ slice text a b := by
    rw [slice, ← List.take_add, Nat.add_sub_cancel' hab]
  have hbytes : byteOffset text b = byteOffset text a + Text.byteLength (slice text a b) := by
    rw [byteOffset, htake, byteLength_append, byteOffset]
  have hdrop : dropBytes? (byteOffset text a) text = some (text.drop a) := by
    have h := dropBytes?_byteLength (text.take a) (text.drop a)
    rwa [List.take_append_drop] at h
  have hrest : text.drop a = slice text a b ++ (text.drop a).drop (b - a) :=
    (List.take_append_drop _ _).symm
  rw [byteSlice?, if_pos (by omega), hdrop, Option.bind_some, hbytes, Nat.add_sub_cancel_left, hrest,
    takeBytes?_byteLength]

end Bytes

/-! ## Counting -/

/-- **Counting forward finds the positions of the occurrences.** -/
theorem countFrom_byteRange {text : Text} {size position : Nat} {hits : List Nat}
    (hapart : hits.Pairwise fun p r => p + size ≤ r) (hposition : ∀ hit ∈ hits, position ≤ hit)
    (hlength : ∀ hit ∈ hits, hit + size ≤ text.length) :
    countFrom text (byteOffset text position) position (hits.map (byteRange text size)) =
      some (hits.map fun hit => (hit, hit + size)) := by
  induction hits generalizing position with
  | nil => rfl
  | cons hit rest ih =>
    obtain ⟨hge, -⟩ := List.forall_mem_cons.1 hposition
    obtain ⟨hend, hlength⟩ := List.forall_mem_cons.1 hlength
    obtain ⟨hbehind, hapart⟩ := List.pairwise_cons.1 hapart
    have hbefore : position + (slice text position hit).length = hit := by
      rw [length_slice (by omega)]; omega
    have hfound : (slice text hit (hit + size)).length = size := by
      rw [length_slice hend]; omega
    have hrest := ih hapart hbehind hlength
    simp only [List.map_cons, byteRange, countFrom, byteSlice?_byteOffset hge,
      byteSlice?_byteOffset (Nat.le_add_right hit size), Option.bind_eq_bind, Option.bind_some,
      hbefore, hfound]
    exact congrArg (Option.bind · _) hrest

/-! ## Rendering -/

section Render

variable {inside : Nat → Bool} {size stop cursor : Nat} {hits : List Nat} {text : Text}

theorem slice?_eq_some {a b : Nat} (hab : a ≤ b) (hb : b ≤ text.length) :
    slice? text a b = some (slice text a b) := if_pos ⟨hab, hb⟩

theorem renderFrom?_eq (hlength : stop ≤ text.length) (h : Cut inside size stop cursor hits) :
    renderFrom? text stop cursor (hits.map fun hit => (hit, hit + size)) =
      some (renderFrom text stop cursor (hits.map fun hit => (hit, hit + size))) := by
  induction h with
  | last hle => rw [List.map_nil, renderFrom?, slice?_eq_some hle hlength]; rfl
  | @hit cursor hit rest hle _ _ hrest ih =>
    have hstop := hrest.le
    rw [List.map_cons, renderFrom?, slice?_eq_some hle (by omega),
      slice?_eq_some (Nat.le_add_right hit size) (by omega), ih]
    rfl

/-- **Rendering a fragment takes no slice out of range.** -/
theorem render?_eq {f : Fragment} (hlength : f.stop ≤ text.length)
    (hmatched : f.matched.reverse = hits.map fun hit => (hit, hit + size)) (hhits : hits ≠ [])
    (h : Cut inside size f.stop f.start hits) : f.render? text = some (f.render text) := by
  cases h with
  | last => exact absurd rfl hhits
  | @hit _ hit rest hle _ _ hrest =>
    have hstop := hrest.le
    rw [List.map_cons] at hmatched
    rw [Fragment.render?, Fragment.render, hmatched]
    dsimp only
    rw [slice?_eq_some hle (by omega), slice?_eq_some (Nat.le_add_right hit size) (by omega),
      renderFrom?_eq hlength hrest]
    rfl

/-- …and none for all fragments of a text. -/
theorem mapM_render?_eq {query : Text} (hquery : query ≠ []) {fs : List Fragment}
    (hfs : ∀ f ∈ fs, f ∈ fragments text query) :
    fs.mapM (Fragment.render? text) = some (fs.map (Fragment.render text)) := by
  induction fs with
  | nil => rfl
  | cons f fs ih =>
    obtain ⟨hf, hrest⟩ := List.forall_mem_cons.1 hfs
    obtain ⟨hlength, hits, hhits, hmatched, hcut⟩ := exists_cut_of_mem_fragments hquery hf
    rw [List.mapM_cons, render?_eq hlength hmatched hhits hcut, ih hrest]
    rfl

end Render

/-- **The excerpt made from byte offsets is the excerpt of the text**: every slice on the way can be
taken. -/
theorem checkedExcerpt_eq {text query : Text} (hquery : query ≠ []) :
    checkedExcerpt text ((occurrences query 0 0 text).map (byteRange text query.length)) =
      some (excerpt? text query) := by
  have hleftmost := leftmost_occurrences hquery text
  have hcount : countFrom text 0 0
      ((occurrences query 0 0 text).map (byteRange text query.length)) =
        some ((occurrences query 0 0 text).map fun hit => (hit, hit + query.length)) :=
    countFrom_byteRange hleftmost.apart (fun hit _ => Nat.zero_le hit)
      fun hit hhit => (hleftmost.occurs hit hhit).2.add_length_le hquery
  have hempty : query.isEmpty = false := List.isEmpty_eq_false_iff.2 hquery
  have hmerge : mergeWindows text.length
      ((occurrences query 0 0 text).map fun hit => (hit, hit + query.length)) =
        fragments text query := by
    rw [mergeWindows, fragments, List.foldl_map]
  have hrender : (fragments text query).mapM (Fragment.render? text) =
      some ((fragments text query).map (Fragment.render text)) :=
    mapM_render?_eq hquery fun f hf => hf
  simp only [checkedExcerpt, hcount, Option.bind_eq_bind, Option.bind_some, hmerge, hrender, excerpt?,
    hempty]
  cases (fragments text query).head? <;> cases (fragments text query).getLast? <;> rfl

/-! ## Pieces -/

section Pieces

theorem joinPieces_cons_of_ne_nil (piece : Text) {pieces : List Text} (h : pieces ≠ []) :
    joinPieces (piece :: pieces) = piece ++ ellipsis ++ joinPieces pieces := by
  obtain ⟨next, rest, rfl⟩ := List.exists_cons_of_ne_nil h
  rfl

theorem joinPieces_eq_join (pieces : List Text) : joinPieces pieces = Text.join ellipsis pieces := by
  induction pieces with
  | nil => rfl
  | cons piece pieces ih =>
    cases pieces with
    | nil => rfl
    | cons next rest =>
      have hne : next :: rest ≠ [] := List.cons_ne_nil next rest
      rw [joinPieces_cons_of_ne_nil piece hne, Text.join_cons_of_ne_nil ellipsis piece hne, ih]

/-- **An empty piece at an end is an ellipsis there.** -/
theorem joinPieces_eq {pieces : List Text} (h : pieces ≠ []) (lead tail : Prop) [Decidable lead]
    [Decidable tail] :
    joinPieces ((if lead then [[]] else []) ++ pieces ++ (if tail then [[]] else [])) =
      (if lead then ellipsis else []) ++ Text.join ellipsis pieces ++
        (if tail then ellipsis else []) := by
  have hbehind : Text.join ellipsis (pieces ++ (if tail then [[]] else [])) =
      Text.join ellipsis pieces ++ (if tail then ellipsis else []) := by
    split
    · rw [Text.join_append_singleton ellipsis [] h, List.append_nil]
    · rw [List.append_nil, List.append_nil]
  rw [joinPieces_eq_join, List.append_assoc]
  split
  · have hne : pieces ++ (if tail then [[]] else []) ≠ [] := List.append_ne_nil_of_left_ne_nil h _
    rw [List.singleton_append, Text.join_cons_of_ne_nil ellipsis [] hne, List.nil_append, hbehind,
      List.append_assoc]
  · rw [List.nil_append, List.nil_append, hbehind]

end Pieces

section Excerpt

variable {text query : Text}

/-- There is an excerpt if there are fragments. -/
theorem excerpt?_eq_none_iff (hquery : query ≠ []) :
    excerpt? text query = none ↔ fragments text query = [] := by
  have hempty : query.isEmpty = false := List.isEmpty_eq_false_iff.2 hquery
  rw [excerpt?, hempty]
  cases hfragments : fragments text query with
  | nil => exact iff_of_true rfl rfl
  | cons first rest =>
    obtain ⟨last, hlast⟩ : ∃ last, (first :: rest).getLast? = some last :=
      ⟨_, List.getLast?_eq_some_getLast (List.cons_ne_nil first rest)⟩
    simp [hlast]

/-- **What an excerpt is made of.** -/
theorem excerpt?_eq_some (hquery : query ≠ []) {html : Text} (h : excerpt? text query = some html) :
    html =
      (if Shown text.length query.length (occurrences query 0 0 text) 0 then [] else ellipsis) ++
        Text.join ellipsis ((fragments text query).map (Fragment.render text)) ++
      (if Shown text.length query.length (occurrences query 0 0 text) (text.length - 1) then []
        else ellipsis) := by
  have hempty : query.isEmpty = false := List.isEmpty_eq_false_iff.2 hquery
  have hmerged := merged_fragments hquery text
  rw [excerpt?, hempty] at h
  dsimp only at h
  split at h
  · contradiction
  · split at h
    · next first last hfirst hlast =>
      have hne : (fragments text query).map (Fragment.render text) ≠ [] := by
        obtain ⟨rest, hrest⟩ := List.head?_eq_some_iff.1 hfirst
        rw [hrest]
        exact List.cons_ne_nil _ _
      have hle := (hmerged.bounded last (List.mem_reverse.2 (List.mem_of_getLast? hlast))).2
      have hlead : first.start > 0 ↔
          ¬ Shown text.length query.length (occurrences query 0 0 text) 0 := by
        rw [← start_head_eq_zero_iff hquery hfirst]
        omega
      have htail : last.stop < text.length ↔
          ¬ Shown text.length query.length (occurrences query 0 0 text) (text.length - 1) := by
        rw [← stop_getLast_eq_length_iff hquery hlast]
        omega
      rw [← Option.some.inj h, joinPieces_eq hne]
      simp only [hlead, htail, ite_not]
    · contradiction

/-- **An excerpt is the maximal runs of the windows around the occurrences of its query.**  Given the
occurrences that a search from the left finds:

1. all slices can be taken that the excerpt is made of, from the byte offsets of the occurrences on;
2. there is no excerpt exactly if the query does not occur;
3. the fragments are the maximal runs of the positions shown, in order;
4. a rendered fragment reads as its run, trimmed, with exactly the occurrences highlighted;
5. the excerpt is the fragments joined by ellipses, with one at an end of the text that is not
   shown. -/
theorem excerpt_maximalRuns (hquery : query ≠ []) {hits : List Nat}
    (hhits : Leftmost query text 0 hits) :
    checkedExcerpt text (hits.map (byteRange text query.length)) = some (excerpt? text query) ∧
    (excerpt? text query = none ↔ ∀ p, ¬ Occurs query text p) ∧
    (∀ a b, IsRun (Shown text.length query.length hits) a b ↔
      ∃ f ∈ fragments text query, f.start = a ∧ f.stop = b) ∧
    (fragments text query).Pairwise (fun f g => f.stop < g.start) ∧
    (∀ f ∈ fragments text query, read (f.render text) =
      trimmed (marked (fun p => decide (Covered query.length hits p)) text f.start f.stop)) ∧
    ∀ html, excerpt? text query = some html →
      html = (if Shown text.length query.length hits 0 then [] else ellipsis) ++
        Text.join ellipsis ((fragments text query).map (Fragment.render text)) ++
        (if Shown text.length query.length hits (text.length - 1) then [] else ellipsis) := by
  obtain rfl : hits = occurrences query 0 0 text := hhits.unique (leftmost_occurrences hquery text)
  refine ⟨checkedExcerpt_eq hquery, ?_, fun a b => ?_, pairwise_fragments hquery text,
    fun f hf => ?_, fun html hhtml => excerpt?_eq_some hquery hhtml⟩
  · rw [excerpt?_eq_none_iff hquery, fragments_eq_nil_iff hquery, occurrences_eq_nil_iff hquery]
  · rw [(merged_fragments hquery text).isRun_iff]
    simp only [List.mem_reverse]
  · obtain ⟨hlength, hits, hne, hmatched, hcut⟩ := exists_cut_of_mem_fragments hquery hf
    exact read_render (List.length_pos_of_ne_nil hquery) hlength hmatched hne hcut

/-- …as when the windows of two occurrences overlap and that of a third one stands apart. -/
theorem excerpt_maximalRuns_of_three :
    lit "ï" ≠ [] ∧
    Leftmost (lit "ï") (lit "Naïve & NAÏVE, but never again <so> naïve") 0 [2, 10, 38] ∧
    excerpt? (lit "Naïve & NAÏVE, but never again <so> naïve") (lit "ï") ≠ none ∧
    ∀ a b, IsRun (Shown 41 1 [2, 10, 38]) a b ↔ (a, b) ∈ [(0, 21), (28, 41)] := by
  have hquery : lit "ï" ≠ [] := by decide +kernel
  have hhits : occurrences (lit "ï") 0 0 (lit "Naïve & NAÏVE, but never again <so> naïve") =
      [2, 10, 38] := by decide +kernel
  have hleftmost := leftmost_occurrences hquery (lit "Naïve & NAÏVE, but never again <so> naïve")
  rw [hhits] at hleftmost
  have hfragments : fragments (lit "Naïve & NAÏVE, but never again <so> naïve") (lit "ï") =
      [⟨0, 21, [(10, 11), (2, 3)]⟩, ⟨28, 41, [(38, 39)]⟩] := by decide +kernel
  have hoccurs : Occurs (lit "ï") (lit "Naïve & NAÏVE, but never again <so> naïve") 2 :=
    (hleftmost.occurs 2 List.mem_cons_self).2
  have hlength : (lit "Naïve & NAÏVE, but never again <so> naïve").length = 41 := by decide +kernel
  have hsize : (lit "ï").length = 1 := by decide +kernel
  obtain ⟨-, hnone, hruns, -⟩ := excerpt_maximalRuns hquery hleftmost
  rw [hfragments, hlength, hsize] at hruns
  refine ⟨hquery, hleftmost, fun h => hnone.1 h 2 hoccurs, fun a b => ?_⟩
  rw [hruns a b]
  simp [eq_comm]

end Excerpt

end WikiPress.Excerpt
