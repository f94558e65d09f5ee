import Mathlib.Data.List.Forall2
import WikiPress.Markdown.Document
import WikiPress.Page.Markup
import WikiPress.Text.Basic

/-!
# Proofs/Markdown/Swap — blocks that differ in their raw texts

    quote ─┬ paragraph    t          quote ─┬ paragraph    t
           └ html         s     ~           └ html         s'
    code   i                c        code   i              c'

Raw HTML and code are the two kinds of text that no stage reads once the blocks have been found.  Two
lists of blocks are swapped if they are the same but for those texts; all the stages that follow keep
this: the inlines (`swapAll_mapContent`), the notes (`swapAll_gatherNotes`), the tasks
(`swapAll_readTasks`) and the highlighter (`swapAll_highlightBlocks`).
-/

namespace WikiPress.Text

/-!
## Texts that differ in known pieces

    a line ‹one› another   ──▸   f(a line) f(‹one›) f(another)
    a line ‹two› another   ──▸   f(a line) f(‹two›) f(another)

Two texts are swapped if one becomes the other when some of its pieces are exchanged for others.
What is done to a text character by character keeps this as soon as it is kept for the pieces
(`Swap.flatMap`), and so does whatever puts such texts one after the other.
-/

/-- **Texts that are the same but for pieces**: where one has a piece the other has its partner. -/
inductive Swap (P : Text → Text → Prop) : Text → Text → Prop
  | nil : Swap P [] []
  | char (c : Char) {t t' : Text} (h : Swap P t t') : Swap P (c :: t) (c :: t')
  | piece {p p' t t' : Text} (hp : P p p') (h : Swap P t t') : Swap P (p ++ t) (p' ++ t')

namespace Swap

variable {P Q : Text → Text → Prop} {s s' t t' : Text}

@[refl] theorem refl : ∀ t : Text, Swap P t t
  | [] => .nil
  | c :: t => (refl t).char c

theorem single (h : P s s') : Swap P s s' := by
  simpa using Swap.piece h .nil

theorem append (hs : Swap P s s') (ht : Swap P t t') : Swap P (s ++ t) (s' ++ t') := by
  induction hs with
  | nil => exact ht
  | char c _ ih => exact ih.char c
  | piece hp _ ih =>
    rw [List.append_assoc, List.append_assoc]
    exact ih.piece hp

/-- **A text changed character by character** is swapped if its pieces are. -/
theorem flatMap {f : Char → Text} (hf : ∀ p p', P p p' → Swap Q (p.flatMap f) (p'.flatMap f))
    (h : Swap P t t') : Swap Q (t.flatMap f) (t'.flatMap f) := by
  induction h with
  | nil => exact .nil
  | char c _ ih =>
    rw [List.flatMap_cons, List.flatMap_cons]
    exact (refl _).append ih
  | piece hp _ ih =>
    rw [List.flatMap_append, List.flatMap_append]
    exact (hf _ _ hp).append ih

theorem mono (hPQ : ∀ p p', P p p' → Q p p') (h : Swap P t t') : Swap Q t t' := by
  induction h with
  | nil => exact .nil
  | char c _ ih => exact ih.char c
  | piece hp _ ih => exact ih.piece (hPQ _ _ hp)

theorem symm (h : Swap P t t') : Swap (flip P) t' t := by
  induction h with
  | nil => exact .nil
  | char c _ ih => exact ih.char c
  | piece hp _ ih => exact .piece hp ih

/-- Pieces that begin alike leave the first character. -/
theorem head?_eq (hP : ∀ p p', P p p' → ∃ c, p.head? = some c ∧ p'.head? = some c)
    (h : Swap P t t') : t.head? = t'.head? := by
  cases h with
  | nil => rfl
  | char c _ => rfl
  | piece hp _ =>
    obtain ⟨c, hc, hc'⟩ := hP _ _ hp
    rw [List.head?_append, List.head?_append, hc, hc']
    rfl

/-- Pieces that end alike leave the last character. -/
theorem getLast?_eq (hP : ∀ p p', P p p' → ∃ c, p.getLast? = some c ∧ p'.getLast? = some c)
    (h : Swap P t t') : t.getLast? = t'.getLast? := by
  induction h with
  | nil => rfl
  | char c _ ih => rw [List.getLast?_cons, List.getLast?_cons, ih]
  | piece hp _ ih =>
    obtain ⟨c, hc, hc'⟩ := hP _ _ hp
    rw [List.getLast?_append, List.getLast?_append, ih, hc, hc']

end Swap

/-- **Lines that are the same, or partners.** -/
def SwapLine (P : Text → Text → Prop) (l l' : Text) : Prop := l = l' ∨ P l l'

namespace SwapLine

variable {P : Text → Text → Prop} {l l' : Text} {ls ls' : List Text}

theorem swap (h : SwapLine P l l') : Swap P l l' := by
  obtain rfl | h := h
  · exact .refl l
  · exact .single h

/-- Lines one after the other, each with its line end. -/
theorem joined (h : List.Forall₂ (SwapLine P) ls ls') :
    Swap P (ls.flatMap (· ++ ['\n'])) (ls'.flatMap (· ++ ['\n'])) := by
  induction h with
  | nil => exact .nil
  | cons h _ ih =>
    rw [List.flatMap_cons, List.flatMap_cons]
    exact (h.swap.append (.refl _)).append ih

theorem refl_all (ls : List Text) : List.Forall₂ (SwapLine P) ls ls :=
  List.forall₂_same.2 fun _ _ => .inl rfl

end SwapLine

end WikiPress.Text

namespace WikiPress.Markdown

open List (Forall₂)

variable {ι κ σ : Type} {H C H' : Text → Text → Prop}

/-- **Blocks that are the same but for raw HTML and code**: the raw HTML is related by `H`, the code
by `C`. -/
inductive Block.Swap (H C : Text → Text → Prop) : Block ι → Block ι → Prop
  | same (b : Block ι) : Block.Swap H C b b
  | html {s s' : Text} (h : H s s') : Block.Swap H C (.html s) (.html s')
  | code (info : Option Text) {t t' : Text} (h : C t t') : Block.Swap H C (.code info t) (.code info t')
  | quote {body body' : List (Block ι)} (h : Forall₂ (Block.Swap H C) body body') :
      Block.Swap H C (.quote body) (.quote body')
  | list (marker : ListMarker) (tight : Bool) {items items' : List (Block ι)}
      (h : Forall₂ (Block.Swap H C) items items') :
      Block.Swap H C (.list marker tight items) (.list marker tight items')
  | item {body body' : List (Block ι)} (h : Forall₂ (Block.Swap H C) body body') :
      Block.Swap H C (.item body) (.item body')
  | definitions {entries entries' : List (Block ι)} (h : Forall₂ (Block.Swap H C) entries entries') :
      Block.Swap H C (.definitions entries) (.definitions entries')
  | details (tight : Bool) {body body' : List (Block ι)} (h : Forall₂ (Block.Swap H C) body body') :
      Block.Swap H C (.details tight body) (.details tight body')
  | footnote (label : Text) (references : Nat) {body body' : List (Block ι)}
      (h : Forall₂ (Block.Swap H C) body body') :
      Block.Swap H C (.footnote label references body) (.footnote label references body')

/-- Lists of such blocks. -/
abbrev SwapAll (H C : Text → Text → Prop) : List (Block ι) → List (Block ι) → Prop :=
  Forall₂ (Block.Swap H C)

theorem SwapAll.refl (bs : List (Block ι)) : SwapAll H C bs bs :=
  List.forall₂_same.2 fun b _ => .same b

namespace Block.Swap

variable {b' : Block ι} {body : List (Block ι)}

theorem of_quote (h : Block.Swap H C (.quote body) b') :
    ∃ body', b' = .quote body' ∧ SwapAll H C body body' := by
  cases h with
  | same => exact ⟨body, rfl, .refl _⟩
  | quote h => exact ⟨_, rfl, h⟩

theorem of_list {marker : ListMarker} {tight : Bool} (h : Block.Swap H C (.list marker tight body) b') :
    ∃ body', b' = .list marker tight body' ∧ SwapAll H C body body' := by
  cases h with
  | same => exact ⟨body, rfl, .refl _⟩
  | list _ _ h => exact ⟨_, rfl, h⟩

theorem of_item (h : Block.Swap H C (.item body) b') :
    ∃ body', b' = .item body' ∧ SwapAll H C body body' := by
  cases h with
  | same => exact ⟨body, rfl, .refl _⟩
  | item h => exact ⟨_, rfl, h⟩

theorem of_definitions (h : Block.Swap H C (.definitions body) b') :
    ∃ body', b' = .definitions body' ∧ SwapAll H C body body' := by
  cases h with
  | same => exact ⟨body, rfl, .refl _⟩
  | definitions h => exact ⟨_, rfl, h⟩

theorem of_details {tight : Bool} (h : Block.Swap H C (.details tight body) b') :
    ∃ body', b' = .details tight body' ∧ SwapAll H C body body' := by
  cases h with
  | same => exact ⟨body, rfl, .refl _⟩
  | details _ h => exact ⟨_, rfl, h⟩

theorem of_footnote {label : Text} {references : Nat}
    (h : Block.Swap H C (.footnote label references body) b') :
    ∃ body', b' = .footnote label references body' ∧ SwapAll H C body body' := by
  cases h with
  | same => exact ⟨body, rfl, .refl _⟩
  | footnote _ _ h => exact ⟨_, rfl, h⟩

end Block.Swap

/-! ## The inlines -/

mutual

theorem Block.Swap.mapState (f : ι → σ → κ × σ) {b b' : Block ι} :
    Block.Swap H C b b' → ∀ s : σ,
      Block.Swap H C (b.mapState f s).1 (b'.mapState f s).1 ∧
        (b.mapState f s).2 = (b'.mapState f s).2
  | .same _, _ => ⟨.same _, rfl⟩
  | .html h, _ => ⟨.html h, rfl⟩
  | .code info h, _ => ⟨.code info h, rfl⟩
  | .quote h, s => (swapAll_mapStates f h s).imp_left .quote
  | .list marker tight h, s => (swapAll_mapStates f h s).imp_left (.list marker tight)
  | .item h, s => (swapAll_mapStates f h s).imp_left .item
  | .definitions h, s => (swapAll_mapStates f h s).imp_left .definitions
  | .details tight h, s => (swapAll_mapStates f h s).imp_left (.details tight)
  | .footnote label references h, s =>
    (swapAll_mapStates f h s).imp_left (.footnote label references)

theorem swapAll_mapStates (f : ι → σ → κ × σ) {bs bs' : List (Block ι)} :
    SwapAll H C bs bs' → ∀ s : σ,
      SwapAll H C (mapStates f bs s).1 (mapStates f bs' s).1 ∧
        (mapStates f bs s).2 = (mapStates f bs' s).2
  | .nil, _ => ⟨.nil, rfl⟩
  | .cons h hs, s => by
    obtain ⟨hblock, hstate⟩ := h.mapState f s
    obtain ⟨hrest, hend⟩ := swapAll_mapStates f hs (Block.mapState f _ s).2
    simp only [mapStates, ← hstate]
    exact ⟨.cons hblock hrest, hend⟩

end

theorem swapAll_mapContent (f : ι → κ) {bs bs' : List (Block ι)} (h : SwapAll H C bs bs') :
    SwapAll H C (mapContent f bs) (mapContent f bs') :=
  (swapAll_mapStates _ h ()).1

/-! ## The notes -/

mutual

theorem Block.Swap.noteLabels {b b' : Block ι} : Block.Swap H C b b' → b.noteLabels = b'.noteLabels
  | .same _ => rfl
  | .html _ => rfl
  | .code _ _ => rfl
  | .quote h => noteLabels_eq_of_swapAll h
  | .list _ _ h => noteLabels_eq_of_swapAll h
  | .item h => noteLabels_eq_of_swapAll h
  | .definitions h => noteLabels_eq_of_swapAll h
  | .details _ h => noteLabels_eq_of_swapAll h
  | .footnote _ _ _ => rfl

theorem noteLabels_eq_of_swapAll {bs bs' : List (Block ι)} :
    SwapAll H C bs bs' → noteLabels bs = noteLabels bs'
  | .nil => rfl
  | .cons h hs => by rw [Markdown.noteLabels, Markdown.noteLabels, h.noteLabels,
      noteLabels_eq_of_swapAll hs]

end

mutual

theorem Block.Swap.takeNotes (keys : List Text) {b b' : Block ι} :
    Block.Swap H C b b' →
      Block.Swap H C (b.takeNotes keys).1 (b'.takeNotes keys).1 ∧
        SwapAll H C (b.takeNotes keys).2 (b'.takeNotes keys).2
  | .same _ => ⟨.same _, .refl _⟩
  | .html h => ⟨.html h, .nil⟩
  | .code info h => ⟨.code info h, .nil⟩
  | .quote h => (swapAll_takeNotes h keys).imp_left .quote
  | .list marker tight h => (swapAll_takeNotes h keys).imp_left (.list marker tight)
  | .item h => (swapAll_takeNotes h keys).imp_left .item
  | .definitions h => (swapAll_takeNotes h keys).imp_left .definitions
  | .details tight h => (swapAll_takeNotes h keys).imp_left (.details tight)
  | .footnote label references h => ⟨.footnote label references h, .nil⟩

theorem swapAll_takeNotes {bs bs' : List (Block ι)} :
    SwapAll H C bs bs' → ∀ keys : List Text,
      SwapAll H C (takeNotes keys bs).1 (takeNotes keys bs').1 ∧
        SwapAll H C (takeNotes keys bs).2 (takeNotes keys bs').2
  | .nil, _ => ⟨.nil, .nil⟩
  | .cons (a := b) (b := b') h hs, keys => by
    by_cases hnote : ∃ label references body, b = .footnote label references body
    · obtain ⟨label, references, body, rfl⟩ := hnote
      obtain ⟨body', rfl⟩ : ∃ body', b' = .footnote label references body' := by
        cases h <;> exact ⟨_, rfl⟩
      obtain ⟨hkept, htaken⟩ := swapAll_takeNotes hs keys.tail
      rw [Markdown.takeNotes, Markdown.takeNotes]
      dsimp only
      split
      · exact ⟨.cons h hkept, htaken⟩
      · exact ⟨hkept, .cons h htaken⟩
    · have hnote' : ¬ ∃ label references body, b' = .footnote label references body := by
        rintro ⟨label, references, body, rfl⟩
        cases h <;> exact hnote ⟨_, _, _, rfl⟩
      have hrest := swapAll_takeNotes hs (keys.drop b.noteLabels.length)
      have hblock := h.takeNotes keys
      rw [Markdown.takeNotes, Markdown.takeNotes, ← h.noteLabels]
      · exact ⟨.cons hblock.1 hrest.1, List.rel_append hblock.2 hrest.2⟩
      · exact fun label references body hb => hnote' ⟨label, references, body, hb⟩
      · exact fun label references body hb => hnote ⟨label, references, body, hb⟩

end

theorem rel_refl : ∀ b : Option (Block ι), Option.Rel (Block.Swap H C) b b
  | none => .none
  | some b => .some (.same b)

theorem rel_note? (entry : NoteEntry) {notes notes' : List (Block ι)} (h : SwapAll H C notes notes') :
    Option.Rel (Block.Swap H C) (entry.note? notes) (entry.note? notes') := by
  induction h with
  | nil => exact .none
  | cons h _ ih =>
    rw [NoteEntry.note?, NoteEntry.note?, List.findSome?_cons, List.findSome?_cons]
    cases h with
    | same b =>
      split
      · exact rel_refl _
      · exact ih
    | footnote label references h =>
      by_cases hkey : labelKey label == entry.key
      · simp only [hkey, if_true]
        exact .some (.footnote entry.label entry.references h)
      · simp only [hkey]
        exact ih
    | _ => exact ih

theorem swapAll_gatherNotes {bs bs' : List (Block (List Inline))} (h : SwapAll H C bs bs') :
    SwapAll H C (gatherNotes bs) (gatherNotes bs') := by
  have hlabels := noteLabels_eq_of_swapAll h
  obtain ⟨hnumbered, htable⟩ :=
    swapAll_mapStates numberNotes h (NoteTable.ofLabels (noteLabels bs))
  obtain ⟨hkept, htaken⟩ := swapAll_takeNotes hnumbered ((noteLabels bs).map labelKey)
  simp only [gatherNotes, ← hlabels, ← htable]
  refine List.rel_append hkept
    (List.rel_filterMap (fun n m heq => ?_) (List.forall₂_same.2 fun n _ => Eq.refl n))
  subst heq
  cases (mapStates numberNotes bs (NoteTable.ofLabels (noteLabels bs))).2.entries.find?
      (·.number == n + 1) with
  | none => exact .none
  | some entry => exact rel_note? entry htaken

/-! ## The tasks -/

/-- Only the first block of an item is read for a box. -/
theorem exists_readCheckbox (b : Block (List Inline)) :
    ∃ front, ∀ rest, readCheckbox (b :: rest) = front ++ rest := by
  by_cases hbox : ∃ t content, b = .paragraph (.text t :: content)
  · obtain ⟨t, content, rfl⟩ := hbox
    unfold readCheckbox
    dsimp only
    split
    · exact ⟨[_, _], fun _ => rfl⟩
    · exact ⟨[_], fun _ => rfl⟩
  · refine ⟨[b], fun rest => ?_⟩
    rw [readCheckbox]
    · rfl
    · intro t content rest' heq
      exact hbox ⟨t, content, (List.cons.inj heq).1⟩

theorem swapAll_readCheckbox {bs bs' : List (Block (List Inline))} (h : SwapAll H C bs bs') :
    SwapAll H C (readCheckbox bs) (readCheckbox bs') := by
  cases h with
  | nil => exact .refl _
  | cons h hs =>
    cases h with
    | same =>
      obtain ⟨front, hfront⟩ := exists_readCheckbox _
      rw [hfront, hfront]
      exact List.rel_append (SwapAll.refl front) hs
    | html h => exact .cons (.html h) hs
    | code info h => exact .cons (.code info h) hs
    | quote h => exact .cons (.quote h) hs
    | list marker tight h => exact .cons (.list marker tight h) hs
    | item h => exact .cons (.item h) hs
    | definitions h => exact .cons (.definitions h) hs
    | details tight h => exact .cons (.details tight h) hs
    | footnote label references h => exact .cons (.footnote label references h) hs

mutual

theorem Block.Swap.readTasks {b b' : Block (List Inline)} :
    Block.Swap H C b b' → Block.Swap H C b.readTasks b'.readTasks
  | .same _ => .same _
  | .html h => .html h
  | .code info h => .code info h
  | .quote h => .quote (swapAll_readTasks h)
  | .list marker tight h => .list marker tight (swapAll_readTasks h)
  | .item h => .item (swapAll_readCheckbox (swapAll_readTasks h))
  | .definitions h => .definitions (swapAll_readTasks h)
  | .details tight h => .details tight (swapAll_readTasks h)
  | .footnote label references h => .footnote label references (swapAll_readTasks h)

theorem swapAll_readTasks {bs bs' : List (Block (List Inline))} :
    SwapAll H C bs bs' → SwapAll H C (readTasks bs) (readTasks bs')
  | .nil => .nil
  | .cons h hs => .cons h.readTasks (swapAll_readTasks hs)

end

/-! ## The highlighter -/

open Page (highlight highlightBlock highlightBlocks)

theorem swap_highlight {Q : Text → Text → Prop} (info : Option Text) {t t' : Text} (h : C t t')
    (hC : ∀ t t', C t t' → Text.Swap Q (Text.escape t) (Text.escape t')) :
    Block.Swap (Text.Swap Q) C (highlight info t) (highlight info t') := by
  unfold highlight
  cases info with
  | none => exact .code none h
  | some words =>
    dsimp only
    split
    · exact .code (some words) h
    · exact .html (((Text.Swap.refl _).append ((hC _ _ h).char '>')).append (.refl _))

mutual

theorem Block.Swap.highlightBlock {Q : Text → Text → Prop} {b b' : Block (List Inline)}
    (hH : ∀ s s', H s s' → Text.Swap Q s s')
    (hC : ∀ t t', C t t' → Text.Swap Q (Text.escape t) (Text.escape t')) :
    Block.Swap H C b b' → Block.Swap (Text.Swap Q) C (highlightBlock b) (highlightBlock b')
  | .same _ => .same _
  | .html h => .html (hH _ _ h)
  | .code info h => swap_highlight info h hC
  | .quote h => .quote (swapAll_highlightBlocks hH hC h)
  | .list marker tight h => .list marker tight (swapAll_highlightBlocks hH hC h)
  | .item h => .item (swapAll_highlightBlocks hH hC h)
  | .definitions h => .definitions (swapAll_highlightBlocks hH hC h)
  | .details tight h => .details tight (swapAll_highlightBlocks hH hC h)
  | .footnote label references h => .footnote label references (swapAll_highlightBlocks hH hC h)

theorem swapAll_highlightBlocks {Q : Text → Text → Prop} {bs bs' : List (Block (List Inline))}
    (hH : ∀ s s', H s s' → Text.Swap Q s s')
    (hC : ∀ t t', C t t' → Text.Swap Q (Text.escape t) (Text.escape t')) :
    SwapAll H C bs bs' → SwapAll (Text.Swap Q) C (highlightBlocks bs) (highlightBlocks bs')
  | .nil => .nil
  | .cons h hs => .cons (h.highlightBlock hH hC) (swapAll_highlightBlocks hH hC hs)

end

end WikiPress.Markdown
