import WikiPress.Page.Assembly
import WikiPress.Proofs.Markdown.Frames
import WikiPress.Proofs.Text.Basic
import WikiPress.Proofs.Text.Case

/-!
# Proofs/Page/Places — the places of blocks in HTML source

    <p>a</p>⏎<!--snipwiki-block:7-->⏎<p>b</p>     read as     <p>a</p>⏎ ⟨7⟩ ⏎<p>b</p>

Filling the places of an HTML source is reading it as characters and places and putting a block for
each place (`fillPlaces_eq`).  A place begins with the only `<` in it, so places do not overlap, and
sources that are swapped in pieces which begin with markup of their own are read alike
(`alike_reading`).
-/

namespace WikiPress.Page

open List (Forall₂)

/-! ## Reading -/

/-- The comment that holds the place of the block with a number. -/
def placeMark (index : Nat) : Text := placeStart ++ Text.ofNat index ++ placeEnd

theorem placeOf_eq (index : Nat) : placeOf index = ('\n' :: placeMark index ++ ['\n']) ++ ['\n'] := by
  simp [placeOf, placeMark, lit]

/-- The characters of a text and the digits of the places in it, within `fuel` steps. -/
def readWithin : (fuel : Nat) → Text → List (Char ⊕ Text)
  | 0, t => t.map .inl
  | _ + 1, [] => []
  | fuel + 1, c :: t =>
    match place? (c :: t) with
    | some (digits, rest) => .inr digits :: readWithin fuel rest
    | none => .inl c :: readWithin fuel t

/-- **An HTML source read as characters and places.** -/
def reading (html : Text) : List (Char ⊕ Text) := readWithin html.length html

/-- The digits of the places in an HTML source, in order. -/
def places (html : Text) : List Text := (reading html).filterMap Sum.getRight?

theorem fillWithin_eq (blocks : List Text) (fuel : Nat) (t : Text) :
    fillWithin blocks fuel t = (readWithin fuel t).flatMap (Sum.elim ([·]) (blockAt blocks)) := by
  induction fuel generalizing t with
  | zero =>
    rw [fillWithin, readWithin, List.flatMap_map]
    exact (List.flatMap_singleton' t).symm
  | succ fuel ih =>
    cases t with
    | nil => rfl
    | cons c t =>
      rw [fillWithin, readWithin]
      cases place? (c :: t) with
      | none =>
        dsimp only
        rw [List.flatMap_cons, ih]
        rfl
      | some found =>
        dsimp only
        rw [List.flatMap_cons, ih]
        rfl

/-- **Filling is putting a block for each place.** -/
theorem fillPlaces_eq (blocks : List Text) (html : Text) :
    fillPlaces blocks html = (reading html).flatMap (Sum.elim ([·]) (blockAt blocks)) :=
  fillWithin_eq blocks _ html

/-- A place begins a text exactly if its comment does. -/
theorem place?_eq_some_iff {t digits rest : Text} :
    place? t = some (digits, rest) ↔
      t = placeStart ++ digits ++ placeEnd ++ rest ∧ digits ≠ [] ∧
        digits.all Text.isDecimalDigit = true := by
  unfold place?
  constructor
  · intro h
    cases hstart : Text.strip? placeStart t with
    | none =>
      rw [hstart] at h
      cases h
    | some r =>
      rw [hstart] at h
      dsimp only at h
      split at h
      · next hdigits hend =>
        obtain ⟨rfl, rfl⟩ := Prod.mk.inj (Option.some.inj h)
        rw [Text.strip?_eq_some_iff] at hstart hend
        refine ⟨?_, by rw [hdigits]; exact List.cons_ne_nil _ _, List.all_takeWhile⟩
        rw [List.append_assoc, ← hend, List.append_assoc, List.takeWhile_append_dropWhile, hstart]
      · cases h
  · rintro ⟨rfl, hne, hdigits⟩
    have hstart : Text.strip? placeStart (placeStart ++ digits ++ placeEnd ++ rest) =
        some (digits ++ (placeEnd ++ rest)) := by
      rw [Text.strip?_eq_some_iff, List.append_assoc, List.append_assoc]
    have hnone : ∀ c ∈ (placeEnd ++ rest).head?, Text.isDecimalDigit c = false :=
      fun c hc => by obtain rfl := Option.some.inj hc; rfl
    obtain ⟨htake, hdrop⟩ := Text.takeWhile_append_of_all hdigits hnone
    have hend : Text.strip? placeEnd (placeEnd ++ rest) = some rest := Text.strip?_eq_some_iff.2 rfl
    rw [hstart]
    dsimp only
    rw [htake, hdrop, hend]
    cases digits with
    | nil => exact absurd rfl hne
    | cons c digits => rfl

theorem length_lt_of_place? {t digits rest : Text} (h : place? t = some (digits, rest)) :
    rest.length < t.length := by
  have hstart : 0 < placeStart.length := by decide
  rw [(place?_eq_some_iff.1 h).1, List.length_append, List.length_append, List.length_append]
  omega

/-- As many steps as there are characters are enough. -/
theorem readWithin_eq {fuel fuel' : Nat} {t : Text} (h : t.length ≤ fuel) (h' : t.length ≤ fuel') :
    readWithin fuel t = readWithin fuel' t := by
  induction fuel generalizing t fuel' with
  | zero =>
    obtain rfl := List.length_eq_zero_iff.1 (Nat.le_zero.1 h)
    cases fuel' <;> rfl
  | succ fuel ih =>
    cases t with
    | nil => cases fuel' <;> rfl
    | cons c t =>
      obtain ⟨fuel', rfl⟩ := Nat.exists_eq_add_of_lt (Nat.lt_of_succ_le h')
      rw [List.length_cons] at h h'
      rw [readWithin, readWithin]
      cases hplace : place? (c :: t) with
      | none =>
        dsimp only
        rw [ih (Nat.le_of_succ_le_succ h) (Nat.le_add_right _ _)]
      | some found =>
        have hrest := length_lt_of_place? hplace
        rw [List.length_cons] at hrest
        dsimp only
        have hfuel : found.2.length ≤ fuel := by omega
        have hfuel' : found.2.length ≤ t.length + fuel' := by omega
        rw [ih hfuel hfuel']

theorem reading_of_place? {t digits rest : Text} (h : place? t = some (digits, rest)) :
    reading t = .inr digits :: reading rest := by
  have hlength := length_lt_of_place? h
  cases t with
  | nil => cases h
  | cons c t =>
    rw [List.length_cons] at hlength
    rw [reading, List.length_cons, readWithin, h]
    dsimp only
    rw [reading, readWithin_eq (Nat.le_of_lt_succ hlength) Nat.le.refl]

theorem reading_of_not_place? {c : Char} {t : Text} (h : place? (c :: t) = none) :
    reading (c :: t) = .inl c :: reading t := by
  rw [reading, List.length_cons, readWithin, h]
  rfl

theorem isDecimalDigit_of_isDigit {c : Char} (h : Text.isDigit c = true) :
    Text.isDecimalDigit c = true := by
  rw [Text.isDecimalDigit, if_pos (Text.toNat_lt_of_isDigit h), h]

/-- Nothing is lost: the characters and places are the source. -/
theorem flatMap_reading (html : Text) :
    (reading html).flatMap (Sum.elim ([·]) fun digits => placeStart ++ digits ++ placeEnd) = html := by
  induction hn : html.length using Nat.strong_induction_on generalizing html with
  | _ n ih =>
    subst hn
    cases html with
    | nil => rfl
    | cons c t =>
      cases hplace : place? (c :: t) with
      | none =>
        rw [reading_of_not_place? hplace, List.flatMap_cons, ih _ (Nat.lt_succ_self _) _ rfl]
        rfl
      | some found =>
        obtain ⟨digits, rest⟩ := found
        rw [reading_of_place? hplace, List.flatMap_cons, ih _ (length_lt_of_place? hplace) _ rfl]
        exact (place?_eq_some_iff.1 hplace).1.symm

/-- **Where there is no place nothing is filled**: other comments stay. -/
theorem fillPlaces_of_places {html : Text} (h : places html = []) (blocks : List Text) :
    fillPlaces blocks html = html := by
  have hall : ∀ fill fill' : Text → Text, (reading html).flatMap (Sum.elim ([·]) fill) =
      (reading html).flatMap (Sum.elim ([·]) fill') := fun fill fill' => by
    refine List.flatMap_congr fun part hpart => ?_
    cases part with
    | inl c => rfl
    | inr digits =>
      have hplace : digits ∈ places html := List.mem_filterMap.2 ⟨_, hpart, rfl⟩
      exact absurd (h ▸ hplace) List.not_mem_nil
  rw [fillPlaces_eq, hall _ fun digits => placeStart ++ digits ++ placeEnd, flatMap_reading]

theorem place?_placeMark (index : Nat) (t : Text) :
    place? (placeMark index ++ t) = some (Text.ofNat index, t) := by
  refine place?_eq_some_iff.2 ⟨rfl, Text.ofNat_ne_nil index, ?_⟩
  refine List.all_eq_true.2 fun c hc => ?_
  exact isDecimalDigit_of_isDigit (List.all_eq_true.1 (Text.all_isDigit_ofNat index) c hc)

/-! ## Swapped sources -/

/-- Pieces that begin with markup of their own, a tag or a reference. -/
def BeginMarkup (Q : Text → Text → Prop) : Prop :=
  ∀ p p', Q p p' → (∃ r, p = '<' :: r ∨ p = '&' :: r) ∧ ∃ r, p' = '<' :: r ∨ p' = '&' :: r

/-- Text that is no markup lies in none of the pieces. -/
theorem exists_eq_append_of_swap {Q : Text → Text → Prop} (hQ : BeginMarkup Q) {s rest t' : Text}
    (hs : ∀ c ∈ s, c ≠ '<' ∧ c ≠ '&') (h : Text.Swap Q (s ++ rest) t') :
    ∃ rest', t' = s ++ rest' ∧ Text.Swap Q rest rest' := by
  induction s generalizing t' with
  | nil => exact ⟨t', rfl, h⟩
  | cons c s ih =>
    have hc := hs c List.mem_cons_self
    generalize ht : (c :: s) ++ rest = t at h
    cases h with
    | nil => exact absurd ht (List.cons_ne_nil _ _)
    | char d h =>
      obtain ⟨rfl, rfl⟩ := List.cons.inj ht
      obtain ⟨rest', rfl, hrest⟩ := ih (fun d hd => hs d (List.mem_cons_of_mem _ hd)) h
      exact ⟨rest', rfl, hrest⟩
    | piece hp _ =>
      obtain ⟨⟨r, rfl | rfl⟩, -⟩ := hQ _ _ hp
      · exact absurd (List.cons.inj ht).1 hc.1
      · exact absurd (List.cons.inj ht).1 hc.2

/-- **A place outside the pieces is a place of both sources.** -/
theorem exists_place?_of_swap {Q : Text → Text → Prop} (hQ : BeginMarkup Q) {c : Char}
    {t t' digits rest : Text} (h : Text.Swap Q t t') (hplace : place? (c :: t) = some (digits, rest)) :
    ∃ rest', place? (c :: t') = some (digits, rest') ∧ Text.Swap Q rest rest' := by
  obtain ⟨heq, hne, hdigits⟩ := place?_eq_some_iff.1 hplace
  obtain ⟨rfl, rfl⟩ := List.cons.inj (show c :: t =
    '<' :: (lit "!--snipwiki-block:" ++ digits ++ placeEnd ++ rest) from heq)
  have hplain : ∀ d ∈ lit "!--snipwiki-block:" ++ digits ++ placeEnd, d ≠ '<' ∧ d ≠ '&' := by
    have hword : (lit "!--snipwiki-block:").all fun d => d != '<' && d != '&' := rfl
    have hend : placeEnd.all fun d => d != '<' && d != '&' := rfl
    intro d hd
    rw [List.mem_append, List.mem_append] at hd
    obtain (hd | hd) | hd := hd
    · simpa using List.all_eq_true.1 hword d hd
    · have hdigit := List.all_eq_true.1 hdigits d hd
      constructor <;> rintro rfl <;> exact absurd hdigit (by decide)
    · simpa using List.all_eq_true.1 hend d hd
  obtain ⟨rest', rfl, hrest⟩ := exists_eq_append_of_swap hQ hplain h
  exact ⟨rest', place?_eq_some_iff.2 ⟨rfl, hne, hdigits⟩, hrest⟩

/-! ## Renumbered places -/

/-- **The comments of two places**, the first of which has one of the numbers. -/
def Renumbers (numbers : List Nat) (p p' : Text) : Prop :=
  ∃ index ∈ numbers, ∃ index', p = placeMark index ∧ p' = placeMark index'

/-- …or these comments as text. -/
def RenumbersShown (numbers : List Nat) (p p' : Text) : Prop :=
  ∃ index ∈ numbers, ∃ index',
    p = placeMark index ∧ p' = placeMark index' ∨
      p = Text.escape (placeMark index) ∧ p' = Text.escape (placeMark index')

variable {numbers : List Nat}

theorem beginMarkup_renumbersShown : BeginMarkup (RenumbersShown numbers) := by
  rintro p p' ⟨index, -, index', ⟨rfl, rfl⟩ | ⟨rfl, rfl⟩⟩
  · exact ⟨⟨_, .inl rfl⟩, _, .inl rfl⟩
  · exact ⟨⟨_, .inr rfl⟩, _, .inr rfl⟩

/-- Readings with the same characters, and places where the other has places. -/
inductive Alike : Char ⊕ Text → Char ⊕ Text → Prop
  | char (c : Char) : Alike (.inl c) (.inl c)
  | place (digits digits' : Text) : Alike (.inr digits) (.inr digits')

/-- **Renumbered sources are read alike**, if no place is shown as text. -/
theorem alike_reading {html html' : Text} (h : Text.Swap (RenumbersShown numbers) html html')
    (hshown : ∀ index ∈ numbers, ¬ Text.escape (placeMark index) <:+: html) :
    Forall₂ Alike (reading html) (reading html') := by
  induction hn : html.length using Nat.strong_induction_on generalizing html html' with
  | _ n ih =>
    subst hn
    cases h with
    | nil => exact .nil
    | @char c t t' h =>
      cases hplace : place? (c :: t) with
      | some found =>
        -- a place that is no piece: it was written in the text itself
        obtain ⟨digits, rest⟩ := found
        obtain ⟨rest', hplace', hrest⟩ := exists_place?_of_swap beginMarkup_renumbersShown h hplace
        have hsuffix : rest <:+ c :: t := ⟨_, (place?_eq_some_iff.1 hplace).1.symm⟩
        rw [reading_of_place? hplace, reading_of_place? hplace']
        exact .cons (.place _ _) (ih _ (length_lt_of_place? hplace) hrest
          (fun index hindex hin => hshown index hindex (hin.trans hsuffix.isInfix)) rfl)
      | none =>
        have hplace' : place? (c :: t') = none := by
          cases hplace' : place? (c :: t') with
          | none => rfl
          | some found =>
            obtain ⟨rest, hfound, -⟩ := exists_place?_of_swap
              (fun p p' hp => (beginMarkup_renumbersShown p' p hp).symm) h.symm hplace'
            exact absurd (hplace.symm.trans hfound) nofun
        rw [reading_of_not_place? hplace, reading_of_not_place? hplace']
        exact .cons (.char c) (ih _ (Nat.lt_succ_self _) h
          (fun index hindex hin => hshown index hindex (hin.trans (List.suffix_cons c t).isInfix)) rfl)
    | @piece p p' t t' hp h =>
      obtain ⟨index, hindex, index', ⟨rfl, rfl⟩ | ⟨rfl, rfl⟩⟩ := hp
      · have hlength := length_lt_of_place? (place?_placeMark index t)
        rw [reading_of_place? (place?_placeMark index t), reading_of_place? (place?_placeMark index' t')]
        exact .cons (.place _ _) (ih _ hlength h (fun index hindex hin =>
          hshown index hindex (hin.trans (List.suffix_append _ _).isInfix)) rfl)
      · exact absurd (List.prefix_append _ _).isInfix (hshown index hindex)

/-- **Sources that are read alike are filled alike**, if the same blocks belong to their places. -/
theorem fillPlaces_eq_of_alike {html html' : Text} {blocks blocks' : List Text}
    (h : Forall₂ Alike (reading html) (reading html'))
    (hblocks : (places html).map (blockAt blocks) = (places html').map (blockAt blocks')) :
    fillPlaces blocks html = fillPlaces blocks' html' := by
  rw [fillPlaces_eq, fillPlaces_eq]
  unfold places at hblocks
  generalize reading html = r, reading html' = r' at h hblocks ⊢
  induction h with
  | nil => rfl
  | cons h _ ih =>
    cases h with
    | char c =>
      rw [List.flatMap_cons, List.flatMap_cons, ih hblocks]
      rfl
    | place digits digits' =>
      obtain ⟨hblock, hrest⟩ := List.cons.inj hblocks
      rw [List.flatMap_cons, List.flatMap_cons, ih hrest]
      exact congrArg (· ++ _) hblock

/-! ## The comments of places in Markdown -/

theorem mem_placeMark {index : Nat} {c : Char} (h : c ∈ placeMark index) :
    c ∈ placeStart ∨ c ∈ placeEnd ∨ Text.isDigit c = true := by
  rw [placeMark, List.mem_append, List.mem_append] at h
  obtain (h | h) | h := h
  · exact .inl h
  · exact .inr (.inr (List.all_eq_true.1 (Text.all_isDigit_ofNat index) c h))
  · exact .inr (.inl h)

/-- Characters that no place has, whatever its number. -/
def IsForeign (c : Char) : Prop := c ∉ placeStart ∧ c ∉ placeEnd ∧ Text.isDigit c = false

instance (c : Char) : Decidable (IsForeign c) := inferInstanceAs (Decidable (_ ∧ _ ∧ _))

theorem not_mem_placeMark {c : Char} (hc : IsForeign c) (index : Nat) : c ∉ placeMark index := by
  intro h
  obtain h | h | h := mem_placeMark h
  · exact hc.1 h
  · exact hc.2.1 h
  · exact Bool.false_ne_true (hc.2.2.symm.trans h)

theorem contains_placeMark_eq_false {mark : Text} {c : Char} (hmark : c ∈ mark) (hc : IsForeign c)
    (index : Nat) : Text.contains mark (placeMark index) = false :=
  Bool.eq_false_iff.2 fun h =>
    not_mem_placeMark hc index ((Text.contains_iff_isInfix.1 h).subset hmark)

theorem contains_placeMark_eq_true {mark : Text} (hmark : mark <:+ placeEnd) (index : Nat) :
    Text.contains mark (placeMark index) = true :=
  Text.contains_iff_isInfix.2 (hmark.trans (List.suffix_append _ _)).isInfix

theorem closesRawElement_eq_false {t : Text} (h : '<' ∉ t) :
    Markdown.RawHtml.closesRawElement t = false := by
  induction t with
  | nil => rfl
  | cons c t ih =>
    rw [List.mem_cons, not_or] at h
    rw [Markdown.RawHtml.closesRawElement, ih h.2, Bool.or_false, Bool.and_eq_false_iff]
    exact .inl (beq_eq_false_iff_ne.2 (Ne.symm h.1))

theorem closesRawElement_placeMark (index : Nat) :
    Markdown.RawHtml.closesRawElement (placeMark index) = false := by
  have hrest : '<' ∉ lit "!--snipwiki-block:" ++ Text.ofNat index ++ placeEnd := by
    rw [List.mem_append, List.mem_append, not_or, not_or]
    refine ⟨⟨by decide, fun h => ?_⟩, by decide⟩
    exact absurd (List.all_eq_true.1 (Text.all_isDigit_ofNat index) _ h) (by decide)
  have hmark : placeMark index =
      '<' :: (lit "!--snipwiki-block:" ++ Text.ofNat index ++ placeEnd) := rfl
  rw [hmark, Markdown.RawHtml.closesRawElement, closesRawElement_eq_false hrest]
  rfl

theorem areComments_renumbers : Markdown.AreComments (Renumbers numbers) where
  opens := by
    rintro l l' ⟨index, -, index', rfl, rfl⟩
    exact ⟨_, _, rfl, rfl⟩
  met := by
    rintro l l' ⟨index, -, index', rfl, rfl⟩ ending hending
    simp only [Markdown.RawHtml.endings, List.mem_cons, List.not_mem_nil, or_false] at hending
    obtain rfl | rfl | rfl | rfl | rfl | rfl := hending
    · exact (closesRawElement_placeMark index).trans (closesRawElement_placeMark index').symm
    · rfl
    · exact (contains_placeMark_eq_true (by decide) index).trans
        (contains_placeMark_eq_true (by decide) index').symm
    · have hmark : '?' ∈ lit "?>" := by decide
      exact (contains_placeMark_eq_false hmark (by decide) index).trans
        (contains_placeMark_eq_false hmark (by decide) index').symm
    · exact (contains_placeMark_eq_true (by decide) index).trans
        (contains_placeMark_eq_true (by decide) index').symm
    · have hmark : ']' ∈ lit "]]>" := by decide
      exact (contains_placeMark_eq_false hmark (by decide) index).trans
        (contains_placeMark_eq_false hmark (by decide) index').symm

end WikiPress.Page
