import Mathlib.Tactic.Common
import Mathlib.Tactic.IntervalCases
import WikiPress.Markdown.Markup
import WikiPress.Proofs.Html.Content
import WikiPress.Proofs.Text.Basic

/-!
# Proofs/Html/Source — the tokens of headings, lists and links

What is written for a heading, an item or a link is read back token by token: a tag with its
attributes, a text with its references resolved, an end tag.
-/

namespace WikiPress.Html

namespace Builder

/-! ## Token by token -/

/-- **Reading goes on**: from a source to the rest of it, and from one builder to another. -/
def Reaches (t : Text) (b : Builder) (rest : Text) (b' : Builder) : Prop :=
  ∀ fuel, t.length < fuel → ∃ fuel', rest.length < fuel' ∧
    b.readSource fuel t = b'.readSource fuel' rest

variable {t rest rest' : Text} {b b' b'' : Builder} {l l' : Forest.Level} {ls : List Forest.Level}
  {formatting : List (Option Nat)} {token : Token}

theorem Reaches.refl : Reaches t b t b := fun fuel h => ⟨fuel, h, rfl⟩

theorem Reaches.trans (h : Reaches t b rest b') (h' : Reaches rest b' rest' b'') :
    Reaches t b rest' b'' := by
  intro fuel hfuel
  obtain ⟨fuel', hfuel', hread⟩ := h fuel hfuel
  obtain ⟨fuel'', hfuel'', hread'⟩ := h' fuel' hfuel'
  exact ⟨fuel'', hfuel'', hread.trans hread'⟩

theorem Reading.readSource (h : Reading b (l :: ls) formatting) (fuel : Nat) (t : Text) :
    b.readSource (fuel + 1) t =
      match Source.ofMarkup false t with
      | (.eof, _) => b.readToken .eof
      | (token, rest) => (b.readToken token).readSource fuel rest := by
  obtain ⟨id, outer, hids, helement, -⟩ := h.exists_cons
  have hcurrent : b.current? = some id := by
    rw [current?, hids]
    rfl
  have hhtml : ((b.element id).1 != .html) = false := by
    rw [helement]
    rfl
  rw [Builder.readSource, hcurrent, h.content]
  dsimp only
  rw [hhtml]
  rfl

/-- **One token of the content.** -/
theorem Reading.reaches (h : Reading b (l :: ls) formatting)
    (hnext : Source.ofMarkup false t = (token, rest)) (heof : token ≠ .eof)
    (hrest : rest.length < t.length) : Reaches t b rest (b.readToken token) := by
  intro fuel hfuel
  obtain ⟨fuel, rfl⟩ : ∃ n, fuel = n + 1 := ⟨fuel - 1, by omega⟩
  refine ⟨fuel, by omega, ?_⟩
  rw [h.readSource, hnext]
  cases token <;> first | rfl | exact absurd rfl heof

/-- A tag of the content. -/
theorem Reading.reaches_tag {tag : Text} (h : Reading b (l :: ls) formatting)
    (hnext : Source.ofMarkup false (tag ++ rest) = (token, rest)) (heof : token ≠ .eof)
    (htag : tag ≠ []) : Reaches (tag ++ rest) b rest (b.readToken token) := by
  refine h.reaches hnext heof ?_
  rw [List.length_append]
  exact Nat.lt_add_of_pos_left (List.length_pos_of_ne_nil htag)

end Builder

/-! ## Tags -/

namespace Source

variable {rest : Text}

theorem ofMarkup_openHeading {level : Nat} (hlow : 1 ≤ level) (hhigh : level ≤ 6) :
    ofMarkup false ('<' :: ('h' :: Text.ofNat level) ++ '>' :: rest) =
      (.opening ⟨'h' :: Text.ofNat level, [], false⟩, rest) := by
  interval_cases level <;> rfl

theorem ofMarkup_closeHeading {level : Nat} (hlow : 1 ≤ level) (hhigh : level ≤ 6) :
    ofMarkup false (lit "</" ++ ('h' :: Text.ofNat level) ++ '>' :: rest) =
      (.closing ⟨'h' :: Text.ofNat level, [], false⟩, rest) := by
  interval_cases level <;> rfl

theorem ofMarkup_openList :
    ofMarkup false (lit "<ul>" ++ rest) = (.opening ⟨lit "ul", [], false⟩, rest) := rfl

theorem ofMarkup_closeList :
    ofMarkup false (lit "</ul>" ++ rest) = (.closing ⟨lit "ul", [], false⟩, rest) := rfl

theorem ofMarkup_openItem :
    ofMarkup false (lit "<li>" ++ rest) = (.opening ⟨lit "li", [], false⟩, rest) := rfl

theorem ofMarkup_closeItem :
    ofMarkup false (lit "</li>" ++ rest) = (.closing ⟨lit "li", [], false⟩, rest) := rfl

theorem ofMarkup_closeLink :
    ofMarkup false (lit "</a>" ++ rest) = (.closing ⟨lit "a", [], false⟩, rest) := rfl

/-- The value of an attribute in double quotes. -/
theorem value?_quoted {v : Text} (hv : '"' ∉ v) :
    value? ('"' :: v ++ '"' :: rest) = some (replaceNull (resolveReferences true v), rest) := by
  have hall : v.all (· != '"') = true := by
    rw [List.all_eq_true]
    intro c hc
    rw [bne_iff_ne]
    rintro rfl
    exact hv hc
  have hrest : ∀ c ∈ ('"' :: rest).head?, (c != '"') = false := by simp
  obtain ⟨htake, hdrop⟩ := Text.takeWhile_append_of_all hall hrest
  unfold value?
  dsimp only [List.cons_append]
  rw [if_pos (by decide), hdrop, htake]

/-- The attributes of a link with a title that is a number sign. -/
theorem attributes?_link {v : Text} (hv : '"' ∉ v) (fuel : Nat) :
    attributes? (fuel + 3) (lit " href=" ++ ('"' :: v ++ '"' :: (lit " title=\"#\">" ++ rest))) =
      some ([⟨lit "href", replaceNull (resolveReferences true v)⟩, ⟨lit "title", ['#']⟩], false,
        rest) := by
  generalize htitle : lit " title=\"#\">" ++ rest = title
  have hvalue : value? (('"' :: v ++ '"' :: title).dropWhile isSpace) =
      some (replaceNull (resolveReferences true v), title) := value?_quoted hv
  have hequals : ((lit "ref=" ++ ('"' :: v ++ '"' :: title)).dropWhile fun c =>
      !(isSpace c || c == '/' || c == '>' || c == '=')).dropWhile isSpace =
        '=' :: ('"' :: v ++ '"' :: title) := rfl
  have hblank : (lit " href=" ++ ('"' :: v ++ '"' :: title)).dropWhile isSpace =
      'h' :: (lit "ref=" ++ ('"' :: v ++ '"' :: title)) := rfl
  rw [attributes?, hblank]
  simp only [Char.reduceEq, imp_self, hequals, hvalue]
  rw [← htitle]
  rfl

/-- The opening tag of a link with a title that is a number sign. -/
theorem ofMarkup_openLink {v : Text} (hv : '"' ∉ v) (rest : Text) :
    ofMarkup false (lit "<a href=" ++ ('"' :: v ++ '"' :: (lit " title=\"#\">" ++ rest))) =
      (.opening ⟨lit "a", [⟨lit "href", replaceNull (resolveReferences true v)⟩,
        ⟨lit "title", ['#']⟩], false⟩, rest) := by
  have htag : tag? ('a' :: (lit " href=" ++ ('"' :: v ++ '"' :: (lit " title=\"#\">" ++ rest)))) =
      some (⟨lit "a", [⟨lit "href", replaceNull (resolveReferences true v)⟩,
        ⟨lit "title", ['#']⟩], false⟩, rest) :=
    (congrArg (Option.map _) (attributes?_link hv _)).trans rfl
  have hbegins : lit "<a href=" ++ ('"' :: v ++ '"' :: (lit " title=\"#\">" ++ rest)) =
      '<' :: 'a' :: (lit " href=" ++ ('"' :: v ++ '"' :: (lit " title=\"#\">" ++ rest))) := rfl
  rw [hbegins]
  generalize lit " href=" ++ ('"' :: v ++ '"' :: (lit " title=\"#\">" ++ rest)) = behind at htag ⊢
  simp only [ofMarkup, Char.reduceEq, imp_self, htag]
  rfl

/-! ## Texts -/

/-- A character that is written as itself in an escaped text. -/
def isBare (c : Char) : Bool := !(c == '&' || c == '<' || c == '>' || c == '"')

theorem eq_of_isBare_eq_false {c : Char} (hc : isBare c = false) :
    c = '&' ∨ c = '<' ∨ c = '>' ∨ c = '"' := by
  simpa [isBare, or_assoc, imp_iff_not_or, not_and_or] using hc

theorem escapeAttribute_cons (c : Char) (s : Text) :
    Text.escapeAttribute (c :: s) =
      (if c == '"' then lit "&quot;" else Text.escapeChar c) ++ Text.escapeAttribute s := rfl

theorem escapeAttribute_cons_of_isBare {c : Char} (hc : isBare c = true) (s : Text) :
    Text.escapeAttribute (c :: s) = c :: Text.escapeAttribute s := by
  rw [isBare, Bool.not_eq_true', Bool.or_eq_false_iff, Bool.or_eq_false_iff, Bool.or_eq_false_iff] at hc
  obtain ⟨⟨⟨hamp, hlt⟩, hgt⟩, hquote⟩ := hc
  rw [escapeAttribute_cons, hquote, if_neg Bool.false_ne_true]
  unfold Text.escapeChar
  split
  · cases hamp
  · cases hlt
  · cases hgt
  · rfl

/-- What is written for a text is its characters, but for the escaped ones, and references. -/
theorem mem_escapeAttribute {s : Text} {c : Char} (h : c ∈ Text.escapeAttribute s) :
    c ∈ s ∧ isBare c = true ∨ c ∈ lit "&ampltgquo;" := by
  induction s with
  | nil => cases h
  | cons d s ih =>
    have hbehind : c ∈ Text.escapeAttribute s → c ∈ d :: s ∧ isBare c = true ∨ c ∈ lit "&ampltgquo;" :=
      fun h => (ih h).imp_left fun h => ⟨List.mem_cons_of_mem _ h.1, h.2⟩
    cases hbare : isBare d with
    | true =>
      rw [escapeAttribute_cons_of_isBare hbare, List.mem_cons] at h
      rcases h with rfl | h
      · exact .inl ⟨List.mem_cons_self, hbare⟩
      · exact hbehind h
    | false =>
      rw [escapeAttribute_cons, List.mem_append] at h
      rcases h with h | h
      · refine .inr ?_
        obtain rfl | rfl | rfl | rfl := eq_of_isBare_eq_false hbare
        all_goals exact Text.forall_mem_of_all (by decide) c h
      · exact hbehind h

/-- **A name up to its semicolon** is looked up as it is. -/
theorem reference?_of_named {name chars : Text} (inAttribute : Bool)
    (hname : name.all isNameChar = true) (hnamed : Text.named? name = some chars) :
    reference? inAttribute (name ++ ';' :: rest) = some (chars, rest) := by
  have hrest : ∀ c ∈ (';' :: rest).head?, isNameChar c = false := by
    simp [isNameChar, Text.isLetter, Text.isDigit]
  obtain ⟨htake, -⟩ := Text.takeWhile_append_of_all hname hrest
  unfold reference?
  split
  next r heq =>
    rcases name with _ | ⟨d, name⟩
    · cases heq
    · cases heq
      exact absurd (List.all_eq_true.1 hname '#' List.mem_cons_self) (by decide)
  next =>
    simp only [namedReference?, htake, List.drop_left, hnamed, Option.map_some]

theorem named?_amp : Text.named? (lit "amp") = some ['&'] := by decide +kernel

theorem named?_lt : Text.named? (lit "lt") = some ['<'] := by decide +kernel

theorem named?_gt : Text.named? (lit "gt") = some ['>'] := by decide +kernel

theorem named?_quot : Text.named? (lit "quot") = some ['"'] := by decide +kernel

theorem ofMarkup_named {name chars : Text} (hname : name.all isNameChar = true)
    (hnamed : Text.named? name = some chars) (rest : Text) :
    ofMarkup false ('&' :: (name ++ ';' :: rest)) = (.text chars, rest) := by
  simp only [ofMarkup, reference?_of_named false hname hnamed]

/-- **What a source writes**: characters as they are, references to others, and null characters, which
are not read. -/
inductive Writes : Text → Text → Prop
  | nil : Writes [] []
  | bare {c : Char} {s source : Text} (hc : c ≠ '&' ∧ c ≠ '<' ∧ c.toNat ≠ 0)
      (h : Writes s source) : Writes (c :: s) (c :: source)
  | reference {name chars s source : Text} (hname : name.all isNameChar = true)
      (hnamed : Text.named? name = some chars) (hchars : chars ≠ []) (h : Writes s source) :
      Writes (chars ++ s) ('&' :: (name ++ ';' :: source))
  | null {c : Char} {s source : Text} (hc : c.toNat = 0) (h : Writes s source) :
      Writes s (c :: source)

/-- What escapes a character as element content writes that character… -/
theorem Writes.escapeChar {c : Char} {s source : Text} (hc : c.toNat ≠ 0) (h : Writes s source) :
    Writes (c :: s) (Text.escapeChar c ++ source) := by
  unfold Text.escapeChar
  split
  · exact .reference (by decide) named?_amp (List.cons_ne_nil _ _) h
  · exact .reference (by decide) named?_lt (List.cons_ne_nil _ _) h
  · exact .reference (by decide) named?_gt (List.cons_ne_nil _ _) h
  · next hamp hlt _ => exact .bare ⟨hamp, hlt, hc⟩ h

/-- …and so does what escapes it in an attribute. -/
theorem writes_escapeAttribute {s : Text} (hnull : ∀ c ∈ s, c.toNat ≠ 0) :
    Writes s (Text.escapeAttribute s) := by
  induction s with
  | nil => exact .nil
  | cons c s ih =>
    obtain ⟨hc, hs⟩ := List.forall_mem_cons.1 hnull
    rw [escapeAttribute_cons]
    split
    · next hquote =>
      obtain rfl := beq_iff_eq.1 hquote
      exact .reference (by decide) named?_quot (List.cons_ne_nil _ _) (ih hs)
    · exact (ih hs).escapeChar hc

/-- **Element content writes its text**, but for null characters. -/
theorem writes_escape (s : Text) : Writes (s.filter (·.toNat != 0)) (Text.escape s) := by
  induction s with
  | nil => exact .nil
  | cons c s ih =>
    by_cases hc : c.toNat = 0
    · have hbare : Text.escapeChar c = [c] := by
        unfold Text.escapeChar
        split <;> first | rfl | exact absurd hc (by decide)
      rw [List.filter_cons_of_neg (by simp [hc]), Text.escape, List.flatMap_cons, hbare]
      exact .null hc ih
    · rw [List.filter_cons_of_pos (by simpa using hc), Text.escape, List.flatMap_cons]
      exact ih.escapeChar hc

/-- **A run of characters** is taken from the text up to what may mean something else. -/
theorem Writes.exists_run {p : Char → Bool} (hamp : p '&' = false) (hlt : p '<' = false)
    (hnull : ∀ c : Char, c.toNat = 0 → p c = false) {s source : Text} (h : Writes s source)
    (rest : Text) :
    ∃ part others behind, s = part ++ others ∧ source = part ++ behind ∧ Writes others behind ∧
      (source ++ '<' :: rest).takeWhile p = part ∧
      (source ++ '<' :: rest).dropWhile p = behind ++ '<' :: rest := by
  have hstop : ∀ {c : Char} {t : Text}, p c = false → (c :: t).takeWhile p = [] ∧
      (c :: t).dropWhile p = c :: t := fun hc =>
    ⟨List.takeWhile_cons_of_neg (by simp [hc]), List.dropWhile_cons_of_neg (by simp [hc])⟩
  cases h with
  | nil => exact ⟨[], [], [], rfl, rfl, .nil, hstop hlt⟩
  | @bare c s source hc h =>
    cases hp : p c with
    | false => exact ⟨[], c :: s, c :: source, rfl, rfl, .bare hc h, hstop hp⟩
    | true =>
      obtain ⟨part, others, behind, rfl, rfl, hothers, htake, hdrop⟩ := h.exists_run hamp hlt hnull rest
      refine ⟨c :: part, others, behind, rfl, rfl, hothers, ?_, ?_⟩
      · rw [List.cons_append, List.takeWhile_cons_of_pos hp, htake]
      · rw [List.cons_append, List.dropWhile_cons_of_pos hp, hdrop]
  | reference hname hnamed hchars h =>
    exact ⟨[], _, _, rfl, rfl, .reference hname hnamed hchars h, hstop hamp⟩
  | null hc h => exact ⟨[], _, _, rfl, rfl, .null hc h, hstop (hnull _ hc)⟩

/-- A character that means nothing else begins a run of text. -/
theorem ofMarkup_bare {c : Char} (hc : c ≠ '&' ∧ c ≠ '<' ∧ c.toNat ≠ 0) (t : Text) :
    ofMarkup false (c :: t) = (.text (plainRun (c :: t)).1, (plainRun (c :: t)).2) := by
  obtain ⟨hamp, hlt, hnull⟩ := hc
  unfold ofMarkup
  split
  next heq => cases heq
  next heq => exact absurd (List.cons.inj heq).1 hlt
  next heq => exact absurd (List.cons.inj heq).1 hamp
  next heq =>
    cases heq
    have hzero : (c.toNat == 0) = false := beq_eq_false_iff_ne.2 hnull
    rw [hzero, if_neg Bool.false_ne_true]

/-- **A run of text** is one of white space, or one up to a character that may mean something else. -/
theorem exists_plainRun {c : Char} (hc : c ≠ '&' ∧ c ≠ '<' ∧ c.toNat ≠ 0) (t : Text) :
    ∃ p : Char → Bool, p c = true ∧ p '&' = false ∧ p '<' = false ∧
      (∀ d : Char, d.toNat = 0 → p d = false) ∧
      plainRun (c :: t) = ((c :: t).takeWhile p, (c :: t).dropWhile p) := by
  cases hspace : isSpace c with
  | true =>
    have hnull : ∀ d : Char, d.toNat = 0 → isSpace d = false := fun d hd => by
      rw [← Char.ofNat_toNat d, hd]
      decide
    have hne : (c :: t).takeWhile isSpace ≠ [] := by
      rw [List.takeWhile_cons_of_pos hspace]
      exact List.cons_ne_nil _ _
    have hdrop : (c :: t).drop ((c :: t).takeWhile isSpace).length = (c :: t).dropWhile isSpace := by
      calc (c :: t).drop ((c :: t).takeWhile isSpace).length
        _ = ((c :: t).takeWhile isSpace ++ (c :: t).dropWhile isSpace).drop
              ((c :: t).takeWhile isSpace).length := by rw [List.takeWhile_append_dropWhile]
        _ = (c :: t).dropWhile isSpace := List.drop_left
    refine ⟨isSpace, hspace, by decide, by decide, hnull, ?_⟩
    rw [plainRun, hdrop]
    exact if_neg (by rwa [List.isEmpty_iff])
  | false =>
    have hnone : (c :: t).takeWhile isSpace = [] := List.takeWhile_cons_of_neg (by simp [hspace])
    refine ⟨fun c => !(c == '<' || c == '&' || c.toNat == 0), by simp [hc], by decide, by decide,
      fun d hd => by simp [hd], ?_⟩
    rw [plainRun, hnone]
    rfl

/-- **The first token of what writes a text** is a part of the text that is not empty, or a null
character; the rest of the text is written behind it. -/
theorem Writes.exists_ofMarkup {s source : Text} (h : Writes s source) (hne : source ≠ [])
    (rest : Text) :
    ∃ token part others behind, s = part ++ others ∧ Writes others behind ∧
      behind.length < source.length ∧ ofMarkup false (source ++ '<' :: rest) =
        (token, behind ++ '<' :: rest) ∧
      (part ≠ [] ∧ token = .text part ∨ part = [] ∧ token = .null) := by
  cases h with
  | nil => exact absurd rfl hne
  | @reference name chars s source hname hnamed hchars h =>
    refine ⟨.text chars, chars, s, source, rfl, h, by simp; omega, ?_, .inl ⟨hchars, rfl⟩⟩
    rw [List.cons_append, List.append_assoc, List.cons_append]
    exact ofMarkup_named hname hnamed _
  | @null c s source hc h =>
    refine ⟨.null, [], s, source, rfl, h, Nat.lt_succ_self _, ?_, .inr ⟨rfl, rfl⟩⟩
    rw [show c = Char.ofNat 0 by rw [← hc, Char.ofNat_toNat]]
    rfl
  | @bare c s source hc h =>
    have hwritten : Writes (c :: s) (c :: source) := .bare hc h
    rw [List.cons_append, ofMarkup_bare hc, ← List.cons_append]
    obtain ⟨p, hp, hamp, hlt, hnull, hrun⟩ := exists_plainRun hc (source ++ '<' :: rest)
    obtain ⟨part, others, behind, hs, hsource, hothers, htake, hdrop⟩ :=
      hwritten.exists_run hamp hlt hnull rest
    have hpart : part ≠ [] := by
      rw [← htake, List.cons_append, List.takeWhile_cons_of_pos hp]
      exact List.cons_ne_nil _ _
    rw [← List.cons_append, htake, hdrop] at hrun
    refine ⟨.text part, part, others, behind, hs, hothers, ?_, by rw [hrun], .inl ⟨hpart, rfl⟩⟩
    rw [hsource, List.length_append]
    exact Nat.lt_add_of_pos_left (List.length_pos_of_ne_nil hpart)

end Source

namespace Builder

variable {rest : Text} {b b' : Builder} {l l' : Forest.Level} {ls : List Forest.Level}

/-- **What writes a text** up to the next tag adds the text as it is. -/
theorem Reading.reaches_written (h : Reading b (l :: ls) []) {s source : Text}
    (hwritten : Source.Writes s source) (rest : Text) :
    ∃ b', Reaches (source ++ '<' :: rest) b ('<' :: rest) b' ∧
      Reading b' ({ l with done := Forest.joinText l.done s } :: ls) [] := by
  induction hlength : source.length using Nat.strong_induction_on generalizing s source l b with
  | _ n ih =>
    by_cases hne : source = []
    · subst hne
      cases hwritten
      exact ⟨b, .refl, h⟩
    · obtain ⟨token, part, others, behind, rfl, hothers, hshort, hnext, hkind⟩ :=
        hwritten.exists_ofMarkup hne rest
      have hread : Reading (b.readToken token) ({ l with done := Forest.joinText l.done part } :: ls)
          [] := by
        rcases hkind with ⟨hpart, rfl⟩ | ⟨rfl, rfl⟩
        · exact h.readToken_text hpart
        · have hstep : b.inBodyStep .null = .done b := rfl
          rw [h.readToken hstep]
          exact h
      obtain ⟨b', hreach, hb'⟩ := ih behind.length (by omega) hread hothers rfl
      refine ⟨b', (h.reaches hnext ?_ ?_).trans hreach, ?_⟩
      · rcases hkind with ⟨-, rfl⟩ | ⟨-, rfl⟩ <;> simp
      · rw [List.length_append, List.length_append]
        omega
      · rw [Forest.joinText_joinText] at hb'
        exact hb'

end Builder

end WikiPress.Html

namespace WikiPress.Markdown

/-!
## The URL that the value of an attribute stands for

    /ä & b.md  ──▸  /%C3%A4%20&amp;%20b.md  ──▸  /%C3%A4%20&%20b.md

A URL is written with its foreign characters as percent signs and digits, and with references for the
ampersand and the apostrophe.  Reading the value gives the references back
(`resolveReferences_urlAttribute`).
-/

/-- A URL with the bytes of its foreign characters as percent signs and digits. -/
def percentEncoded (url : Text) : Text :=
  url.flatMap fun c =>
    if isUrlChar c || c == '&' || c == '\'' then [c] else (String.utf8EncodeChar c).flatMap percentByte

theorem isUrlChar_percentByte (b : UInt8) : (percentByte b).all isUrlChar = true := by
  have hdigit : ∀ n < 16, isUrlChar (Char.ofNat (if n < 10 then 48 + n else 55 + n)) = true := by
    intro n hn
    interval_cases n <;> decide
  have hb : b.toNat < 256 := b.toNat_lt
  unfold percentByte
  rw [List.all_cons, List.all_cons, List.all_cons, List.all_nil, hdigit _ (by omega),
    hdigit _ (by omega)]
  decide

theorem isUrlChar_percentBytes (bytes : List UInt8) :
    (bytes.flatMap percentByte).all isUrlChar = true := by
  rw [List.all_flatMap, List.all_eq_true]
  exact fun b _ => isUrlChar_percentByte b

/-- A value is written in the characters of URLs and in ampersands. -/
theorem mem_urlAttribute {url : Text} {c : Char} (h : c ∈ urlAttribute url) :
    isUrlChar c = true ∨ c = '&' := by
  obtain ⟨d, -, hd⟩ := List.mem_flatMap.1 h
  split at hd
  next hurl =>
    rw [List.mem_singleton.1 hd]
    exact .inl hurl
  next =>
    split at hd
    next =>
      have hamp : ∀ c ∈ lit "&amp;", isUrlChar c = true ∨ c = '&' :=
        Text.forall_mem_of_all (by decide)
      exact hamp c hd
    next =>
      split at hd
      next =>
        have hquote : ∀ c ∈ lit "&#x27;", isUrlChar c = true ∨ c = '&' :=
          Text.forall_mem_of_all (by decide)
        exact hquote c hd
      next => exact .inl (List.all_eq_true.1 (isUrlChar_percentBytes _) c hd)

theorem mem_percentEncoded {url : Text} {c : Char} (h : c ∈ percentEncoded url) :
    isUrlChar c = true ∨ c = '&' ∨ c = '\'' := by
  obtain ⟨d, -, hd⟩ := List.mem_flatMap.1 h
  split at hd
  next hurl =>
    rw [List.mem_singleton.1 hd]
    rw [Bool.or_eq_true, Bool.or_eq_true, beq_iff_eq, beq_iff_eq, or_assoc] at hurl
    exact hurl
  next => exact .inl (List.all_eq_true.1 (isUrlChar_percentBytes _) c hd)

/-! ## Reading the value -/

variable {s t rest chars : Text} {fuel : Nat}

theorem resolveWithin_append (hs : '&' ∉ s) (hfuel : (s ++ rest).length ≤ fuel) :
    ∃ fuel', rest.length ≤ fuel' ∧
      Html.resolveWithin true fuel (s ++ rest) = s ++ Html.resolveWithin true fuel' rest := by
  induction s generalizing fuel with
  | nil => exact ⟨fuel, hfuel, rfl⟩
  | cons c s ih =>
    rw [List.mem_cons, not_or] at hs
    obtain ⟨fuel, rfl⟩ : ∃ n, fuel = n + 1 :=
      ⟨fuel - 1, by rw [List.cons_append, List.length_cons] at hfuel; omega⟩
    obtain ⟨fuel', hfuel', hread⟩ := ih hs.2 (Nat.le_of_succ_le_succ hfuel)
    refine ⟨fuel', hfuel', ?_⟩
    have hc : (c == '&') = false := beq_eq_false_iff_ne.2 (Ne.symm hs.1)
    rw [List.cons_append, Html.resolveWithin, hc, if_neg Bool.false_ne_true]
    exact congrArg (c :: ·) hread

theorem resolveWithin_reference (h : Html.reference? true (s ++ rest) = some (chars, rest))
    (hfuel : ('&' :: s ++ rest).length ≤ fuel) :
    ∃ fuel', rest.length ≤ fuel' ∧
      Html.resolveWithin true fuel ('&' :: s ++ rest) =
        chars ++ Html.resolveWithin true fuel' rest := by
  rw [List.cons_append, List.length_cons, List.length_append] at hfuel
  obtain ⟨fuel, rfl⟩ : ∃ n, fuel = n + 1 := ⟨fuel - 1, by omega⟩
  refine ⟨fuel, by omega, ?_⟩
  rw [List.cons_append, Html.resolveWithin, if_pos (by rfl), h]

/-- **A character of a URL is written without an ampersand, or as a reference to it.** -/
theorem urlAttribute_cons (c : Char) (url : Text) :
    (∃ part : Text, '&' ∉ part ∧ urlAttribute (c :: url) = part ++ urlAttribute url ∧
      percentEncoded (c :: url) = part ++ percentEncoded url) ∨
    ∃ name : Text, urlAttribute (c :: url) = '&' :: name ++ urlAttribute url ∧
      percentEncoded (c :: url) = [c] ++ percentEncoded url ∧
      Html.reference? true (name ++ urlAttribute url) = some ([c], urlAttribute url) := by
  by_cases hurl : isUrlChar c = true
  · refine .inl ⟨[c], ?_, ?_, ?_⟩
    · rw [List.mem_singleton]
      rintro rfl
      exact absurd hurl (by decide)
    · rw [urlAttribute, List.flatMap_cons, if_pos hurl]
      rfl
    · rw [percentEncoded, List.flatMap_cons, if_pos (by simp [hurl])]
      rfl
  · by_cases hamp : c = '&'
    · subst hamp
      exact .inr ⟨lit "amp;", rfl, rfl,
        Html.Source.reference?_of_named true (by decide) Html.Source.named?_amp⟩
    · by_cases hquote : c = '\''
      · subst hquote
        exact .inr ⟨lit "#x27;", rfl, rfl, rfl⟩
      · -- the bytes of the character
        have hencoded : ¬ (isUrlChar c || c == '&' || c == '\'') = true := by
          simp [hurl, hamp, hquote]
        refine .inl ⟨(String.utf8EncodeChar c).flatMap percentByte, ?_, ?_, ?_⟩
        · intro hmem
          have := List.all_eq_true.1 (isUrlChar_percentBytes (String.utf8EncodeChar c)) _ hmem
          exact absurd this (by decide)
        · rw [urlAttribute, List.flatMap_cons, if_neg hurl, if_neg (by simpa using hamp),
            if_neg (by simpa using hquote)]
          rfl
        · rw [percentEncoded, List.flatMap_cons, if_neg hencoded]
          rfl

theorem resolveWithin_urlAttribute {url : Text} (hfuel : (urlAttribute url).length ≤ fuel) :
    Html.resolveWithin true fuel (urlAttribute url) = percentEncoded url := by
  induction url generalizing fuel with
  | nil => cases fuel <;> rfl
  | cons c url ih =>
    rcases urlAttribute_cons c url with ⟨part, hpart, hwritten, hencoded⟩ |
      ⟨name, hwritten, hencoded, hname⟩ <;> rw [hwritten] at hfuel ⊢
    · obtain ⟨fuel', hfuel', hread⟩ := resolveWithin_append hpart hfuel
      rw [hread, ih hfuel', hencoded]
    · obtain ⟨fuel', hfuel', hread⟩ := resolveWithin_reference hname hfuel
      rw [hread, ih hfuel', hencoded]

/-- **The value of an attribute is read as the encoded URL.** -/
theorem resolveReferences_urlAttribute (url : Text) :
    Html.resolveReferences true (urlAttribute url) = percentEncoded url :=
  resolveWithin_urlAttribute le_rfl

end WikiPress.Markdown
