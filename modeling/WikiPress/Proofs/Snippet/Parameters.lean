import WikiPress.Proofs.Snippet.Grammar
import WikiPress.Proofs.Snippet.Scan
import Mathlib.Data.List.Infix

/-!
# Proofs/Snippet/Parameters — what a written directive binds

    ### [+#x=5](y|plain( "|text=a=b](/b.md)
           └ 1 ┘ └─ 2 ─┘ └─ 3 ─┘

Pieces joined by bars are read back as they were written (`insertPieces_text`): each binds its
position, and a named one its name as well.  Names are no numerals, so they bind nothing over, and
a canonical path holds no parenthesis, so the last `](` of the line is the one in front of it.
-/

namespace WikiPress

namespace Text

variable {c : Char}

/-- The cut at a character is at its first occurrence. -/
theorem cut?_append_cons {s : Text} (h : c ∉ s) (t : Text) :
    cut? [c] (s ++ c :: t) = some (s, t) := by
  induction s with
  | nil => simp [cut?, strip?]
  | cons d s ih =>
    rw [List.mem_cons, not_or] at h
    simp [cut?, strip?, h.1, ih h.2]

theorem cut?_eq_none {t : Text} (h : c ∉ t) : cut? [c] t = none := by
  induction t with
  | nil => rfl
  | cons d t ih =>
    rw [List.mem_cons, not_or] at h
    simp [cut?, strip?, h.1, ih h.2]

end Text

namespace Snippet

/-! ## Pieces -/

/-- A name that can be bound: not empty, without bars, equals signs and blanks around it, and no
numeral. -/
structure IsName (name : Text) : Prop where
  ne_nil : name ≠ []
  bar_not_mem : '|' ∉ name
  equals_not_mem : '=' ∉ name
  trim_eq : Text.trim name = name
  not_numeral : name.all Text.isDigit = false

instance (name : Text) : Decidable (IsName name) :=
  decidable_of_iff (name ≠ [] ∧ '|' ∉ name ∧ '=' ∉ name ∧ Text.trim name = name ∧
      name.all Text.isDigit = false)
    ⟨fun ⟨hne, hbar, hequals, htrim, hnumeral⟩ => ⟨hne, hbar, hequals, htrim, hnumeral⟩,
      fun ⟨hne, hbar, hequals, htrim, hnumeral⟩ => ⟨hne, hbar, hequals, htrim, hnumeral⟩⟩

/-- A piece of a parameter body: a value, perhaps with a name. -/
structure Piece where
  name : Option Text
  value : Text
  isName : ∀ n ∈ name, IsName n
  bar_not_mem : '|' ∉ value
  trim_eq : Text.trim value = value
  equals_not_mem : name = none → '=' ∉ value

namespace Piece

/-- The piece as it is written. -/
def text (p : Piece) : Text := p.name.elim p.value (· ++ '=' :: p.value)

/-- What the piece binds at a position. -/
def bindings (p : Piece) (position : Nat) : Bindings :=
  p.name.toList.map (·, p.value) ++ [(Text.ofNat position, p.value)]

theorem bar_not_mem_text (p : Piece) : '|' ∉ p.text := by
  rw [text]
  cases hname : p.name with
  | none => exact p.bar_not_mem
  | some name =>
    have hn := (p.isName name hname).bar_not_mem
    simp [hn, p.bar_not_mem]

theorem trim_text (p : Piece) : Text.trim p.text = p.text := by
  rw [text]
  cases hname : p.name with
  | none => exact p.trim_eq
  | some name =>
    obtain ⟨hne, -, -, htrim, -⟩ := p.isName name hname
    obtain ⟨hstart, -⟩ := Text.trim_eq_self_iff.1 htrim
    obtain ⟨hvalue, hend⟩ := Text.trim_eq_self_iff.1 p.trim_eq
    rw [Option.elim_some, Text.trim_eq_self_iff]
    constructor
    · rw [Text.trimStart_append_of_not_allBlank
        (Text.allBlank_eq_false_of_trimStart hne hstart), hstart]
    · have hequals : Text.trimEnd ('=' :: p.value) = '=' :: p.value := by
        by_cases hnil : p.value = []
        · rw [hnil]
          exact Text.dropEndWhile_append_singleton (by decide) []
        · rw [← List.singleton_append, Text.trimEnd_append_of_not_allBlank
            (Text.allBlank_eq_false_of_trimStart hnil hvalue), hend]
      rw [Text.trimEnd_append_of_not_allBlank rfl, hequals]

/-- **A piece is cut at its first equals sign**, into its name and its value. -/
theorem chop_text (p : Piece) :
    Text.chop ['='] true false (Text.trim p.text) =
      (p.name.getD p.value, p.name.map fun _ => p.value) := by
  rw [trim_text, text, Text.chop]
  cases hname : p.name with
  | none =>
    simp [Text.cut?_eq_none (p.equals_not_mem hname)]
  | some name =>
    obtain ⟨-, -, hequals, htrim, -⟩ := p.isName name hname
    simp [Text.cut?_append_cons hequals, (Text.trim_eq_self_iff.1 htrim).2,
      (Text.trim_eq_self_iff.1 p.trim_eq).1]

end Piece

/-! ## Reading pieces -/

namespace Bindings

/-- The keys of bindings. -/
def keys (bindings : Bindings) : List Text := bindings.map Prod.fst

theorem insert_of_not_mem {key : Text} {bindings : Bindings} (h : key ∉ bindings.keys)
    (value : Text) : insert key value bindings = bindings ++ [(key, value)] := by
  induction bindings with
  | nil => rfl
  | cons b rest ih =>
    rw [keys, List.map_cons, List.mem_cons, not_or] at h
    rw [insert, if_neg (by simpa using Ne.symm h.1), ih h.2, List.cons_append]

/-- What pieces bind, the first of them at `position`. -/
def ofPieces : (position : Nat) → List Piece → Bindings
  | _, [] => []
  | position, p :: rest => p.bindings position ++ ofPieces (position + 1) rest

/-- **A piece with new keys is bound behind the others.** -/
theorem insertPiece_text {bindings : Bindings} {p : Piece} {position : Nat}
    (h : (bindings ++ p.bindings position).keys.Nodup) :
    bindings.insertPiece position p.text = bindings ++ p.bindings position := by
  rw [insertPiece, p.chop_text]
  rw [Piece.bindings, keys] at h
  cases hname : p.name with
  | none =>
    have hposition : Text.ofNat position ∉ bindings.keys := by
      rw [hname] at h
      simp only [Option.toList_none, List.map_nil, List.nil_append, List.map_append,
        List.nodup_append, List.map_cons] at h
      exact fun hmem => h.2.2 _ hmem _ List.mem_cons_self rfl
    simp [Piece.bindings, hname, insert_of_not_mem hposition]
  | some name =>
    have hne : name.isEmpty = false :=
      List.isEmpty_eq_false_iff.2 (p.isName name hname).ne_nil
    rw [hname] at h
    simp only [Option.toList_some, List.map_cons, List.map_nil, List.singleton_append,
      List.map_append, List.nodup_append, List.nodup_cons, List.mem_cons, List.not_mem_nil,
      or_false, forall_eq_or_imp, forall_eq, not_false_eq_true] at h
    have hfirst : name ∉ bindings.keys := fun hmem => (h.2.2 _ hmem).1 rfl
    have hposition : Text.ofNat position ∉ (bindings ++ [(name, p.value)]).keys := by
      rw [keys, List.map_append, List.mem_append, not_or]
      refine ⟨fun hmem => (h.2.2 _ hmem).2 rfl, ?_⟩
      simpa using Ne.symm h.2.1.1
    simp [Piece.bindings, hname, hne, insert_of_not_mem hfirst, insert_of_not_mem hposition]

/-- **Pieces with different keys are read back as they were written.** -/
theorem insertPieces_text {bindings : Bindings} {position : Nat} {pieces : List Piece}
    (h : (bindings ++ ofPieces position pieces).keys.Nodup) :
    bindings.insertPieces position (pieces.map Piece.text) =
      bindings ++ ofPieces position pieces := by
  induction pieces generalizing bindings position with
  | nil => exact (List.append_nil _).symm
  | cons p rest ih =>
    rw [ofPieces, ← List.append_assoc] at h ⊢
    have hfirst : (bindings ++ p.bindings position).keys.Nodup := by
      rw [keys, List.map_append] at h
      exact h.of_append_left
    rw [List.map_cons, insertPieces, insertPiece_text hfirst, ih h]

/-- **What pieces bind**: each name its value, and each position the value of its piece. -/
theorem mem_ofPieces_iff {position : Nat} {pieces : List Piece} {key value : Text} :
    (key, value) ∈ ofPieces position pieces ↔
      (∃ p ∈ pieces, p.name = some key ∧ p.value = value) ∨
        ∃ i p, pieces[i]? = some p ∧ key = Text.ofNat (position + i) ∧ p.value = value := by
  induction pieces generalizing position with
  | nil => simp [ofPieces]
  | cons p rest ih =>
    have hfirst : (key, value) ∈ p.bindings position ↔
        (p.name = some key ∧ p.value = value) ∨ (key = Text.ofNat position ∧ p.value = value) := by
      rw [Piece.bindings]
      cases p.name <;> simp [eq_comm]
    have hindex : (∃ i q, (p :: rest)[i]? = some q ∧ key = Text.ofNat (position + i) ∧
        q.value = value) ↔ (key = Text.ofNat position ∧ p.value = value) ∨
          ∃ i q, rest[i]? = some q ∧ key = Text.ofNat (position + 1 + i) ∧ q.value = value := by
      constructor
      · rintro ⟨i, q, hq, hkey, hvalue⟩
        cases i with
        | zero =>
          obtain rfl : p = q := by simpa using hq
          exact .inl ⟨hkey, hvalue⟩
        | succ i => exact .inr ⟨i, q, by simpa using hq, by rw [hkey, Nat.add_right_comm]; rfl, hvalue⟩
      · rintro (⟨hkey, hvalue⟩ | ⟨i, q, hq, hkey, hvalue⟩)
        · exact ⟨0, p, rfl, hkey, hvalue⟩
        · exact ⟨i + 1, q, by simpa using hq, by rw [hkey, Nat.add_right_comm]; rfl, hvalue⟩
    rw [ofPieces, List.mem_append, hfirst, ih, hindex, or_or_or_comm]
    simp only [List.mem_cons, exists_eq_or_imp]

theorem mem_keys_ofPieces {position : Nat} {pieces : List Piece} {key : Text}
    (h : key ∈ (ofPieces position pieces).keys) :
    key ∈ pieces.filterMap Piece.name ∨ ∃ i, key = Text.ofNat (position + i) := by
  obtain ⟨⟨key, value⟩, hmem, rfl⟩ := List.mem_map.1 h
  rcases mem_ofPieces_iff.1 hmem with ⟨p, hp, hname, -⟩ | ⟨i, -, -, hkey, -⟩
  · exact .inl (List.mem_filterMap.2 ⟨p, hp, hname⟩)
  · exact .inr ⟨i, hkey⟩

/-- A name is no position. -/
theorem ne_ofNat_of_isName {name : Text} (h : IsName name) (n : Nat) : name ≠ Text.ofNat n := by
  rintro rfl
  have hnumeral := h.not_numeral
  rw [Text.all_isDigit_ofNat] at hnumeral
  exact absurd hnumeral (by decide)

/-- **Pieces with different names bind different keys.** -/
theorem nodup_keys_ofPieces {position : Nat} {pieces : List Piece}
    (h : (pieces.filterMap Piece.name).Nodup) : (ofPieces position pieces).keys.Nodup := by
  induction pieces generalizing position with
  | nil => exact List.nodup_nil
  | cons p rest ih =>
    have hposition : ∀ key ∈ (ofPieces (position + 1) rest).keys, Text.ofNat position ≠ key := by
      rintro key hkey rfl
      rcases mem_keys_ofPieces hkey with hname | ⟨i, hi⟩
      · obtain ⟨q, -, hq⟩ := List.mem_filterMap.1 hname
        exact ne_ofNat_of_isName (q.isName _ hq) position rfl
      · have heq := Text.ofNat_injective hi
        omega
    rw [ofPieces, keys, List.map_append, List.nodup_append, Piece.bindings]
    cases hname : p.name with
    | none =>
      rw [List.filterMap_cons_none hname] at h
      refine ⟨List.nodup_singleton _, ih h, fun key hkey other hother => ?_⟩
      obtain rfl : key = Text.ofNat position := by simpa using hkey
      exact hposition other hother
    | some name =>
      rw [List.filterMap_cons_some hname, List.nodup_cons] at h
      have hne := ne_ofNat_of_isName (p.isName name hname)
      refine ⟨by simpa using hne position, ih h.2, fun key hkey other hother => ?_⟩
      obtain rfl | rfl : key = name ∨ key = Text.ofNat position := by simpa using hkey
      · rintro rfl
        rcases mem_keys_ofPieces hother with hmem | ⟨i, hi⟩
        · exact h.1 hmem
        · exact hne _ hi
      · exact hposition other hother

/-- **A parameter body is read back as it was written.** -/
theorem read_join {pieces : List Piece} (hne : pieces ≠ [])
    (hnames : (pieces.filterMap Piece.name).Nodup) :
    read (Text.join ['|'] (pieces.map Piece.text)) = ofPieces 1 pieces := by
  have hbars : ∀ t ∈ pieces.map Piece.text, '|' ∉ t := by
    intro t ht
    obtain ⟨p, -, rfl⟩ := List.mem_map.1 ht
    exact p.bar_not_mem_text
  rw [read, Text.splitOn_join_of_not_mem (by simpa using hne) hbars]
  exact insertPieces_text (nodup_keys_ofPieces hnames)

/-- Bindings with different keys bind what is in them. -/
theorem get?_eq_some_iff {bindings : Bindings} (h : bindings.keys.Nodup) {key value : Text} :
    bindings.get? key = some value ↔ (key, value) ∈ bindings := by
  constructor
  · intro hget
    obtain ⟨before, after, rfl, -⟩ := List.lookup_eq_some_iff.1 hget
    exact List.mem_append_right _ List.mem_cons_self
  · exact lookup_of_mem h

end Bindings

/-! ## The round trip -/

namespace Directive

/-- **A canonical path of a document**, without anything that would end it in a link target. -/
structure IsCanonical (path : Text) : Prop where
  normalize_eq : Path.normalize? path = some path
  extension : lit ".md" <:+ path
  chars : ∀ c ∈ path, isPathChar c = true ∧ c ≠ '?' ∧ c ≠ '#'

theorem IsCanonical.withoutQuery_eq {path : Text} (h : IsCanonical path) :
    withoutQuery path = path := by
  refine List.takeWhile_eq_self_iff.2 fun c hc => ?_
  simpa using (h.chars c hc).2

/-- A canonical path begins with a slash, -/
theorem IsCanonical.head?_eq {path : Text} (h : IsCanonical path) : path.head? = some '/' := by
  obtain ⟨trail, -, htrail⟩ := Option.map_eq_some_iff.1 h.normalize_eq
  rw [← htrail]
  split <;> rfl

/-- …so it names a document, -/
theorem IsCanonical.isDocument {path : Text} (h : IsCanonical path) : IsDocument path where
  no_scheme := by
    obtain ⟨rest, rfl⟩ := List.head?_eq_some_iff.1 h.head?_eq
    rfl
  no_fragment := by
    rw [h.head?_eq]
    decide
  extension := h.withoutQuery_eq.symm ▸ h.extension
  below_root := by
    rw [h.withoutQuery_eq, ← Path.normalize?_eq_none_iff, h.normalize_eq]
    exact nofun

/-- …and that document is the path itself. -/
theorem IsCanonical.documentPath?_eq {path : Text} (h : IsCanonical path) :
    documentPath? path = some path := by
  rw [documentPath?_of_isDocument h.isDocument, h.withoutQuery_eq, h.normalize_eq]

/-- **A directive is read back as it was written**: with its mark, its pieces and its path.  It
binds each name and each position to the value of the piece, and nothing else. -/
theorem read?_of_pieces {level : Nat} {mark : Text}
    (hmark : (level = 0 ∧ (mark = [] ∨ mark = [' '])) ∨
      (2 ≤ level ∧ level ≤ 6 ∧ mark = List.replicate level '#' ++ [' ']))
    {pieces : List Piece} (hnames : (pieces.filterMap Piece.name).Nodup)
    (hbody : Text.join ['|'] (pieces.map Piece.text) ≠ []) {path : Text}
    (hpath : IsCanonical path) :
    ∃ d, read? (mark ++ lit "[+#" ++ Text.join ['|'] (pieces.map Piece.text) ++ lit "](" ++ path
        ++ lit ")") = some d ∧
      d.line = mark ++ lit "[+#" ++ Text.join ['|'] (pieces.map Piece.text) ++ lit "](" ++ path
        ++ lit ")" ∧
      d.target = path ∧ d.level = level ∧
      ∀ key value, d.params.get? key = some value ↔
        (∃ p ∈ pieces, p.name = some key ∧ p.value = value) ∨
          ∃ i p, pieces[i]? = some p ∧ key = Text.ofNat (i + 1) ∧ p.value = value := by
  set body := Text.join ['|'] (pieces.map Piece.text) with hbodyEq
  have hpieces : pieces ≠ [] := by
    rintro rfl
    exact hbody rfl
  obtain ⟨blanks, hlevel, hblanks, hmarkEq⟩ : ∃ blanks, (level = 0 ∨ 2 ≤ level ∧ level ≤ 6) ∧
      Text.allBlank blanks = true ∧ headingMark level ++ blanks = mark := by
    rcases hmark with ⟨rfl, rfl | rfl⟩ | ⟨hmin, hmax, rfl⟩
    · exact ⟨[], .inl rfl, rfl, rfl⟩
    · exact ⟨[' '], .inl rfl, rfl, rfl⟩
    · refine ⟨[], .inr ⟨hmin, hmax⟩, rfl, ?_⟩
      rw [headingMark, if_neg (by omega), List.append_nil]
  have hne : path ≠ [] := by
    rintro rfl
    exact absurd hpath.head?_eq (by simp)
  let s : Spelling := ⟨level, blanks, some body, ⟨path, none, hne, fun c hc => (hpath.chars c hc).1⟩,
    hlevel, hblanks, fun heq => hbody (Option.some.inj heq), hpath.isDocument⟩
  have hline : s.line = mark ++ lit "[+#" ++ body ++ lit "](" ++ path ++ lit ")" := by
    simp [s, Spelling.line, ← hmarkEq, labelEnd, LinkTarget.text, lit]
  have hunambiguous : ¬ s.Ambiguous := by
    rintro ⟨-, title, htitle, -⟩
    exact absurd htitle (by simp [s])
  obtain ⟨document, hdocument, hread⟩ := read?_line_of_not_ambiguous hunambiguous
  obtain rfl : path = document :=
    Option.some.inj (hpath.documentPath?_eq.symm.trans hdocument)
  have hparams : (s.directive path).params = Bindings.ofPieces 1 pieces :=
    Bindings.read_join hpieces hnames
  refine ⟨s.directive path, hline ▸ hread, hline, rfl, rfl, fun key value => ?_⟩
  rw [hparams, Bindings.get?_eq_some_iff (Bindings.nodup_keys_ofPieces hnames),
    Bindings.mem_ofPieces_iff]
  simp only [Nat.add_comm]

/-- A directive with a named value that looks like a link, a positional one with an open parenthesis
and a quote, and a named one with another equals sign. -/
theorem read?_of_three_pieces :
    ∃ d, read? (lit "### [+#x=5](y)|plain( \"|text=a=b](/b.md)") = some d ∧
      d.target = lit "/b.md" ∧ d.level = 3 ∧ d.params.get? (lit "x") = some (lit "5](y)") ∧
      d.params.get? (lit "2") = some (lit "plain( \"") ∧
      d.params.get? (lit "text") = some (lit "a=b") := by
  let x : Piece := ⟨some (lit "x"), lit "5](y)", by decide, by decide, by decide, nofun⟩
  let plain : Piece := ⟨none, lit "plain( \"", nofun, by decide, by decide, by decide⟩
  let text : Piece := ⟨some (lit "text"), lit "a=b", by decide, by decide, by decide, nofun⟩
  have hchars : (lit "/b.md").all (fun c => isPathChar c && (c != '?' && c != '#')) = true := by
    decide
  have hpath : IsCanonical (lit "/b.md") :=
    ⟨by decide +kernel, by decide, fun c hc => by simpa using List.all_eq_true.1 hchars c hc⟩
  obtain ⟨d, hread, -, htarget, hlevel, hparams⟩ := @read?_of_pieces 3 (lit "### ")
    (.inr ⟨by decide, by decide, rfl⟩) [x, plain, text] (by decide) (by decide) _ hpath
  refine ⟨d, hread, htarget, hlevel, (hparams _ _).2 (.inl ⟨x, by simp, rfl, rfl⟩),
    (hparams _ _).2 (.inr ⟨1, plain, rfl, rfl, rfl⟩), (hparams _ _).2 (.inl ⟨text, by simp, rfl, rfl⟩)⟩

end Directive

end Snippet

end WikiPress
