import WikiPress.Markdown.Frame
import WikiPress.Proofs.Fence

/-!
# Proofs/Markdown/FencedCode — the rule of fenced code

    line           ```rust   # a   ```   # b        ``` a`b   # c
    fence behind   ```       ```   none  none       none      none

A fence is a run of marks behind at most three spaces (`Begins`).  It opens fenced code unless a
backtick follows a run of backticks (`Opens`); a run of the same marks that is no shorter, with
nothing but spaces and tabs behind it, ends it (`Ends`).  The lines of a text are read one after
another (`after`).  The renderer looks at what stands behind the blanks of a line; its recognisers
open and end fenced code on the same lines (`open?_replicate_append`, `endedBy_replicate_append`).
-/

namespace WikiPress.Markdown

namespace FencedCode

/-! ## The rule -/

/-- **A line that begins with a fence**: a run of at least three marks behind at most three spaces,
and what follows it. -/
structure Begins (line : Text) (fence : Fence) (rest : Text) : Prop where
  isMark : fence.mark = '`' ∨ fence.mark = '~'
  long : 3 ≤ fence.size
  spelled : ∃ k ≤ 3, line = List.replicate k ' ' ++ (List.replicate fence.size fence.mark ++ rest)
  /-- The run is as long as it can be. -/
  stops : rest.head? ≠ some fence.mark

/-- **A line that opens fenced code**: no backtick follows a run of backticks. -/
def Opens (fence : Fence) (line : Text) : Prop :=
  ∃ info, Begins line fence info ∧ (fence.mark = '`' → '`' ∉ info)

/-- **A line that ends fenced code.** -/
def Ends (fence : Fence) (line : Text) : Prop :=
  ∃ run blanks, Begins line run blanks ∧ run.mark = fence.mark ∧ fence.size ≤ run.size ∧
    blanks.all Text.isSpaceOrTab = true

/-- The fence of the code that a line opens. -/
def open? (line : Text) : Option Fence :=
  match Fence.read? line with
  | some (fence, info) => if fence.mark == '`' && List.contains info '`' then none else some fence
  | none => none

/-- Whether a line ends the code. -/
def endedBy (fence : Fence) (line : Text) : Bool :=
  match Fence.read? line with
  | some (run, rest) =>
    run.mark == fence.mark && fence.size ≤ run.size && rest.all Text.isSpaceOrTab
  | none => false

/-- The fence of the code that lasts behind a line. -/
def next : Option Fence → Text → Option Fence
  | some fence, line => if endedBy fence line then none else some fence
  | none, line => open? line

/-- The fence of the code that lasts behind some lines. -/
def after (fence : Option Fence) (lines : List Text) : Option Fence := lines.foldl next fence

/-- Whether a line belongs to fenced code, the lines that open and end it included. -/
def covers (fence : Option Fence) (line : Text) : Bool := fence.isSome || (open? line).isSome

variable {line : Text} {lines : List Text} {fence : Fence} {rest : Text}

theorem unindent?_replicate_append (k : Nat) {t : Text} (h : t.head? ≠ some ' ') :
    Fence.unindent? (List.replicate k ' ' ++ t) = if k ≤ 3 then some t else none := by
  obtain ⟨htake, hdrop⟩ := Text.takeWhile_replicate_append k h
  rw [Fence.unindent?, htake, hdrop, List.length_replicate]

/-- **What is read as a fence** is a run of marks. -/
theorem read?_eq_some_iff : Fence.read? line = some (fence, rest) ↔ Begins line fence rest := by
  constructor
  · intro h
    obtain ⟨k, t, rfl, ht⟩ := Text.exists_replicate_append ' ' line
    rw [Fence.read?, unindent?_replicate_append k ht] at h
    split at h
    · next c r hr =>
      obtain ⟨hk, hr⟩ := Option.ite_none_right_eq_some.1 hr
      obtain rfl := Option.some.inj hr
      obtain ⟨n, r, rfl, hstops⟩ := Text.exists_replicate_append c r
      obtain ⟨htake, hdrop⟩ := Text.takeWhile_replicate_append n hstops
      dsimp only at h
      rw [htake, hdrop, List.length_replicate] at h
      obtain ⟨hcond, h⟩ := Option.ite_none_right_eq_some.1 h
      obtain ⟨rfl, rfl⟩ := Prod.mk.inj (Option.some.inj h)
      simp only [Bool.and_eq_true, Bool.or_eq_true, beq_iff_eq, decide_eq_true_eq] at hcond
      refine ⟨hcond.1, hcond.2, ⟨k, hk, ?_⟩, hstops⟩
      rw [Nat.add_comm, List.replicate_succ]
      rfl
    · exact absurd h (by simp)
  · rintro ⟨hmark, hlong, ⟨k, hk, rfl⟩, hstops⟩
    obtain ⟨mark, size⟩ := fence
    obtain ⟨n, rfl⟩ : ∃ n, size = n + 1 := ⟨size - 1, by dsimp only at hlong; omega⟩
    have hspace : (List.replicate (n + 1) mark ++ rest).head? ≠ some ' ' := by
      rw [List.replicate_succ, List.cons_append, List.head?_cons]
      rcases hmark with hmark | hmark <;> dsimp only at hmark <;> subst hmark <;> decide
    obtain ⟨htake, hdrop⟩ := Text.takeWhile_replicate_append n hstops
    rw [Fence.read?, unindent?_replicate_append k hspace, if_pos hk, List.replicate_succ,
      List.cons_append]
    dsimp only
    rw [htake, hdrop, List.length_replicate, Nat.add_comm 1 n, if_pos]
    simpa [hlong] using hmark

theorem open?_eq_some_iff : open? line = some fence ↔ Opens fence line := by
  rw [open?, Opens]
  constructor
  · intro h
    split at h
    · next found info hread =>
      split at h
      · exact absurd h (by simp)
      · next hinfo =>
        obtain rfl := Option.some.inj h
        refine ⟨info, read?_eq_some_iff.1 hread, fun hmark hmem => hinfo ?_⟩
        simpa [hmark] using hmem
    · exact absurd h (by simp)
  · rintro ⟨info, hbegins, hinfo⟩
    rw [read?_eq_some_iff.2 hbegins]
    dsimp only
    rw [if_neg]
    simpa using hinfo

theorem endedBy_iff : endedBy fence line = true ↔ Ends fence line := by
  rw [endedBy, Ends]
  constructor
  · intro h
    split at h
    · next run blanks hread =>
      simp only [Bool.and_eq_true, beq_iff_eq, decide_eq_true_eq] at h
      exact ⟨run, blanks, read?_eq_some_iff.1 hread, h.1.1, h.1.2, h.2⟩
    · exact absurd h (by simp)
  · rintro ⟨run, blanks, hbegins, hmark, hsize, hblanks⟩
    rw [read?_eq_some_iff.2 hbegins]
    simp [hmark, hsize, hblanks]

theorem after_append (first second : List Text) (fence : Option Fence) :
    after fence (first ++ second) = after (after fence first) second := List.foldl_append

/-- **Lines, and which of them belong to fenced code**: code lasts from a line that opens it to the
first line that ends it, or to the last line of all. -/
inductive Blocks : List Text → List Bool → Prop
  | nil : Blocks [] []
  | text {line : Text} {lines : List Text} {code : List Bool} (hopen : ∀ fence, ¬ Opens fence line)
      (hrest : Blocks lines code) : Blocks (line :: lines) (false :: code)
  | block {fence : Fence} {line last : Text} {body lines : List Text} {code : List Bool}
      (hopen : Opens fence line) (hbody : ∀ l ∈ body, ¬ Ends fence l) (hlast : Ends fence last)
      (hrest : Blocks lines code) :
      Blocks (line :: (body ++ last :: lines))
        (true :: (List.replicate body.length true ++ true :: code))
  | unended {fence : Fence} {line : Text} {body : List Text} (hopen : Opens fence line)
      (hbody : ∀ l ∈ body, ¬ Ends fence l) :
      Blocks (line :: body) (true :: List.replicate body.length true)

/-- Whether lines belong to fenced code; `fence` is the one that is open in front of them. -/
def covered : (fence : Option Fence) → List Text → List Bool
  | _, [] => []
  | fence, line :: lines => covers fence line :: covered (next fence line) lines

theorem open?_eq_none_iff : open? line = none ↔ ∀ fence, ¬ Opens fence line := by
  rw [Option.eq_none_iff_forall_ne_some]
  exact forall_congr' fun fence => not_congr open?_eq_some_iff

theorem covers_none_of_opens (h : Opens fence line) : covers none line = true := by
  rw [covers, open?_eq_some_iff.2 h]
  rfl

theorem next_of_not_ends (h : ¬ Ends fence line) : next (some fence) line = some fence := by
  rw [next, if_neg (endedBy_iff.not.2 h)]

/-- Lines that do not end the code belong to it, and so does what follows them. -/
theorem covered_append {body : List Text} (h : ∀ l ∈ body, ¬ Ends fence l) (behind : List Text) :
    covered (some fence) (body ++ behind) =
      List.replicate body.length true ++ covered (some fence) behind := by
  induction body with
  | nil => rfl
  | cons line body ih =>
    obtain ⟨hline, hbody⟩ := List.forall_mem_cons.1 h
    rw [List.cons_append, covered, next_of_not_ends hline, ih hbody, List.length_cons,
      List.replicate_succ, List.cons_append]
    rfl

theorem covered_of_not_ends {body : List Text} (h : ∀ l ∈ body, ¬ Ends fence l) :
    covered (some fence) body = List.replicate body.length true := by
  have hcovered := covered_append h []
  rwa [List.append_nil, covered, List.append_nil] at hcovered

/-- Fenced code lasts to the first line that ends it, or to the last line. -/
theorem exists_body (fence : Fence) (lines : List Text) :
    (∀ l ∈ lines, ¬ Ends fence l) ∨ ∃ body last rest, lines = body ++ last :: rest ∧
      (∀ l ∈ body, ¬ Ends fence l) ∧ Ends fence last := by
  have hnot : ∀ {l}, endedBy fence l ≠ true → ¬ Ends fence l := mt endedBy_iff.2
  cases hfind : lines.find? (endedBy fence) with
  | none => exact .inl fun l hl => hnot (List.find?_eq_none.1 hfind l hl)
  | some last =>
    obtain ⟨hlast, body, rest, rfl, hbody⟩ := List.find?_eq_some_iff_append.1 hfind
    refine .inr ⟨body, last, rest, rfl, fun l hl => hnot ?_, endedBy_iff.1 hlast⟩
    simpa using hbody l hl

/-- **What the state tells of the lines is what the rule says**… -/
theorem Blocks.eq_covered {code : List Bool} (h : Blocks lines code) : code = covered none lines := by
  induction h with
  | nil => rfl
  | text hopen _ ih =>
    have hnone := open?_eq_none_iff.2 hopen
    rw [covered, covers, hnone, next, hnone, ih]
    rfl
  | block hopen hbody hlast _ ih =>
    rw [covered, covers_none_of_opens hopen, next, open?_eq_some_iff.2 hopen, covered_append hbody,
      covered, next, if_pos (endedBy_iff.2 hlast), ih]
    rfl
  | unended hopen hbody =>
    rw [covered, covers_none_of_opens hopen, next, open?_eq_some_iff.2 hopen,
      covered_of_not_ends hbody]

/-- …of every list of lines. -/
theorem blocks_covered (lines : List Text) : Blocks lines (covered none lines) := by
  induction hn : lines.length using Nat.strong_induction_on generalizing lines with
  | _ n ih =>
    cases lines with
    | nil => exact .nil
    | cons line lines =>
      rw [List.length_cons] at hn
      cases hopen : open? line with
      | none =>
        rw [covered, covers, next, hopen]
        exact .text (open?_eq_none_iff.1 hopen) (ih lines.length (by omega) lines rfl)
      | some fence =>
        have hopens := open?_eq_some_iff.1 hopen
        rw [covered, covers_none_of_opens hopens, next, hopen]
        rcases exists_body fence lines with hbody | ⟨body, last, rest, rfl, hbody, hlast⟩
        · rw [covered_of_not_ends hbody]
          exact .unended hopens hbody
        · rw [List.length_append, List.length_cons] at hn
          rw [covered_append hbody, covered, next, if_pos (endedBy_iff.2 hlast)]
          exact .block hopens hbody hlast (ih rest.length (by omega) rest rfl)

theorem blocks_iff {code : List Bool} : Blocks lines code ↔ code = covered none lines :=
  ⟨Blocks.eq_covered, fun h => h ▸ blocks_covered lines⟩

/-- Whether a line belongs to fenced code is told by the lines before it. -/
theorem getElem?_covered (behind : Option Fence) (lines : List Text) (i : Nat) :
    (covered behind lines)[i]? = lines[i]?.map (covers (after behind (lines.take i))) := by
  induction lines generalizing behind i with
  | nil => rfl
  | cons line lines ih =>
    cases i with
    | zero => rfl
    | succ i =>
      rw [covered, List.getElem?_cons_succ, List.getElem?_cons_succ, ih, List.take_succ_cons]
      rfl

/-- The marks and the length of a fence that code can be opened with. -/
structure IsRun (fence : Fence) : Prop where
  isMark : fence.mark = '`' ∨ fence.mark = '~'
  long : 3 ≤ fence.size

theorem isRun_of_open? (h : open? line = some fence) : IsRun fence := by
  obtain ⟨info, hbegins, -⟩ := open?_eq_some_iff.1 h
  exact ⟨hbegins.isMark, hbegins.long⟩

theorem isRun_of_next {behind : Option Fence} (h : ∀ fence ∈ behind, IsRun fence) :
    ∀ fence ∈ next behind line, IsRun fence := by
  intro fence hfence
  cases behind with
  | none => exact isRun_of_open? hfence
  | some found =>
    rw [next] at hfence
    split at hfence
    · exact absurd hfence (by simp)
    · exact h fence hfence

theorem isRun_of_after {behind : Option Fence} (h : ∀ fence ∈ behind, IsRun fence)
    (lines : List Text) : ∀ fence ∈ after behind lines, IsRun fence := by
  induction lines generalizing behind with
  | nil => exact h
  | cons line lines ih => exact ih (isRun_of_next h)

/-! ## The renderer's recognisers -/

theorem blankWidth_replicate_append (column k : Nat) (t : Text) :
    Cursor.blankWidth column (List.replicate k ' ' ++ t) =
      k + Cursor.blankWidth (column + k) t := by
  induction k generalizing column with
  | zero => simp
  | succ k ih =>
    have hcolumn : column + 1 + k = column + (k + 1) := by omega
    rw [List.replicate_succ, List.cons_append, Cursor.blankWidth, if_pos (by decide), ih, hcolumn]
    omega

/-- **At most three spaces in front of a line, or what begins with no fence.**  The renderer looks at
what follows the blanks; a tab makes them four columns wide. -/
theorem indent_start (line : Text) :
    (∃ k ≤ 3, ∃ t : Text, line = List.replicate k ' ' ++ t ∧ t.head? ≠ some ' ' ∧
      (Cursor.start line).indent = k ∧ (Cursor.start line).body = t) ∨
    (4 ≤ (Cursor.start line).indent ∧ Fence.read? line = none) := by
  obtain ⟨k, t, rfl, ht⟩ := Text.exists_replicate_append ' ' line
  have hindent : (Cursor.start (List.replicate k ' ' ++ t)).indent = k + Cursor.blankWidth k t := by
    simp [Cursor.indent, Cursor.start, blankWidth_replicate_append]
  have hbody : (Cursor.start (List.replicate k ' ' ++ t)).body = t.dropWhile Text.isSpaceOrTab :=
    List.dropWhile_append_of_pos fun d hd => by rw [List.eq_of_mem_replicate hd]; rfl
  rcases Nat.lt_or_ge 3 k with hk | hk
  · refine .inr ⟨by omega, ?_⟩
    rw [Fence.read?, unindent?_replicate_append k ht, if_neg (by omega)]
  · cases t with
    | nil => exact .inl ⟨k, hk, [], rfl, ht, hindent, hbody⟩
    | cons c r =>
      have hspace : (c == ' ') = false := by simpa using ht
      by_cases htab : c = '\t'
      · subst htab
        refine .inr ⟨?_, ?_⟩
        · rw [hindent, Cursor.blankWidth, if_neg (by decide), if_pos (by decide), Cursor.tabWidth]
          omega
        · rw [Fence.read?, unindent?_replicate_append k ht, if_pos hk]
          rfl
      · refine .inl ⟨k, hk, c :: r, rfl, ht, ?_, ?_⟩
        · rw [hindent, Cursor.blankWidth, if_neg (by simp [hspace]), if_neg (by simp [htab])]
          rfl
        · rw [hbody, List.dropWhile_cons_of_neg (by simp [Text.isSpaceOrTab, hspace, htab])]

section Recognisers

variable {k : Nat} (hk : k ≤ 3) {t : Text} (ht : t.head? ≠ some ' ')

include hk ht

/-- The renderer recognises the fences that open code… -/
theorem open?_replicate_append :
    open? (List.replicate k ' ' ++ t) = (Opening.fence? t).map Prod.fst := by
  rw [open?, Fence.read?, unindent?_replicate_append k ht, if_pos hk]
  cases t with
  | nil => rfl
  | cons c r =>
    have hinfo : (c :: r).drop (1 + (r.takeWhile (· == c)).length) = r.dropWhile (· == c) := by
      rw [Nat.add_comm, List.drop_succ_cons]
      nth_rewrite 2 [← List.takeWhile_append_dropWhile (p := (· == c)) (l := r)]
      exact List.drop_left
    rw [Opening.fence?]
    dsimp only
    rw [List.takeWhile_cons_of_pos (by simp), List.length_cons, Nat.add_comm _ 1, hinfo]
    by_cases hsize : 3 ≤ 1 + (r.takeWhile (· == c)).length
    · by_cases hback : c = '`'
      · subst hback
        by_cases hmem : '`' ∈ r.dropWhile (· == '`') <;> simp [hsize, hmem]
      · by_cases htilde : c = '~'
        · subst htilde
          simp [hsize]
        · simp [hback, htilde]
    · simp [hsize]

/-- …and those that end it. -/
theorem endedBy_replicate_append {fence : Fence} (hrun : IsRun fence) :
    endedBy fence (List.replicate k ' ' ++ t) = Opening.closes fence t := by
  have hlong := hrun.long
  rw [endedBy, Fence.read?, unindent?_replicate_append k ht, if_pos hk, Opening.closes]
  cases t with
  | nil =>
    have hsize : ¬ fence.size ≤ 0 := by omega
    simp [hsize]
  | cons c r =>
    dsimp only
    by_cases hmark : c = fence.mark
    · subst hmark
      have hisMark : (fence.mark == '`' || fence.mark == '~') = true := by
        simpa using hrun.isMark
      rw [List.takeWhile_cons_of_pos (by simp), List.dropWhile_cons_of_pos (by simp),
        List.length_cons, Nat.add_comm _ 1]
      by_cases hsize : 3 ≤ 1 + (r.takeWhile (· == fence.mark)).length
      · simp [hisMark, hsize]
      · have hshort : ¬ fence.size ≤ 1 + (r.takeWhile (· == fence.mark)).length := by omega
        simp [hsize, hshort]
    · have hother : (c == fence.mark) = false := by simpa using hmark
      have hsize : ¬ fence.size ≤ 0 := by omega
      rw [List.takeWhile_cons_of_neg (by simp [hother]), List.length_nil]
      split
      · next run rest hread =>
        split at hread
        · obtain ⟨rfl, -⟩ := Prod.mk.inj (Option.some.inj hread)
          simp [hother, hsize]
        · exact absurd hread (by simp)
      · simp [hsize]

end Recognisers

end FencedCode

end WikiPress.Markdown
