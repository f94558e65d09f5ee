import WikiPress.Proofs.Excerpt.Occurrences
import Mathlib.Data.List.Basic

/-!
# Proofs/Excerpt/Windows — windows merged as they come are the maximal runs

    windows       ├───────┤        ├───────┤
                     ├───────┤
    fragments     ├──────────┤     ├───────┤

The window of an occurrence is compared with the last fragment only.  Windows begin in the order of
their occurrences, so that is enough: what was merged so far is a list of fragments that stand
apart, show what the windows show, and hold each window whole (`Merged.add`).  Such fragments are
the maximal runs of the positions shown (`Merged.isRun_iff`), and each has the occurrences inside of
it.
-/

namespace WikiPress.Excerpt

/-- The window of an occurrence of `size` characters holds a position. -/
def InWindow (length size hit p : Nat) : Prop :=
  hit - radius ≤ p ∧ p < min (hit + size + radius) length

/-- **The positions shown** are those in the window of some occurrence. -/
def Shown (length size : Nat) (hits : List Nat) (p : Nat) : Prop :=
  ∃ hit ∈ hits, InWindow length size hit p

instance (length size hit p : Nat) : Decidable (InWindow length size hit p) :=
  inferInstanceAs (Decidable (_ ∧ _))

instance (length size : Nat) (hits : List Nat) (p : Nat) :
    Decidable (Shown length size hits p) :=
  inferInstanceAs (Decidable (∃ hit ∈ hits, InWindow length size hit p))

/-- **A maximal run**: positions one after the other, with none before or behind them. -/
structure IsRun (W : Nat → Prop) (a b : Nat) : Prop where
  lt : a < b
  inside : ∀ p, a ≤ p → p < b → W p
  before : ∀ p, p + 1 = a → ¬ W p
  behind : ¬ W b

/-- A fragment holds a position. -/
def Fragment.Holds (f : Fragment) (p : Nat) : Prop := f.start ≤ p ∧ p < f.stop

instance (f : Fragment) (p : Nat) : Decidable (f.Holds p) := inferInstanceAs (Decidable (_ ∧ _))

/-- A fragment that goes on to the end of the window of one more occurrence. -/
def Fragment.extend (f : Fragment) (length size hit : Nat) : Fragment :=
  ⟨f.start, max f.stop (min (hit + size + radius) length), (hit, hit + size) :: f.matched⟩

/-- **Windows merged so far**, the last fragment first. -/
structure Merged (length size : Nat) (hits : List Nat) (fs : List Fragment) : Prop where
  bounded : ∀ f ∈ fs, f.start < f.stop ∧ f.stop ≤ length
  apart : fs.Pairwise fun later earlier => earlier.stop < later.start
  shown : ∀ f ∈ fs, ∀ p, f.Holds p → Shown length size hits p
  windows : ∀ hit ∈ hits, ∃ f ∈ fs, ∀ p, InWindow length size hit p → f.Holds p
  matched : ∀ f ∈ fs, f.matched.reverse = (hits.filter (f.Holds ·)).map fun hit => (hit, hit + size)

/-! ## Windows and fragments -/

section Basic

variable {length size hit p : Nat} {hits : List Nat} {fs : List Fragment}

theorem inWindow_self (hsize : 0 < size) (hlength : hit + size ≤ length) :
    InWindow length size hit hit := by
  rw [InWindow]
  omega

/-- A fragment that touches a window goes on to hold it. -/
theorem Fragment.holds_extend_iff {f : Fragment} (hstart : f.start ≤ hit - radius)
    (htouch : hit - radius ≤ f.stop) :
    (f.extend length size hit).Holds p ↔ f.Holds p ∨ InWindow length size hit p := by
  rw [Fragment.Holds, Fragment.Holds, InWindow, Fragment.extend]
  dsimp only
  omega

theorem Shown.append_left (h : Shown length size hits p) (hits' : List Nat) :
    Shown length size (hits ++ hits') p := by
  obtain ⟨hit, hhit, hwindow⟩ := h
  exact ⟨hit, List.mem_append_left _ hhit, hwindow⟩

theorem shown_concat (h : InWindow length size hit p) : Shown length size (hits ++ [hit]) p :=
  ⟨hit, List.mem_append_right _ List.mem_cons_self, h⟩

namespace Merged

theorem nil : Merged length size [] [] where
  bounded := fun _ hf => absurd hf List.not_mem_nil
  apart := .nil
  shown := fun _ hf => absurd hf List.not_mem_nil
  windows := fun _ hhit => absurd hhit List.not_mem_nil
  matched := fun _ hf => absurd hf List.not_mem_nil

/-- Two fragments stand apart, whichever comes first. -/
theorem eq_or_apart (h : Merged length size hits fs) {f g : Fragment} (hf : f ∈ fs) (hg : g ∈ fs) :
    f = g ∨ f.stop < g.start ∨ g.stop < f.start :=
  List.Pairwise.forall_of_forall_of_flip (R := fun f g => f = g ∨ f.stop < g.start ∨ g.stop < f.start)
    (fun _ _ => .inl rfl) (h.apart.imp fun hlt => .inr (.inr hlt))
    (h.apart.imp fun hlt => .inr (.inl hlt)) hf hg

theorem eq_of_holds (h : Merged length size hits fs) {f g : Fragment} (hf : f ∈ fs) (hg : g ∈ fs)
    (hfp : f.Holds p) (hgp : g.Holds p) : f = g := by
  rcases h.eq_or_apart hf hg with heq | hlt | hlt
  · exact heq
  · rw [Fragment.Holds] at hfp hgp
    omega
  · rw [Fragment.Holds] at hfp hgp
    omega

/-- **A fragment that holds a position of a window holds all of it.** -/
theorem holds_of_inWindow (h : Merged length size hits fs) {f : Fragment} (hf : f ∈ fs)
    (hhit : hit ∈ hits) (hp : InWindow length size hit p) (hfp : f.Holds p) {q : Nat}
    (hq : InWindow length size hit q) : f.Holds q := by
  obtain ⟨g, hg, hinside⟩ := h.windows hit hhit
  obtain rfl := h.eq_of_holds hf hg hfp (hinside p hp)
  exact hinside q hq

/-- A fragment begins no later than the window of any occurrence to come. -/
theorem start_le (h : Merged length size hits fs) (hbefore : ∀ p ∈ hits, p ≤ hit) {f : Fragment}
    (hf : f ∈ fs) : f.start ≤ hit - radius := by
  have hfirst : f.Holds f.start := ⟨Nat.le_refl _, (h.bounded f hf).1⟩
  obtain ⟨p, hp, hwindow⟩ := h.shown f hf _ hfirst
  have hstart : InWindow length size p (p - radius) := ⟨Nat.le_refl _, by
    rw [InWindow] at hwindow
    omega⟩
  have hle := (h.holds_of_inWindow hf hp hwindow hfirst hstart).1
  have hphit := hbefore p hp
  omega

/-- What is shown stands in a fragment. -/
theorem exists_fragment (h : Merged length size hits fs) (hp : Shown length size hits p) :
    ∃ f ∈ fs, f.Holds p := by
  obtain ⟨hit, hhit, hwindow⟩ := hp
  obtain ⟨f, hf, hinside⟩ := h.windows hit hhit
  exact ⟨f, hf, hinside p hwindow⟩

/-- An occurrence stands in a fragment. -/
theorem exists_holds (h : Merged length size hits fs) (hsize : 0 < size) (hhit : hit ∈ hits)
    (hlength : hit + size ≤ length) : ∃ f ∈ fs, f.Holds hit :=
  h.exists_fragment ⟨hit, hhit, inWindow_self hsize hlength⟩

/-- Every occurrence so far begins before the last fragment ends. -/
theorem lt_stop {last : Fragment} {rest : List Fragment}
    (h : Merged length size hits (last :: rest)) (hsize : 0 < size) (hhit : hit ∈ hits)
    (hlength : hit + size ≤ length) : hit < last.stop := by
  obtain ⟨f, hf, hfhit⟩ := h.exists_holds hsize hhit hlength
  rcases List.mem_cons.1 hf with rfl | hf
  · exact hfhit.2
  · have hlt := (List.pairwise_cons.1 h.apart).1 f hf
    have hlast := (h.bounded last List.mem_cons_self).1
    rw [Fragment.Holds] at hfhit
    omega

/-! ## Adding a window -/

/-- A fragment that does not hold the new occurrence keeps those it has, -/
theorem matched_concat (h : Merged length size hits fs) {f : Fragment} (hf : f ∈ fs)
    (hhit : ¬ f.Holds hit) :
    f.matched.reverse =
      ((hits ++ [hit]).filter (f.Holds ·)).map fun hit => (hit, hit + size) := by
  rw [List.filter_append, List.filter_singleton, decide_eq_false hhit, h.matched f hf]
  simp

/-- …and one that does has it as the last. -/
theorem matched_concat_self {f : Fragment} {old : List (Nat × Nat)}
    (hmatched : f.matched = (hit, hit + size) :: old)
    (hold : old.reverse = (hits.filter (f.Holds ·)).map fun hit => (hit, hit + size))
    (hhit : f.Holds hit) :
    f.matched.reverse =
      ((hits ++ [hit]).filter (f.Holds ·)).map fun hit => (hit, hit + size) := by
  rw [List.filter_append, List.filter_singleton, decide_eq_true hhit, hmatched,
    List.reverse_cons, hold]
  simp

variable (hsize : 0 < size) (hlength : hit + size ≤ length) (hbefore : ∀ p ∈ hits, p + size ≤ hit)

include hsize hlength hbefore

/-- A window that begins behind all fragments is a fragment of its own. -/
theorem cons (h : Merged length size hits fs) (hnew : ∀ f ∈ fs, f.stop < hit - radius) :
    Merged length size (hits ++ [hit])
      (⟨hit - radius, min (hit + size + radius) length, [(hit, hit + size)]⟩ :: fs) where
  bounded := List.forall_mem_cons.2 ⟨by dsimp only; omega, h.bounded⟩
  apart := List.pairwise_cons.2 ⟨hnew, h.apart⟩
  shown := List.forall_mem_cons.2
    ⟨fun p hp => shown_concat hp, fun f hf p hp => (h.shown f hf p hp).append_left _⟩
  windows := by
    refine List.forall_mem_append.2 ⟨fun p hp => ?_, List.forall_mem_singleton.2 ?_⟩
    · obtain ⟨f, hf, hinside⟩ := h.windows p hp
      exact ⟨f, List.mem_cons_of_mem _ hf, hinside⟩
    · exact ⟨_, List.mem_cons_self, fun p hp => hp⟩
  matched := by
    refine List.forall_mem_cons.2 ⟨?_, fun f hf => ?_⟩
    · refine matched_concat_self rfl ?_ ⟨Nat.sub_le _ _, by dsimp only; omega⟩
      refine (List.map_eq_nil_iff.2 (List.filter_eq_nil_iff.2 fun p hp => ?_)).symm
      have hple := hbefore p hp
      obtain ⟨f, hf, hfp⟩ := h.exists_holds hsize hp (by omega)
      have hstop := hnew f hf
      rw [Fragment.Holds] at hfp
      rw [decide_eq_true_iff, Fragment.Holds]
      dsimp only
      omega
    · refine h.matched_concat hf fun hhit => ?_
      have hstop := hnew f hf
      rw [Fragment.Holds] at hhit
      omega

/-- A window that begins inside the last fragment, or touches it, extends it. -/
theorem extend {last : Fragment} {rest : List Fragment}
    (h : Merged length size hits (last :: rest)) (htouch : hit - radius ≤ last.stop) :
    Merged length size (hits ++ [hit]) (last.extend length size hit :: rest) := by
  have hstart := h.start_le (fun p hp => Nat.le_of_add_right_le (hbefore p hp)) List.mem_cons_self
  have hholds : ∀ p, (last.extend length size hit).Holds p ↔
      last.Holds p ∨ InWindow length size hit p := fun p => Fragment.holds_extend_iff hstart htouch
  obtain ⟨hbounded, hbounded'⟩ := List.forall_mem_cons.1 h.bounded
  obtain ⟨hapart, hapart'⟩ := List.pairwise_cons.1 h.apart
  obtain ⟨hshown, hshown'⟩ := List.forall_mem_cons.1 h.shown
  exact {
    bounded := List.forall_mem_cons.2 ⟨⟨Nat.lt_of_lt_of_le hbounded.1 (Nat.le_max_left _ _),
      Nat.max_le.2 ⟨hbounded.2, Nat.min_le_right _ _⟩⟩, hbounded'⟩
    apart := List.pairwise_cons.2 ⟨hapart, hapart'⟩
    shown := by
      refine List.forall_mem_cons.2 ⟨fun p hp => ?_, fun f hf p hp => (hshown' f hf p hp).append_left _⟩
      rcases (hholds p).1 hp with hold | hnew
      · exact (hshown p hold).append_left _
      · exact shown_concat hnew
    windows := by
      refine List.forall_mem_append.2 ⟨fun p hp => ?_, List.forall_mem_singleton.2
        ⟨_, List.mem_cons_self, fun q hq => (hholds q).2 (.inr hq)⟩⟩
      obtain ⟨f, hf, hinside⟩ := h.windows p hp
      rcases List.mem_cons.1 hf with rfl | hf
      · exact ⟨_, List.mem_cons_self, fun q hq => (hholds q).2 (.inl (hinside q hq))⟩
      · exact ⟨f, List.mem_cons_of_mem _ hf, hinside⟩
    matched := by
      refine List.forall_mem_cons.2 ⟨matched_concat_self rfl ?_
        ((hholds hit).2 (.inr (inWindow_self hsize hlength))), fun f hf =>
          h.matched_concat (List.mem_cons_of_mem _ hf) fun hhit => ?_⟩
      · rw [h.matched last List.mem_cons_self]
        refine congrArg _ (List.filter_congr fun p hp => decide_eq_decide.2 ?_)
        have hple := hbefore p hp
        have hstop := h.lt_stop hsize hp (by omega)
        rw [hholds, or_iff_left_of_imp fun hwindow => ⟨Nat.le_trans hstart hwindow.1, hstop⟩]
      · have hlt := hapart f hf
        have hstop := hhit.2
        omega }

/-- **Adding the window of the next occurrence.** -/
theorem add (h : Merged length size hits fs) :
    Merged length size (hits ++ [hit]) (addWindow length fs hit (hit + size)) := by
  rw [addWindow.eq_def]
  dsimp only
  cases fs with
  | nil => exact h.cons hsize hlength hbefore fun f hf => absurd hf List.not_mem_nil
  | cons last rest =>
    dsimp only
    split
    · next htouch => exact h.extend hsize hlength hbefore htouch
    · next hnew =>
      refine h.cons hsize hlength hbefore (List.forall_mem_cons.2 ⟨by omega, fun f hf => ?_⟩)
      have hlt := (List.pairwise_cons.1 h.apart).1 f hf
      have hlast := (h.bounded last List.mem_cons_self).1
      omega

omit hsize hlength hbefore

/-- …and of all that follow. -/
theorem foldl {later : List Nat} (h : Merged length size hits fs) (hsize : 0 < size)
    (hlength : ∀ p ∈ later, p + size ≤ length)
    (hapart : (hits ++ later).Pairwise fun p r => p + size ≤ r) :
    Merged length size (hits ++ later)
      (later.foldl (fun fs hit => addWindow length fs hit (hit + size)) fs) := by
  induction later generalizing hits fs with
  | nil => rwa [List.append_nil]
  | cons hit later ih =>
    have hbefore : ∀ p ∈ hits, p + size ≤ hit := fun p hp =>
      (List.pairwise_append.1 hapart).2.2 p hp hit List.mem_cons_self
    have hadd := h.add hsize (hlength hit List.mem_cons_self) hbefore
    rw [List.append_cons] at hapart ⊢
    exact ih hadd (fun p hp => hlength p (List.mem_cons_of_mem _ hp)) hapart

/-! ## Fragments are maximal runs -/

/-- What stands just before a fragment, or just behind it, is not shown. -/
theorem not_shown (h : Merged length size hits fs) {f : Fragment} (hf : f ∈ fs)
    (hp : p + 1 = f.start ∨ p = f.stop) : ¬ Shown length size hits p := by
  intro hshown
  obtain ⟨g, hg, hgp⟩ := h.exists_fragment hshown
  have hlt := (h.bounded f hf).1
  rw [Fragment.Holds] at hgp
  rcases h.eq_or_apart hf hg with rfl | hapart | hapart <;> omega

theorem isRun (h : Merged length size hits fs) {f : Fragment} (hf : f ∈ fs) :
    IsRun (Shown length size hits) f.start f.stop where
  lt := (h.bounded f hf).1
  inside := fun p hstart hstop => h.shown f hf p ⟨hstart, hstop⟩
  before := fun _ hp => h.not_shown hf (.inl hp)
  behind := h.not_shown hf (.inr rfl)

/-- **The fragments are exactly the maximal runs of the positions shown.** -/
theorem isRun_iff (h : Merged length size hits fs) {a b : Nat} :
    IsRun (Shown length size hits) a b ↔ ∃ f ∈ fs, f.start = a ∧ f.stop = b := by
  constructor
  · intro hrun
    obtain ⟨f, hf, hstart, hstop⟩ := h.exists_fragment (hrun.inside a (Nat.le_refl a) hrun.lt)
    have hfrun := h.isRun hf
    have hlt := hrun.lt
    have hbegin : ¬ f.start < a := fun hlt =>
      hrun.before (a - 1) (by omega) (hfrun.inside (a - 1) (by omega) (by omega))
    have hend : ¬ b < f.stop := fun hlt => hrun.behind (hfrun.inside b (by omega) hlt)
    have hrest : ¬ f.stop < b := fun hlt => hfrun.behind (hrun.inside f.stop (by omega) hlt)
    exact ⟨f, hf, by omega, by omega⟩
  · rintro ⟨f, hf, rfl, rfl⟩
    exact h.isRun hf

end Merged

end Basic

/-! ## The fragments of a text -/

section Fragments

variable {query : Text}

/-- **The fragments of a text are the windows of its occurrences, merged.** -/
theorem merged_fragments (hquery : query ≠ []) (text : Text) :
    Merged text.length query.length (occurrences query 0 0 text) (fragments text query).reverse := by
  have hleftmost := leftmost_occurrences hquery text
  rw [fragments, List.reverse_reverse]
  exact Merged.nil.foldl (List.length_pos_of_ne_nil hquery)
    (fun p hp => (hleftmost.occurs p hp).2.add_length_le hquery) hleftmost.apart

/-- Fragments stand in order. -/
theorem pairwise_fragments (hquery : query ≠ []) (text : Text) :
    (fragments text query).Pairwise fun f g => f.stop < g.start :=
  List.pairwise_reverse.1 (merged_fragments hquery text).apart

/-- The beginning of the text is shown if the first fragment begins there, -/
theorem start_head_eq_zero_iff (hquery : query ≠ []) {text : Text} {first : Fragment}
    (hfirst : (fragments text query).head? = some first) :
    first.start = 0 ↔ Shown text.length query.length (occurrences query 0 0 text) 0 := by
  have hmerged := merged_fragments hquery text
  have hmem := List.mem_reverse.2 (List.mem_of_head? hfirst)
  constructor
  · intro hzero
    exact hmerged.shown first hmem 0 ⟨by omega, by have := (hmerged.bounded first hmem).1; omega⟩
  · intro hshown
    obtain ⟨f, hf, hstart, -⟩ := hmerged.exists_fragment hshown
    rw [List.mem_reverse] at hf
    obtain ⟨rest, hrest⟩ := List.head?_eq_some_iff.1 hfirst
    have hpairwise := pairwise_fragments hquery text
    rw [hrest] at hf hpairwise
    rcases List.mem_cons.1 hf with rfl | hf
    · omega
    · have hlt := (List.pairwise_cons.1 hpairwise).1 f hf
      omega

/-- …and its end if the last one reaches it. -/
theorem stop_getLast_eq_length_iff (hquery : query ≠ []) {text : Text} {last : Fragment}
    (hlast : (fragments text query).getLast? = some last) :
    last.stop = text.length ↔
      Shown text.length query.length (occurrences query 0 0 text) (text.length - 1) := by
  have hmerged := merged_fragments hquery text
  have hmem := List.mem_reverse.2 (List.mem_of_getLast? hlast)
  have hbounded := hmerged.bounded last hmem
  constructor
  · intro hlength
    exact hmerged.shown last hmem _ ⟨by omega, by omega⟩
  · intro hshown
    obtain ⟨f, hf, hstart, hstop⟩ := hmerged.exists_fragment hshown
    obtain ⟨rest, hrest⟩ := List.head?_eq_some_iff.1 (List.getLast?_eq_head?_reverse ▸ hlast)
    have hpairwise := hmerged.apart
    rw [hrest] at hf hpairwise
    rcases List.mem_cons.1 hf with rfl | hf
    · omega
    · have hlt := (List.pairwise_cons.1 hpairwise).1 f hf
      omega

/-- There are fragments if the query occurs. -/
theorem fragments_eq_nil_iff (hquery : query ≠ []) {text : Text} :
    fragments text query = [] ↔ occurrences query 0 0 text = [] := by
  have hmerged := merged_fragments hquery text
  constructor
  · intro hnil
    rw [hnil] at hmerged
    refine List.eq_nil_iff_forall_not_mem.2 fun hit hhit => ?_
    obtain ⟨f, hf, -⟩ := hmerged.windows hit hhit
    exact absurd hf List.not_mem_nil
  · intro hnil
    rw [fragments, hnil]
    rfl

end Fragments

end WikiPress.Excerpt
