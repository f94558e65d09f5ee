import WikiPress.Proofs.Snippet.Session
import Mathlib.Algebra.Order.BigOperators.Group.Finset
import Mathlib.Data.Fintype.BigOperators
import Mathlib.Logic.Function.Basic

/-!
# Proofs/Snippet/Flight — fetches under way at the same time share one flight

    called ──▸ holding ──▸ asking ──▸ fetching ──▸ answered
                  │           │ ╰───▸ waiting ───────▴ ▴
                  │           ╰────────────────────────┤
                  ╰────────────────────────────────────╯

A fetch through the cache is not done at once.  A caller finds or creates the cell of its path, looks
into the cell, fills it with what the source answers if nobody does yet, and else waits until it is
full.  Between any two of these steps other callers may do theirs.  What no step breaks is that every
path has one cell, that a cell is filled by one caller, and that it stays full (`Flight.Sound`).  So
the source is asked for a path at most once, and callers of one path get the same answer
(`single_flight`): the one that they would get by fetching one after the other.
-/

namespace WikiPress.Snippet

/-! ## States -/

/-- What a cell holds. -/
inductive Cell where
  | empty
  /-- Somebody is fetching what it will hold. -/
  | busy
  | full (file : Fetched)
deriving DecidableEq, Repr

/-- How far a caller is. -/
inductive Phase where
  | called
  /-- It has the cell of its path, -/
  | holding (cell : Nat)
  /-- …found it not full and is about to fill it, -/
  | asking (cell : Nat)
  /-- …waits for somebody else to fill it, -/
  | waiting (cell : Nat)
  /-- …or is fetching what to fill it with. -/
  | fetching (cell : Nat)
  | answered (file : Fetched)
deriving DecidableEq, Repr

/-- **Fetches under way**, of callers `ι` through one cache, from a source with a state `σ`. -/
structure Flight (ι σ : Type) where
  /-- The cells of the paths, by number. -/
  cellOf : Text → Option Nat
  /-- So many cells were created. -/
  used : Nat
  cells : Nat → Cell
  phase : ι → Phase
  state : σ
  /-- The paths the source was asked for, in order. -/
  asked : List Text
  /-- What it answered, the last first. -/
  returned : Cache

variable {ι σ : Type}

namespace Flight

/-- Nobody did anything yet, and the cache is empty. -/
def start (state : σ) : Flight ι σ :=
  ⟨fun _ => none, 0, fun _ => .empty, fun _ => .called, state, [], []⟩

/-- A path gets a new cell. -/
def create (p : Text) (s : Flight ι σ) : Flight ι σ :=
  { s with cellOf := Function.update s.cellOf p (some s.used), used := s.used + 1 }

/-- The source is asked for what a cell is to hold. -/
def launch (p : Text) (cell : Nat) (s : Flight ι σ) : Flight ι σ :=
  { s with cells := Function.update s.cells cell .busy, asked := s.asked ++ [p] }

/-- The source has answered, and the cell is full. -/
def fill (p : Text) (cell : Nat) (file : Fetched) (state : σ) (s : Flight ι σ) : Flight ι σ :=
  { s with
    cells := Function.update s.cells cell (.full file)
    state := state
    returned := (p, file) :: s.returned }

/-- A caller goes on. -/
def move [DecidableEq ι] (i : ι) (next : Phase) (s : Flight ι σ) : Flight ι σ :=
  { s with phase := Function.update s.phase i next }

end Flight

/-! ## Steps -/

open Phase in
/-- **A step of one caller**, and whom it answers.  No two callers fill a cell at the same time, and
who waits for a cell sees what it is filled with.  A source may answer anything, and differently each
time: its state may hold all that it will answer. -/
inductive FetchStep [DecidableEq ι] (fetch : Text → StateM σ Fetched) (path : ι → Text) :
    Flight ι σ → List (ι × Fetched) → Flight ι σ → Prop
  | find {s i c} (h : s.phase i = called) (hcell : s.cellOf (path i) = some c) :
      FetchStep fetch path s [] (s.move i (holding c))
  | create {s i} (h : s.phase i = called) (hcell : s.cellOf (path i) = none) :
      FetchStep fetch path s [] ((s.create (path i)).move i (holding s.used))
  | hit {s i c file} (h : s.phase i = holding c) (hcell : s.cells c = .full file) :
      FetchStep fetch path s [(i, file)] (s.move i (answered file))
  | miss {s i c} (h : s.phase i = holding c) (hcell : ∀ file, s.cells c ≠ .full file) :
      FetchStep fetch path s [] (s.move i (asking c))
  | launch {s i c} (h : s.phase i = asking c) (hcell : s.cells c = .empty) :
      FetchStep fetch path s [] ((s.launch (path i) c).move i (fetching c))
  | wait {s i c} (h : s.phase i = asking c) (hcell : s.cells c = .busy) :
      FetchStep fetch path s [] (s.move i (waiting c))
  | late {s i c file} (h : s.phase i = asking c) (hcell : s.cells c = .full file) :
      FetchStep fetch path s [(i, file)] (s.move i (answered file))
  | complete {s i c file state} (h : s.phase i = fetching c)
      (hfetch : fetch (path i) s.state = (file, state)) :
      FetchStep fetch path s [(i, file)] ((s.fill (path i) c file state).move i (answered file))
  | resume {s i c file} (h : s.phase i = waiting c) (hcell : s.cells c = .full file) :
      FetchStep fetch path s [(i, file)] (s.move i (answered file))

/-- **What so many steps reach**, in any order, and whom they answered. -/
inductive FetchRun [DecidableEq ι] (fetch : Text → StateM σ Fetched) (path : ι → Text) (state : σ) :
    Nat → List (ι × Fetched) → Flight ι σ → Prop
  | start : FetchRun fetch path state 0 [] (.start state)
  | step {n served s answers s'} (h : FetchRun fetch path state n served s)
      (hstep : FetchStep fetch path s answers s') :
      FetchRun fetch path state (n + 1) (served ++ answers) s'

/-! ## What no step breaks -/

namespace Flight

/-- How far a caller of a path is fits to the cells. -/
def Fits (s : Flight ι σ) (p : Text) : Phase → Prop
  | .called => True
  | .holding c | .asking c => s.cellOf p = some c
  | .waiting c => s.cellOf p = some c ∧ s.cells c ≠ .empty
  | .fetching c => s.cellOf p = some c ∧ s.cells c = .busy
  | .answered file => s.returned.lookup p = some file

/-- **Every path has one cell, and every cell is filled by one caller and once.** -/
structure Sound (path : ι → Text) (s : Flight ι σ) : Prop where
  bound : ∀ {p c}, s.cellOf p = some c → c < s.used
  injective : ∀ {p q c}, s.cellOf p = some c → s.cellOf q = some c → p = q
  fresh : ∀ {c}, s.used ≤ c → s.cells c = .empty
  callers : ∀ i, s.Fits (path i) (s.phase i)
  busy : ∀ {c}, s.cells c = .busy → ∃ i, s.phase i = .fetching c
  unique : ∀ {i j c}, s.phase i = .fetching c → s.phase j = .fetching c → i = j
  nodup : s.asked.Nodup
  asked : ∀ p, p ∈ s.asked ↔ ∃ c, s.cellOf p = some c ∧ s.cells c ≠ .empty
  returned : ∀ p file, s.returned.lookup p = some file ↔
    ∃ c, s.cellOf p = some c ∧ s.cells c = .full file
  once : (s.returned.map Prod.fst).Nodup

variable {path : ι → Text} {s s' : Flight ι σ} {p q : Text} {phase : Phase} {c : Nat} {i : ι}

/-- A caller keeps fitting while cells are added and filled. -/
theorem Fits.mono (h : s.Fits p phase) (hcellOf : ∀ c, s.cellOf p = some c → s'.cellOf p = some c)
    (hcells : ∀ c, s.cells c ≠ .empty → s'.cells c ≠ .empty)
    (hbusy : ∀ c, phase = .fetching c → s.cells c = .busy → s'.cells c = .busy)
    (hreturned : ∀ file, s.returned.lookup p = some file → s'.returned.lookup p = some file) :
    s'.Fits p phase := by
  cases phase with
  | called => trivial
  | holding c => exact hcellOf c h
  | asking c => exact hcellOf c h
  | waiting c => exact ⟨hcellOf c h.1, hcells c h.2⟩
  | fetching c => exact ⟨hcellOf c h.1, hbusy c rfl h.2⟩
  | answered file => exact hreturned file h

/-- While cells are as they were, everybody fits as before. -/
theorem Fits.congr (h : s.Fits p phase) (hcellOf : s'.cellOf = s.cellOf) (hcells : s'.cells = s.cells)
    (hreturned : s'.returned = s.returned) : s'.Fits p phase :=
  h.mono (fun _ hc => hcellOf ▸ hc) (fun _ hc => hcells ▸ hc) (fun _ _ hc => hcells ▸ hc)
    fun _ hfile => hreturned ▸ hfile

theorem sound_start (path : ι → Text) (state : σ) : (start state : Flight ι σ).Sound path where
  bound := nofun
  injective := nofun
  fresh := fun _ => rfl
  callers := fun _ => trivial
  busy := nofun
  unique := nofun
  nodup := List.nodup_nil
  asked := fun _ => iff_of_false List.not_mem_nil nofun
  returned := fun _ _ => iff_of_false nofun nofun
  once := List.nodup_nil

namespace Sound

/-! ### A caller and its cell -/

theorem fits (hs : s.Sound path) (hi : s.phase i = phase) : s.Fits (path i) phase :=
  hi ▸ hs.callers i

/-- A cell to be created is not that of a path yet. -/
theorem ne_of_used_le (hs : s.Sound path) {c' : Nat} (hc : s.cellOf p = some c)
    (hle : s.used ≤ c') : c' ≠ c := by
  have hlt := hs.bound hc
  omega

/-- Other paths have other cells. -/
theorem cell_ne (hs : s.Sound path) {c' : Nat} (hc : s.cellOf p = some c)
    (hc' : s.cellOf q = some c') (hne : q ≠ p) : c' ≠ c := by
  rintro rfl
  exact hne (hs.injective hc' hc)

/-- Nobody is fetching what an empty cell is to hold. -/
theorem phase_ne_fetching (hs : s.Sound path) (hcell : s.cells c = .empty) (j : ι) :
    s.phase j ≠ .fetching c := by
  intro hj
  have hbusy : s.cells c = .busy := (hs.fits hj).2
  rw [hcell] at hbusy
  contradiction

/-- The source was not asked for a path whose cell is empty, -/
theorem not_mem_asked (hs : s.Sound path) (hc : s.cellOf p = some c) (hcell : s.cells c = .empty) :
    p ∉ s.asked := by
  rw [hs.asked]
  rintro ⟨c', hc', hne⟩
  obtain rfl : c = c' := Option.some.inj (hc.symm.trans hc')
  exact hne hcell

/-- …and did not answer for one whose cell is not full. -/
theorem lookup_returned (hs : s.Sound path) (hc : s.cellOf p = some c)
    (hcell : ∀ file, s.cells c ≠ .full file) : s.returned.lookup p = none := by
  rw [Option.eq_none_iff_forall_ne_some]
  intro file hfile
  obtain ⟨c', hc', hfull⟩ := (hs.returned p file).1 hfile
  obtain rfl : c = c' := Option.some.inj (hc.symm.trans hc')
  exact hcell file hfull

theorem lookup_returned_of_fetching (hs : s.Sound path) (hi : s.phase i = .fetching c) :
    s.returned.lookup (path i) = none := by
  obtain ⟨hc, hbusy⟩ : s.cellOf (path i) = some c ∧ s.cells c = .busy := hs.fits hi
  exact hs.lookup_returned hc (by rw [hbusy]; nofun)

end Sound

/-! ### A cell is created -/

theorem cellOf_create (q : Text) :
    (s.create p).cellOf q = if q = p then some s.used else s.cellOf q :=
  Function.update_apply s.cellOf p (some s.used) q

theorem cellOf_create_of_some (hp : s.cellOf p = none) (hq : s.cellOf q = some c) :
    (s.create p).cellOf q = some c := by
  rw [cellOf_create, if_neg, hq]
  rintro rfl
  rw [hp] at hq
  contradiction

namespace Sound

/-- The new cell is empty, so that other cells are as they were. -/
theorem exists_cell_create (hs : s.Sound path) (hp : s.cellOf p = none) {P : Cell → Prop}
    (hempty : ¬ P .empty) :
    (∃ c, (s.create p).cellOf q = some c ∧ P (s.cells c)) ↔
      ∃ c, s.cellOf q = some c ∧ P (s.cells c) := by
  constructor
  · rintro ⟨c, hc, hcell⟩
    rw [cellOf_create] at hc
    split at hc
    · obtain rfl := Option.some.inj hc
      rw [hs.fresh (Nat.le_refl _)] at hcell
      exact absurd hcell hempty
    · exact ⟨c, hc, hcell⟩
  · rintro ⟨c, hc, hcell⟩
    exact ⟨c, cellOf_create_of_some hp hc, hcell⟩

/-- **A new cell breaks nothing.** -/
theorem create (hs : s.Sound path) (hp : s.cellOf p = none) : (s.create p).Sound path where
  bound := fun {q c} hc => by
    rw [cellOf_create] at hc
    split at hc
    · exact Option.some.inj hc ▸ Nat.lt_succ_self _
    · exact Nat.lt_succ_of_lt (hs.bound hc)
  injective := fun {q r c} hq hr => by
    rw [cellOf_create] at hq hr
    split at hq
    · split at hr
      · next heq heq' => rw [heq, heq']
      · exact absurd (Option.some.inj hq) (hs.ne_of_used_le hr (Nat.le_refl _))
    · split at hr
      · exact absurd (Option.some.inj hr) (hs.ne_of_used_le hq (Nat.le_refl _))
      · exact hs.injective hq hr
  fresh := fun hle => hs.fresh (Nat.le_of_succ_le hle)
  callers := fun j => (hs.callers j).mono (fun _ hc => cellOf_create_of_some hp hc) (fun _ h => h)
    (fun _ _ h => h) fun _ h => h
  busy := hs.busy
  unique := hs.unique
  nodup := hs.nodup
  asked := fun q => (hs.asked q).trans
    (hs.exists_cell_create hp (P := fun cell => cell ≠ .empty) fun h => h rfl).symm
  returned := fun q file => (hs.returned q file).trans
    (hs.exists_cell_create hp (P := fun cell => cell = .full file) nofun).symm
  once := hs.once

/-! ### A cell changes -/

/-- When the cell of a path changes, others are as they were. -/
theorem exists_cell_update (hs : s.Sound path) (hc : s.cellOf p = some c) (cell : Cell)
    {P : Cell → Prop} :
    (∃ c', s.cellOf q = some c' ∧ P (Function.update s.cells c cell c')) ↔
      if q = p then P cell else ∃ c', s.cellOf q = some c' ∧ P (s.cells c') := by
  constructor
  · rintro ⟨c', hc', hcell⟩
    split
    · next heq =>
      subst heq
      obtain rfl : c = c' := Option.some.inj (hc.symm.trans hc')
      rwa [Function.update_self] at hcell
    · next hne =>
      rw [Function.update_of_ne (hs.cell_ne hc hc' hne)] at hcell
      exact ⟨c', hc', hcell⟩
  · split
    · next heq =>
      intro hcell
      exact ⟨c, heq ▸ hc, by rwa [Function.update_self]⟩
    · next hne =>
      rintro ⟨c', hc', hcell⟩
      exact ⟨c', hc', by rwa [Function.update_of_ne (hs.cell_ne hc hc' hne)]⟩

/-- What is being fetched still is when another cell changes. -/
theorem exists_fetching_update (hs : s.Sound path) {c' : Nat} {cell : Cell} (hne : c' ≠ c)
    (hcell : Function.update s.cells c cell c' = .busy) : ∃ j, s.phase j = .fetching c' :=
  hs.busy ((Function.update_of_ne hne _ _).symm.trans hcell)

theorem fresh_update (hs : s.Sound path) (hc : s.cellOf p = some c) (cell : Cell) {c' : Nat}
    (hle : s.used ≤ c') : Function.update s.cells c cell c' = .empty := by
  rw [Function.update_of_ne (hs.ne_of_used_le hc hle), hs.fresh hle]

end Sound

theorem update_ne_empty {cell : Cell} (hcell : cell ≠ .empty) (c' : Nat) (h : s.cells c' ≠ .empty) :
    Function.update s.cells c cell c' ≠ .empty := by
  rw [Function.update_apply]
  split
  · exact hcell
  · exact h

namespace Sound

/-- Everybody fits as before when an empty cell is to be filled, -/
theorem fits_launch (hs : s.Sound path) (hcell : s.cells c = .empty) (p : Text) (j : ι) :
    (s.launch p c).Fits (path j) (s.phase j) := by
  refine (hs.callers j).mono (fun _ h => h) (update_ne_empty nofun) (fun c' _ hbusy => ?_) fun _ h => h
  have hne : c' ≠ c := fun heq => by
    rw [heq, hcell] at hbusy
    contradiction
  exact (Function.update_of_ne hne _ _).trans hbusy

/-- …and everybody but the caller that fills it when it is full. -/
theorem fits_fill (hs : s.Sound path) (hi : s.phase i = .fetching c) (file : Fetched) (state : σ)
    {j : ι} (hne : j ≠ i) : (s.fill (path i) c file state).Fits (path j) (s.phase j) := by
  have hnone := hs.lookup_returned_of_fetching hi
  refine (hs.callers j).mono (fun _ h => h) (update_ne_empty nofun) (fun c' hj hbusy => ?_)
    fun file' hfile' => ?_
  · have hcell : c' ≠ c := fun heq => hne (hs.unique hj (heq ▸ hi))
    exact (Function.update_of_ne hcell _ _).trans hbusy
  · have hpath : path j ≠ path i := fun heq => by
      rw [heq, hnone] at hfile'
      contradiction
    exact (lookup_cons _ file).trans ((if_neg hpath).trans hfile')

end Sound

/-! ### A caller goes on -/

variable [DecidableEq ι] {next : Phase}

theorem phase_move (j : ι) : (s.move i next).phase j = if j = i then next else s.phase j :=
  Function.update_apply s.phase i next j

/-- What holds of every caller still does when it holds of the one that went on. -/
theorem forall_phase_move {P : ι → Phase → Prop} (hi : P i next) (hj : ∀ j ≠ i, P j (s.phase j)) :
    ∀ j, P j ((s.move i next).phase j) := by
  intro j
  rw [phase_move]
  split
  · next heq => exact heq ▸ hi
  · next hne => exact hj j hne

/-- Who was fetching and did not go on still is. -/
theorem exists_fetching_move (h : ∃ j, s.phase j = .fetching c) (hi : s.phase i ≠ .fetching c) :
    ∃ j, (s.move i next).phase j = .fetching c := by
  obtain ⟨j, hj⟩ := h
  have hne : j ≠ i := fun heq => hi (heq ▸ hj)
  exact ⟨j, by rw [phase_move, if_neg hne, hj]⟩

namespace Sound

/-- Nobody joins a caller that is fetching. -/
theorem unique_move (hs : s.Sound path) (next : Phase)
    (hi : ∀ c, next = .fetching c → ∀ j, s.phase j ≠ .fetching c) {j k : ι}
    (hj : (s.move i next).phase j = .fetching c)
    (hk : (s.move i next).phase k = .fetching c) : j = k := by
  rw [phase_move] at hj hk
  split at hj
  · split at hk
    · next heq heq' => rw [heq, heq']
    · exact absurd hk (hi c hj k)
  · split at hk
    · exact absurd hj (hi c hk j)
    · exact hs.unique hj hk

/-- **A caller that goes on without the source breaks nothing.** -/
theorem move (hs : s.Sound path) (hi : ∀ c, s.phase i ≠ .fetching c)
    (hnext : ∀ c, next ≠ .fetching c) (hfits : s.Fits (path i) next) :
    (s.move i next).Sound path where
  bound := hs.bound
  injective := hs.injective
  fresh := hs.fresh
  callers := forall_phase_move (P := fun j phase => (s.move i next).Fits (path j) phase)
    (hfits.congr rfl rfl rfl) fun j _ => (hs.callers j).congr rfl rfl rfl
  busy := fun hc => exists_fetching_move (hs.busy hc) (hi _)
  unique := hs.unique_move next fun c h => absurd h (hnext c)
  nodup := hs.nodup
  asked := hs.asked
  returned := hs.returned
  once := hs.once

/-! ### A cell is filled -/

/-- **The caller that finds a cell empty begins to fill it.** -/
theorem launch (hs : s.Sound path) (hi : s.phase i = .asking c) (hcell : s.cells c = .empty) :
    ((s.launch (path i) c).move i (.fetching c)).Sound path := by
  have hc : s.cellOf (path i) = some c := hs.fits hi
  have hnone : s.returned.lookup (path i) = none := hs.lookup_returned hc (by rw [hcell]; nofun)
  have hnodup : (s.asked ++ [path i]).Nodup :=
    List.concat_eq_append ▸ hs.nodup.concat (hs.not_mem_asked hc hcell)
  exact {
    bound := hs.bound
    injective := hs.injective
    fresh := hs.fresh_update hc _
    callers := forall_phase_move
      (P := fun j phase => ((s.launch (path i) c).move i (.fetching c)).Fits (path j) phase)
      ⟨hc, Function.update_self c _ _⟩ fun j _ => hs.fits_launch hcell (path i) j
    busy := fun {c'} hc' => by
      by_cases heq : c' = c
      · exact ⟨i, by rw [phase_move, if_pos rfl, heq]⟩
      · exact exists_fetching_move (s := s.launch (path i) c) (hs.exists_fetching_update heq hc')
          (hi ▸ nofun)
    unique := fun {j k c'} => unique_move (s := s) hs (.fetching c) fun c' h j => by
      obtain rfl := Phase.fetching.inj h
      exact hs.phase_ne_fetching hcell j
    nodup := hnodup
    asked := fun q => by
      refine Iff.trans ?_ (hs.exists_cell_update hc .busy (P := fun cell => cell ≠ .empty)).symm
      refine (List.mem_append.trans (or_congr_right List.mem_singleton)).trans ?_
      split
      · next heq => exact iff_of_true (.inr heq) nofun
      · next hne => rw [or_iff_left hne, hs.asked]
    returned := fun q file => by
      refine Iff.trans ?_ (hs.exists_cell_update hc .busy (P := fun cell => cell = .full file)).symm
      split
      · next heq => exact iff_of_false (by rw [heq]; exact hnone ▸ nofun) nofun
      · exact hs.returned q file
    once := hs.once }

/-- **The caller that fetches fills the cell, and nobody else does.** -/
theorem complete (hs : s.Sound path) (hi : s.phase i = .fetching c) (file : Fetched) (state : σ) :
    ((s.fill (path i) c file state).move i (.answered file)).Sound path := by
  obtain ⟨hc, hbusy⟩ : s.cellOf (path i) = some c ∧ s.cells c = .busy := hs.fits hi
  have hnone := hs.lookup_returned_of_fetching hi
  have hlookup : ∀ q, ((path i, file) :: s.returned).lookup q =
      if q = path i then some file else s.returned.lookup q := fun q => lookup_cons q file
  exact {
    bound := hs.bound
    injective := hs.injective
    fresh := hs.fresh_update hc _
    callers := forall_phase_move
      (P := fun j next => ((s.fill (path i) c file state).move i (.answered file)).Fits (path j) next)
      ((hlookup _).trans (if_pos rfl)) fun j hne => hs.fits_fill hi file state hne
    busy := fun {c'} hc' => by
      have hcell : c' ≠ c := fun heq => by
        rw [heq] at hc'
        exact absurd ((Function.update_self c _ s.cells).symm.trans hc') nofun
      refine exists_fetching_move (s := s.fill (path i) c file state)
        (hs.exists_fetching_update hcell hc') fun hi' => ?_
      exact hcell (Phase.fetching.inj (hi'.symm.trans hi))
    unique := fun {j k c'} => unique_move (s := s) hs (.answered file) nofun
    nodup := hs.nodup
    asked := fun q => by
      refine (hs.asked q).trans (Iff.trans ?_
        (hs.exists_cell_update hc (.full file) (P := fun cell => cell ≠ .empty)).symm)
      split
      · next heq => exact iff_of_true ⟨c, heq ▸ hc, by rw [hbusy]; nofun⟩ nofun
      · exact Iff.rfl
    returned := fun q file' => by
      refine Iff.trans ?_
        (hs.exists_cell_update hc (.full file) (P := fun cell => cell = .full file')).symm
      rw [Flight.move, Flight.fill, hlookup]
      split
      · rw [Option.some.injEq, Cell.full.injEq]
      · exact hs.returned q file'
    once := List.nodup_cons.2 ⟨lookup_eq_none_iff_not_mem.1 hnone, hs.once⟩ }

/-- **No step breaks it.** -/
theorem step {fetch : Text → StateM σ Fetched} {answers : List (ι × Fetched)} (hs : s.Sound path)
    (h : FetchStep fetch path s answers s') : s'.Sound path := by
  cases h with
  | find hi hcell => exact hs.move (hi ▸ nofun) nofun hcell
  | @create i hi hcell =>
    exact (hs.create hcell).move (fun c => (hi ▸ nofun : s.phase i ≠ .fetching c)) nofun
      ((cellOf_create _).trans (if_pos rfl))
  | hit hi hcell => exact hs.move (hi ▸ nofun) nofun ((hs.returned _ _).2 ⟨_, hs.fits hi, hcell⟩)
  | miss hi _ => exact hs.move (hi ▸ nofun) nofun (hs.fits hi : s.cellOf _ = _)
  | launch hi hcell => exact hs.launch hi hcell
  | wait hi hcell => exact hs.move (hi ▸ nofun) nofun ⟨hs.fits hi, by rw [hcell]; nofun⟩
  | late hi hcell => exact hs.move (hi ▸ nofun) nofun ((hs.returned _ _).2 ⟨_, hs.fits hi, hcell⟩)
  | complete hi _ => exact hs.complete hi _ _
  | resume hi hcell =>
    exact hs.move (hi ▸ nofun) nofun ((hs.returned _ _).2 ⟨_, (hs.fits hi).1, hcell⟩)

end Sound

end Flight

/-! ## Answers -/

namespace Phase

/-- So many steps a caller may still take. -/
def rank : Phase → Nat
  | called => 4
  | holding _ => 3
  | asking _ => 2
  | waiting _ | fetching _ => 1
  | answered _ => 0

/-- Whom a phase answers. -/
def answers (i : ι) : Phase → List (ι × Fetched)
  | answered file => [(i, file)]
  | _ => []

theorem mem_answers_iff {i j : ι} {next : Phase} {file : Fetched} :
    (j, file) ∈ next.answers i ↔ j = i ∧ next = answered file := by
  cases next <;> simp [answers, eq_comm]

theorem nodup_answers (i : ι) (next : Phase) : ((next.answers i).map Prod.fst).Nodup := by
  cases next <;> simp [answers]

/-- Nobody goes on who was answered. -/
theorem ne_answered {phase next : Phase} (h : next.rank < phase.rank) (file : Fetched) :
    phase ≠ answered file := by
  rintro rfl
  exact absurd h (Nat.not_lt_zero _)

end Phase

section Run

variable [DecidableEq ι] {fetch : Text → StateM σ Fetched} {path : ι → Text} {state : σ}
  {s s' : Flight ι σ} {n : Nat} {served answers : List (ι × Fetched)} {i : ι} {file : Fetched}

/-- **One caller goes on in a step**, and it is answered if it is done. -/
theorem FetchStep.exists_move (h : FetchStep fetch path s answers s') :
    ∃ i next, (∀ j, s'.phase j = if j = i then next else s.phase j) ∧
      next.rank < (s.phase i).rank ∧ answers = next.answers i := by
  cases h with
  | find hi _ | create hi _ | hit hi _ | miss hi _ | launch hi _ | wait hi _ | late hi _
  | complete hi _ | resume hi _ =>
    exact ⟨_, _, Flight.phase_move, by simp [hi, Phase.rank], rfl⟩

/-- **Who is done was answered, and with that.** -/
theorem FetchRun.mem_served_iff (h : FetchRun fetch path state n served s) :
    (i, file) ∈ served ↔ s.phase i = .answered file := by
  induction h with
  | start => exact iff_of_false List.not_mem_nil nofun
  | @step n served s answers s' _ hstep ih =>
    obtain ⟨j, next, hphase, hrank, rfl⟩ := hstep.exists_move
    rw [List.mem_append, ih, hphase, Phase.mem_answers_iff]
    split
    · next heq =>
      rw [heq, or_iff_right (Phase.ne_answered hrank file), and_iff_right rfl]
    · next hne => rw [or_iff_left fun h => hne h.1]

/-- Nobody is answered twice. -/
theorem FetchRun.nodup_served (h : FetchRun fetch path state n served s) :
    (served.map Prod.fst).Nodup := by
  induction h with
  | start => exact List.nodup_nil
  | @step n served s answers s' hrun hstep ih =>
    obtain ⟨j, next, -, hrank, rfl⟩ := hstep.exists_move
    rw [List.map_append]
    refine List.nodup_append.2 ⟨ih, Phase.nodup_answers j next, fun i hi k hk heq => ?_⟩
    obtain ⟨⟨i, file⟩, hold, rfl⟩ := List.mem_map.1 hi
    obtain ⟨⟨k, file'⟩, hnew, rfl⟩ := List.mem_map.1 hk
    obtain ⟨hkj, -⟩ := Phase.mem_answers_iff.1 hnew
    obtain rfl : i = j := Eq.trans heq hkj
    exact Phase.ne_answered hrank file (hrun.mem_served_iff.1 hold)

theorem FetchRun.sound (h : FetchRun fetch path state n served s) : s.Sound path := by
  induction h with
  | start => exact Flight.sound_start path state
  | step _ hstep ih => exact ih.step hstep

/-! ## One after the other -/

omit [DecidableEq ι] in
/-- A path that was answered is in the cache of what was answered. -/
theorem cachedFetch_of_full (hs : s.Sound path) {c : Nat} (hc : s.cellOf (path i) = some c)
    (hcell : s.cells c = .full file) :
    cachedFetch fetch (path i) (s.returned, s.state) = (file, s.returned, s.state) :=
  cachedFetch_of_mem ((hs.returned _ _).2 ⟨c, hc, hcell⟩)

/-- **A step that answers a caller is its fetch through the cache, done at once**, and no other step
changes what the cache holds. -/
theorem FetchStep.serial (h : FetchStep fetch path s answers s') (hs : s.Sound path) :
    (answers.mapM fun answer => cachedFetch fetch (path answer.1)) (s.returned, s.state) =
      (answers.map Prod.snd, s'.returned, s'.state) := by
  have hsingle : ∀ (i : ι) (file : Fetched) (after : Cache × σ),
      cachedFetch fetch (path i) (s.returned, s.state) = (file, after) →
      ([(i, file)].mapM fun answer => cachedFetch fetch (path answer.1)) (s.returned, s.state) =
        ([file], after) := by
    intro i file after hfetch
    rw [List.mapM_cons, List.mapM_nil]
    exact congrArg (fun r : Fetched × Cache × σ => ([r.1], r.2)) hfetch
  cases h with
  | find | create | miss | launch | wait => rfl
  | hit hi hcell => exact hsingle _ _ _ (cachedFetch_of_full hs (hs.fits hi) hcell)
  | late hi hcell => exact hsingle _ _ _ (cachedFetch_of_full hs (hs.fits hi) hcell)
  | resume hi hcell => exact hsingle _ _ _ (cachedFetch_of_full hs (hs.fits hi).1 hcell)
  | complete hi hfetch =>
    obtain ⟨hc, hbusy⟩ := hs.fits hi
    refine hsingle _ _ _ ((cachedFetch_of_not_mem (hs.lookup_returned hc ?_)).trans ?_)
    · rw [hbusy]
      nofun
    · rw [hfetch]
      rfl

/-- **Fetching one after the other, in the order of the answers, gives the same answers.** -/
theorem FetchRun.serial (h : FetchRun fetch path state n served s) :
    (served.mapM fun answer => cachedFetch fetch (path answer.1)) ([], state) =
      (served.map Prod.snd, s.returned, s.state) := by
  induction h with
  | start => rfl
  | step hrun hstep ih =>
    have hlater := hstep.serial hrun.sound
    rw [List.mapM_append, List.map_append]
    simp only [bind, StateT.bind, ih, hlater]
    rfl

/-! ## Progress -/

/-- **As long as somebody is not answered, somebody can go on.** -/
theorem Flight.Sound.exists_step (hs : s.Sound path) (hi : ∀ file, s.phase i ≠ .answered file) :
    ∃ answers s', FetchStep fetch path s answers s' := by
  cases hphase : s.phase i with
  | answered file => exact absurd hphase (hi file)
  | called =>
    cases hcell : s.cellOf (path i) with
    | none => exact ⟨_, _, .create hphase hcell⟩
    | some c => exact ⟨_, _, .find hphase hcell⟩
  | holding c =>
    cases hcell : s.cells c with
    | full file => exact ⟨_, _, .hit hphase hcell⟩
    | empty => exact ⟨_, _, .miss hphase (by rw [hcell]; nofun)⟩
    | busy => exact ⟨_, _, .miss hphase (by rw [hcell]; nofun)⟩
  | asking c =>
    cases hcell : s.cells c with
    | full file => exact ⟨_, _, .late hphase hcell⟩
    | empty => exact ⟨_, _, .launch hphase hcell⟩
    | busy => exact ⟨_, _, .wait hphase hcell⟩
  | fetching c => exact ⟨_, _, .complete hphase rfl⟩
  | waiting c =>
    cases hcell : s.cells c with
    | full file => exact ⟨_, _, .resume hphase hcell⟩
    | empty => exact absurd hcell (hs.fits hphase).2
    | busy =>
      obtain ⟨j, hj⟩ := hs.busy hcell
      exact ⟨_, _, .complete hj rfl⟩

/-- **Every step uses up one of those that the callers may take.** -/
theorem FetchRun.add_rank_le [Fintype ι] (h : FetchRun fetch path state n served s) :
    n + ∑ j, (s.phase j).rank ≤ 4 * Fintype.card ι := by
  induction h with
  | start =>
    have hall : ∑ j : ι, Phase.rank ((Flight.start state : Flight ι σ).phase j) = ∑ _j : ι, 4 := rfl
    rw [hall, Finset.sum_const, Finset.card_univ]
    exact Nat.le_of_eq (by rw [Nat.zero_add, Nat.mul_comm]; rfl)
  | @step n served s answers s' _ hstep ih =>
    obtain ⟨i, next, hphase, hrank, -⟩ := hstep.exists_move
    have hlt : ∑ j, (s'.phase j).rank < ∑ j, (s.phase j).rank := by
      refine Finset.sum_lt_sum (fun j _ => ?_) ⟨i, Finset.mem_univ i, ?_⟩
      · rw [hphase]
        split
        · next heq => exact heq ▸ Nat.le_of_lt hrank
        · exact Nat.le_refl _
      · rwa [hphase, if_pos rfl]
    omega

/-! ## Single flight -/

/-- **Single flight.**  Whatever order the steps of any number of fetches come in:

1. the source is asked for every path at most once, and answers only what it was asked for, once;
2. who is answered gets what the source answered for the path, so all callers of a path the same;
3. the answers, and what the source is left in, are those of fetching through the cache one after the
   other, in the order of the answers;
4. somebody can go on until everybody is answered, and there are four steps for each at most. -/
theorem single_flight [Fintype ι] (h : FetchRun fetch path state n served s) :
    (s.asked.Nodup ∧ (s.returned.map Prod.fst).Nodup ∧
      ∀ p ∈ s.returned.map Prod.fst, p ∈ s.asked) ∧
    ((∀ i file, s.phase i = .answered file → (path i, file) ∈ s.returned) ∧
      ∀ i j file file', path i = path j → s.phase i = .answered file →
        s.phase j = .answered file' → file = file') ∧
    ((served.mapM fun answer => cachedFetch fetch (path answer.1)) ([], state) =
        (served.map Prod.snd, s.returned, s.state) ∧
      (served.map Prod.fst).Nodup ∧ ∀ i file, (i, file) ∈ served ↔ s.phase i = .answered file) ∧
    ((∀ answers s', ¬ FetchStep fetch path s answers s') → ∀ i, ∃ file, s.phase i = .answered file) ∧
    n ≤ 4 * Fintype.card ι := by
  have hs := h.sound
  refine ⟨⟨hs.nodup, hs.once, fun p hp => ?_⟩, ⟨fun i file hi => ?_, ?_⟩,
    ⟨h.serial, h.nodup_served, fun i file => h.mem_served_iff⟩, fun hstuck i => ?_, ?_⟩
  · obtain ⟨file, hfile⟩ := mem_keys_iff.1 hp
    obtain ⟨c, hc, hcell⟩ := (hs.returned p file).1 hfile
    exact (hs.asked p).2 ⟨c, hc, by rw [hcell]; nofun⟩
  · exact mem_of_lookup_eq_some (hs.fits hi)
  · intro i j file file' hpath hi hj
    have hfile : s.returned.lookup (path i) = some file := hs.fits hi
    have hfile' : s.returned.lookup (path j) = some file' := hs.fits hj
    rw [hpath, hfile'] at hfile
    exact (Option.some.inj hfile).symm
  · by_contra hnot
    obtain ⟨answers, s', hstep⟩ := hs.exists_step (fun file hi => hnot ⟨file, hi⟩)
    exact hstuck answers s' hstep
  · have hle := h.add_rank_le
    omega

/-- …as when two callers hold the cell of a path before one of them begins to fill it, from a source
that answers otherwise each time. -/
theorem single_flight_of_two :
    ∃ (fetch : Text → StateM Nat Fetched) (s : Flight Bool Nat) (file : Fetched),
      FetchRun fetch (fun _ => lit "/a.md") 0 8 [(false, file), (true, file)] s ∧
      s.phase false = .answered file ∧ s.phase true = .answered file ∧
      s.asked.Nodup ∧ (lit "/a.md", file) ∈ s.returned := by
  let fetch : Text → StateM Nat Fetched := fun p n => (⟨p, Text.ofNat n, false⟩, n + 1)
  let file : Fetched := ⟨lit "/a.md", Text.ofNat 0, false⟩
  have hrun : ∃ s, FetchRun fetch (fun _ : Bool => lit "/a.md") 0 8 [(false, file), (true, file)] s :=
    ⟨_, .step (.step (.step (.step (.step (.step (.step (.step .start
      (.create (i := false) rfl rfl)) (.find (i := true) rfl rfl))
      (.miss (i := false) rfl nofun)) (.miss (i := true) rfl nofun))
      (.launch (i := false) rfl rfl)) (.wait (i := true) rfl rfl))
      (.complete (i := false) rfl rfl)) (.resume (i := true) rfl rfl)⟩
  obtain ⟨s, hrun⟩ := hrun
  obtain ⟨⟨hasked, -⟩, ⟨hreturned, -⟩, ⟨-, -, hserved⟩, -⟩ := single_flight hrun
  have hfalse : s.phase false = .answered file := (hserved _ _).1 List.mem_cons_self
  have htrue : s.phase true = .answered file :=
    (hserved _ _).1 (List.mem_cons_of_mem _ List.mem_cons_self)
  exact ⟨fetch, s, file, hrun, hfalse, htrue, hasked, hreturned false file hfalse⟩

end Run

end WikiPress.Snippet
