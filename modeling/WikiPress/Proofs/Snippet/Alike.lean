import WikiPress.Proofs.Snippet.LineByLine
import WikiPress.Proofs.Snippet.Progress

/-!
# Proofs/Snippet/Alike — hosts that answer alike

    s ──fetch──▸ s' ──pick──▸ … ──▸ s″
    │ R          │ R                │ R        the same answers all the way
    t ──fetch──▸ t' ──pick──▸ … ──▸ t″

Two hosts with states of different kinds answer alike if a relation between their states holds on and
related states give the same answers.  The relation may ask for more than holds everywhere: it need
only be kept on the way to a state that is allowed.  Then transclusions by the two hosts have the
same results, in turn (`Host.Alike.transclude`) and in any interleaving of their steps
(`Host.Alike.interleaves`).
-/

namespace WikiPress.Snippet

variable {σ τ α β : Type} {allowed : σ → Prop} {R : σ → τ → Prop}

/-! ## Computations -/

/-- **On the way to an allowed state, the second computation does as the first.** -/
structure Alike (allowed : σ → Prop) (R : σ → τ → Prop) (x : StateM σ α) (y : StateM τ α) :
    Prop where
  back : ∀ s, allowed (x s).2 → allowed s
  same : ∀ s t, R s t → allowed (x s).2 → (x s).1 = (y t).1 ∧ R (x s).2 (y t).2

namespace Alike

theorem pure (a : α) : Alike allowed R (pure a) (pure a) where
  back := fun _ h => h
  same := fun _ _ h _ => ⟨rfl, h⟩

theorem bind {x : StateM σ α} {y : StateM τ α} {f : α → StateM σ β} {g : α → StateM τ β}
    (h : Alike allowed R x y) (h' : ∀ a, Alike allowed R (f a) (g a)) :
    Alike allowed R (x >>= f) (y >>= g) where
  back := fun s hallowed => h.back s ((h' _).back _ hallowed)
  same := fun s t hR hallowed => by
    obtain ⟨hsame, hnext⟩ := h.same s t hR ((h' _).back _ hallowed)
    have hrest := (h' (x s).1).same _ _ hnext hallowed
    rw [stateM_bind_apply, stateM_bind_apply, ← hsame]
    exact hrest

end Alike

/-- **Two hosts answer alike.** -/
structure Host.Alike (allowed : σ → Prop) (R : σ → τ → Prop) (host : Host σ) (other : Host τ) :
    Prop where
  evaluate : host.evaluate = other.evaluate
  fetch : ∀ path, Snippet.Alike allowed R (host.fetch path) (other.fetch path)
  pick : ∀ count, Snippet.Alike allowed R (host.pick count) (other.pick count)

namespace Host.Alike

variable {host : Host σ} {other : Host τ} (h : host.Alike allowed R other)

include h

/-! ## In turn -/

theorem clip (parameter text : Text) :
    Snippet.Alike allowed R (Snippet.clip host.pick parameter text)
      (Snippet.clip other.pick parameter text) := by
  rw [Snippet.clip, Snippet.clip]
  split
  · exact .pure _
  · split
    · exact .pure _
    · split
      · exact .bind (h.pick _) fun _ => .pure _
      · exact .pure _

theorem snippet (d : Directive) (data : Text) :
    Snippet.Alike allowed R (Snippet.snippet host.pick d data)
      (Snippet.snippet other.pick d data) := by
  rw [Snippet.snippet, Snippet.snippet]
  split
  · exact .pure _
  · split
    · exact h.clip _ _
    · exact .pure _

theorem fetchAll (groups : List Group) :
    Snippet.Alike allowed R (Snippet.fetchAll host groups) (Snippet.fetchAll other groups) := by
  induction groups with
  | nil => exact .pure _
  | cons g rest ih => exact .bind (h.fetch _) fun _ => .bind ih fun _ => .pure _

variable {inner : Text → StateM σ (Option Text)} {inner' : Text → StateM τ (Option Text)}
  (hinner : ∀ text, Snippet.Alike allowed R (inner text) (inner' text))

include hinner

theorem expand (file : Fetched) (data : Text) (d : Directive) :
    Snippet.Alike allowed R (Snippet.expand host inner file data d)
      (Snippet.expand other inner' file data d) := by
  refine .bind (h.snippet d data) fun taken => ?_
  dsimp only
  split
  · exact .pure _
  · exact .bind (hinner _) fun _ => .pure _

theorem expandLines (file : Fetched) (data : Text) (ds : List Directive) :
    Snippet.Alike allowed R (Snippet.expandLines host inner file data ds)
      (Snippet.expandLines other inner' file data ds) := by
  induction ds with
  | nil => exact .pure _
  | cons d rest ih =>
    exact .bind (h.expand hinner file data d) fun _ => .bind ih fun _ => .pure _

theorem expandAll (files : List (Group × Fetched)) :
    Snippet.Alike allowed R (Snippet.expandAll host inner files)
      (Snippet.expandAll other inner' files) := by
  induction files with
  | nil => exact .pure _
  | cons entry rest ih =>
    rw [Snippet.expandAll, Snippet.expandAll, h.evaluate]
    exact .bind (h.expandLines hinner _ _ _) fun _ => .bind ih fun _ => .pure _

omit hinner

/-- **Transclusions by hosts that answer alike have the same result.** -/
theorem transclude (depth : Nat) (visited : Visited) (text : Text) :
    Snippet.Alike allowed R (Snippet.transclude host depth visited text)
      (Snippet.transclude other depth visited text) := by
  induction depth generalizing visited text with
  | zero => exact .pure _
  | succ depth ih =>
    by_cases hnone : (scan visited text).targets = []
    · rw [transclude_of_closed host hnone, transclude_of_closed other hnone]
      exact .pure _
    · rw [transclude_of_open host hnone, transclude_of_open other hnone]
      exact .bind (h.fetchAll _) fun _ => .bind (h.expandAll (ih _) _) fun _ => .pure _

end Host.Alike

/-! ## Interleaved -/

/-- The outside of a step for which nothing is asked. -/
def Outside.silent (evaluate : Text → Script.Scope → Except Script.Fault Text) : Outside where
  answers _ _ := False
  evaluate := evaluate
  picks _ _ := False

open Progress in
/-- **A step of a transclusion by a host**: one fetch, or one choice, or a step for which the host is
not asked. -/
inductive Host.Advances (host : Host σ) : Progress → σ → Progress → σ → Prop
  | quiet {a events b s} (h : Step (.silent host.evaluate) a events b) : Advances host a s b s
  | arrive {visited text files path s} (hpath : path ∈ (scan visited text).targets)
      (hnew : files path = none) :
      Advances host (fetching visited text files) s
        (fetching visited text (Function.update files path (some (host.fetch path s).1)))
        (host.fetch path s).2
  | take {visited d file s} :
      Advances host (waiting visited d file) s
        (taken visited d (snippet host.pick d (content host.evaluate d.target file) s).1)
        (snippet host.pick d (content host.evaluate d.target file) s).2
  | inner {visited text file parts d s next s'} (hd : d ∈ (scan visited text).directives)
      (h : Advances host (parts d) s next s') :
      Advances host (splicing visited text file parts) s
        (splicing visited text file (Function.update parts d next)) s'

/-- Steps of a transclusion by a host, one after the other. -/
inductive Host.Interleaves (host : Host σ) : Progress → σ → Progress → σ → Prop
  | refl {a s} : Interleaves host a s a s
  | step {a s b s' c s''} (h : host.Advances a s b s') (run : Interleaves host b s' c s'') :
      Interleaves host a s c s''

namespace Host.Alike

variable {host : Host σ} {other : Host τ} {a b : Progress} {s s' : σ} {t : τ}
  (h : host.Alike allowed R other)

include h

theorem back_of_advances (hstep : host.Advances a s b s') (hallowed : allowed s') : allowed s := by
  induction hstep with
  | quiet => exact hallowed
  | arrive => exact (h.fetch _).back _ hallowed
  | take => exact (h.snippet _ _).back _ hallowed
  | inner _ _ ih => exact ih hallowed

theorem advances (hstep : host.Advances a s b s') (hR : R s t) (hallowed : allowed s') :
    ∃ t', other.Advances a t b t' ∧ R s' t' := by
  induction hstep with
  | quiet hquiet =>
    rw [h.evaluate] at hquiet
    exact ⟨t, .quiet hquiet, hR⟩
  | arrive hpath hnew =>
    obtain ⟨hsame, hnext⟩ := (h.fetch _).same _ _ hR hallowed
    rw [hsame]
    exact ⟨_, .arrive hpath hnew, hnext⟩
  | take =>
    obtain ⟨hsame, hnext⟩ := (h.snippet _ _).same _ _ hR hallowed
    rw [hsame, h.evaluate]
    exact ⟨_, .take, by rwa [← h.evaluate]⟩
  | inner hd _ ih =>
    obtain ⟨t', hstep, hnext⟩ := ih hR hallowed
    exact ⟨t', .inner hd hstep, hnext⟩

theorem back_of_interleaves (hrun : host.Interleaves a s b s') (hallowed : allowed s') :
    allowed s := by
  induction hrun with
  | refl => exact hallowed
  | step hstep _ ih => exact h.back_of_advances hstep (ih hallowed)

/-- **Whatever steps one host takes, the other can take as well.** -/
theorem interleaves (hrun : host.Interleaves a s b s') (hR : R s t) (hallowed : allowed s') :
    ∃ t', other.Interleaves a t b t' ∧ R s' t' := by
  induction hrun generalizing t with
  | refl => exact ⟨t, .refl, hR⟩
  | step hstep hrest ih =>
    obtain ⟨t₁, hfirst, hR₁⟩ := h.advances hstep hR (h.back_of_interleaves hrest hallowed)
    obtain ⟨t₂, hlater, hR₂⟩ := ih hR₁ hallowed
    exact ⟨t₂, .step hfirst hlater, hR₂⟩

end Host.Alike

/-! ## Resolutions -/

/-- The order in which a host runs a transclusion. -/
inductive Order where
  /-- One fetch and one expansion after the other, with calls nested to a depth. -/
  | inTurn (depth : Nat)
  /-- Any step that is possible. -/
  | interleaved

/-- **A host resolves a text**, with this result and in this state afterwards. -/
def Host.Resolves (host : Host σ) (order : Order) (visited : Visited) (text : Text) (s : σ)
    (out : Text) (s' : σ) : Prop :=
  match order with
  | .inTurn depth => transclude host depth visited text s = (some out, s')
  | .interleaved => host.Interleaves (.ready visited text) s (.done out) s'

/-- In turn, a text has one result. -/
theorem Host.resolves_inTurn_iff {host : Host σ} {depth : Nat} {visited : Visited}
    {text out : Text} {s : σ} :
    (∃ s', host.Resolves (.inTurn depth) visited text s out s') ↔
      (Snippet.transclude host depth visited text s).1 = some out :=
  ⟨fun ⟨_, h⟩ => congrArg Prod.fst h, fun h => ⟨_, Prod.ext h rfl⟩⟩

/-- **Where one host resolves a text, the other does so with the same result.** -/
theorem Host.Alike.resolves {host : Host σ} {other : Host τ} (h : host.Alike allowed R other)
    {order : Order} {visited : Visited} {text out : Text} {s s' : σ} {t : τ}
    (hresolves : host.Resolves order visited text s out s') (hR : R s t) (hallowed : allowed s') :
    ∃ t', other.Resolves order visited text t out t' ∧ R s' t' := by
  cases order with
  | interleaved => exact h.interleaves hresolves hR hallowed
  | inTurn depth =>
    have hsnd := congrArg Prod.snd hresolves
    obtain ⟨hsame, hnext⟩ := (h.transclude depth visited text).same s t hR (hsnd ▸ hallowed)
    rw [hsnd] at hnext
    rw [congrArg Prod.fst hresolves] at hsame
    exact ⟨_, Prod.ext hsame.symm rfl, hnext⟩

end WikiPress.Snippet
