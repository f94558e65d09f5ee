import Mathlib.Data.List.Basic
import WikiPress.Proofs.Snippet.Alike
import WikiPress.Snippet.Cache

/-!
# Proofs/Snippet/Session — a cached session reads from a frozen store

    fetch a   set a   resolve (a, b)   set b   resolve (b)   clear   fetch a
    ├ a ───────────────────────────────────────────────────┤         ├ a ──
                      ├ b ─────────────────────────────────┤

What a document held when it was first fetched is what every fetch after that gives, whether it comes
from outside or from deep inside a resolution, until the cache is cleared (`Session.frozen`).  A
session is coherent if its cache holds just that and the store was asked for just that, once each
(`Session.Coherent`).  So a resolution in a session cannot be told apart from one without a cache on
a store that is frozen (`session_eq_frozen`).
-/

namespace WikiPress.Snippet

/-!
## Fetching through the cache

A fetch through the cache changes nothing if the path is there (`cachedFetch_of_mem`); otherwise it
asks the source once and keeps what it got (`cachedFetch_of_not_mem`).
-/

section Lookup

variable {cache : List (Text × Fetched)} {path : Text}

theorem lookup_eq_none_iff_not_mem : cache.lookup path = none ↔ path ∉ cache.map Prod.fst := by
  rw [List.lookup_eq_none_iff, List.mem_map]
  constructor
  · rintro h ⟨entry, hentry, rfl⟩
    have hne := h entry hentry
    simp at hne
  · intro h entry hentry
    exact bne_iff_ne.2 fun heq => h ⟨entry, hentry, heq.symm⟩

theorem mem_keys_iff : path ∈ cache.map Prod.fst ↔ ∃ file, cache.lookup path = some file := by
  rw [← Option.ne_none_iff_exists', Ne, lookup_eq_none_iff_not_mem, not_not]

/-- What is found is there. -/
theorem mem_of_lookup_eq_some {file : Fetched} (h : cache.lookup path = some file) :
    (path, file) ∈ cache := by
  obtain ⟨before, after, rfl, -⟩ := List.lookup_eq_some_iff.1 h
  exact List.mem_append_right _ List.mem_cons_self

/-- An entry in front is found first. -/
theorem lookup_cons (p : Text) (file : Fetched) :
    ((path, file) :: cache).lookup p = if p = path then some file else cache.lookup p := by
  rw [List.lookup_cons]
  split
  · next heq => rw [if_pos (beq_iff_eq.1 heq)]
  · next hne => rw [if_neg (beq_eq_false_iff_ne.1 hne)]

/-- An entry at the end is found if there was none. -/
theorem lookup_concat (p : Text) (file : Fetched) :
    (cache ++ [(path, file)]).lookup p =
      if p = path then some ((cache.lookup path).getD file) else cache.lookup p := by
  rw [List.lookup_append, lookup_cons, List.lookup_nil]
  split
  · next heq =>
    subst heq
    cases cache.lookup p <;> rfl
  · exact Option.or_none

end Lookup

section Fetch

variable {σ : Type} {fetch : Text → StateM σ Fetched} {path : Text} {cache : Cache} {state : σ}

theorem cachedFetch_of_mem {file : Fetched} (h : cache.lookup path = some file) :
    cachedFetch fetch path (cache, state) = (file, cache, state) := by
  simp only [cachedFetch, h]

theorem cachedFetch_of_not_mem (h : cache.lookup path = none) :
    cachedFetch fetch path (cache, state) =
      ((fetch path state).1, (path, (fetch path state).1) :: cache, (fetch path state).2) := by
  rw [cachedFetch, h]
  rfl

end Fetch

/-! ## Sessions -/

/-- A store of documents that may change, with the paths it was asked for and the state of whoever
chooses at random. -/
structure Store (π : Type) where
  /-- What the store has at a path, a document or the message why there is none. -/
  files : Text → Fetched
  asked : List Text
  random : π

/-- What a resolver has besides its documents. -/
structure Resolver (π : Type) where
  evaluate : Text → Script.Scope → Except Script.Fault Text
  pick : Nat → StateM π Nat

/-- A session since its cache was last cleared: the fetches, each with what the store held just then,
the cache, and the store. -/
structure Session (π : Type) where
  calls : List (Text × Fetched)
  cache : Cache
  store : Store π

variable {π : Type}

/-- The host of a resolver without a cache. -/
def Resolver.host (resolver : Resolver π) : Host (Store π) where
  fetch path := fun store => (store.files path, { store with asked := store.asked ++ [path] })
  evaluate := resolver.evaluate
  pick count := fun store =>
    ((resolver.pick count store.random).1,
      { store with random := (resolver.pick count store.random).2 })

/-- **The host of a session**: the cached host, with a note of every fetch. -/
def Resolver.session (resolver : Resolver π) : Host (Session π) where
  fetch path := fun s =>
    let (file, cache, store) := resolver.host.cached.fetch path (s.cache, s.store)
    (file, ⟨s.calls ++ [(path, s.store.files path)], cache, store⟩)
  evaluate := resolver.host.cached.evaluate
  pick count := fun s =>
    let (index, cache, store) := resolver.host.cached.pick count (s.cache, s.store)
    (index, ⟨s.calls, cache, store⟩)

namespace Session

/-- A session that begins. -/
def start (files : Text → Fetched) (random : π) : Session π := ⟨[], [], ⟨files, [], random⟩⟩

/-- The session after a document was written. -/
def set (path : Text) (file : Fetched) (s : Session π) : Session π :=
  { s with store := { s.store with files := Function.update s.store.files path file } }

/-- The session after the cache was cleared: the notes begin anew. -/
def clear (s : Session π) : Session π := start s.store.files s.store.random

/-- **What a document held when it was first fetched**; what it holds now if it was not. -/
def frozen (s : Session π) (path : Text) : Fetched :=
  (s.calls.lookup path).getD (s.store.files path)

/-- The paths fetched between two states of a session. -/
def touched (s s' : Session π) : List Text := (s'.calls.drop s.calls.length).map Prod.fst

end Session

/-- What a session may be asked for. -/
inductive Request where
  | resolve (order : Order) (visited : Visited) (text : Text)
  | fetch (path : Text)
  | set (path : Text) (file : Fetched)
  | clear

/-- What it answers. -/
inductive Reply where
  | text (out : Text)
  | file (file : Fetched)
  | done

/-- **A step of a session.** -/
inductive Resolver.Serves (resolver : Resolver π) : Session π → Request → Reply → Session π → Prop
  | resolve {order visited text s out s'}
      (h : resolver.session.Resolves order visited text s out s') :
      Serves resolver s (.resolve order visited text) (.text out) s'
  | fetch (path s) :
      Serves resolver s (.fetch path) (.file (resolver.session.fetch path s).1)
        (resolver.session.fetch path s).2
  | set (path file s) : Serves resolver s (.set path file) .done (s.set path file)
  | clear (s) : Serves resolver s .clear .done s.clear

/-- **A session that is reached** by steps one after the other. -/
inductive Resolver.Reached (resolver : Resolver π) : Session π → Prop
  | start (files random) : Reached resolver (.start files random)
  | step {s request reply s'} (h : Reached resolver s)
      (hserves : resolver.Serves s request reply s') : Reached resolver s'

/-! ## Without the notes -/

section Notes

variable (resolver : Resolver π)

/-- A session is a state of the cached host, with notes. -/
theorem alike_cached :
    resolver.session.Alike (fun _ => True)
      (fun s c => c = (s.cache, s.store)) resolver.host.cached where
  evaluate := rfl
  fetch := fun path => ⟨fun _ h => h, fun s c h _ => by subst h; exact ⟨rfl, rfl⟩⟩
  pick := fun count => ⟨fun _ h => h, fun s c h _ => by subst h; exact ⟨rfl, rfl⟩⟩

theorem cached_alike :
    resolver.host.cached.Alike (fun _ => True)
      (fun c s => c = (s.cache, s.store)) resolver.session where
  evaluate := rfl
  fetch := fun path => ⟨fun _ h => h, fun c s h _ => by subst h; exact ⟨rfl, rfl⟩⟩
  pick := fun count => ⟨fun _ h => h, fun c s h _ => by subst h; exact ⟨rfl, rfl⟩⟩

/-- **A session resolves as the cached host does**: the notes change nothing. -/
theorem resolves_session_iff {order : Order} {visited : Visited} {text out : Text} {s : Session π}
    {cache : Cache} {store : Store π} :
    resolver.host.cached.Resolves order visited text (s.cache, s.store) out (cache, store) ↔
      ∃ calls, resolver.session.Resolves order visited text s out ⟨calls, cache, store⟩ := by
  constructor
  · intro h
    obtain ⟨s', hs', heq⟩ := (cached_alike resolver).resolves h rfl trivial
    obtain ⟨rfl, rfl⟩ := Prod.mk.inj heq
    exact ⟨s'.calls, hs'⟩
  · rintro ⟨calls, h⟩
    obtain ⟨c, hc, rfl⟩ := (alike_cached resolver).resolves h rfl trivial
    exact hc

end Notes

/-! ## Coherence -/

namespace Session

/-- **The cache holds what was first fetched, and the store was asked for that, once each.** -/
structure Coherent (s : Session π) : Prop where
  cache : ∀ path, s.cache.lookup path = s.calls.lookup path
  nodup : s.store.asked.Nodup
  asked : ∀ path, path ∈ s.store.asked ↔ path ∈ s.calls.map Prod.fst

theorem coherent_start (files : Text → Fetched) (random : π) : (start files random).Coherent where
  cache := fun _ => rfl
  nodup := List.nodup_nil
  asked := fun _ => Iff.rfl

theorem Coherent.set {s : Session π} (h : s.Coherent) (path : Text) (file : Fetched) :
    (s.set path file).Coherent := ⟨h.cache, h.nodup, h.asked⟩

theorem files_set_self (s : Session π) (path : Text) (file : Fetched) :
    (s.set path file).store.files path = file := by
  simp [set]

section Fetch

variable {resolver : Resolver π} {s : Session π} {path : Text} {file : Fetched}

/-- A document that is in the cache is not asked for, -/
theorem fetch_of_mem (h : s.cache.lookup path = some file) :
    resolver.session.fetch path s =
      (file, ⟨s.calls ++ [(path, s.store.files path)], s.cache, s.store⟩) := by
  simp only [Resolver.session, Host.cached, cachedFetch_of_mem h]

/-- …and one that is not comes from the store and goes into the cache. -/
theorem fetch_of_not_mem (h : s.cache.lookup path = none) :
    resolver.session.fetch path s =
      (s.store.files path, ⟨s.calls ++ [(path, s.store.files path)],
        (path, s.store.files path) :: s.cache,
        { s.store with asked := s.store.asked ++ [path] }⟩) := by
  simp only [Resolver.session, Host.cached, cachedFetch_of_not_mem h, Resolver.host]

theorem calls_fetch :
    (resolver.session.fetch path s).2.calls = s.calls ++ [(path, s.store.files path)] := rfl

theorem files_fetch : (resolver.session.fetch path s).2.store.files = s.store.files := by
  cases h : s.cache.lookup path with
  | none => rw [fetch_of_not_mem h]
  | some file => rw [fetch_of_mem h]

/-- **A fetch answers what the document held when it was first fetched**, -/
theorem Coherent.fst_fetch (h : s.Coherent) : (resolver.session.fetch path s).1 = s.frozen path := by
  have hcache := h.cache path
  rw [frozen, ← hcache]
  cases hlookup : s.cache.lookup path with
  | none => rw [fetch_of_not_mem hlookup]; rfl
  | some file => rw [fetch_of_mem hlookup]; rfl

/-- …and changes that of no document. -/
theorem frozen_fetch : (resolver.session.fetch path s).2.frozen = s.frozen := by
  funext p
  rw [frozen, frozen, files_fetch, calls_fetch, lookup_concat]
  split
  · next heq => rw [heq, Option.getD_some]
  · rfl

theorem keys_calls_fetch :
    (resolver.session.fetch path s).2.calls.map Prod.fst = s.calls.map Prod.fst ++ [path] :=
  List.map_append

/-- A fetch of what is in the cache adds nothing to what was first fetched, -/
theorem Coherent.fetch_of_mem (h : s.Coherent) (hlookup : s.cache.lookup path = some file) :
    (resolver.session.fetch path s).2.Coherent := by
  have hcalls : s.calls.lookup path = some file := by rw [← h.cache, hlookup]
  have hmem : path ∈ s.calls.map Prod.fst := mem_keys_iff.2 ⟨file, hcalls⟩
  refine ⟨fun p => ?_, ?_, fun p => ?_⟩
  · rw [Session.fetch_of_mem hlookup, h.cache, lookup_concat]
    split
    · next heq => rw [heq, hcalls, Option.getD_some]
    · rfl
  · rw [Session.fetch_of_mem hlookup]
    exact h.nodup
  · rw [keys_calls_fetch, Session.fetch_of_mem hlookup, h.asked, List.mem_append,
      List.mem_singleton, or_iff_left_of_imp]
    rintro rfl
    exact hmem

/-- …and a fetch of anything else asks for it for the first time. -/
theorem Coherent.fetch_of_not_mem (h : s.Coherent) (hlookup : s.cache.lookup path = none) :
    (resolver.session.fetch path s).2.Coherent := by
  have hcalls : s.calls.lookup path = none := by rw [← h.cache, hlookup]
  have hnew : path ∉ s.store.asked := by
    rw [h.asked]
    exact lookup_eq_none_iff_not_mem.1 hcalls
  have hnodup : (s.store.asked ++ [path]).Nodup := List.concat_eq_append ▸ h.nodup.concat hnew
  refine ⟨fun p => ?_, ?_, fun p => ?_⟩
  · rw [Session.fetch_of_not_mem hlookup, lookup_concat, lookup_cons, hcalls, Option.getD_none,
      h.cache]
  · rw [Session.fetch_of_not_mem hlookup]
    exact hnodup
  · rw [keys_calls_fetch, Session.fetch_of_not_mem hlookup, List.mem_append, List.mem_append, h.asked]

/-- **A fetch keeps a session coherent.** -/
theorem Coherent.fetch (h : s.Coherent) : (resolver.session.fetch path s).2.Coherent := by
  cases hlookup : s.cache.lookup path with
  | some file => exact h.fetch_of_mem hlookup
  | none => exact h.fetch_of_not_mem hlookup

end Fetch

end Session

/-! ## Frozen stores -/

/-- **A store holds what a session has frozen**, at the paths in `here`, and both choose alike. -/
structure Thaws (here : Text → Prop) (first : Nat) (frozen : Text → Fetched) (s : Session π)
    (store : Store π) : Prop where
  coherent : s.Coherent
  same : s.frozen = frozen
  random : store.random = s.store.random
  first : first ≤ s.calls.length
  files : ∀ path, here path → store.files path = frozen path

section Thaws

variable (resolver : Resolver π) {here : Text → Prop} {first : Nat} {frozen : Text → Fetched}

/-- A fetch of one of these paths gives the same on both sides, and keeps them so. -/
theorem Thaws.fetch {s : Session π} {store : Store π} (h : Thaws here first frozen s store)
    {path : Text} (hpath : here path) :
    (resolver.session.fetch path s).1 = (resolver.host.fetch path store).1 ∧
      Thaws here first frozen (resolver.session.fetch path s).2
        (resolver.host.fetch path store).2 := by
  have hrandom : (resolver.session.fetch path s).2.store.random = s.store.random := by
    cases hlookup : s.cache.lookup path with
    | none => rw [Session.fetch_of_not_mem hlookup]
    | some file => rw [Session.fetch_of_mem hlookup]
  refine ⟨?_, h.coherent.fetch, Session.frozen_fetch.trans h.same, h.random.trans hrandom.symm, ?_,
    h.files⟩
  · rw [h.coherent.fst_fetch, h.same, ← h.files path hpath]
    rfl
  · rw [Session.calls_fetch, List.length_append]
    exact Nat.le_add_right_of_le h.first

theorem Thaws.pick {s : Session π} {store : Store π} (h : Thaws here first frozen s store)
    (count : Nat) :
    (resolver.session.pick count s).1 = (resolver.host.pick count store).1 ∧
      Thaws here first frozen (resolver.session.pick count s).2
        (resolver.host.pick count store).2 := by
  have hsame : resolver.pick count store.random = resolver.pick count s.store.random := by
    rw [h.random]
  refine ⟨congrArg Prod.fst hsame.symm, ⟨h.coherent.cache, h.coherent.nodup, h.coherent.asked⟩,
    h.same, congrArg Prod.snd hsame, h.first, h.files⟩

/-- **A session cannot be told apart from a store that holds what it fetches.** -/
theorem session_alike :
    resolver.session.Alike (fun s => ∀ path ∈ (s.calls.drop first).map Prod.fst, here path)
      (Thaws here first frozen) resolver.host where
  evaluate := rfl
  fetch := fun path => ⟨fun s hallowed p hp => by
      refine hallowed p ?_
      rw [Session.calls_fetch, List.drop_append, List.map_append]
      exact List.mem_append_left _ hp, fun s store h hallowed => by
      refine h.fetch resolver (hallowed path ?_)
      rw [Session.calls_fetch, List.drop_append_of_le_length h.first, List.map_append]
      exact List.mem_append_right _ List.mem_cons_self⟩
  pick := fun count => ⟨fun _ hallowed => hallowed, fun _ _ h _ => h.pick resolver count⟩

/-- …nor a store that holds all of it from the session. -/
theorem alike_session :
    resolver.host.Alike (fun _ => True)
      (fun store s => Thaws (fun _ => True) first frozen s store) resolver.session where
  evaluate := rfl
  fetch := fun path => ⟨fun _ h => h, fun store s h _ => by
      have hpath : (fun _ : Text => True) path := trivial
      obtain ⟨hsame, hnext⟩ := h.fetch resolver hpath
      exact ⟨hsame.symm, hnext⟩⟩
  pick := fun count => ⟨fun _ h => h, fun store s h _ => by
      obtain ⟨hsame, hnext⟩ := h.pick resolver count
      exact ⟨hsame.symm, hnext⟩⟩

end Thaws

/-! ## Sessions that are reached -/

section Reached

variable {resolver : Resolver π} {s s' : Session π}

theorem thaws_self (h : s.Coherent) :
    Thaws (fun _ => True) s.calls.length s.frozen s { s.store with files := s.frozen } :=
  ⟨h, rfl, rfl, Nat.le_refl _, fun _ _ => rfl⟩

theorem Resolver.Serves.coherent {request : Request} {reply : Reply}
    (h : resolver.Serves s request reply s') (hs : s.Coherent) : s'.Coherent := by
  cases h with
  | resolve h =>
    obtain ⟨store', -, hthaws⟩ :=
      (session_alike resolver).resolves h (thaws_self hs) fun _ _ => trivial
    exact hthaws.coherent
  | fetch => exact hs.fetch
  | set => exact hs.set _ _
  | clear => exact Session.coherent_start _ _

/-- **A session that is reached is coherent.** -/
theorem Resolver.Reached.coherent (h : resolver.Reached s) : s.Coherent := by
  induction h with
  | start => exact Session.coherent_start _ _
  | step _ hserves ih => exact hserves.coherent ih

/-- **No step but clearing the cache changes what a path held when it was first fetched.** -/
theorem Resolver.Serves.frozen_eq {request : Request} {reply : Reply}
    (h : resolver.Serves s request reply s') (hs : s.Coherent) (hclear : request ≠ .clear)
    {path : Text} (hpath : path ∈ s.calls.map Prod.fst) : s'.frozen path = s.frozen path := by
  cases h with
  | resolve h =>
    obtain ⟨store', -, hthaws⟩ :=
      (session_alike resolver).resolves h (thaws_self hs) fun _ _ => trivial
    rw [hthaws.same]
  | fetch => rw [Session.frozen_fetch]
  | set =>
    obtain ⟨file, hfile⟩ := mem_keys_iff.1 hpath
    simp only [Session.frozen, Session.set, hfile, Option.getD_some]
  | clear => exact absurd rfl hclear

/-- **A cached session reads from a frozen store.**  In every session that is reached:

1. since the cache was last cleared the store was asked for every path at most once, for exactly
   those that were fetched;
2. a fetch answers what the path held when it was first fetched since then, and no step but clearing
   changes that;
3. a resolution has the result that it has without a cache, in the same order, on any store that
   holds what is frozen at the paths it touches, if the same slices are chosen;
4. it returns exactly if it does without a cache on a store that holds all that is frozen. -/
theorem session_eq_frozen (h : resolver.Reached s) :
    (s.store.asked.Nodup ∧ ∀ path, path ∈ s.store.asked ↔ path ∈ s.calls.map Prod.fst) ∧
    ((∀ path reply s', resolver.Serves s (.fetch path) reply s' → reply = .file (s.frozen path)) ∧
      ∀ request reply s', resolver.Serves s request reply s' → request ≠ .clear →
        ∀ path ∈ s.calls.map Prod.fst, s'.frozen path = s.frozen path) ∧
    (∀ order visited text reply s', resolver.Serves s (.resolve order visited text) reply s' →
      ∀ store : Store π, store.random = s.store.random →
        (∀ path ∈ s.touched s', store.files path = s.frozen path) →
        ∃ out store', reply = .text out ∧
          resolver.host.Resolves order visited text store out store') ∧
    ∀ order visited text out (store : Store π), store.random = s.store.random →
      store.files = s.frozen →
      ((∃ s', resolver.Serves s (.resolve order visited text) (.text out) s') ↔
        ∃ store', resolver.host.Resolves order visited text store out store') := by
  have hcoherent := h.coherent
  refine ⟨⟨hcoherent.nodup, hcoherent.asked⟩, ⟨?_, fun request reply s' hserves hclear path hpath =>
    hserves.frozen_eq hcoherent hclear hpath⟩, ?_, ?_⟩
  · rintro path reply s' ⟨⟩
    rw [hcoherent.fst_fetch]
  · rintro order visited text reply s' ⟨hresolves⟩ store hrandom hfiles
    obtain ⟨store', hstore, -⟩ := (session_alike resolver).resolves hresolves
      (⟨hcoherent, rfl, hrandom, Nat.le_refl _, hfiles⟩ : Thaws _ _ _ _ store) fun _ hp => hp
    exact ⟨_, store', rfl, hstore⟩
  · intro order visited text out store hrandom hfiles
    have hthaws : Thaws (fun _ => True) s.calls.length s.frozen s store :=
      ⟨hcoherent, rfl, hrandom, Nat.le_refl _, fun path _ => congrFun hfiles path⟩
    constructor
    · rintro ⟨s', ⟨hresolves⟩⟩
      obtain ⟨store', hstore, -⟩ :=
        (session_alike resolver).resolves hresolves hthaws fun _ _ => trivial
      exact ⟨store', hstore⟩
    · rintro ⟨store', hstore⟩
      obtain ⟨s', hs', -⟩ := (alike_session resolver).resolves hstore hthaws trivial
      exact ⟨s', .resolve hs'⟩

/-- …as after a document was fetched and then written: fetches and resolutions still see what it
held. -/
theorem session_eq_frozen_of_write :
    ∃ (resolver : Resolver Unit) (s : Session Unit), resolver.Reached s ∧
      s.store.files (lit "/a.md") = ⟨lit "/a.md", lit "new", false⟩ ∧
      (∀ reply s', resolver.Serves s (.fetch (lit "/a.md")) reply s' →
        reply = .file ⟨lit "/a.md", lit "old", false⟩) ∧
      ∃ s', resolver.Serves s (.resolve (.inTurn 2) .empty (lit "x\n[+](/a.md)")) (.text (lit "x\nold"))
        s' := by
  set resolver : Resolver Unit := ⟨fun _ _ => .ok [], fun _ => pure 0⟩ with hresolver
  have hsession : ∃ s : Session Unit, resolver.Reached s ∧
      s.store.files (lit "/a.md") = ⟨lit "/a.md", lit "new", false⟩ ∧
      s.frozen (lit "/a.md") = ⟨lit "/a.md", lit "old", false⟩ ∧
      (transclude resolver.host 2 .empty (lit "x\n[+](/a.md)") ⟨s.frozen, [], ()⟩).1 =
        some (lit "x\nold") := by
    refine ⟨_, .step (.step (.start (Source.ofDocuments [(lit "/a.md", lit "old")]).file ())
      (.fetch (lit "/a.md") _)) (.set (lit "/a.md") ⟨lit "/a.md", lit "new", false⟩ _), ?_, ?_, ?_⟩
    · exact Session.files_set_self _ _ _
    · rw [hresolver]
      decide +kernel
    · rw [hresolver]
      decide +kernel
  obtain ⟨s, hreached, hfile, hfrozen, hout⟩ := hsession
  obtain ⟨-, ⟨hfetch, -⟩, -, hresolve⟩ := session_eq_frozen hreached
  refine ⟨resolver, s, hreached, hfile, fun reply s' hserves => ?_, ?_⟩
  · rw [← hfrozen]
    exact hfetch _ _ _ hserves
  · exact (hresolve (.inTurn 2) .empty _ _ ⟨s.frozen, [], ()⟩ rfl rfl).2
      (Host.resolves_inTurn_iff.2 hout)

end Reached

end WikiPress.Snippet
