import WikiPress.Snippet.Transclusion

/-!
# Snippet/Cache — fetching every document at most once

A cached source asks the source behind it the first time a path is fetched and answers from what it
got ever after, failures included, until it is cleared.
-/

namespace WikiPress.Snippet

/-- What has been fetched, by path. -/
abbrev Cache := List (Text × Fetched)

/-- **Fetch through the cache.** -/
def cachedFetch {σ : Type} (fetch : Text → StateM σ Fetched) (path : Text) :
    StateM (Cache × σ) Fetched := fun (cache, state) =>
  match cache.lookup path with
  | some file => (file, cache, state)
  | none =>
    let (file, state) := fetch path state
    (file, (path, file) :: cache, state)

/-- A host whose documents are fetched through a cache. -/
def Host.cached {σ : Type} (host : Host σ) : Host (Cache × σ) where
  fetch := cachedFetch host.fetch
  evaluate := host.evaluate
  pick count := fun (cache, state) =>
    let (index, state) := host.pick count state
    (index, cache, state)

end WikiPress.Snippet
