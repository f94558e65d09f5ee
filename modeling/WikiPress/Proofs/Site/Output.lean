import WikiPress.Proofs.Files.Tree
import WikiPress.Proofs.Files.Writing
import WikiPress.Site.Build
import Mathlib.Data.List.Nodup

/-!
# Proofs/Site/Output — where pages are written

    trail     guide, intro.md     ──▸    output ⋅ guide/intro.html
    trail     guide, intro.v2.md  ──▸    output ⋅ guide/intro.v2.html

The pages of a wiki are listed once each, by trails of proper names (`pages_eq_ok`).  A page is
written below the output directory, under its own trail with another extension
(`IsPageTrail.outputOf_eq`), and a trail that ends with the extension of pages is told by what stands
in front of it, so two pages are never written to one place (`outputNames_injective`).
-/

namespace WikiPress.Site

open Files (Entry Location)
open WikiPress.Path (IsProper)

/-! ## The place of a page -/

/-- The names of a page's place below the output directory. -/
def outputNames (trail : List Text) : List Text :=
  match trail with
  | [] => []
  | _ => trail.dropLast ++ [(Location.splitName (trail.getLastD [])).1 ++ lit ".html"]

/-- **A trail of a page**: proper names, of which the last has the extension of pages. -/
structure IsPageTrail (trail : List Text) : Prop where
  proper : ∀ name ∈ trail, IsProper name
  extension : ∀ name ∈ trail.getLast?,
    Location.splitName name = ((Location.splitName name).1, some (lit "md"))

theorem outputNames_concat (front : List Text) (name : Text) :
    outputNames (front ++ [name]) = front ++ [(Location.splitName name).1 ++ lit ".html"] := by
  obtain ⟨first, rest, hcons⟩ := List.exists_cons_of_ne_nil (List.append_ne_nil_of_right_ne_nil front
    (List.cons_ne_nil name []))
  rw [outputNames.eq_def, hcons]
  dsimp only
  rw [← hcons, List.dropLast_concat, List.getLastD_concat]

namespace IsPageTrail

variable {trail trail' front : List Text} {name : Text}

/-- The last name of a page is its stem and the extension of pages. -/
theorem exists_stem (h : IsPageTrail (front ++ [name])) :
    ∃ stem, stem ≠ [] ∧ name = stem ++ lit ".md" ∧
      Location.splitName name = (stem, some (lit "md")) := by
  have hsplit := h.extension name (by rw [List.getLast?_concat]; rfl)
  obtain ⟨hne, hname⟩ := Location.eq_of_splitName hsplit
  exact ⟨_, hne, hname, hsplit⟩

/-- The place of a page has proper names, too. -/
theorem isProper_outputNames (h : IsPageTrail trail) : ∀ name ∈ outputNames trail, IsProper name := by
  rcases List.eq_nil_or_concat trail with rfl | ⟨front, name, rfl⟩
  · exact fun name hname => absurd hname List.not_mem_nil
  rw [List.concat_eq_append] at h ⊢
  obtain ⟨stem, -, hname, hsplit⟩ := h.exists_stem
  have hslash : '/' ∉ name := (h.proper name (by simp)).2
  rw [outputNames_concat, hsplit]
  refine List.forall_mem_append.2 ⟨fun other hother => h.proper other (List.mem_append_left _ hother),
    List.forall_mem_singleton.2 ⟨Path.isName_iff.2 ?_, fun hmem => ?_⟩⟩
  · have hlength : 5 ≤ (stem ++ lit ".html").length := by
      rw [List.length_append]
      exact Nat.le_add_left 5 _
    refine ⟨?_, ?_, ?_⟩ <;> (intro heq; rw [heq] at hlength; exact absurd hlength (by decide))
  · rcases List.mem_append.1 hmem with hmem | hmem
    · exact hslash (hname ▸ List.mem_append_left _ hmem)
    · exact absurd hmem (by decide)

/-- **A page is written under its own trail**, with another extension. -/
theorem outputOf_eq (h : IsPageTrail trail) (c : Config) :
    outputOf c (Path.ofNames trail) = c.outputDir.join (Path.relative (outputNames trail) false) := by
  have hbelow : (Path.ofNames trail).dropWhile (· == '/') = Text.join ['/'] trail := by
    rw [Path.ofNames, ← Path.relative_false, Location.dropWhile_relative h.proper]
  rw [outputOf, hbelow, Path.relative_false]
  rcases List.eq_nil_or_concat trail with rfl | ⟨front, name, rfl⟩
  · rfl
  rw [List.concat_eq_append] at h ⊢
  obtain ⟨stem, -, -, hsplit⟩ := h.exists_stem
  have hname : IsProper name := h.proper name (by simp)
  obtain ⟨base, hjoin, hlast⟩ := Location.exists_front_join
    (fun other hother => h.proper other (List.mem_append_left _ hother)) hname
  rw [outputNames_concat, hjoin, hjoin, Location.withExtension_append _ hname hlast hsplit, hsplit]
  rfl

/-- **Different pages have different places.** -/
theorem outputNames_injective (h : IsPageTrail trail) (h' : IsPageTrail trail')
    (heq : outputNames trail = outputNames trail') : trail = trail' := by
  rcases List.eq_nil_or_concat trail with rfl | ⟨front, name, rfl⟩ <;>
    rcases List.eq_nil_or_concat trail' with rfl | ⟨front', name', rfl⟩
  · rfl
  · rw [List.concat_eq_append, outputNames_concat] at heq
    exact absurd heq.symm (List.append_ne_nil_of_right_ne_nil _ (List.cons_ne_nil _ _))
  · rw [List.concat_eq_append, outputNames_concat] at heq
    exact absurd heq (List.append_ne_nil_of_right_ne_nil _ (List.cons_ne_nil _ _))
  · rw [List.concat_eq_append] at h h' heq ⊢
    rw [List.concat_eq_append] at heq ⊢
    obtain ⟨stem, -, hname, hsplit⟩ := h.exists_stem
    obtain ⟨stem', -, hname', hsplit'⟩ := h'.exists_stem
    rw [outputNames_concat, outputNames_concat, hsplit, hsplit'] at heq
    obtain ⟨rfl, hlast⟩ := List.append_inj' heq rfl
    have hstem : stem = stem' := List.append_cancel_right (List.singleton_inj.1 hlast)
    rw [hname, hname', hstem]

end IsPageTrail

/-! ## The pages of a wiki -/

/-- **The pages of a wiki**, by the trails of files. -/
theorem pages_eq_ok {files : Entry} {root : Location} {pages : List Text}
    (h : Folder.pages files root = .ok pages) : ∃ e, Files.find files root = .ok e ∧
      pages.Perm ((((e.files []).map Prod.fst).filter (Folder.isPage root)).map Path.ofNames) := by
  rw [Folder.pages] at h
  split at h
  · exact absurd h nofun
  · next e he =>
    rw [Except.ok.injEq] at h
    exact ⟨e, he, h ▸ List.mergeSort_perm _ _⟩

end WikiPress.Site
