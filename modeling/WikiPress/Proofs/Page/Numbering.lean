import WikiPress.Page.Render
import WikiPress.Proofs.Text.Basic
import Mathlib.Data.List.Nodup

/-!
# Proofs/Page/Numbering — the ids of the headings of a session

    text ──▸ h2-1 h3-1 h2-2      line ──▸ h2-3      text ──▸ h1-1 h3-2

Texts and lines that are rendered on one context number their headings on from each other.  A pass
over a page numbers its headings from the counts before it to the counts after it, level by level
(`numbered_decorateHeadings`), and such passes compose (`Numbered.append`).  So the ids of a whole
session are gapless on every level, no two of them are equal, and nothing but the headings that stand
directly in a page advances a count (`session_numbered`).
-/

namespace WikiPress.Page

open Html

/-! ## Counts -/

namespace HeadingCounts

theorem count_add_self (level : Nat) (counts : HeadingCounts) :
    count level (add level counts) = count level counts + 1 := by
  induction counts with
  | nil => simp [add, count]
  | cons entry rest ih =>
    obtain ⟨other, n⟩ := entry
    rw [add]
    split
    · next heq =>
      obtain rfl := beq_iff_eq.1 heq
      simp [count]
    · next hne =>
      have hlevel : (level == other) = false := by
        rw [beq_eq_false_iff_ne]
        exact fun h => hne (beq_iff_eq.2 h.symm)
      simpa only [count, List.lookup_cons, hlevel] using ih

theorem count_add_of_ne {level other : Nat} (h : other ≠ level) (counts : HeadingCounts) :
    count other (add level counts) = count other counts := by
  induction counts with
  | nil => simp [add, count, beq_eq_false_iff_ne.2 h]
  | cons entry rest ih =>
    obtain ⟨key, n⟩ := entry
    rw [add]
    split
    · next heq =>
      obtain rfl := beq_iff_eq.1 heq
      simp [count, List.lookup_cons, beq_eq_false_iff_ne.2 h]
    · by_cases hkey : other = key
      · simp [count, hkey]
      · simpa only [count, List.lookup_cons, beq_eq_false_iff_ne.2 hkey] using ih

end HeadingCounts

/-! ## Ids -/

/-- **An id tells the level and the number**: digits end at the hyphen. -/
theorem headingId_inj {level level' number number' : Nat} :
    headingId level number = headingId level' number' ↔ level = level' ∧ number = number' := by
  refine ⟨fun h => ?_, fun h => by rw [h.1, h.2]⟩
  have hrest : Text.ofNat level ++ '-' :: Text.ofNat number =
      Text.ofNat level' ++ '-' :: Text.ofNat number' := (List.cons.inj h).2
  have hsplit (level number : Nat) :=
    @Text.takeWhile_append_of_all _ _ ('-' :: Text.ofNat number) (Text.all_isDigit_ofNat level)
      (by simp [Text.isDigit])
  have hlevel := congrArg (List.takeWhile Text.isDigit) hrest
  have hnumber := congrArg (List.dropWhile Text.isDigit) hrest
  rw [(hsplit level number).1, (hsplit level' number').1] at hlevel
  rw [(hsplit level number).2, (hsplit level' number').2] at hnumber
  exact ⟨Text.ofNat_injective hlevel, Text.ofNat_injective (List.cons.inj hnumber).2⟩

theorem get?_set_self (name value : Text) (attributes : List Attribute) :
    Attribute.get? name (Attribute.set name value attributes) = some value := by
  induction attributes with
  | nil => simp [Attribute.set, Attribute.get?]
  | cons a rest ih =>
    rw [Attribute.set]
    split
    · simp [Attribute.get?]
    · next hne => simpa [Attribute.get?, hne] using ih

theorem get?_set_of_ne {name other : Text} (h : name ≠ other) (value : Text)
    (attributes : List Attribute) :
    Attribute.get? other (Attribute.set name value attributes) = Attribute.get? other attributes := by
  induction attributes with
  | nil => simp [Attribute.set, Attribute.get?, h]
  | cons a rest ih =>
    rw [Attribute.set]
    split
    · next heq =>
      have hother : a.name ≠ other := beq_iff_eq.1 heq ▸ h
      simp [Attribute.get?, h, hother]
    · simp only [Attribute.get?, ih]

/-- Putting an element into a class changes no other attribute. -/
theorem get?_addClass {name other : Text} (h : classKey ≠ other) (attributes : List Attribute) :
    Attribute.get? other (addClass name attributes) = Attribute.get? other attributes := by
  rw [addClass]
  split
  · rfl
  · split <;> exact get?_set_of_ne h _ _

/-- Values are different if they are so for every key, and equal ones have equal keys. -/
theorem nodup_of_nodup_filter {α : Type} {l : List (Nat × α)}
    (h : ∀ key, ((l.filter (·.1 == key)).map Prod.snd).Nodup)
    (hsame : ∀ m ∈ l, ∀ m' ∈ l, m.2 = m'.2 → m.1 = m'.1) : (l.map Prod.snd).Nodup := by
  induction l with
  | nil => exact List.nodup_nil
  | cons m rest ih =>
    rw [List.map_cons, List.nodup_cons]
    refine ⟨fun hmem => ?_, ih (fun key => ?_) fun a ha b hb =>
      hsame a (List.mem_cons_of_mem _ ha) b (List.mem_cons_of_mem _ hb)⟩
    · obtain ⟨m', hm', heq⟩ := List.mem_map.1 hmem
      have hkey := hsame m' (List.mem_cons_of_mem _ hm') m List.mem_cons_self heq
      have hnodup := h m.1
      rw [List.filter_cons_of_pos (by simp), List.map_cons, List.nodup_cons] at hnodup
      exact hnodup.1 (heq ▸ List.mem_map_of_mem (List.mem_filter.2 ⟨hm', beq_iff_eq.2 hkey⟩))
    · exact (h key).sublist (((List.sublist_cons_self m rest).filter _).map _)

/-! ## A page -/

/-- The headings among the nodes of a page: the level of each, and the id its element carries. -/
def marks (nodes : List Node) : List (Nat × Option Text) :=
  nodes.filterMap fun node =>
    (headingLevel? node).map fun level => (level, Attribute.get? (lit "id") node.attributes)

/-- A heading of a rendered text as its level and the id it is listed with. -/
def Heading.mark (h : Heading) : Nat × Option Text := (h.level, some h.id)

/-- **Headings are numbered** from one count to another: on every level the numbers go on from the
count before, without a gap. -/
def Numbered (before after : HeadingCounts) (marks : List (Nat × Option Text)) : Prop :=
  ∀ level, ∃ n, after.count level = before.count level + n ∧
    (marks.filter (·.1 == level)).map Prod.snd =
      (List.range' (before.count level + 1) n).map fun number => some (headingId level number)

namespace Numbered

variable {before between after : HeadingCounts} {ms ms' : List (Nat × Option Text)}

theorem nil : Numbered before before [] := fun _ => ⟨0, rfl, rfl⟩

/-- Passes over pages compose. -/
theorem append (h : Numbered before between ms) (h' : Numbered between after ms') :
    Numbered before after (ms ++ ms') := fun level => by
  obtain ⟨n, hn, hms⟩ := h level
  obtain ⟨n', hn', hms'⟩ := h' level
  refine ⟨n + n', by omega, ?_⟩
  have hnext : before.count level + 1 + n = between.count level + 1 := by omega
  rw [List.filter_append, List.map_append, hms, hms', ← List.map_append, ← hnext,
    List.range'_append_1]

/-- One heading takes the next number of its level. -/
theorem single (level : Nat) (counts : HeadingCounts) :
    Numbered counts (.add level counts)
      [(level, some (headingId level (HeadingCounts.count level (.add level counts))))] :=
  fun other => by
    by_cases hlevel : other = level
    · subst hlevel
      exact ⟨1, HeadingCounts.count_add_self other counts, by
        simp [HeadingCounts.count_add_self, List.range'_one]⟩
    · have hne : (level == other) = false := beq_eq_false_iff_ne.2 (Ne.symm hlevel)
      exact ⟨0, HeadingCounts.count_add_of_ne hlevel counts, by simp [hne]⟩

/-- The ids on a level, when nothing was numbered before. -/
theorem ids_eq (h : Numbered [] after ms) (level : Nat) :
    (ms.filter (·.1 == level)).map Prod.snd =
      (List.range (ms.filter (·.1 == level)).length).map fun n =>
        some (headingId level (n + 1)) := by
  obtain ⟨n, -, hms⟩ := h level
  have hlength : (ms.filter (·.1 == level)).length = n := by
    simpa using congrArg List.length hms
  have hcount : HeadingCounts.count level [] = 0 := rfl
  rw [hms, hlength, hcount, List.range'_eq_map_range, List.map_map]
  exact List.map_congr_left fun k _ => by rw [Function.comp_apply, Nat.zero_add, Nat.add_comm]

theorem count_eq (h : Numbered before after ms) (level : Nat) :
    after.count level = before.count level + (ms.filter (·.1 == level)).length := by
  obtain ⟨n, hn, hms⟩ := h level
  have hlength : (ms.filter (·.1 == level)).length = n := by
    simpa using congrArg List.length hms
  rw [hn, hlength]

/-- Every heading has an id of its level. -/
theorem exists_id (h : Numbered before after ms) {m : Nat × Option Text} (hm : m ∈ ms) :
    ∃ number, m.2 = some (headingId m.1 number) := by
  obtain ⟨n, -, hms⟩ := h m.1
  have hid : m.2 ∈ (ms.filter (·.1 == m.1)).map Prod.snd :=
    List.mem_map_of_mem (List.mem_filter.2 ⟨hm, beq_self_eq_true m.1⟩)
  rw [hms, List.mem_map] at hid
  obtain ⟨number, -, hnumber⟩ := hid
  exact ⟨number, hnumber.symm⟩

/-- **All ids are different**: on one level the numbers differ, and an id tells its level. -/
theorem nodup_ids (h : Numbered before after ms) : (ms.map Prod.snd).Nodup := by
  refine nodup_of_nodup_filter (fun level => ?_) fun m hm m' hm' heq => ?_
  · obtain ⟨n, -, hms⟩ := h level
    rw [hms]
    refine List.Nodup.map (fun number number' heq => ?_) List.nodup_range'
    exact (headingId_inj.1 (Option.some.inj heq)).2
  · obtain ⟨number, hnumber⟩ := h.exists_id hm
    obtain ⟨number', hnumber'⟩ := h.exists_id hm'
    rw [hnumber, hnumber'] at heq
    exact (headingId_inj.1 (Option.some.inj heq)).1

end Numbered

/-- The name of an element tells whether it is a heading. -/
theorem headingLevel?_element (space : Namespace) (name : Text)
    (attributes attributes' : List Attribute) (children children' : List Node) :
    headingLevel? (.element space name attributes children) =
      headingLevel? (.element space name attributes' children') := by
  by_cases h : ∃ c, name = ['h', c]
  · obtain ⟨c, rfl⟩ := h
    rfl
  · have hnone (attributes : List Attribute) (children : List Node) :
        headingLevel? (.element space name attributes children) = none := by
      unfold headingLevel?
      split
      · next heq =>
        cases heq
        exact absurd ⟨_, rfl⟩ h
      · rfl
    rw [hnone, hnone]

/-- A decorated heading is a heading of the same level, listed with the id it carries. -/
theorem marks_decorateHeading {level number : Nat} {node : Node}
    (h : headingLevel? node = some level) (rest : List Node) :
    marks ((decorateHeading level number node).1 :: rest) =
      (level, some (headingId level number)) :: marks rest := by
  obtain ⟨space, name, attributes, children, rfl⟩ :
      ∃ space name attributes children, node = .element space name attributes children := by
    cases node with
    | element space name attributes children => exact ⟨space, name, attributes, children, rfl⟩
    | _ => exact absurd h (by simp [headingLevel?])
  have hid : ∀ foldable : Bool, Attribute.get? (lit "id")
      (if foldable then
        addClass (lit "fold") (Attribute.set (lit "id") (headingId level number) attributes)
      else Attribute.set (lit "id") (headingId level number) attributes) =
      some (headingId level number) := fun foldable => by
    cases foldable
    · exact get?_set_self ..
    · exact (get?_addClass (by decide) _).trans (get?_set_self ..)
  rw [marks, List.filterMap_cons_some (b := (level, some (headingId level number)))]
  · rfl
  · rw [decorateHeading, headingLevel?_element _ _ _ attributes _ children, h]
    exact congrArg (fun id => some (level, id)) (hid _)

/-- **The headings of a decorated page are listed with the ids their elements carry**, in order. -/
theorem marks_decorateHeadings (nodes : List Node) (counts : HeadingCounts) :
    marks (decorateHeadings nodes counts).1 =
      (decorateHeadings nodes counts).2.1.map Heading.mark := by
  induction nodes generalizing counts with
  | nil => rfl
  | cons node rest ih =>
    rw [decorateHeadings]
    split
    · next hnone =>
      refine Eq.trans ?_ (ih counts)
      rw [marks, List.filterMap_cons_none (by rw [hnone, Option.map_none])]
      rfl
    · next level hlevel =>
      exact (marks_decorateHeading hlevel _).trans (congrArg _ (ih (.add level counts)))

/-- **A pass over a page numbers its headings** from the counts before it to those after it. -/
theorem numbered_decorateHeadings (nodes : List Node) (counts : HeadingCounts) :
    Numbered counts (decorateHeadings nodes counts).2.2
      (marks (decorateHeadings nodes counts).1) := by
  rw [marks_decorateHeadings]
  induction nodes generalizing counts with
  | nil => exact .nil
  | cons node rest ih =>
    rw [decorateHeadings]
    split
    · exact ih counts
    · next level _ => exact (Numbered.single level counts).append (ih (.add level counts))

/-! ## A session -/

/-- What may be rendered in a session. -/
inductive Call
  /-- A text, on the context of the session. -/
  | text (o : Options) (t : Text)
  /-- A line, on the context of the session. -/
  | line (o : Options) (t : Text)
  /-- A text for itself. -/
  | apart (o : Options) (t : Text)
  /-- A page. -/
  | page (o : Options) (t : Text)

/-- The nodes in the body of the page that HTML source is completed to. -/
def Options.finishedNodes (o : Options) (html : Text) (counts : HeadingCounts) : List Node :=
  if html.isEmpty then [] else (decorateHeadings (o.complete (fragment html)) counts).1

namespace Call

/-- Whether a call uses the context of the session. -/
def isShared : Call → Bool
  | text .. | line .. => true
  | apart .. | page .. => false

/-- The context after a call. -/
def next : Call → Context → Context
  | text o t, c => (o.renderOn t c).2
  | line o t, c => (o.renderLineOn t c).2
  | apart .., c | page .., c => c

/-- The nodes of the page that a call completes on the context of the session. -/
def nodes : Call → Context → List Node
  | text o t, c => o.finishedNodes (o.renderBlocks (Text.trim t) c.blocks).1 c.counts
  | line o t, c => o.finishedNodes (o.convertLine t) c.counts
  | apart .., _ | page .., _ => []

end Call

/-- The context after a session. -/
def Context.after (calls : List Call) (c : Context) : Context :=
  calls.foldl (fun c call => call.next c) c

/-- The headings of a session, in the order of the calls and then of the pages. -/
def sessionMarks : List Call → Context → List (Nat × Option Text)
  | [], _ => []
  | call :: rest, c => marks (call.nodes c) ++ sessionMarks rest (call.next c)

/-- What completing HTML source gives, by the nodes of the page. -/
theorem finish_eq (o : Options) (html : Text) (counts : HeadingCounts) :
    (o.finish html counts).1.html = Text.trim (Html.render (o.finishedNodes html counts)) ∧
      (o.finish html counts).1.headings.map Heading.mark = marks (o.finishedNodes html counts) ∧
      Numbered counts (o.finish html counts).2 (marks (o.finishedNodes html counts)) := by
  rw [Options.finish, Options.finishedNodes]
  split
  · exact ⟨rfl, rfl, .nil⟩
  · have hmarks := marks_decorateHeadings (o.complete (fragment html)) counts
    have hnumbered := numbered_decorateHeadings (o.complete (fragment html)) counts
    generalize decorateHeadings (o.complete (fragment html)) counts = decorated at *
    exact ⟨rfl, hmarks.symm, hnumbered⟩

/-- **A call numbers the headings of its page**, and no others: neither those in the summaries and
the contents of its blocks nor those of other contexts. -/
theorem Call.numbered (call : Call) (c : Context) :
    Numbered c.counts (call.next c).counts (marks (call.nodes c)) := by
  cases call with
  | text o t => exact (finish_eq o _ c.counts).2.2
  | line o t => exact (finish_eq o _ c.counts).2.2
  | apart | page => exact .nil

/-- A session numbers its headings. -/
theorem numbered_session (calls : List Call) (c : Context) :
    Numbered c.counts (c.after calls).counts (sessionMarks calls c) := by
  induction calls generalizing c with
  | nil => exact .nil
  | cons call rest ih => exact (call.numbered c).append (ih (call.next c))

/-- What is rendered on contexts of its own leaves no trace in a session. -/
theorem session_filter_isShared (calls : List Call) (c : Context) :
    c.after (calls.filter Call.isShared) = c.after calls ∧
      sessionMarks (calls.filter Call.isShared) c = sessionMarks calls c := by
  induction calls generalizing c with
  | nil => exact ⟨rfl, rfl⟩
  | cons call rest ih =>
    cases call with
    | text | line => exact ⟨(ih _).1, congrArg _ (ih _).2⟩
    | apart | page => exact ih c

/-- **The headings of a session are numbered**, whatever is rendered.  On every level the ids are
those with the numbers from one on, without a gap or a repetition; no two ids are equal; the headings
listed for a text are those that stand directly in its page, in order and with the ids they carry
there; no count is advanced but by them; and what is rendered on other contexts changes nothing. -/
theorem session_numbered (calls : List Call) :
    (∀ level, ((sessionMarks calls {}).filter (·.1 == level)).map Prod.snd =
        (List.range ((sessionMarks calls {}).filter (·.1 == level)).length).map fun n =>
          some (headingId level (n + 1))) ∧
      ((sessionMarks calls {}).map Prod.snd).Nodup ∧
      (∀ o t, let c := Context.after calls {}
        ((o.renderOn t c).1.headings.map Heading.mark = marks ((Call.text o t).nodes c) ∧
          (o.renderOn t c).1.html = Text.trim (Html.render ((Call.text o t).nodes c)) ∧
          (o.renderLineOn t c).1 = Text.trim (Html.render ((Call.line o t).nodes c)))) ∧
      (∀ level, (Context.after calls {}).counts.count level =
        ((sessionMarks calls {}).filter (·.1 == level)).length) ∧
      (Context.after (calls.filter Call.isShared) {} = Context.after calls {} ∧
        sessionMarks (calls.filter Call.isShared) {} = sessionMarks calls {}) := by
  have hnumbered := numbered_session calls {}
  refine ⟨hnumbered.ids_eq, hnumbered.nodup_ids, fun o t => ⟨?_, ?_, ?_⟩, fun level => ?_,
    session_filter_isShared calls {}⟩
  · exact (finish_eq o _ _).2.1
  · exact (finish_eq o _ _).1
  · exact (finish_eq o _ _).1
  · rw [hnumbered.count_eq level]
    exact Nat.zero_add _

end WikiPress.Page
