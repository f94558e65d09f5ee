import WikiPress.Proofs.Config.Settings

/-!
# Proofs/Config/Merging — the configuration of several files

Files are merged in their order, each as a configuration that has a value for every setting, so that
a default that is listed and one that is not are the same thing.  Hence a setting has its last
*change*, which a default is not (`exists_value_mergeAll`):

```text
  first file    second file    third file        loaded
  "/w/"         (not listed)   "/"               "/w/"
```

The texts for readers are merged as one value (`messages_mergeAll`), so a text surely has its last
change where no file after that one changes another text (`value_message_mergeAll`).  The result for
files is `load_takes_last_changes`.
-/

namespace WikiPress.Config

open Files (Entry Location)

/-! ## The last value that counts -/

section

variable {β : Type} {p : β → Bool} {default : β}

/-- The last of the values that satisfy `p`, and the default if none does. -/
def lastWhere (p : β → Bool) (default : β) (values : List β) : β :=
  (values.filter p).getLast?.getD default

theorem lastWhere_cons (v : β) (values : List β) :
    lastWhere p default (v :: values) = lastWhere p (if p v then v else default) values := by
  unfold lastWhere
  by_cases hv : p v = true
  · rw [List.filter_cons_of_pos hv, if_pos hv, List.getLast?_cons, Option.getD_some]
  · rw [List.filter_cons_of_neg hv, if_neg hv]

theorem lastWhere_eq_default {values : List β} (h : ∀ v ∈ values, p v = false) :
    lastWhere p default values = default := by
  rw [lastWhere, List.filter_eq_nil_iff.2 fun v hv => by simp [h v hv]]
  rfl

theorem lastWhere_append_cons {before after : List β} {v : β} (hv : p v = true)
    (hafter : ∀ v' ∈ after, p v' = false) :
    lastWhere p default (before ++ v :: after) = v := by
  have hnone : after.filter p = [] := List.filter_eq_nil_iff.2 fun v' hv' => by simp [hafter v' hv']
  rw [lastWhere, List.filter_append, List.filter_cons_of_pos hv, hnone, List.getLast?_concat]
  rfl

theorem lastWhere_eq_or_mem (p : β → Bool) (default : β) (values : List β) :
    lastWhere p default values = default ∨ lastWhere p default values ∈ values := by
  unfold lastWhere
  cases hlast : (values.filter p).getLast? with
  | none => exact .inl rfl
  | some v => exact .inr ((List.mem_filter.1 (List.mem_of_getLast? hlast)).1)

/-- A list that holds a value with `p` holds a last one. -/
theorem exists_last_of_mem {values : List β} (h : ∃ v ∈ values, p v = true) :
    ∃ before v after, values = before ++ v :: after ∧ p v = true ∧ ∀ v' ∈ after, p v' = false := by
  induction values with
  | nil => exact absurd h (by simp)
  | cons v values ih =>
    by_cases hlater : ∃ v' ∈ values, p v' = true
    · obtain ⟨before, v', after, hvalues, hv', hafter⟩ := ih hlater
      exact ⟨v :: before, v', after, by rw [hvalues, List.cons_append], hv', hafter⟩
    · have hv : p v = true := by
        obtain ⟨v', hmem, hv'⟩ := h
        rcases List.mem_cons.1 hmem with rfl | hmem
        · exact hv'
        · exact absurd ⟨v', hmem, hv'⟩ hlater
      exact ⟨[], v, values, rfl, hv, fun v' hmem =>
        Bool.eq_false_iff.2 fun hv' => hlater ⟨v', hmem, hv'⟩⟩

/-- Values that do not count may be left out. -/
theorem lastWhere_getD {α : Type} {d : β} (hd : p d = false) (f : α → Option β) (l : List α) :
    lastWhere p default (l.map fun a => (f a).getD d) = lastWhere p default (l.filterMap f) := by
  have hfilter : (l.map fun a => (f a).getD d).filter p = (l.filterMap f).filter p := by
    induction l with
    | nil => rfl
    | cons a l ih =>
      cases ha : f a with
      | none =>
        rw [List.map_cons, ha, Option.getD_none, List.filter_cons_of_neg (by simp [hd]), ih,
          List.filterMap_cons_none ha]
      | some v =>
        rw [List.map_cons, ha, Option.getD_some, List.filterMap_cons_some ha, List.filter_cons,
          List.filter_cons, ih]
  rw [lastWhere, lastWhere, hfilter]

end

/-! ## Two configurations -/

/-- **A merged configuration has the later value of a setting where that is a change**, and else the
earlier one… -/
theorem value_merge {s : Setting} (hs : ∀ w, s ≠ .message w) (earlier later : Config) :
    s.value (earlier.merge later)
      = if s.isChange (s.value later) then s.value later else s.value earlier := by
  have hlocation (d e l : Location) : some (laterLocation d e l)
      = if (!(some l.parts == some d.parts)) = true then some l else some e := by
    unfold laterLocation Location.same
    by_cases h : l.parts = d.parts <;> simp [h]
  have htext (d e l : Text) : some (laterUnlessDefault d e l)
      = if (!(some l == some d)) = true then some l else some e := by
    unfold laterUnlessDefault
    by_cases h : l = d <;> simp [h]
  cases s with
  | inputDir => exact hlocation _ _ _
  | outputDir => exact hlocation _ _ _
  | basePath => exact htext _ _ _
  | homePath => exact htext _ _ _
  | smartQuotes => exact htext _ _ _
  | dateFormat => exact htext _ _ _
  | defaultAuthor =>
    obtain ⟨_, _, _, _, _, _, _, author, _⟩ := later
    cases author <;> rfl
  | message w => exact absurd rfl (hs w)

/-- …and all the later texts for readers where one of them is a change. -/
theorem messages_merge (earlier later : Config) :
    (earlier.merge later).messages
      = if later.messages ≠ {} then later.messages else earlier.messages :=
  (ite_not ..).symm

/-! ## Any number of configurations -/

/-- Configurations merged in their order. -/
def mergeAll : List Config → Config
  | [] => {}
  | c :: rest => rest.foldl merge c

/-- What a merge takes from the later configuration where it counts, the last one that counts gives
after any number of merges. -/
theorem foldl_merge_eq {β : Type} {read : Config → β} {counts : β → Bool}
    (hmerge : ∀ earlier later,
      read (earlier.merge later) = if counts (read later) then read later else read earlier)
    (c : Config) (rest : List Config) :
    read (rest.foldl merge c) = lastWhere counts (read c) (rest.map read) := by
  induction rest generalizing c with
  | nil => rfl
  | cons later rest ih => rw [List.foldl_cons, ih, hmerge, List.map_cons, lastWhere_cons]

/-- **A setting has its last change**, and without one a value that says the default. -/
theorem exists_value_mergeAll {s : Setting} (hs : ∀ w, s ≠ .message w) (cs : List Config) :
    ∃ default, s.isChange default = false ∧
      s.value (mergeAll cs) = lastWhere s.isChange default (cs.map s.value) := by
  cases cs with
  | nil => exact ⟨s.standard, s.isChange_standard, rfl⟩
  | cons c rest =>
    have hvalue : s.value (mergeAll (c :: rest))
        = lastWhere s.isChange (s.value c) (rest.map s.value) :=
      foldl_merge_eq (value_merge hs) c rest
    rw [hvalue, List.map_cons]
    cases hc : s.isChange (s.value c) with
    | false => exact ⟨s.value c, hc, by rw [lastWhere_cons, ite_self]⟩
    | true => exact ⟨s.standard, s.isChange_standard, by rw [lastWhere_cons, if_pos hc]⟩

/-- The texts for readers are those of the last configuration that changes one of them. -/
theorem messages_mergeAll (cs : List Config) :
    (mergeAll cs).messages = lastWhere (fun m => decide (m ≠ {})) {} (cs.map messages) := by
  cases cs with
  | nil => rfl
  | cons c rest =>
    have hmessages : (mergeAll (c :: rest)).messages
        = lastWhere (fun m => decide (m ≠ {})) c.messages (rest.map messages) :=
      foldl_merge_eq (fun earlier later => by simp only [messages_merge, decide_eq_true_eq]) c rest
    rw [hmessages, List.map_cons, lastWhere_cons]
    by_cases hc : c.messages = {} <;> simp [hc]

/-- Replacers are put behind each other. -/
theorem replacer_mergeAll (cs : List Config) :
    (mergeAll cs).replacer = cs.flatMap replacer := by
  have hfoldl (c : Config) (rest : List Config) :
      (rest.foldl merge c).replacer = c.replacer ++ rest.flatMap replacer := by
    induction rest generalizing c with
    | nil => exact (List.append_nil _).symm
    | cons later rest ih =>
      rw [List.foldl_cons, ih, List.flatMap_cons, ← List.append_assoc]
      rfl
  cases cs with
  | nil => rfl
  | cons c rest => exact hfoldl c rest

/-! ### The texts for readers, one by one -/

/-- In a list of what may change the texts for readers, nothing after the last change of one text
changes another text. -/
def Wording.StandsLast {α : Type} (changes : Wording → α → Prop) (w : Wording) (l : List α) : Prop :=
  ∀ before a after, l = before ++ a :: after → changes w a → (∀ a' ∈ after, ¬ changes w a') →
    ∀ a' ∈ after, ∀ other, ¬ changes other a'

theorem Wording.StandsLast.map {α β : Type} {changes : Wording → α → Prop}
    {changes' : Wording → β → Prop} {w : Wording} {l : List α} (h : w.StandsLast changes l)
    {f : α → β} (hf : ∀ a ∈ l, ∀ w, changes' w (f a) ↔ changes w a) :
    w.StandsLast changes' (l.map f) := by
  intro before' b after' hl hb hafter b' hmem other
  obtain ⟨before, rest, rfl, rfl, hrest⟩ := List.map_eq_append_iff.1 hl
  obtain ⟨a, after, rfl, rfl, rfl⟩ := List.map_eq_cons_iff.1 hrest
  have hmemAfter {a' : α} (ha' : a' ∈ after) : a' ∈ before ++ a :: after :=
    List.mem_append_right _ (List.mem_cons_of_mem _ ha')
  obtain ⟨a', ha', rfl⟩ := List.mem_map.1 hmem
  rw [hf a' (hmemAfter ha')]
  refine h before a after rfl ((hf a (by simp) w).1 hb) (fun a' ha' => ?_) a' ha' other
  rw [← hf a' (hmemAfter ha')]
  exact hafter (f a') (List.mem_map_of_mem ha')

/-- The last of all changes the text: then it stands last. -/
theorem Wording.standsLast_of_getLast? {α : Type} {changes : Wording → α → Prop} {w : Wording}
    {l : List α} {a : α} (hl : l.getLast? = some a) (ha : changes w a) : w.StandsLast changes l := by
  intro before first after heq _ hafter a' hmem
  cases hlast : after.getLast? with
  | none =>
    rw [List.getLast?_eq_none_iff] at hlast
    exact absurd hmem (hlast ▸ List.not_mem_nil)
  | some last =>
    rw [heq, List.append_cons, List.getLast?_append, hlast, Option.some_or] at hl
    obtain rfl := Option.some.inj hl
    exact absurd ha (hafter last (List.mem_of_getLast? hlast))

/-- **A text for readers has its last change** where that stands last. -/
theorem value_message_mergeAll {w : Wording} {cs : List Config}
    (h : w.StandsLast
      (fun w c => (Setting.message w).isChange ((Setting.message w).value c) = true) cs) :
    (Setting.message w).value (mergeAll cs)
      = lastWhere (Setting.message w).isChange (Setting.message w).standard
          (cs.map (Setting.message w).value) := by
  have hiff (w : Wording) (c : Config) :
      (Setting.message w).isChange ((Setting.message w).value c) = true
        ↔ w.value c.messages ≠ w.standard := Setting.isChange_message_iff
  by_cases hchange :
      ∃ c ∈ cs, (Setting.message w).isChange ((Setting.message w).value c) = true
  · obtain ⟨before, c, after, rfl, hc, hafter⟩ := exists_last_of_mem hchange
    have hchanged : c.messages ≠ {} := fun heq => (hiff w c).1 hc (congrArg w.value heq)
    have hsame : ∀ c' ∈ after, c'.messages = {} := fun c' hmem =>
      messages_ext fun other => Decidable.not_not.1 fun hother =>
        h before c after rfl hc (fun c' hmem => Bool.eq_false_iff.1 (hafter c' hmem)) c' hmem other
          ((hiff other c').2 hother)
    have hmessages : (mergeAll (before ++ c :: after)).messages = c.messages := by
      rw [messages_mergeAll, List.map_append, List.map_cons]
      exact lastWhere_append_cons (decide_eq_true hchanged) (by simpa using hsame)
    rw [List.map_append, List.map_cons, lastWhere_append_cons hc (by simpa using hafter)]
    exact congrArg (fun m => some (w.value m)) hmessages
  · have hnone : ∀ c ∈ cs, w.value c.messages = w.standard := fun c hmem =>
      Decidable.not_not.1 fun hc => hchange ⟨c, hmem, (hiff w c).2 hc⟩
    have hmessages : w.value (mergeAll cs).messages = w.standard := by
      rw [messages_mergeAll]
      rcases lastWhere_eq_or_mem (fun m : Messages => decide (m ≠ {})) {} (cs.map messages)
        with heq | hmem
      · exact congrArg w.value heq
      · obtain ⟨c, hc, heq⟩ := List.mem_map.1 hmem
        exact heq ▸ hnone c hc
    rw [lastWhere_eq_default fun v hv => ?_]
    · exact congrArg some hmessages
    · obtain ⟨c, hc, rfl⟩ := List.mem_map.1 hv
      exact Bool.eq_false_iff.2 fun htrue => hchange ⟨c, hc, htrue⟩

/-! ## Files -/

/-- The files that are loaded: the given ones, or the one that a directory holds. -/
def sources (files : Entry) (given : List Location) (dir : Location) : List Location :=
  if given.isEmpty then (discover? files dir).toList else given

theorem mergeFiles_eq {files : Entry} {read : Location → Config} {rest : List Location}
    (h : ∀ file ∈ rest, ofFile files file = .ok (read file)) (c : Config) :
    mergeFiles files c rest = .ok ((rest.map read).foldl merge c) := by
  induction rest generalizing c with
  | nil => rfl
  | cons file rest ih =>
    rw [mergeFiles, h file List.mem_cons_self]
    exact ih (fun file' hmem => h file' (List.mem_cons_of_mem _ hmem)) _

/-- Loading files that hold configurations merges them. -/
theorem load_eq {files : Entry} {given : List Location} {dir : Location} {read : Location → Config}
    (h : ∀ file ∈ sources files given dir, ofFile files file = .ok (read file)) :
    load files given dir = .ok (mergeAll ((sources files given dir).map read)) := by
  cases given with
  | nil =>
    have hsources : sources files [] dir = (discover? files dir).toList := rfl
    rw [hsources] at h ⊢
    unfold load
    cases hfile : discover? files dir with
    | none => rfl
    | some file =>
      rw [hfile] at h
      exact h file List.mem_cons_self
  | cons first rest =>
    have hsources : sources files (first :: rest) dir = first :: rest := rfl
    rw [hsources] at h ⊢
    rw [load, h first List.mem_cons_self]
    exact mergeFiles_eq (fun file hmem => h file (List.mem_cons_of_mem _ hmem)) _

/-- Whether a file lists another value for a setting than the default. -/
def Setting.ChangedIn (files : Entry) (s : Setting) (file : Location) : Prop :=
  ∃ v, s.inFile? files file = some v ∧ s.isChange v = true

theorem changedIn_iff {files : Entry} {file : Location} {c : Config} (h : ofFile files file = .ok c)
    (s : Setting) : s.ChangedIn files file ↔ s.isChange (s.value c) = true := by
  rw [value_of_ofFile h]
  unfold Setting.ChangedIn
  cases s.inFile? files file with
  | none => simp
  | some v => simp

/-- What files list for a setting, without the files that do not list it. -/
def Setting.listedIn (files : Entry) (l : List Location) (s : Setting) : List (Option Text) :=
  l.filterMap (s.inFile? files)

/-- The values of a setting that count are the listed ones that do. -/
theorem lastWhere_listedIn {files : Entry} {l : List Location} {read : Location → Config}
    (h : ∀ file ∈ l, ofFile files file = .ok (read file)) (s : Setting) (default : Option Text) :
    lastWhere s.isChange default ((l.map read).map s.value)
      = lastWhere s.isChange default (s.listedIn files l) := by
  have hvalues : (l.map read).map s.value
      = l.map fun file => (s.inFile? files file).getD s.standard := by
    rw [List.map_map]
    exact List.map_congr_left fun file hmem => value_of_ofFile (h file hmem) s
  rw [hvalues, Setting.listedIn]
  exact lastWhere_getD s.isChange_standard _ l

/-- **Loading takes the last change of every setting.**  Configurations that can be read are loaded.
A setting then has the last listed value that is not the default, or else one that says the default;
a text for readers has it where it stands last.  The replacers of all files stand in their order. -/
theorem load_takes_last_changes (files : Entry) (given : List Location) (dir : Location)
    (h : ∀ file ∈ sources files given dir, ∃ c, ofFile files file = .ok c) :
    let taken := sources files given dir
    ∃ c, load files given dir = .ok c ∧
      (∀ s : Setting, (∀ w, s ≠ .message w) → ∃ default, s.isChange default = false ∧
        s.value c = lastWhere s.isChange default (s.listedIn files taken)) ∧
      (∀ w : Wording, w.StandsLast (fun w => (Setting.message w).ChangedIn files) taken →
        (Setting.message w).value c = lastWhere (Setting.message w).isChange
          (Setting.message w).standard ((Setting.message w).listedIn files taken)) ∧
      c.replacer = taken.flatMap (replacersIn files) := by
  intro taken
  let read (file : Location) : Config := (ofFile files file).toOption.getD {}
  have hread : ∀ file ∈ taken, ofFile files file = .ok (read file) := by
    intro file hmem
    obtain ⟨c, hc⟩ := h file hmem
    simp only [read, hc, Except.toOption, Option.getD_some]
  refine ⟨mergeAll (taken.map read), load_eq hread, fun s hs => ?_, fun w hw => ?_, ?_⟩
  · obtain ⟨default, hdefault, hvalue⟩ := exists_value_mergeAll hs (taken.map read)
    exact ⟨default, hdefault, hvalue.trans (lastWhere_listedIn hread s default)⟩
  · rw [← lastWhere_listedIn hread]
    exact value_message_mergeAll
      (hw.map fun file hmem w => (changedIn_iff (hread file hmem) (.message w)).symm)
  · rw [replacer_mergeAll, List.flatMap_def, List.flatMap_def, List.map_map]
    exact congrArg List.flatten
      (List.map_congr_left fun file hmem => replacer_of_ofFile (hread file hmem))

theorem eq_ok_of_toOption {ε α : Type} {r : Except ε α} {a : α} (h : r.toOption = some a) :
    r = .ok a := by
  cases r with
  | error _ => cases h
  | ok b => exact congrArg Except.ok (Option.some.inj h)

theorem exists_eq_ok {ε α : Type} {r : Except ε α} (h : r.toOption.isSome = true) :
    ∃ a, r = .ok a :=
  (Option.isSome_iff_exists.1 h).imp fun _ => eq_ok_of_toOption

/-- Of two files, the first gives the path of the wiki and the second the label of footnotes. -/
theorem load_takes_last_changes_of_two :
    let files := Entry.directory
      [(lit "a.toml", .file (some (lit "base_path = \"/w/\"\nreplacer = [[\"a\", \"b\"]]\n"))),
       (lit "b.toml", .file (some (lit
        "base_path = \"/\"\nreplacer = [[\"c\", \"d\"]]\n[messages]\nfootnotes = \"Notes\"\n")))]
    let given := [lit "a.toml", lit "b.toml"]
    (∀ file ∈ sources files given [], ∃ c, ofFile files file = .ok c) ∧
      ∃ c, load files given [] = .ok c ∧
        Setting.basePath.value c = some (lit "/w/") ∧
        (Setting.message .footnotes).value c = some (lit "Notes") ∧
        c.replacer = [(lit "a", lit "b"), (lit "c", lit "d")] := by
  intro files given
  have hrun : (∀ file ∈ given, (ofFile files file).toOption.isSome = true) ∧
      Setting.basePath.listedIn files given = [some (lit "/w/"), some (lit "/")] ∧
      (Setting.message .footnotes).listedIn files given = [some (lit "Notes")] ∧
      (Setting.message .footnotes).inFile? files (lit "b.toml") = some (some (lit "Notes")) ∧
      given.flatMap (replacersIn files) = [(lit "a", lit "b"), (lit "c", lit "d")] := by
    decide +kernel
  obtain ⟨hsome, hpaths, hlabels, hlabel, hpairs⟩ := hrun
  have hfiles : ∀ file ∈ sources files given [], ∃ c, ofFile files file = .ok c :=
    fun file hmem => exists_eq_ok (hsome file hmem)
  obtain ⟨c, hload, htop, hmessage, hreplacer⟩ := load_takes_last_changes files given [] hfiles
  refine ⟨hfiles, c, hload, ?_, ?_, hreplacer.trans hpairs⟩
  · obtain ⟨default, -, hbase⟩ := htop .basePath (by simp)
    exact hbase.trans ((congrArg _ hpaths).trans rfl)
  · have hchanged : (Setting.message .footnotes).ChangedIn files (lit "b.toml") :=
      ⟨some (lit "Notes"), hlabel, by decide +kernel⟩
    have hvalue := hmessage .footnotes (Wording.standsLast_of_getLast? rfl hchanged)
    exact hvalue.trans ((congrArg _ hlabels).trans (by decide +kernel))

/-- **A default that is listed is no change, and a change of one text takes back the others**: here
the second file lists the path `/`, and not the label of footnotes. -/
theorem load_ne_last_listed :
    let files := Entry.directory
      [(lit "a.toml", .file (some (lit
        "base_path = \"/w/\"\n[messages]\nfootnotes = \"Notes\"\n"))),
       (lit "b.toml", .file (some (lit
        "base_path = \"/\"\n[messages]\nuntagged = \"Misc\"\n")))]
    let given := [lit "a.toml", lit "b.toml"]
    (∀ file ∈ sources files given [], ∃ c, ofFile files file = .ok c) ∧
      load files given [] = .ok { basePath := lit "/w/", messages := { untagged := lit "Misc" } } ∧
      Setting.basePath.listedIn files given = [some (lit "/w/"), some (lit "/")] ∧
      (Setting.message .footnotes).listedIn files given = [some (lit "Notes")] := by
  intro files given
  have hrun : (∀ file ∈ given, (ofFile files file).toOption.isSome = true) ∧
      (load files given []).toOption
        = some { basePath := lit "/w/", messages := { untagged := lit "Misc" } } ∧
      Setting.basePath.listedIn files given = [some (lit "/w/"), some (lit "/")] ∧
      (Setting.message .footnotes).listedIn files given = [some (lit "Notes")] := by
    decide +kernel
  obtain ⟨hsome, hload, hlisted⟩ := hrun
  exact ⟨fun file hmem => exists_eq_ok (hsome file hmem), eq_ok_of_toOption hload, hlisted⟩

end WikiPress.Config
