import WikiPress.Config.File

/-!
# Proofs/Config/Settings — what a configuration file lists

A configuration has a value for every setting, listed or not.  To speak of the files that *list* a
setting, the settings themselves become data: a `Setting` is looked up in a configuration (`value`)
and in the data of a file (`listed?`), and the two meet in one equation (`value_of_ofFile`):

```text
  value in the configuration of a file = what the file lists, or the default
```

Replacers are a list that merging adds to, so they are read apart (`replacer_of_ofFile`).
-/

namespace WikiPress.Config

open Files (Entry Location)

/-! ## The settings -/

/-- The texts shown to readers, as settings. -/
inductive Wording
  | footnotes
  | untagged
  | searching
  | searchNothing
  | searchDone
deriving DecidableEq, Repr

namespace Wording

/-- The name of a text in a file. -/
def name : Wording → String
  | footnotes => "footnotes"
  | untagged => "untagged"
  | searching => "searching"
  | searchNothing => "search_nothing"
  | searchDone => "search_done"

/-- The text among the messages. -/
def value : Wording → Messages → Text
  | footnotes, m => m.footnotes
  | untagged, m => m.untagged
  | searching, m => m.searching
  | searchNothing, m => m.searchNothing
  | searchDone, m => m.searchDone

/-- The text that messages have unless something else is listed. -/
def standard (w : Wording) : Text := w.value {}

end Wording

/-- Messages with the same texts are the same. -/
theorem messages_ext {m m' : Messages} (h : ∀ w : Wording, w.value m = w.value m') : m = m' := by
  obtain ⟨footnotes, untagged, searching, nothing, done⟩ := m
  obtain ⟨footnotes', untagged', searching', nothing', done'⟩ := m'
  obtain rfl : footnotes = footnotes' := h .footnotes
  obtain rfl : untagged = untagged' := h .untagged
  obtain rfl : searching = searching' := h .searching
  obtain rfl : nothing = nothing' := h .searchNothing
  obtain rfl : done = done' := h .searchDone
  rfl

/-- The settings of a configuration with one value each: all but the replacers. -/
inductive Setting
  | inputDir
  | outputDir
  | basePath
  | homePath
  | smartQuotes
  | dateFormat
  | defaultAuthor
  | message (w : Wording)
deriving DecidableEq, Repr

namespace Setting

/-- The name of a setting in a file; the texts for readers stand together under one name. -/
def name : Setting → String
  | inputDir => "input_dir"
  | outputDir => "output_dir"
  | basePath => "base_path"
  | homePath => "home_path"
  | smartQuotes => "smart_quotes"
  | dateFormat => "date_format"
  | defaultAuthor => "default_author"
  | message _ => "messages"

/-- The value of a setting; the author of documents that name none may be nobody. -/
def value : Setting → Config → Option Text
  | inputDir, c => some c.inputDir
  | outputDir, c => some c.outputDir
  | basePath, c => some c.basePath
  | homePath, c => some c.homePath
  | smartQuotes, c => some c.smartQuotes
  | dateFormat, c => some c.dateFormat
  | defaultAuthor, c => c.defaultAuthor
  | message w, c => some (w.value c.messages)

/-- The default of a setting. -/
def standard (s : Setting) : Option Text := s.value {}

@[simp] theorem standard_message (w : Wording) : (message w).standard = some w.standard := rfl

/-- Whether two values of a setting say the same: directories as locations, all others as texts. -/
def agree : Setting → Option Text → Option Text → Bool
  | inputDir, v, v' => v.map Location.parts == v'.map Location.parts
  | outputDir, v, v' => v.map Location.parts == v'.map Location.parts
  | _, v, v' => v == v'

@[simp] theorem agree_self (s : Setting) (v : Option Text) : s.agree v v = true := by
  cases s <;> exact beq_self_eq_true _

/-- Whether a value is another one than the default. -/
def isChange (s : Setting) (v : Option Text) : Bool := !s.agree v s.standard

@[simp] theorem isChange_standard (s : Setting) : s.isChange s.standard = false := by
  simp [isChange]

theorem isChange_message_iff {w : Wording} {t : Text} :
    (message w).isChange (some t) = true ↔ t ≠ w.standard := by
  have hagree : (message w).agree (some t) (message w).standard = (some t == some w.standard) := rfl
  rw [isChange, hagree, Bool.not_eq_true', beq_eq_false_iff_ne, ne_eq, Option.some.injEq]

end Setting

/-! ## What data list -/

/-- What a datum lists under a name. -/
def field? (exact : Bool) (names : List Text) (name : String) (d : Datum) : Option Datum :=
  (namedValues? exact names d).bind fun values => values.lookup (lit name)

/-- The text that a datum lists among the messages. -/
def Wording.listed? (exact : Bool) (w : Wording) (d : Datum) : Option Text :=
  (field? exact messageNames w.name d).bind Datum.text?

/-- **What a datum lists for a setting**, if anything: a text, or nobody for the author. -/
def Setting.listed? (exact : Bool) (s : Setting) (d : Datum) : Option (Option Text) :=
  let here := field? exact settingNames s.name d
  match s with
  | defaultAuthor => here.bind Datum.optionalText?
  | message w => (here.bind (w.listed? exact)).map some
  | _ => (here.bind Datum.text?).map some

/-- The pairs that a datum lists as replacers. -/
def replacers (exact : Bool) (d : Datum) : List (Text × Text) :=
  ((field? exact settingNames "replacer" d).bind (pairs? exact)).getD []

/-- What is listed under a name is its value, and the default is if nothing is. -/
theorem eq_of_valueOf? {α : Type} {read? : Datum → Option α} {default v : α} {name : String}
    {values : List (Text × Datum)} (h : valueOf? read? default name values = some v) :
    v = ((values.lookup (lit name)).bind read?).getD default := by
  unfold valueOf? at h
  cases hd : values.lookup (lit name) with
  | none =>
    rw [hd] at h
    exact (Option.some.inj h).symm
  | some d =>
    rw [hd] at h
    exact (congrArg (·.getD default) h).symm

/-- …also where the datum is given and not what it lists. -/
theorem eq_field?_getD {α : Type} {exact : Bool} {names : List Text} {d : Datum}
    {read? : Datum → Option α} {default v : α} {name : String} {values : List (Text × Datum)}
    (hvalues : namedValues? exact names d = some values)
    (h : valueOf? read? default name values = some v) :
    v = ((field? exact names name d).bind read?).getD default := by
  rw [field?, hvalues]
  exact eq_of_valueOf? h

/-- Messages read from a datum have the texts it lists, and else the defaults. -/
theorem value_of_messages? {exact : Bool} {d : Datum} {m : Messages}
    (h : messages? exact d = some m) (w : Wording) :
    w.value m = (w.listed? exact d).getD w.standard := by
  simp only [messages?, Option.bind_eq_bind, Option.bind_eq_some_iff] at h
  obtain ⟨values, hvalues, a, ha, b, hb, c, hc, e, he, f, hf, hm⟩ := h
  obtain rfl := Option.some.inj hm
  cases w with
  | footnotes => exact eq_field?_getD hvalues ha
  | untagged => exact eq_field?_getD hvalues hb
  | searching => exact eq_field?_getD hvalues hc
  | searchNothing => exact eq_field?_getD hvalues he
  | searchDone => exact eq_field?_getD hvalues hf

/-- The messages of a configuration have the texts that its datum lists among the messages, if it
lists messages at all. -/
theorem value_of_listed_messages {exact : Bool} {d : Datum} {values : List (Text × Datum)}
    {m : Messages} (hvalues : namedValues? exact settingNames d = some values)
    (h : valueOf? (messages? exact) {} "messages" values = some m) (w : Wording) :
    some (w.value m)
      = ((Setting.message w).listed? exact d).getD (Setting.message w).standard := by
  have hfield : field? exact settingNames "messages" d = values.lookup (lit "messages") := by
    rw [field?, hvalues, Option.bind_some]
  simp only [Setting.listed?, Setting.name, hfield]
  unfold valueOf? at h
  cases hd : values.lookup (lit "messages") with
  | none =>
    rw [hd] at h
    obtain rfl := Option.some.inj h
    rfl
  | some listed =>
    rw [hd] at h
    rw [Option.bind_some, Setting.standard_message, Option.getD_map]
    exact congrArg some (value_of_messages? h w)

/-- **The configuration that a datum lists has the values it lists**, and else the defaults; its
replacers are those that are listed. -/
theorem values_of_ofDatum? {exact : Bool} {d : Datum} {c : Config}
    (h : ofDatum? exact d = some c) :
    (∀ s : Setting, s.value c = (s.listed? exact d).getD s.standard) ∧
      c.replacer = replacers exact d := by
  simp only [ofDatum?, Option.bind_eq_bind, Option.bind_eq_some_iff] at h
  obtain ⟨values, hvalues, input, hinput, output, houtput, base, hbase, home, hhome, quotes,
    hquotes, pairs, hpairs, date, hdate, author, hauthor, messages, hmessages, hc⟩ := h
  obtain rfl := Option.some.inj hc
  have htext {name : String} {default v : Text}
      (hv : valueOf? Datum.text? default name values = some v) :
      some v
        = (((field? exact settingNames name d).bind Datum.text?).map some).getD (some default) := by
    rw [Option.getD_map]
    exact congrArg some (eq_field?_getD hvalues hv)
  refine ⟨fun s => ?_, eq_field?_getD hvalues hpairs⟩
  cases s with
  | inputDir => exact htext hinput
  | outputDir => exact htext houtput
  | basePath => exact htext hbase
  | homePath => exact htext hhome
  | smartQuotes => exact htext hquotes
  | dateFormat => exact htext hdate
  | defaultAuthor => exact eq_field?_getD hvalues hauthor
  | message w => exact value_of_listed_messages hvalues hmessages w

/-! ## What files list -/

/-- The data in a file, with whether its notation is exact about the length of lists. -/
def dataIn? (files : Entry) (file : Location) : Option (Bool × Datum) :=
  match Files.readText files file, formatOf? file with
  | .ok t, some .json => (Datum.ofJson? t).map (true, ·)
  | .ok t, some .toml => (Datum.ofToml? t).map (false, ·)
  | _, _ => none

/-- What a file lists for a setting, if anything. -/
def Setting.inFile? (files : Entry) (s : Setting) (file : Location) : Option (Option Text) :=
  (dataIn? files file).bind fun (exact, d) => s.listed? exact d

/-- The replacers that a file lists. -/
def replacersIn (files : Entry) (file : Location) : List (Text × Text) :=
  ((dataIn? files file).map fun (exact, d) => replacers exact d).getD []

/-- The configuration in a file is the one that its data list. -/
theorem exists_of_ofFile {files : Entry} {file : Location} {c : Config}
    (h : ofFile files file = .ok c) :
    ∃ exact d, dataIn? files file = some (exact, d) ∧ ofDatum? exact d = some c := by
  unfold ofFile at h
  unfold dataIn?
  cases ht : Files.readText files file with
  | error cause => rw [ht] at h; cases h
  | ok t =>
    cases hkind : formatOf? file with
    | none => rw [ht, hkind] at h; cases h
    | some kind =>
      simp only [ht, hkind] at h
      cases hc : ofText? kind t with
      | none => rw [hc] at h; cases h
      | some c' =>
        rw [hc] at h
        obtain rfl := Except.ok.inj h
        cases kind with
        | json =>
          obtain ⟨d, hd, hc⟩ := Option.bind_eq_some_iff.1 hc
          exact ⟨true, d, congrArg (Option.map (true, ·)) hd, hc⟩
        | toml =>
          obtain ⟨d, hd, hc⟩ := Option.bind_eq_some_iff.1 hc
          exact ⟨false, d, congrArg (Option.map (false, ·)) hd, hc⟩

section

variable {files : Entry} {file : Location} {c : Config}

/-- **The configuration in a file has the values that the file lists**, and else the defaults… -/
theorem value_of_ofFile (h : ofFile files file = .ok c) (s : Setting) :
    s.value c = (s.inFile? files file).getD s.standard := by
  obtain ⟨exact, d, hd, hc⟩ := exists_of_ofFile h
  rw [Setting.inFile?, hd, Option.bind_some]
  exact (values_of_ofDatum? hc).1 s

/-- …and the replacers that it lists. -/
theorem replacer_of_ofFile (h : ofFile files file = .ok c) :
    c.replacer = replacersIn files file := by
  obtain ⟨exact, d, hd, hc⟩ := exists_of_ofFile h
  rw [replacersIn, hd, Option.map_some, Option.getD_some]
  exact (values_of_ofDatum? hc).2

end

end WikiPress.Config
