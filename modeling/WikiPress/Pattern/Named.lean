import WikiPress.Pattern.CharSet

/-!
# Pattern/Named — the sets that patterns call by name

Three families: the classes of one letter after a backslash, the classes of ASCII in double
brackets, and the properties of the Unicode character database.  Names of the last family are
compared without regard to letter case, spaces, hyphens and underscores.
-/

namespace WikiPress.Pattern

open WikiPress.Text (Category)

namespace CharSet

/-- The decimal digits of ASCII. -/
def digits : CharSet := range '0' '9'

/-- The letters of ASCII. -/
def letters : CharSet := union (range 'a' 'z') (range 'A' 'Z')

/-- The white space of ASCII. -/
def asciiBlanks : CharSet := union (range '\t' '\r') (single ' ')

/-- The word characters of ASCII. -/
def asciiWord : CharSet := unions [letters, digits, single '_']

/-- The class of a letter after a backslash, over all scripts if `full`; the capital letter means
the complement. -/
def ofLetter? (full : Bool) (c : Char) : Option (Bool × CharSet) :=
  let set := match Text.lowerLetter c with
    | 'd' => some (if full then property (.category .decimalDigit) else digits)
    | 's' => some (if full then property .blank else asciiBlanks)
    | 'w' => some (if full then property .word else asciiWord)
    | _ => Option.none
  set.map fun s => (Text.lowerLetter c != c, s)

/-- The class of ASCII with a name. -/
def ofAsciiName? (name : Text) : Option CharSet :=
  if name == lit "alnum" then some (union letters digits)
  else if name == lit "alpha" then some letters
  else if name == lit "ascii" then some ascii
  else if name == lit "blank" then some (union (single '\t') (single ' '))
  else if name == lit "cntrl" then some (union (range (Char.ofNat 0) (Char.ofNat 0x1F)) (single (Char.ofNat 0x7F)))
  else if name == lit "digit" then some digits
  else if name == lit "graph" then some (range '!' '~')
  else if name == lit "lower" then some (range 'a' 'z')
  else if name == lit "print" then some (range ' ' '~')
  else if name == lit "punct" then
    some (unions [range '!' '/', range ':' '@', range '[' (Char.ofNat 96), range (Char.ofNat 123) '~'])
  else if name == lit "space" then some asciiBlanks
  else if name == lit "upper" then some (range 'A' 'Z')
  else if name == lit "word" then some asciiWord
  else if name == lit "xdigit" then some (unions [digits, range 'a' 'f', range 'A' 'F'])
  else Option.none

end CharSet

/-! ## Properties -/

/-- A property name without what does not count in it. -/
def plainName (name : Text) : Text :=
  let kept := (name.filter fun c => !(Text.isBlank c || c == '-' || c == '_') && c.toNat < 128).map
    Text.lowerLetter
  match kept with
  | 'i' :: 's' :: rest => if rest.isEmpty || rest == lit "c" then kept else rest
  | _ => kept

/-- The names of the general categories and of their unions. -/
def categoryNames : List (List String × List Category) :=
  let letters : List Category :=
    [.uppercaseLetter, .lowercaseLetter, .titlecaseLetter, .modifierLetter, .otherLetter]
  let marks : List Category := [.nonspacingMark, .spacingMark, .enclosingMark]
  let numbers : List Category := [.decimalDigit, .letterNumber, .otherNumber]
  let punctuation : List Category :=
    [.connectorPunctuation, .dashPunctuation, .openPunctuation, .closePunctuation,
     .initialPunctuation, .finalPunctuation, .otherPunctuation]
  let symbols : List Category := [.mathSymbol, .currencySymbol, .modifierSymbol, .otherSymbol]
  let separators : List Category := [.spaceSeparator, .lineSeparator, .paragraphSeparator]
  let others : List Category := [.control, .formatControl, .privateUse, .surrogate, .unassigned]
  [(["l", "letter"], letters), (["m", "mark", "combiningmark"], marks), (["n", "number"], numbers),
   (["p", "punctuation", "punct"], punctuation), (["s", "symbol"], symbols),
   (["z", "separator"], separators), (["c", "other"], others),
   (["lc", "casedletter"], [.uppercaseLetter, .lowercaseLetter, .titlecaseLetter]),
   (["lu", "uppercaseletter"], [.uppercaseLetter]), (["ll", "lowercaseletter"], [.lowercaseLetter]),
   (["lt", "titlecaseletter"], [.titlecaseLetter]), (["lm", "modifierletter"], [.modifierLetter]),
   (["lo", "otherletter"], [.otherLetter]), (["mn", "nonspacingmark"], [.nonspacingMark]),
   (["mc", "spacingmark"], [.spacingMark]), (["me", "enclosingmark"], [.enclosingMark]),
   (["nd", "decimalnumber", "digit"], [.decimalDigit]), (["nl", "letternumber"], [.letterNumber]),
   (["no", "othernumber"], [.otherNumber]),
   (["pc", "connectorpunctuation"], [.connectorPunctuation]),
   (["pd", "dashpunctuation"], [.dashPunctuation]), (["ps", "openpunctuation"], [.openPunctuation]),
   (["pe", "closepunctuation"], [.closePunctuation]),
   (["pi", "initialpunctuation"], [.initialPunctuation]),
   (["pf", "finalpunctuation"], [.finalPunctuation]),
   (["po", "otherpunctuation"], [.otherPunctuation]), (["sm", "mathsymbol"], [.mathSymbol]),
   (["sc", "currencysymbol"], [.currencySymbol]), (["sk", "modifiersymbol"], [.modifierSymbol]),
   (["so", "othersymbol"], [.otherSymbol]), (["zs", "spaceseparator"], [.spaceSeparator]),
   (["zl", "lineseparator"], [.lineSeparator]), (["zp", "paragraphseparator"], [.paragraphSeparator]),
   (["cc", "control", "cntrl"], [.control]), (["cf", "format"], [.formatControl]),
   (["co", "privateuse"], [.privateUse]), (["cn", "unassigned"], [.unassigned])]

/-- The names of the scripts. -/
def scriptNames : List (List String × List Nat) :=
  [(["latin", "latn"], Text.latinBoundaries), (["greek", "grek"], Text.greekBoundaries),
   (["cyrillic", "cyrl"], Text.cyrillicBoundaries), (["armenian", "armn"], Text.armenianBoundaries),
   (["georgian", "geor"], Text.georgianBoundaries), (["hebrew", "hebr"], Text.hebrewBoundaries),
   (["arabic", "arab"], Text.arabicBoundaries), (["devanagari", "deva"], Text.devanagariBoundaries),
   (["bengali", "beng"], Text.bengaliBoundaries), (["tamil", "taml"], Text.tamilBoundaries),
   (["thai"], Text.thaiBoundaries), (["hangul", "hang"], Text.hangulBoundaries),
   (["hiragana", "hira"], Text.hiraganaBoundaries), (["katakana", "kana"], Text.katakanaBoundaries),
   (["han", "hani"], Text.hanBoundaries)]

/-- The other properties with names. -/
def propertyNames : List (List String × Property) :=
  [(["any"], .any), (["alphabetic", "alpha"], .alphabetic),
   (["whitespace", "wspace", "space"], .blank), (["uppercase", "upper"], .uppercase),
   (["lowercase", "lower"], .lowercase), (["emoji"], .within Text.emojiBoundaries)]

/-- The value that a table of names has for a plain name. -/
def lookUpName {α : Type} (table : List (List String × α)) (name : Text) : Option α :=
  (table.find? fun entry => entry.1.any fun n => n.toList == name).map Prod.snd

/-- The union of categories. -/
def ofCategories (categories : List Category) : CharSet :=
  CharSet.unions (categories.map fun k => .property (.category k))

/-- The set with a general category's name. -/
def ofCategoryName? (name : Text) : Option CharSet :=
  if name == lit "any" then some (.property .any)
  else if name == lit "assigned" then some (.compl (.property (.category .unassigned)))
  else if name == lit "ascii" then some .ascii
  else (lookUpName categoryNames name).map ofCategories

/-- The set with a script's name. -/
def ofScriptName? (name : Text) : Option CharSet :=
  (lookUpName scriptNames name).map fun boundaries => .property (.within boundaries)

/-- The set with a property's name: a property proper, a general category or a script. -/
def ofPropertyName? (name : Text) : Option CharSet :=
  let name := plainName name
  ((lookUpName propertyNames name).map CharSet.property).orElse fun _ =>
    (ofCategoryName? name).orElse fun _ => ofScriptName? name

/-- The set of the characters for which the property `name` has the value `value`. -/
def ofPropertyValue? (name value : Text) : Option CharSet :=
  let name := plainName name
  let value := plainName value
  if name == lit "gc" || name == lit "generalcategory" then ofCategoryName? value
  else if name == lit "sc" || name == lit "script" then ofScriptName? value
  else none

end WikiPress.Pattern
