import DomainTables.English.Ending

/-!
# Singular forms of English nouns

Columns that hold several references are named after one of them, so the last word of a property
has to be put into the singular. `singularize` looks a word up among the irregular nouns, leaves
uncountable ones alone, and otherwise applies the first rule whose ending fits. What is found is
brought back to the case of the word (`restoreCase`).
-/

namespace DomainTables.English

open DomainTables.Text

/-- Irregular words, each singular with its plural. -/
def irregulars : List (String × String) := [
  ("I", "we"), ("me", "us"), ("he", "they"), ("she", "they"), ("them", "them"),
  ("myself", "ourselves"), ("yourself", "yourselves"), ("itself", "themselves"),
  ("herself", "themselves"), ("himself", "themselves"), ("themself", "themselves"), ("is", "are"),
  ("was", "were"), ("has", "have"), ("this", "these"), ("that", "those"), ("my", "our"),
  ("its", "their"), ("his", "their"), ("her", "their"), ("echo", "echoes"), ("dingo", "dingoes"),
  ("volcano", "volcanoes"), ("tornado", "tornadoes"), ("torpedo", "torpedoes"), ("genus", "genera"),
  ("viscus", "viscera"), ("stigma", "stigmata"), ("stoma", "stomata"), ("dogma", "dogmata"),
  ("lemma", "lemmata"), ("schema", "schemata"), ("anathema", "anathemata"), ("ox", "oxen"),
  ("axe", "axes"), ("die", "dice"), ("yes", "yeses"), ("foot", "feet"), ("eave", "eaves"),
  ("goose", "geese"), ("tooth", "teeth"), ("quiz", "quizzes"), ("human", "humans"),
  ("proof", "proofs"), ("carve", "carves"), ("valve", "valves"), ("looey", "looies"),
  ("thief", "thieves"), ("groove", "grooves"), ("pickaxe", "pickaxes"), ("passerby", "passersby"),
  ("canvas", "canvases")]

/-- Words that have no plural of their own. -/
def uncountables : List String := [
  "adulthood", "advice", "agenda", "aid", "aircraft", "alcohol", "ammo", "analytics", "anime",
  "athletics", "audio", "bison", "blood", "bream", "buffalo", "butter", "carp", "cash", "chassis",
  "chess", "clothing", "cod", "commerce", "cooperation", "corps", "debris", "diabetes", "digestion",
  "elk", "energy", "equipment", "excretion", "expertise", "firmware", "flounder", "fun", "gallows",
  "garbage", "graffiti", "hardware", "headquarters", "health", "herpes", "highjinks", "homework",
  "housework", "information", "jeans", "justice", "kudos", "labour", "literature", "machinery",
  "mackerel", "mail", "media", "mews", "moose", "music", "mud", "manga", "news", "only",
  "personnel", "pike", "plankton", "pliers", "police", "pollution", "premises", "rain", "research",
  "rice", "salmon", "scissors", "series", "sewage", "shambles", "shrimp", "software", "staff",
  "swine", "tennis", "traffic", "transportation", "trout", "tuna", "wealth", "welfare", "whiting",
  "wildebeest", "wildlife", "you"]

/-- A rule that only recognizes words whose plural is their singular. -/
def unchanging (stem : Stem) : EndingRule :=
  ⟨[stem], [""], ""⟩

/-- The endings of words whose plural is their singular, in the order in which they are tried. -/
def unchangingRules : List EndingRule := [
  unchanging (.plain "sheep"),
  unchanging (.plain "pox"),
  unchanging ⟨.anywhere, [.is 'o', .among ['i', 'u'], .is 's']⟩,
  unchanging (.plain "measles"),
  unchanging (.plain "fish"),
  unchanging (.plain "deer"),
  unchanging ⟨.anywhere, .except ['a', 'e', 'i', 'o', 'u'] :: spelled "ese"⟩,
  unchanging ⟨.anywhere, spelled "pok" ++ .among ['e', 'é'] :: spelled "mon"⟩]

/-- The rules for words in the plural, in the order in which they are tried. -/
def pluralRules : List EndingRule := [
  ⟨[⟨.anywhere, []⟩], ["men"], "man"⟩,
  ⟨["eau"].map Stem.plain, ["", "x"], ""⟩,
  ⟨["child"].map Stem.plain, ["ren"], ""⟩,
  ⟨["pe"].map Stem.plain, ["rson", "ople"], "rson"⟩,
  ⟨["matr", "append"].map Stem.plain, ["ices"], "ix"⟩,
  ⟨["cod", "mur", "sil", "vert", "ind"].map Stem.plain, ["ices"], "ex"⟩,
  ⟨["alumn", "alg", "vertebr"].map Stem.plain, ["ae"], "a"⟩,
  ⟨["apheli", "hyperbat", "periheli", "asyndet", "noumen", "phenomen", "criteri", "organ",
    "prolegomen", "hedr", "automat"].map Stem.plain, ["a"], "on"⟩,
  ⟨["agend", "addend", "millenni", "dat", "extrem", "bacteri", "desiderat", "strat", "candelabr",
    "errat", "ov", "symposi", "curricul", "quor"].map Stem.plain, ["a"], "um"⟩,
  ⟨["alumn", "syllab", "vir", "radi", "nucle", "fung", "cact", "stimul", "termin", "bacill", "foc",
    "uter", "loc", "strat"].map Stem.plain, ["us", "i"], "us"⟩,
  ⟨["test"].map Stem.plain, ["is", "es"], "is"⟩,
  ⟨["movie", "twelve", "abuse"].map Stem.plain ++
    [⟨.anywhere, [.is 'e', .among ['m', 'n'], .is 'u']⟩], ["s"], ""⟩,
  ⟨["analy", "diagno", "parenthe", "progno", "synop", "the", "empha", "cri", "ne"].map Stem.plain,
    ["sis", "ses"], "sis"⟩,
  ⟨["x", "ch", "ss", "sh", "zz", "tto", "go", "cho", "alias"].map Stem.plain ++
    [⟨.anywhere, .except ['a', 'o', 'u'] :: spelled "us"⟩,
     ⟨.anywhere, [.is 't', .among ['l', 'm'], .is 'a', .is 's']⟩] ++
    ["gas", "hero", "ato", "gro"].map Stem.plain ++
    [⟨.anywhere, .among ['a', 'e', 'i', 'o', 'u'] :: spelled "ris"⟩], ["es", ""], ""⟩,
  ⟨["seraph", "cherub"].map Stem.plain, ["im"], ""⟩,
  ⟨["titm", "m", "l"].map Stem.whole, ["ice"], "ouse"⟩,
  ⟨["mon", "smil"].map Stem.whole, ["ies"], "ey"⟩,
  ⟨["l", "neckt", "crosst", "hogt", "aunt", "t", "coll", "faer", "food", "gen", "goon", "group",
    "hipp", "junk", "vegg", "porkp", "p", "charl", "calor", "cut"].map Stem.whole, ["ies"], "ie"⟩,
  ⟨["dg", "ss", "ois", "lk", "ok", "wn", "mb", "th", "ch", "ec", "oal", "is", "ck", "ix", "sser",
    "ts", "wb"].map Stem.plain, ["ies"], "ie"⟩,
  ⟨[⟨.anywhere, []⟩], ["ies"], "y"⟩,
  ⟨["ar", "wol", "al", "el", "eo", "ea", "oo", "oa"].map Stem.plain, ["ves"], "f"⟩,
  ⟨["wi", "kni", "afterli", "halfli", "highli", "lowli", "midli", "nonli", "nightli"].map
      Stem.plain ++
    [⟨.anywhere, .outsideWord :: spelled "li"⟩, ⟨.textStart, spelled "li"⟩], ["ves"], "fe"⟩,
  ⟨["ss"].map Stem.plain, [""], ""⟩,
  ⟨[⟨.anywhere, []⟩], ["s"], ""⟩]

/-- Gives a text the case of a word: that of the word where it is all small or all capitals, its
own where the word begins with a capital, and else small letters. A text equal to the word is left
as it is. -/
def restoreCase (word text : List Char) : List Char :=
  if word = text then text
  else if word = lowerText word then lowerText text
  else if word = upperText word then upperText text
  else if word.head?.any isUpper then text
  else lowerText text

/-- A text without its dollar signs and the characters that follow them. -/
def dropReferences : List Char → List Char
  | [] => []
  | [c] => if c = '$' then [] else [c]
  | c :: next :: rest =>
    if c = '$' then dropReferences rest else c :: dropReferences (next :: rest)

/-- The word that a rule makes of a word taken apart. -/
def EndingRule.rebuild (rule : EndingRule) (word : List Char) (split : Split) : List Char :=
  split.before ++ restoreCase word split.stem ++ restoreCase word rule.replacement.toList

/-- The word that the first fitting rule of a list makes of a word, which is the word itself if none
fits. -/
def applyFirst (rules : List EndingRule) (word : List Char) : List Char :=
  match rules.findSome? fun rule => (rule.split? word).map (rule.rebuild word) with
  | some result => dropReferences result
  | none => word

/-- The singular of the last irregular noun in the table that has the given plural. -/
def irregularSingular? (plural : String) : Option String :=
  (irregulars.reverse.find? fun entry => entry.2 == plural).map (·.1)

/-- The singular of a noun, in the case of the noun. -/
def singularize (word : String) : String :=
  let letters := word.toList
  let small := String.ofList (lowerText letters)
  if irregulars.any fun entry => entry.1 == small then
    String.ofList (restoreCase letters small.toList)
  else
    match irregularSingular? small with
    | some singular => String.ofList (restoreCase letters singular.toList)
    | none =>
      if small = "" ∨ uncountables.contains small then word
      else String.ofList (applyFirst (unchangingRules ++ pluralRules) letters)

end DomainTables.English
