import DocQuery.Text.Break

/-! Properties of characters by name.

Names are compared without case, blanks, hyphens, underscores and characters outside
ASCII, and without a leading `is`. A name alone is a property, a category or a script; a
name with a value is one of the properties that have more than two values. -/
namespace DocQuery.Regex.Property

open Text (CharSet Edition Trait)

/-- The edition of the character standard that patterns go by. -/
def edition : Edition := .sixteen

/-- What a name can fail to be. -/
inductive Absence where
  | property
  | value
  deriving DecidableEq, Repr

/-- A name without what does not count in comparisons. The name `isc` keeps its first
letters, since `c` is another one. -/
def normal (name : List Char) : List Char :=
  let keep (c : Char) : Bool := c.toNat < 0x80 && c != ' ' && c != '_' && c != '-'
  let kept (name : List Char) : List Char := (name.filter keep).map Char.toLower
  match name with
  | i :: s :: rest =>
    if i.toLower == 'i' && s.toLower == 's' then
      if kept rest = ['c'] then ['i', 's', 'c'] else kept rest
    else kept name
  | _ => kept name

/-- The name is one of those given. -/
def isOneOf (names : List String) (name : List Char) : Bool :=
  names.any fun other => normal other.toList == name

/-! ### Values -/

/-- The names of categories and of groups of categories. -/
def categoryNames : List (List String × List String) := [
  (["C", "Other"], ["Cc", "Cf", "Cn", "Co"]), (["Cc", "Control", "cntrl"], ["Cc"]),
  (["Cf", "Format"], ["Cf"]), (["Cn", "Unassigned"], ["Cn"]), (["Co", "Private_Use"], ["Co"]),
  (["L", "Letter"], ["L"]), (["LC", "Cased_Letter"], ["Lu", "Ll", "Lt"]),
  (["Ll", "Lowercase_Letter"], ["Ll"]), (["Lm", "Modifier_Letter"], ["Lm"]),
  (["Lo", "Other_Letter"], ["Lo"]), (["Lt", "Titlecase_Letter"], ["Lt"]),
  (["Lu", "Uppercase_Letter"], ["Lu"]), (["M", "Mark", "Combining_Mark"], ["M"]),
  (["Mc", "Spacing_Mark"], ["Mc"]), (["Me", "Enclosing_Mark"], ["Me"]),
  (["Mn", "Nonspacing_Mark"], ["Mn"]), (["N", "Number"], ["N"]),
  (["Nd", "Decimal_Number", "digit"], ["Nd"]), (["Nl", "Letter_Number"], ["Nl"]),
  (["No", "Other_Number"], ["No"]), (["P", "Punctuation", "punct"], ["P"]),
  (["Pc", "Connector_Punctuation"], ["Pc"]), (["Pd", "Dash_Punctuation"], ["Pd"]),
  (["Pe", "Close_Punctuation"], ["Pe"]), (["Pf", "Final_Punctuation"], ["Pf"]),
  (["Pi", "Initial_Punctuation"], ["Pi"]), (["Po", "Other_Punctuation"], ["Po"]),
  (["Ps", "Open_Punctuation"], ["Ps"]), (["S", "Symbol"], ["S"]),
  (["Sc", "Currency_Symbol"], ["Sc"]), (["Sk", "Modifier_Symbol"], ["Sk"]),
  (["Sm", "Math_Symbol"], ["Sm"]), (["So", "Other_Symbol"], ["So"]),
  (["Z", "Separator"], ["Z"]), (["Zl", "Line_Separator"], ["Zl"]),
  (["Zp", "Paragraph_Separator"], ["Zp"]), (["Zs", "Space_Separator"], ["Zs"])]

/-- The set of a category. Surrogates are a category without characters. -/
def category? (name : List Char) : Option (Except Absence CharSet) :=
  if isOneOf ["Any"] name then some (.ok .all)
  else if isOneOf ["ASCII"] name then some (.ok (.range 0 0x7F))
  else if isOneOf ["Assigned"] name then some (.ok (Text.categorySet edition ["Cn"]).complement)
  else if isOneOf ["Cs", "Surrogate"] name then some (.error .value)
  else (categoryNames.find? fun entry => isOneOf entry.1 name).map fun entry =>
    .ok (Text.categorySet edition entry.2)

/-- The letters of a script; none for a script without characters. -/
def script? (name : List Char) : Option (Except Absence String) :=
  if isOneOf ["Hrkt", "Katakana_Or_Hiragana", "Zzzz", "Unknown"] name then some (.error .value)
  else if isOneOf ["Qaai"] name then some (.ok "Zinh")
  else if isOneOf ["Qaac"] name then some (.ok "Copt")
  else (Text.scriptNames.find? fun entry => isOneOf [entry.1, entry.2] name).map (.ok ·.1)

/-- The characters up to an edition of the standard. -/
def age? (name : List Char) : Option CharSet :=
  let known := Text.Edition.signs.takeWhile fun entry => entry.2 != "17.0"
  (known.find? fun entry =>
      let number := entry.2.toList
      normal number == name || normal ('V' :: number.filter (· != '.')) == name).map fun entry =>
    Text.Edition.upTo entry.1

def break? (values : List Text.Value) (name : List Char) : Option CharSet :=
  (values.find? fun value => isOneOf [value.short, value.long] name).map fun value =>
    value.trait.set edition

/-! ### Properties -/

/-- What is known of a property. -/
inductive Kind where
  /-- A character has it or not. -/
  | trait (trait : Trait)
  | category | script | extensions | age
  | breaks (values : List Text.Value)
  /-- There is such a property, but patterns cannot ask for it. -/
  | unsupported

/-- The properties that characters have or have not, by their names. -/
def traits : List (List String × Trait) := [
  (["AHex", "ASCII_Hex_Digit"], .ranges [(0x30, 0x39), (0x41, 0x46), (0x61, 0x66)]),
  (["Alpha", "Alphabetic"], .alphabetic),
  (["Bidi_C", "Bidi_Control"],
    .ranges [(0x61C, 0x61C), (0x200E, 0x200F), (0x202A, 0x202E), (0x2066, 0x2069)]),
  (["Bidi_M", "Bidi_Mirrored"], .listed Text.Table.bidiMirrored),
  (["CI", "Case_Ignorable"], .caseIgnorable), (["Cased"], .cased),
  (["CWCF", "Changes_When_Casefolded"], .changesWhenCasefolded),
  (["CWCM", "Changes_When_Casemapped"], .changesWhenCasemapped),
  (["CWL", "Changes_When_Lowercased"], .changesWhenLowercased),
  (["CWT", "Changes_When_Titlecased"], .changesWhenTitlecased),
  (["CWU", "Changes_When_Uppercased"], .changesWhenUppercased),
  (["Dash"], .listed Text.Table.dash), (["DI", "Default_Ignorable_Code_Point"], .ignorable),
  (["Dep", "Deprecated"], .ranges [(0x149, 0x149), (0x673, 0x673), (0xF77, 0xF77),
    (0xF79, 0xF79), (0x17A3, 0x17A4), (0x206A, 0x206F), (0x2329, 0x232A), (0xE0001, 0xE0001)]),
  (["Dia", "Diacritic"], .listed Text.Table.diacritic),
  (["Emoji"], .listed Text.Table.emoji),
  (["EComp", "Emoji_Component"], .ranges [(0x23, 0x23), (0x2A, 0x2A), (0x30, 0x39),
    (0x200D, 0x200D), (0x20E3, 0x20E3), (0xFE0F, 0xFE0F), (0x1F1E6, 0x1F1FF),
    (0x1F3FB, 0x1F3FF), (0x1F9B0, 0x1F9B3), (0xE0020, 0xE007F)]),
  (["EMod", "Emoji_Modifier"], Text.Break.emojiModifier),
  (["EBase", "Emoji_Modifier_Base"], .listed Text.Table.emojiModifierBase),
  (["EPres", "Emoji_Presentation"], .listed Text.Table.emojiPresentation),
  (["ExtPict", "Extended_Pictographic"], .reserved Text.Table.extendedPictographic),
  (["Ext", "Extender"], .listed Text.Table.extender),
  (["Gr_Base", "Grapheme_Base"], .graphemeBase),
  (["Gr_Ext", "Grapheme_Extend"], .graphemeExtend),
  (["Gr_Link", "Grapheme_Link"], .listed Text.Table.graphemeLink),
  (["Hex", "Hex_Digit"], .ranges [(0x30, 0x39), (0x41, 0x46), (0x61, 0x66), (0xFF10, 0xFF19),
    (0xFF21, 0xFF26), (0xFF41, 0xFF46)]),
  (["Hyphen"], .ranges [(0x2D, 0x2D), (0xAD, 0xAD), (0x58A, 0x58A), (0x1806, 0x1806),
    (0x2010, 0x2011), (0x2E17, 0x2E17), (0x30FB, 0x30FB), (0xFE63, 0xFE63), (0xFF0D, 0xFF0D),
    (0xFF65, 0xFF65)]),
  (["IDSB", "IDS_Binary_Operator"],
    .ranges [(0x2FF0, 0x2FF1), (0x2FF4, 0x2FFD), (0x31EF, 0x31EF)]),
  (["IDST", "IDS_Trinary_Operator"], .ranges [(0x2FF2, 0x2FF3)]),
  (["IDSU", "IDS_Unary_Operator"], .ranges [(0x2FFE, 0x2FFF)]),
  (["ID_Compat_Math_Continue"], .either compatMath (.ranges [(0xB2, 0xB3), (0xB9, 0xB9),
    (0x2070, 0x2070), (0x2074, 0x207E), (0x2080, 0x208E)])),
  (["ID_Compat_Math_Start"], compatMath),
  (["IDC", "ID_Continue"], .idContinue), (["IDS", "ID_Start"], .idStart),
  (["Ideo", "Ideographic"], .listed Text.Table.ideographic),
  (["Join_C", "Join_Control"], .ranges [(0x200C, 0x200D)]),
  (["LOE", "Logical_Order_Exception"], .ranges [(0xE40, 0xE44), (0xEC0, 0xEC4),
    (0x19B5, 0x19B7), (0x19BA, 0x19BA), (0xAAB5, 0xAAB6), (0xAAB9, 0xAAB9), (0xAABB, 0xAABC)]),
  (["Lower", "Lowercase"], .lowercase), (["Math"], .math),
  (["MCM", "Modifier_Combining_Mark"], .ranges [(0x654, 0x655), (0x658, 0x658), (0x6DC, 0x6DC),
    (0x6E3, 0x6E3), (0x6E7, 0x6E8), (0x8CA, 0x8CB), (0x8CD, 0x8CF), (0x8D3, 0x8D3),
    (0x8F3, 0x8F3)]),
  (["NChar", "Noncharacter_Code_Point"], .reserved Text.Table.noncharacter),
  (["OAlpha", "Other_Alphabetic"], .listed Text.Table.otherAlphabetic),
  (["ODI", "Other_Default_Ignorable_Code_Point"], .reserved Text.Table.otherIgnorable),
  (["OGr_Ext", "Other_Grapheme_Extend"], .listed Text.Table.otherGraphemeExtend),
  (["OIDC", "Other_ID_Continue"], .otherIdContinue),
  (["OIDS", "Other_ID_Start"], .otherIdStart),
  (["OLower", "Other_Lowercase"], .listed Text.Table.otherLowercase),
  (["OMath", "Other_Math"], .listed Text.Table.otherMath),
  (["OUpper", "Other_Uppercase"], .listed Text.Table.otherUppercase),
  (["Pat_Syn", "Pattern_Syntax"], .reserved Text.Table.patternSyntax),
  (["Pat_WS", "Pattern_White_Space"], .patternWhiteSpace),
  (["PCM", "Prepended_Concatenation_Mark"], .prependedMark),
  (["QMark", "Quotation_Mark"], .ranges [(0x22, 0x22), (0x27, 0x27), (0xAB, 0xAB),
    (0xBB, 0xBB), (0x2018, 0x201F), (0x2039, 0x203A), (0x2E42, 0x2E42), (0x300C, 0x300F),
    (0x301D, 0x301F), (0xFE41, 0xFE44), (0xFF02, 0xFF02), (0xFF07, 0xFF07), (0xFF62, 0xFF63)]),
  (["Radical"], .ranges [(0x2E80, 0x2E99), (0x2E9B, 0x2EF3), (0x2F00, 0x2FD5)]),
  (["RI", "Regional_Indicator"], Text.Break.regionalIndicator),
  (["STerm", "Sentence_Terminal"], .listed Text.Table.sentenceTerminal),
  (["SD", "Soft_Dotted"], .listed Text.Table.softDotted),
  (["Term", "Terminal_Punctuation"], .listed Text.Table.terminalPunctuation),
  (["UIdeo", "Unified_Ideograph"], .listed Text.Table.unifiedIdeograph),
  (["Upper", "Uppercase"], .uppercase), (["VS", "Variation_Selector"], .variationSelector),
  (["WSpace", "space", "White_Space"], .whiteSpace),
  (["XIDC", "XID_Continue"], .xidContinue), (["XIDS", "XID_Start"], .xidStart)]
where
  /-- Mathematical signs that some identifiers may begin with. -/
  compatMath : Trait := .ranges [
    (0x2202, 0x2202), (0x2207, 0x2207), (0x221E, 0x221E), (0x1D6C1, 0x1D6C1),
    (0x1D6DB, 0x1D6DB), (0x1D6FB, 0x1D6FB), (0x1D715, 0x1D715), (0x1D735, 0x1D735),
    (0x1D74F, 0x1D74F), (0x1D76F, 0x1D76F), (0x1D789, 0x1D789), (0x1D7A9, 0x1D7A9),
    (0x1D7C3, 0x1D7C3)]

/-- The names of properties that patterns cannot ask for. -/
def unsupportedNames : List String := [
  "bc", "Bidi_Class", "blk", "Block", "bmg", "Bidi_Mirroring_Glyph", "bpb",
  "Bidi_Paired_Bracket", "bpt", "Bidi_Paired_Bracket_Type", "ccc", "Canonical_Combining_Class",
  "CE", "Composition_Exclusion", "cf", "Case_Folding", "cjkAccountingNumeric",
  "kAccountingNumeric", "cjkCompatibilityVariant", "kCompatibilityVariant", "cjkIICore",
  "kIICore", "cjkIRG_GSource", "kIRG_GSource", "cjkIRG_HSource", "kIRG_HSource",
  "cjkIRG_JSource", "kIRG_JSource", "cjkIRG_KPSource", "kIRG_KPSource", "cjkIRG_KSource",
  "kIRG_KSource", "cjkIRG_MSource", "kIRG_MSource", "cjkIRG_SSource", "kIRG_SSource",
  "cjkIRG_TSource", "kIRG_TSource", "cjkIRG_UKSource", "kIRG_UKSource", "cjkIRG_USource",
  "kIRG_USource", "cjkIRG_VSource", "kIRG_VSource", "cjkMandarin", "kMandarin",
  "cjkOtherNumeric", "kOtherNumeric", "cjkPrimaryNumeric", "kPrimaryNumeric", "cjkRSUnicode",
  "kRSUnicode", "Unicode_Radical_Stroke", "URS", "cjkTotalStrokes", "kTotalStrokes",
  "cjkUnihanCore2020", "kUnihanCore2020", "Comp_Ex", "Full_Composition_Exclusion", "CWKCF",
  "Changes_When_NFKC_Casefolded", "dm", "Decomposition_Mapping", "dt", "Decomposition_Type",
  "ea", "East_Asian_Width", "EqUIdeo", "Equivalent_Unified_Ideograph", "FC_NFKC",
  "FC_NFKC_Closure", "hst", "Hangul_Syllable_Type", "InCB", "Indic_Conjunct_Break", "InPC",
  "Indic_Positional_Category", "InSC", "Indic_Syllabic_Category", "isc", "ISO_Comment", "jg",
  "Joining_Group", "JSN", "Jamo_Short_Name", "jt", "Joining_Type", "kEH_Cat", "kEH_Desc",
  "kEH_HG", "kEH_IFAO", "kEH_JSesh", "kEH_NoMirror", "kEH_NoRotate", "lb", "Line_Break", "lc",
  "Lowercase_Mapping", "na", "Name", "na1", "Unicode_1_Name", "Name_Alias", "NFC_QC",
  "NFC_Quick_Check", "NFD_QC", "NFD_Quick_Check", "NFKC_CF", "NFKC_Casefold", "NFKC_QC",
  "NFKC_Quick_Check", "NFKC_SCF", "NFKC_Simple_Casefold", "NFKD_QC", "NFKD_Quick_Check", "nt",
  "Numeric_Type", "nv", "Numeric_Value", "scf", "Simple_Case_Folding", "sfc", "slc",
  "Simple_Lowercase_Mapping", "stc", "Simple_Titlecase_Mapping", "suc",
  "Simple_Uppercase_Mapping", "tc", "Titlecase_Mapping", "uc", "Uppercase_Mapping", "vo",
  "Vertical_Orientation", "XO_NFC", "Expands_On_NFC", "XO_NFD", "Expands_On_NFD", "XO_NFKC",
  "Expands_On_NFKC", "XO_NFKD", "Expands_On_NFKD"]

def property? (name : List Char) : Option Kind :=
  match traits.find? fun entry => isOneOf entry.1 name with
  | some (_, trait) => some (.trait trait)
  | none =>
    if isOneOf ["gc", "General_Category"] name then some .category
    else if isOneOf ["sc", "Script"] name then some .script
    else if isOneOf ["scx", "Script_Extensions"] name then some .extensions
    else if isOneOf ["age"] name then some .age
    else if isOneOf ["GCB", "Grapheme_Cluster_Break"] name then
      some (.breaks Text.Break.graphemeValues)
    else if isOneOf ["WB", "Word_Break"] name then some (.breaks Text.Break.wordValues)
    else if isOneOf ["SB", "Sentence_Break"] name then some (.breaks Text.Break.sentenceValues)
    else if isOneOf unsupportedNames name then some .unsupported
    else none

/-! ### Sets -/

/-- The set of a name that stands alone. Three names are categories although they are
short for properties as well. -/
def ofName (name : List Char) : Except Absence CharSet :=
  let name := normal name
  let property := if isOneOf ["cf", "sc", "lc"] name then none else property? name
  match property, category? name, script? name with
  | some (.trait trait), _, _ => .ok (trait.set edition)
  | some _, _, _ => .error .property
  | none, some category, _ => category
  | none, none, some script => script.map (Text.scriptSet edition)
  | none, none, none => .error .property

/-- The set of a value of a property. -/
def ofValue (property value : List Char) : Except Absence CharSet :=
  let value := normal value
  match property? (normal property) with
  | some .category => (category? value).getD (.error .value)
  | some .script => (script? value).getD (.error .value) |>.map (Text.scriptSet edition)
  | some .extensions =>
    (script? value).getD (.error .value) |>.map (Text.scriptExtensionSet edition)
  | some .age => orValue (age? value)
  | some (.breaks values) => orValue (break? values value)
  | some _ => .error .value
  | none => .error .property
where
  orValue (set : Option CharSet) : Except Absence CharSet :=
    match set with
    | some set => .ok set
    | none => .error .value

end DocQuery.Regex.Property
