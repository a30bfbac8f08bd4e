/-!
# Property names

The properties of the Unicode character database 16.0 by the names they go by, normalized
as class names are: the long name of each, whether or not a class may use it.
-/

namespace ProviderCoverage.Unicode.Property

/-- The names of the properties, normalized, with the long name each stands for. -/
def names : List (String × String) := [
  ("cjkaccountingnumeric", "kAccountingNumeric"),
  ("kaccountingnumeric", "kAccountingNumeric"),
  ("cjkothernumeric", "kOtherNumeric"),
  ("kothernumeric", "kOtherNumeric"),
  ("cjkprimarynumeric", "kPrimaryNumeric"),
  ("kprimarynumeric", "kPrimaryNumeric"),
  ("nv", "Numeric_Value"),
  ("numericvalue", "Numeric_Value"),
  ("cf", "Case_Folding"),
  ("casefolding", "Case_Folding"),
  ("cjkcompatibilityvariant", "kCompatibilityVariant"),
  ("kcompatibilityvariant", "kCompatibilityVariant"),
  ("dm", "Decomposition_Mapping"),
  ("decompositionmapping", "Decomposition_Mapping"),
  ("fcnfkc", "FC_NFKC_Closure"),
  ("fcnfkcclosure", "FC_NFKC_Closure"),
  ("lc", "Lowercase_Mapping"),
  ("lowercasemapping", "Lowercase_Mapping"),
  ("nfkccf", "NFKC_Casefold"),
  ("nfkccasefold", "NFKC_Casefold"),
  ("scf", "Simple_Case_Folding"),
  ("simplecasefolding", "Simple_Case_Folding"),
  ("sfc", "Simple_Case_Folding"),
  ("slc", "Simple_Lowercase_Mapping"),
  ("simplelowercasemapping", "Simple_Lowercase_Mapping"),
  ("stc", "Simple_Titlecase_Mapping"),
  ("simpletitlecasemapping", "Simple_Titlecase_Mapping"),
  ("suc", "Simple_Uppercase_Mapping"),
  ("simpleuppercasemapping", "Simple_Uppercase_Mapping"),
  ("tc", "Titlecase_Mapping"),
  ("titlecasemapping", "Titlecase_Mapping"),
  ("uc", "Uppercase_Mapping"),
  ("uppercasemapping", "Uppercase_Mapping"),
  ("bmg", "Bidi_Mirroring_Glyph"),
  ("bidimirroringglyph", "Bidi_Mirroring_Glyph"),
  ("bpb", "Bidi_Paired_Bracket"),
  ("bidipairedbracket", "Bidi_Paired_Bracket"),
  ("cjkiicore", "kIICore"),
  ("kiicore", "kIICore"),
  ("cjkirggsource", "kIRG_GSource"),
  ("kirggsource", "kIRG_GSource"),
  ("cjkirghsource", "kIRG_HSource"),
  ("kirghsource", "kIRG_HSource"),
  ("cjkirgjsource", "kIRG_JSource"),
  ("kirgjsource", "kIRG_JSource"),
  ("cjkirgkpsource", "kIRG_KPSource"),
  ("kirgkpsource", "kIRG_KPSource"),
  ("cjkirgksource", "kIRG_KSource"),
  ("kirgksource", "kIRG_KSource"),
  ("cjkirgmsource", "kIRG_MSource"),
  ("kirgmsource", "kIRG_MSource"),
  ("cjkirgssource", "kIRG_SSource"),
  ("kirgssource", "kIRG_SSource"),
  ("cjkirgtsource", "kIRG_TSource"),
  ("kirgtsource", "kIRG_TSource"),
  ("cjkirguksource", "kIRG_UKSource"),
  ("kirguksource", "kIRG_UKSource"),
  ("cjkirgusource", "kIRG_USource"),
  ("kirgusource", "kIRG_USource"),
  ("cjkirgvsource", "kIRG_VSource"),
  ("kirgvsource", "kIRG_VSource"),
  ("cjkrsunicode", "kRSUnicode"),
  ("krsunicode", "kRSUnicode"),
  ("unicoderadicalstroke", "kRSUnicode"),
  ("urs", "kRSUnicode"),
  ("equideo", "Equivalent_Unified_Ideograph"),
  ("equivalentunifiedideograph", "Equivalent_Unified_Ideograph"),
  ("isc", "ISO_Comment"),
  ("ocomment", "ISO_Comment"),
  ("jsn", "Jamo_Short_Name"),
  ("jamoshortname", "Jamo_Short_Name"),
  ("na", "Name"),
  ("name", "Name"),
  ("na1", "Unicode_1_Name"),
  ("unicode1name", "Unicode_1_Name"),
  ("namealias", "Name_Alias"),
  ("age", "Age"),
  ("blk", "Block"),
  ("block", "Block"),
  ("sc", "Script"),
  ("script", "Script"),
  ("scx", "Script_Extensions"),
  ("scriptextensions", "Script_Extensions"),
  ("bc", "Bidi_Class"),
  ("bidiclass", "Bidi_Class"),
  ("bpt", "Bidi_Paired_Bracket_Type"),
  ("bidipairedbrackettype", "Bidi_Paired_Bracket_Type"),
  ("ccc", "Canonical_Combining_Class"),
  ("canonicalcombiningclass", "Canonical_Combining_Class"),
  ("dt", "Decomposition_Type"),
  ("decompositiontype", "Decomposition_Type"),
  ("ea", "East_Asian_Width"),
  ("eastasianwidth", "East_Asian_Width"),
  ("gc", "General_Category"),
  ("generalcategory", "General_Category"),
  ("gcb", "Grapheme_Cluster_Break"),
  ("graphemeclusterbreak", "Grapheme_Cluster_Break"),
  ("hst", "Hangul_Syllable_Type"),
  ("hangulsyllabletype", "Hangul_Syllable_Type"),
  ("inpc", "Indic_Positional_Category"),
  ("indicpositionalcategory", "Indic_Positional_Category"),
  ("insc", "Indic_Syllabic_Category"),
  ("indicsyllabiccategory", "Indic_Syllabic_Category"),
  ("jg", "Joining_Group"),
  ("joininggroup", "Joining_Group"),
  ("jt", "Joining_Type"),
  ("joiningtype", "Joining_Type"),
  ("lb", "Line_Break"),
  ("linebreak", "Line_Break"),
  ("nfcqc", "NFC_Quick_Check"),
  ("nfcquickcheck", "NFC_Quick_Check"),
  ("nfdqc", "NFD_Quick_Check"),
  ("nfdquickcheck", "NFD_Quick_Check"),
  ("nfkcqc", "NFKC_Quick_Check"),
  ("nfkcquickcheck", "NFKC_Quick_Check"),
  ("nfkdqc", "NFKD_Quick_Check"),
  ("nfkdquickcheck", "NFKD_Quick_Check"),
  ("nt", "Numeric_Type"),
  ("numerictype", "Numeric_Type"),
  ("sb", "Sentence_Break"),
  ("sentencebreak", "Sentence_Break"),
  ("vo", "Vertical_Orientation"),
  ("verticalorientation", "Vertical_Orientation"),
  ("wb", "Word_Break"),
  ("wordbreak", "Word_Break"),
  ("ahex", "ASCII_Hex_Digit"),
  ("asciihexdigit", "ASCII_Hex_Digit"),
  ("alpha", "Alphabetic"),
  ("alphabetic", "Alphabetic"),
  ("bidic", "Bidi_Control"),
  ("bidicontrol", "Bidi_Control"),
  ("bidim", "Bidi_Mirrored"),
  ("bidimirrored", "Bidi_Mirrored"),
  ("cased", "Cased"),
  ("ce", "Composition_Exclusion"),
  ("compositionexclusion", "Composition_Exclusion"),
  ("ci", "Case_Ignorable"),
  ("caseignorable", "Case_Ignorable"),
  ("compex", "Full_Composition_Exclusion"),
  ("fullcompositionexclusion", "Full_Composition_Exclusion"),
  ("cwcf", "Changes_When_Casefolded"),
  ("changeswhencasefolded", "Changes_When_Casefolded"),
  ("cwcm", "Changes_When_Casemapped"),
  ("changeswhencasemapped", "Changes_When_Casemapped"),
  ("cwkcf", "Changes_When_NFKC_Casefolded"),
  ("changeswhennfkccasefolded", "Changes_When_NFKC_Casefolded"),
  ("cwl", "Changes_When_Lowercased"),
  ("changeswhenlowercased", "Changes_When_Lowercased"),
  ("cwt", "Changes_When_Titlecased"),
  ("changeswhentitlecased", "Changes_When_Titlecased"),
  ("cwu", "Changes_When_Uppercased"),
  ("changeswhenuppercased", "Changes_When_Uppercased"),
  ("dash", "Dash"),
  ("dep", "Deprecated"),
  ("deprecated", "Deprecated"),
  ("di", "Default_Ignorable_Code_Point"),
  ("defaultignorablecodepoint", "Default_Ignorable_Code_Point"),
  ("dia", "Diacritic"),
  ("diacritic", "Diacritic"),
  ("ebase", "Emoji_Modifier_Base"),
  ("emojimodifierbase", "Emoji_Modifier_Base"),
  ("ecomp", "Emoji_Component"),
  ("emojicomponent", "Emoji_Component"),
  ("emod", "Emoji_Modifier"),
  ("emojimodifier", "Emoji_Modifier"),
  ("emoji", "Emoji"),
  ("epres", "Emoji_Presentation"),
  ("emojipresentation", "Emoji_Presentation"),
  ("ext", "Extender"),
  ("extender", "Extender"),
  ("extpict", "Extended_Pictographic"),
  ("extendedpictographic", "Extended_Pictographic"),
  ("grbase", "Grapheme_Base"),
  ("graphemebase", "Grapheme_Base"),
  ("grext", "Grapheme_Extend"),
  ("graphemeextend", "Grapheme_Extend"),
  ("grlink", "Grapheme_Link"),
  ("graphemelink", "Grapheme_Link"),
  ("hex", "Hex_Digit"),
  ("hexdigit", "Hex_Digit"),
  ("hyphen", "Hyphen"),
  ("idc", "ID_Continue"),
  ("idcontinue", "ID_Continue"),
  ("ideo", "Ideographic"),
  ("ideographic", "Ideographic"),
  ("ids", "ID_Start"),
  ("idstart", "ID_Start"),
  ("idsb", "IDS_Binary_Operator"),
  ("idsbinaryoperator", "IDS_Binary_Operator"),
  ("idst", "IDS_Trinary_Operator"),
  ("idstrinaryoperator", "IDS_Trinary_Operator"),
  ("joinc", "Join_Control"),
  ("joincontrol", "Join_Control"),
  ("loe", "Logical_Order_Exception"),
  ("logicalorderexception", "Logical_Order_Exception"),
  ("lower", "Lowercase"),
  ("lowercase", "Lowercase"),
  ("math", "Math"),
  ("nchar", "Noncharacter_Code_Point"),
  ("noncharactercodepoint", "Noncharacter_Code_Point"),
  ("oalpha", "Other_Alphabetic"),
  ("otheralphabetic", "Other_Alphabetic"),
  ("odi", "Other_Default_Ignorable_Code_Point"),
  ("otherdefaultignorablecodepoint", "Other_Default_Ignorable_Code_Point"),
  ("ogrext", "Other_Grapheme_Extend"),
  ("othergraphemeextend", "Other_Grapheme_Extend"),
  ("oidc", "Other_ID_Continue"),
  ("otheridcontinue", "Other_ID_Continue"),
  ("oids", "Other_ID_Start"),
  ("otheridstart", "Other_ID_Start"),
  ("olower", "Other_Lowercase"),
  ("otherlowercase", "Other_Lowercase"),
  ("omath", "Other_Math"),
  ("othermath", "Other_Math"),
  ("oupper", "Other_Uppercase"),
  ("otheruppercase", "Other_Uppercase"),
  ("patsyn", "Pattern_Syntax"),
  ("patternsyntax", "Pattern_Syntax"),
  ("patws", "Pattern_White_Space"),
  ("patternwhitespace", "Pattern_White_Space"),
  ("pcm", "Prepended_Concatenation_Mark"),
  ("prependedconcatenationmark", "Prepended_Concatenation_Mark"),
  ("qmark", "Quotation_Mark"),
  ("quotationmark", "Quotation_Mark"),
  ("radical", "Radical"),
  ("ri", "Regional_Indicator"),
  ("regionalindicator", "Regional_Indicator"),
  ("sd", "Soft_Dotted"),
  ("softdotted", "Soft_Dotted"),
  ("sterm", "Sentence_Terminal"),
  ("sentenceterminal", "Sentence_Terminal"),
  ("term", "Terminal_Punctuation"),
  ("terminalpunctuation", "Terminal_Punctuation"),
  ("uideo", "Unified_Ideograph"),
  ("unifiedideograph", "Unified_Ideograph"),
  ("upper", "Uppercase"),
  ("uppercase", "Uppercase"),
  ("vs", "Variation_Selector"),
  ("variationselector", "Variation_Selector"),
  ("wspace", "White_Space"),
  ("whitespace", "White_Space"),
  ("space", "White_Space"),
  ("xidc", "XID_Continue"),
  ("xidcontinue", "XID_Continue"),
  ("xids", "XID_Start"),
  ("xidstart", "XID_Start"),
  ("xonfc", "Expands_On_NFC"),
  ("expandsonnfc", "Expands_On_NFC"),
  ("xonfd", "Expands_On_NFD"),
  ("expandsonnfd", "Expands_On_NFD"),
  ("xonfkc", "Expands_On_NFKC"),
  ("expandsonnfkc", "Expands_On_NFKC"),
  ("xonfkd", "Expands_On_NFKD"),
  ("expandsonnfkd", "Expands_On_NFKD"),
  ("nfkcscf", "NFKC_Simple_Casefold"),
  ("nfkcsimplecasefold", "NFKC_Simple_Casefold"),
  ("incb", "Indic_Conjunct_Break"),
  ("indicconjunctbreak", "Indic_Conjunct_Break"),
  ("idsu", "IDS_Unary_Operator"),
  ("idsunaryoperator", "IDS_Unary_Operator"),
  ("idcompatmathcontinue", "ID_Compat_Math_Continue"),
  ("idcompatmathstart", "ID_Compat_Math_Start"),
  ("mcm", "Modifier_Combining_Mark"),
  ("modifiercombiningmark", "Modifier_Combining_Mark"),
  ("kehcat", "kEH_Cat"),
  ("kehdesc", "kEH_Desc"),
  ("kehhg", "kEH_HG"),
  ("kehifao", "kEH_IFAO"),
  ("kehjsesh", "kEH_JSesh"),
  ("kehnomirror", "kEH_NoMirror"),
  ("kehnorotate", "kEH_NoRotate")]

end ProviderCoverage.Unicode.Property
