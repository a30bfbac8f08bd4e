import ProviderCoverage.Unicode.Binary.Casing
import ProviderCoverage.Unicode.Binary.Identifier
import ProviderCoverage.Unicode.Binary.Emoji
import ProviderCoverage.Unicode.Binary.Text

/-!
# Binary properties

The binary properties a class may name, by long name.
-/

namespace ProviderCoverage.Unicode.Binary

open ProviderCoverage.Unicode

def sets : List (String × CodeSet) := [
  ("ASCII_Hex_Digit", Binary.Text.asciiHexDigit),
  ("Alphabetic", Binary.Text.alphabetic),
  ("Bidi_Control", Binary.Text.bidiControl),
  ("Case_Ignorable", Binary.Casing.caseIgnorable),
  ("Cased", Binary.Casing.cased),
  ("Changes_When_Casefolded", Binary.Casing.changesWhenCasefolded),
  ("Changes_When_Casemapped", Binary.Casing.changesWhenCasemapped),
  ("Changes_When_Lowercased", Binary.Casing.changesWhenLowercased),
  ("Changes_When_Titlecased", Binary.Casing.changesWhenTitlecased),
  ("Changes_When_Uppercased", Binary.Casing.changesWhenUppercased),
  ("Dash", Binary.Text.dash),
  ("Default_Ignorable_Code_Point", Binary.Text.defaultIgnorableCodePoint),
  ("Deprecated", Binary.Text.deprecated),
  ("Diacritic", Binary.Text.diacritic),
  ("Emoji", Binary.Emoji.emoji),
  ("Emoji_Component", Binary.Emoji.emojiComponent),
  ("Emoji_Modifier", Binary.Emoji.emojiModifier),
  ("Emoji_Modifier_Base", Binary.Emoji.emojiModifierBase),
  ("Emoji_Presentation", Binary.Emoji.emojiPresentation),
  ("Extended_Pictographic", Binary.Emoji.extendedPictographic),
  ("Extender", Binary.Text.extender),
  ("Grapheme_Base", Binary.Text.graphemeBase),
  ("Grapheme_Extend", Binary.Text.graphemeExtend),
  ("Grapheme_Link", Binary.Text.graphemeLink),
  ("Hex_Digit", Binary.Text.hexDigit),
  ("Hyphen", Binary.Text.hyphen),
  ("IDS_Binary_Operator", Binary.Text.idsBinaryOperator),
  ("IDS_Trinary_Operator", Binary.Text.idsTrinaryOperator),
  ("IDS_Unary_Operator", Binary.Text.idsUnaryOperator),
  ("ID_Compat_Math_Continue", Binary.Identifier.idCompatMathContinue),
  ("ID_Compat_Math_Start", Binary.Identifier.idCompatMathStart),
  ("ID_Continue", Binary.Identifier.idContinue),
  ("ID_Start", Binary.Identifier.idStart),
  ("Ideographic", Binary.Text.ideographic),
  ("Join_Control", Binary.Text.joinControl),
  ("Logical_Order_Exception", Binary.Text.logicalOrderException),
  ("Lowercase", Binary.Casing.lowercase),
  ("Math", Binary.Text.math),
  ("Modifier_Combining_Mark", Binary.Text.modifierCombiningMark),
  ("Noncharacter_Code_Point", Binary.Text.noncharacterCodePoint),
  ("Other_Alphabetic", Binary.Text.otherAlphabetic),
  ("Other_Default_Ignorable_Code_Point", Binary.Text.otherDefaultIgnorableCodePoint),
  ("Other_Grapheme_Extend", Binary.Text.otherGraphemeExtend),
  ("Other_ID_Continue", Binary.Identifier.otherIdContinue),
  ("Other_ID_Start", Binary.Identifier.otherIdStart),
  ("Other_Lowercase", Binary.Casing.otherLowercase),
  ("Other_Math", Binary.Text.otherMath),
  ("Other_Uppercase", Binary.Casing.otherUppercase),
  ("Pattern_Syntax", Binary.Identifier.patternSyntaxCharacters),
  ("Pattern_White_Space", Binary.Identifier.patternWhiteSpace),
  ("Prepended_Concatenation_Mark", Binary.Text.prependedConcatenationMark),
  ("Quotation_Mark", Binary.Text.quotationMark),
  ("Radical", Binary.Text.radical),
  ("Regional_Indicator", Binary.Emoji.regionalIndicator),
  ("Sentence_Terminal", Binary.Text.sentenceTerminal),
  ("Soft_Dotted", Binary.Text.softDotted),
  ("Terminal_Punctuation", Binary.Text.terminalPunctuation),
  ("Unified_Ideograph", Binary.Text.unifiedIdeograph),
  ("Uppercase", Binary.Casing.uppercase),
  ("Variation_Selector", Binary.Text.variationSelector),
  ("White_Space", Binary.Text.whiteSpace),
  ("XID_Continue", Binary.Identifier.xidContinue),
  ("XID_Start", Binary.Identifier.xidStart)]

end ProviderCoverage.Unicode.Binary
