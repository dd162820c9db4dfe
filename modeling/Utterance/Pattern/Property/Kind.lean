import Utterance.Pattern.Property.Basic

/-!
The kinds of characters: the general categories and groups of them.
-/

namespace Utterance.Pattern.Property

/-- The general categories and groups of them, by code and name. -/
def kinds : List Property := [
  { names := ["L", "Letter"], categories := ["Lu", "Ll", "Lt", "Lm", "Lo"] },
  { names := ["LC", "Cased_Letter"], categories := ["Lu", "Ll", "Lt"] },
  { names := ["Lu", "Uppercase_Letter"], categories := ["Lu"] },
  { names := ["Ll", "Lowercase_Letter"], categories := ["Ll"] },
  { names := ["Lt", "Titlecase_Letter"], categories := ["Lt"] },
  { names := ["Lm", "Modifier_Letter"], categories := ["Lm"] },
  { names := ["Lo", "Other_Letter"], categories := ["Lo"] },
  { names := ["M", "Mark", "Combining_Mark"], categories := ["Mn", "Mc", "Me"] },
  { names := ["Mn", "Nonspacing_Mark"], categories := ["Mn"] },
  { names := ["Mc", "Spacing_Mark"], categories := ["Mc"] },
  { names := ["Me", "Enclosing_Mark"], categories := ["Me"] },
  { names := ["N", "Number"], categories := ["Nd", "Nl", "No"] },
  { names := ["Nd", "Decimal_Number", "digit"], categories := ["Nd"] },
  { names := ["Nl", "Letter_Number"], categories := ["Nl"] },
  { names := ["No", "Other_Number"], categories := ["No"] },
  { names := ["P", "Punctuation", "punct"], categories := ["Pc", "Pd", "Ps", "Pe", "Pi", "Pf", "Po"] },
  { names := ["Pc", "Connector_Punctuation"], categories := ["Pc"] },
  { names := ["Pd", "Dash_Punctuation"], categories := ["Pd"] },
  { names := ["Ps", "Open_Punctuation"], categories := ["Ps"] },
  { names := ["Pe", "Close_Punctuation"], categories := ["Pe"] },
  { names := ["Pi", "Initial_Punctuation"], categories := ["Pi"] },
  { names := ["Pf", "Final_Punctuation"], categories := ["Pf"] },
  { names := ["Po", "Other_Punctuation"], categories := ["Po"] },
  { names := ["S", "Symbol"], categories := ["Sm", "Sc", "Sk", "So"] },
  { names := ["Sm", "Math_Symbol"], categories := ["Sm"] },
  { names := ["Sc", "Currency_Symbol"], categories := ["Sc"] },
  { names := ["Sk", "Modifier_Symbol"], categories := ["Sk"] },
  { names := ["So", "Other_Symbol"], categories := ["So"] },
  { names := ["Z", "Separator"], categories := ["Zs", "Zl", "Zp"] },
  { names := ["Zs", "Space_Separator"], categories := ["Zs"] },
  { names := ["Zl", "Line_Separator"], categories := ["Zl"] },
  { names := ["Zp", "Paragraph_Separator"], categories := ["Zp"] },
  { names := ["C", "Other"], categories := ["Cc", "Cf", "Cn", "Co"] },
  { names := ["Cc", "Control", "cntrl"], categories := ["Cc"] },
  { names := ["Cf", "Format"], categories := ["Cf"] },
  { names := ["Cn", "Unassigned"], categories := ["Cn"] },
  { names := ["Co", "Private_Use"], categories := ["Co"] },
  { names := ["Any"], more := "0 110000" },
  { names := ["ASCII"], more := "0 80" },
  { names := ["Assigned"],
    categories := [
      "Lu", "Ll", "Lt", "Lm", "Lo", "Mn", "Mc", "Me", "Nd", "Nl", "No", "Pc", "Pd", "Ps", "Pe",
      "Pi", "Pf", "Po", "Sm", "Sc", "Sk", "So", "Zs", "Zl", "Zp", "Cc", "Cf", "Cs", "Co"] }]

end Utterance.Pattern.Property
