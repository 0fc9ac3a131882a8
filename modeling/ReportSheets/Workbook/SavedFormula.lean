import ReportSheets.Xml.Numbered

namespace ReportSheets.SavedFormula

def rangeFunctions : List String := ["FILTER", "PY", "SORT"]

def laterFunctions : List String :=
  ["ACOT", "ACOTH", "AGGREGATE", "ANCHORARRAY", "ARABIC", "ARRAYTOTEXT", "BASE", "BETA.DIST",
    "BETA.INV", "BINOM.DIST", "BINOM.DIST.RANGE", "BINOM.INV", "BITAND", "BITLSHIFT", "BITOR",
    "BITRSHIFT", "BITXOR", "BYCOL", "BYROW", "CEILING.MATH", "CEILING.PRECISE", "CHISQ.DIST",
    "CHISQ.DIST.RT", "CHISQ.INV", "CHISQ.INV.RT", "CHISQ.TEST", "CHOOSECOLS", "CHOOSEROWS",
    "COMBINA", "CONCAT", "CONFIDENCE.NORM", "CONFIDENCE.T", "COT", "COTH", "COVARIANCE.P",
    "COVARIANCE.S", "CSC", "CSCH", "DAYS", "DECIMAL", "DROP", "ERF.PRECISE", "ERFC.PRECISE",
    "EXPAND", "EXPON.DIST", "F.DIST", "F.DIST.RT", "F.INV", "F.INV.RT", "F.TEST", "FIELDVALUE",
    "FILTERXML", "FLOOR.MATH", "FLOOR.PRECISE", "FORECAST.ETS", "FORECAST.ETS.CONFINT",
    "FORECAST.ETS.SEASONALITY", "FORECAST.ETS.STAT", "FORECAST.LINEAR", "FORMULATEXT", "GAMMA",
    "GAMMA.DIST", "GAMMA.INV", "GAMMALN.PRECISE", "GAUSS", "HSTACK", "HYPGEOM.DIST", "IFNA", "IFS",
    "IMAGE", "IMCOSH", "IMCOT", "IMCSC", "IMCSCH", "IMSEC", "IMSECH", "IMSINH", "IMTAN",
    "ISFORMULA", "ISOMITTED", "ISOWEEKNUM", "LAMBDA", "LET", "LOGNORM.DIST", "LOGNORM.INV",
    "MAKEARRAY", "MAP", "MAXIFS", "MINIFS", "MODE.MULT", "MODE.SNGL", "MUNIT", "NEGBINOM.DIST",
    "NORM.DIST", "NORM.INV", "NORM.S.DIST", "NORM.S.INV", "NUMBERVALUE", "PDURATION",
    "PERCENTILE.EXC", "PERCENTILE.INC", "PERCENTRANK.EXC", "PERCENTRANK.INC", "PERMUTATIONA", "PHI",
    "POISSON.DIST", "PQSOURCE", "QUARTILE.EXC", "QUARTILE.INC", "QUERYSTRING", "RANDARRAY",
    "RANK.AVG", "RANK.EQ", "REDUCE", "RRI", "SCAN", "SEC", "SECH", "SEQUENCE", "SHEET", "SHEETS",
    "SINGLE", "SKEW.P", "SORTBY", "STDEV.P", "STDEV.S", "SWITCH", "T.DIST", "T.DIST.2T",
    "T.DIST.RT", "T.INV", "T.INV.2T", "T.TEST", "TAKE", "TEXTAFTER", "TEXTBEFORE", "TEXTJOIN",
    "TEXTSPLIT", "TOCOL", "TOROW", "UNICHAR", "UNICODE", "UNIQUE", "VALUETOTEXT", "VAR.P", "VAR.S",
    "VSTACK", "WEBSERVICE", "WEIBULL.DIST", "WRAPCOLS", "WRAPROWS", "XLOOKUP", "XMATCH", "XOR",
    "Z.TEST"]

def laterMark : String := "_xlfn."

def rangeMark : String := laterMark ++ "_xlws."

def markOf (function : List Char) : List Char :=
  let name := String.ofList function
  if name ∈ rangeFunctions then rangeMark.toList
  else if name ∈ laterFunctions then laterMark.toList
  else []

def isNameChar (c : Char) : Bool :=
  ('A' ≤ c && c ≤ 'Z') || Text.isDigit c || c == '.'

/-- A formula with marks in front of the functions it calls. `word` is the name begun, or all from a
name on to the end of the quoted text after it, which stands there twice then. -/
def withMarks (quoted : Bool) (word : List Char) : List Char → List Char
  | [] => word
  | c :: rest =>
    let quoted := if c = '"' then !quoted else quoted
    if quoted then c :: withMarks true (if word = [] then [] else word ++ [c]) rest
    else if isNameChar c then withMarks false (word ++ [c]) rest
    else (if c = '(' then markOf word else []) ++ word ++ c :: withMarks false [] rest

def holds (part : List Char) : List Char → Bool
  | [] => part.isEmpty
  | c :: rest => (Text.after? part (c :: rest)).isSome || holds part rest

def withoutBrace (formula : List Char) : List Char :=
  if formula.getLast? = some '\x7d' then formula.dropLast else formula

/-- The text that stands in the file. Where some function has its mark already all others are left
as they are. -/
def write (formula : String) : String :=
  let text := withoutBrace formula.toList
  let marked := if holds laterMark.toList text then text else withMarks false [] text
  String.ofList (Xml.writeNumbered marked)

end ReportSheets.SavedFormula
