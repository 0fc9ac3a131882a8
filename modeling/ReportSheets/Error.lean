import ReportSheets.Calendar.Date

namespace ReportSheets

inductive ErrorKind
  | format
  | unsupportedCommand
  | notFound
  | type
  | parse
  | io
  | workbook
  | configuration
deriving DecidableEq

def ErrorKind.name : ErrorKind → String
  | .format => "format"
  | .unsupportedCommand => "unsupported-command"
  | .notFound => "not-found"
  | .type => "type"
  | .parse => "parse"
  | .io => "io"
  | .workbook => "workbook"
  | .configuration => "config"

def ErrorKind.heading : ErrorKind → String
  | .format => "Format error"
  | .unsupportedCommand => "Unsupported command"
  | .notFound => "Not found"
  | .type => "Type error"
  | .parse => "Formula parse error"
  | .io => "IO error"
  | .workbook => "Workbook error"
  | .configuration => "Configuration error"

inductive FormulaFault
  | closingWithoutOpening
  | missingName
  | callNotClosed
  | unterminatedLiteral
  | unbalanced
deriving DecidableEq

def FormulaFault.reason : FormulaFault → String
  | .closingWithoutOpening => "closing parenthesis without opening"
  | .missingName => "missing function name"
  | .callNotClosed => "call must end with ')'"
  | .unterminatedLiteral => "unterminated string literal"
  | .unbalanced => "unbalanced parentheses"

inductive PatternFault
  | empty
  | secondPoint
  | optionalAfterRequired
  | groupingAtEnd
  | requiredAfterOptional
  | groupingInFraction
  | digitInSuffix
  | unterminatedQuote
deriving DecidableEq

def PatternFault.reason : PatternFault → String
  | .empty => "empty pattern"
  | .secondPoint => "multiple decimal separators"
  | .optionalAfterRequired => "unexpected '#' after '0'"
  | .groupingAtEnd => "grouping separator at end of integer part"
  | .requiredAfterOptional => "unexpected '0' after '#'"
  | .groupingInFraction => "grouping separator in fraction"
  | .digitInSuffix => "digit placeholder in suffix"
  | .unterminatedQuote => "unterminated quote"

inductive SheetNameFault
  | blank
  | tooLong
  | invalidCharacter
  | apostrophe
deriving DecidableEq

def SheetNameFault.reason : SheetNameFault → String
  | .blank => "cannot be blank."
  | .tooLong => "exceeds Excel's limit of 31 characters."
  | .invalidCharacter => "cannot contain invalid characters: '[ ] : * ? / \\'."
  | .apostrophe => "cannot start or end with an apostrophe."

inductive Error
  -- formulas
  | formula (fault : FormulaFault) (text : String)
  | argumentCount (function : String) (expected got : Nat)
  | argumentTypes (function expected : String) (got : List String)
  | notCalendarDate (text : String)
  | beforeEras (date : Date)
  | emptyPattern
  | pattern (text : String) (fault : PatternFault)
  -- commands
  | commandShape (line : String)
  | unknownVerb (verb : String)
  | formShape (parameter : String)
  | formNameEmpty
  | modeNotInteger (mode : String)
  | sheetCommandShape (parameter : String)
  | unknownSheetCommand (name : String)
  | cloneTarget (source : String)
  | sheetNumber (text : String)
  | sheetReference (token : String)
  -- report data
  | startExpected (line : Nat) (found : String)
  | startMissing
  | sectionNotClosed
  | malformedHeader (line : Nat) (reason : String)
  | noForm
  | dataFileMissing (path : String)
  -- forms
  | formMissing (path : String)
  | formUnknown (form : String)
  | malformedForm
  | malformedFormAttribute
  | cellAddress (reference : String)
  -- sheets of a workbook
  | noTemplate
  | noActiveSheet
  | sheetMissing (reference : String)
  | sheetIndex (index count : Nat)
  | sheetExists (name : String)
  | sheetName (name : String) (fault : SheetNameFault)
  -- saving
  | savedName (name : String) (fault : SheetNameFault)
  | savedNameUsed (name : String)
  | beyondSheet
  | rangeOrder
  | textTooLong
  | mergeOverlap (range previous : String)
  -- templates
  | templateMissing (path : String)
  | templateFileMissing (path : String)
  | templateUnreadable (path : String)
  | templatePackage (path : String)
  | templatePart (name : String)
  | templateXml
  | templateSheet (name : String)
  | templateMerges (name : String)
  | corruptData
  | checksumMismatch
  -- files and configuration
  | notUtf8
  | noSuchFile
  | notADirectory
  | isADirectory
  | fileExists
  | nameTooLong
  | configuration
deriving DecidableEq

namespace Error

def kind : Error → ErrorKind
  | .formula .. => .parse
  | .argumentCount .. | .argumentTypes .. => .type
  | .notCalendarDate _ | .beforeEras _ | .emptyPattern | .pattern .. => .format
  | .commandShape _ | .formShape _ | .formNameEmpty | .modeNotInteger _ | .sheetCommandShape _
  | .cloneTarget _ | .sheetNumber _ | .sheetReference _ => .format
  | .unknownVerb _ | .unknownSheetCommand _ => .unsupportedCommand
  | .startExpected .. | .startMissing | .sectionNotClosed | .malformedHeader .. | .noForm => .format
  | .dataFileMissing _ | .formMissing _ | .formUnknown _ => .notFound
  | .malformedForm | .malformedFormAttribute | .cellAddress _ => .format
  | .noTemplate | .noActiveSheet | .sheetMissing _ | .sheetIndex .. => .notFound
  | .sheetExists _ | .sheetName .. => .format
  | .savedName .. | .savedNameUsed _ | .beyondSheet | .rangeOrder | .textTooLong
  | .mergeOverlap .. => .workbook
  | .templateMissing _ | .templateFileMissing _ => .notFound
  | .templateUnreadable _ | .templatePackage _ | .templatePart _ | .templateXml
  | .templateSheet _ | .templateMerges _ => .workbook
  | .corruptData | .checksumMismatch => .io
  | .notUtf8 | .noSuchFile | .notADirectory | .isADirectory | .fileExists | .nameTooLong => .io
  | .configuration => .configuration

def detail : Error → String
  | .formula fault text => s!"{fault.reason} in '{text}'"
  | .argumentCount function expected got =>
    s!"{function} expects {expected} argument(s), got {got}"
  | .argumentTypes function expected got =>
    s!"{function} expects {expected}, got " ++ ", ".intercalate got
  | .notCalendarDate text => s!"'{text}' is not a calendar date"
  | .beforeEras date => "Date " ++ String.ofList date.text ++ " precedes the supported eras"
  | .emptyPattern => "Empty number pattern"
  | .pattern text fault => s!"Invalid number pattern '{text}': {fault.reason}"
  | .commandShape line => s!"Expected 'verb=parameter', found '{line}'"
  | .unknownVerb verb => s!"Unknown function '{verb}'"
  | .formShape parameter => s!"VrSetForm expects '<form>,<mode>', found '{parameter}'"
  | .formNameEmpty => "VrSetForm form name is empty"
  | .modeNotInteger mode => s!"VrSetForm mode '{mode}' is not an integer"
  | .sheetCommandShape parameter =>
    s!"VrComout expects '<command> <parameters>', found '{parameter}'"
  | .unknownSheetCommand name => s!"Unknown VrComout command '{name}'"
  | .cloneTarget source => s!"XSSC expects 'CHANGE=<sheet>' after {source}"
  | .sheetNumber text => s!"Sheet number '{text}' is not an integer"
  | .sheetReference token => s!"Sheet reference '{token}' must start with NAME= or NO="
  | .startExpected line found => s!"Line {line}: expected '<start>', found '{found}'"
  | .startMissing => "Expected '<start>', found end of input"
  | .sectionNotClosed => "Function section not closed with '<end>' before end of input"
  | .malformedHeader line reason => s!"Line {line}: malformed CSV header: {reason}"
  | .noForm => "Data section before any VrSetForm command"
  | .dataFileMissing path => s!"Report data file '{path}' does not exist"
  | .formMissing path => s!"Form definition '{path}' does not exist"
  | .formUnknown form => form
  | .malformedForm => "Malformed XML"
  | .malformedFormAttribute => "Malformed XML attribute"
  | .cellAddress reference => s!"Invalid cell address '{reference}'"
  | .noTemplate => "No template loaded (missing XSFN)"
  | .noActiveSheet => "Workbook has no active sheet"
  | .sheetMissing reference => s!"Sheet {reference} does not exist"
  | .sheetIndex index count => s!"Sheet index {index} out of range ({count} sheets)"
  | .sheetExists name => s!"Sheet '{name}' already exists"
  | .sheetName name fault =>
    s!"Worksheet name 'Invalid Excel worksheet name '{name}'' {fault.reason}"
  | .savedName name fault =>
    s!"Worksheet name 'worksheet.set_name(\"{name}\")' {fault.reason}"
  | .savedNameUsed name =>
    s!"Worksheet name '{name}' has already been used in this workbook."
  | .beyondSheet => "Row or column exceeds Excel's allowed limits (1,048,576 x 16,384)."
  | .rangeOrder => "First row or column in range is greater than last row or column."
  | .textTooLong => "String exceeds Excel's limit of 32,767 characters."
  | .mergeOverlap range previous =>
    s!"Merge range {range} overlaps with previous merge range {previous}."
  | .templateMissing path => s!"Template '{path}' does not exist"
  | .templateFileMissing path => s!"Template file '{path}' does not exist"
  | .templateUnreadable path => s!"Failed to open template '{path}'"
  | .templatePackage path => s!"Failed to read template package '{path}'"
  | .templatePart name => s!"Failed to read part '{name}'"
  | .templateXml => "Malformed template XML"
  | .templateSheet name => s!"Failed to read sheet '{name}'"
  | .templateMerges name => s!"Failed to read merged cells of '{name}'"
  | .corruptData => "corrupt deflate stream"
  | .checksumMismatch => "Invalid checksum"
  | .notUtf8 => "stream did not contain valid UTF-8"
  | .noSuchFile => "No such file or directory (os error 2)"
  | .notADirectory => "Not a directory (os error 20)"
  | .isADirectory => "Is a directory (os error 21)"
  | .fileExists => "File exists (os error 17)"
  | .nameTooLong => "File name too long (os error 36)"
  | .configuration => ""

def message (e : Error) : String :=
  match e with
  | .configuration => e.kind.heading
  | _ => e.kind.heading ++ ": " ++ e.detail

end Error

end ReportSheets
