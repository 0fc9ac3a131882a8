import ReportSheets.Text.Blank

namespace ReportSheets.CommandLine

inductive Flag
  | verbose
  | help
  | version
deriving DecidableEq

namespace Flag

def name : Flag → String
  | .verbose => "verbose"
  | .help => "help"
  | .version => "version"

def letter : Flag → Char
  | .verbose => 'v'
  | .help => 'h'
  | .version => 'V'

end Flag

inductive Choice
  | format
  | settingsFile
  | outputFolder
  | formFolder
  | templateFolder
  | field
  | value
deriving DecidableEq

namespace Choice

def name : Choice → String
  | .format => "format"
  | .settingsFile => "config"
  | .outputFolder => "output-dir"
  | .formFolder => "xml-dir"
  | .templateFolder => "template-dir"
  | .field => "field"
  | .value => "value"

def letter? : Choice → Option Char
  | .format => some 'f'
  | .settingsFile => some 'c'
  | _ => none

def environmentName? : Choice → Option String
  | .settingsFile => some "REPORT_CONFIG"
  | .outputFolder => some "REPORT_OUTPUT_DIR"
  | .formFolder => some "REPORT_XML_DIR"
  | .templateFolder => some "REPORT_TEMPLATE_DIR"
  | _ => none

def isPath : Choice → Bool
  | .settingsFile | .outputFolder | .formFolder | .templateFolder => true
  | .format | .field | .value => false

end Choice

inductive Item
  | flag (flag : Flag)
  | choice (choice : Choice) (value : String)
  | word (text : String)
deriving DecidableEq

structure Vocabulary where
  flags : List Flag
  choices : List Choice

inductive WordEnd
  | complete
  | valueExpected (choice : Choice)
  | unknown

def looksLikeOption (word : String) : Bool :=
  match word.toList with
  | '-' :: _ :: _ => true
  | _ => false

namespace Vocabulary

/-- The letters after a single dash: flags, of which the last may be an option with its value. -/
def letters (known : Vocabulary) : List Char → List Item × WordEnd
  | [] => ([], .complete)
  | c :: more =>
    match known.flags.find? fun flag => flag.letter == c with
    | some flag =>
      let (items, wordEnd) := known.letters more
      (.flag flag :: items, wordEnd)
    | none =>
      match known.choices.find? fun choice => choice.letter? == some c, more with
      | none, _ => ([], .unknown)
      | some choice, [] => ([], .valueExpected choice)
      | some choice, '=' :: value => ([.choice choice (String.ofList value)], .complete)
      | some choice, value => ([.choice choice (String.ofList value)], .complete)

def long (known : Vocabulary) (text : List Char) : List Item × WordEnd :=
  let (name, value) := match Text.cutAt '=' text with
    | some (name, value) => (String.ofList name, some (String.ofList value))
    | none => (String.ofList text, none)
  match known.flags.find? fun flag => flag.name == name, value with
  | some flag, none => ([.flag flag], .complete)
  | some _, some _ => ([], .unknown)
  | none, value =>
    match known.choices.find? fun choice => choice.name == name, value with
    | none, _ => ([], .unknown)
    | some choice, none => ([], .valueExpected choice)
    | some choice, some value => ([.choice choice value], .complete)

def word (known : Vocabulary) (text : String) : List Item × WordEnd :=
  match text.toList with
  | '-' :: '-' :: name => known.long name
  | '-' :: c :: more => known.letters (c :: more)
  | _ => ([.word text], .complete)

def items (known : Vocabulary) : List String → List Item × Bool
  | [] => ([], false)
  | text :: more =>
    if text = "--" then (more.map .word, false)
    else
      match known.word text, more with
      | (found, .complete), more =>
        let (items, broken) := known.items more
        (found ++ items, broken)
      | (found, .valueExpected choice), value :: more =>
        if looksLikeOption value then (found, true)
        else
          let (items, broken) := known.items more
          (found ++ .choice choice value :: items, broken)
      | (found, _), _ => (found, true)

end Vocabulary

end ReportSheets.CommandLine
