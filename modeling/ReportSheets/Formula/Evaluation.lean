import ReportSheets.Formula.Function
import ReportSheets.Formula.Reading

namespace ReportSheets

structure Binding where
  field : String
  value : String

def unquoted? : List Char → Option (List Char)
  | '"' :: rest => Expr.beforeLast? '"' rest
  | _ => none

def isPlainNumber (text : List Char) : Bool :=
  let body := match text with
    | '-' :: rest => rest
    | '+' :: rest => rest
    | rest => rest
  let (whole, fraction) := match Text.cutAt '.' body with
    | some (whole, fraction) => (whole, some fraction)
    | none => (body, none)
  !whole.isEmpty && whole.all Text.isDigit &&
    fraction.all fun digits => !digits.isEmpty && digits.all Text.isDigit

def plainNumber? (text : List Char) : Option Binary64 :=
  if isPlainNumber text then Binary64.read? text else none

def Binding.literal (b : Binding) (text : String) : Value :=
  if text = b.field then .text b.value
  else
    match unquoted? text.toList with
    | some inner => .text (String.ofList inner)
    | none =>
      match plainNumber? text.toList with
      | some number => .number number
      | none => .text text

namespace Expr

/-- The call of a function outside the table has no value. -/
def applyNamed (name : String) (args : List Value) : Except Error Value :=
  match Function.named? name with
  | some f => f.apply args
  | none => .ok .absent

mutual

def evaluate (b : Binding) : Expr → Except Error Value
  | .literal text => .ok (b.literal text)
  | .call name args => (evaluateAll b args).bind (applyNamed name)

def evaluateAll (b : Binding) : List Expr → Except Error (List Value)
  | [] => .ok []
  | arg :: args => (evaluate b arg).bind fun value => (evaluateAll b args).map (value :: ·)

end

end Expr

end ReportSheets
