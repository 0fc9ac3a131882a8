namespace ReportSheets

inductive Expr
  | literal (text : String)
  | call (name : String) (args : List Expr)
deriving Repr, Inhabited

namespace Expr

mutual

def written : Expr → List Char
  | .literal text => text.toList
  | .call name args => name.toList ++ '(' :: writtenArgs args ++ [')']

def writtenArgs : List Expr → List Char
  | [] => []
  | [arg] => arg.written
  | arg :: next :: args => arg.written ++ ',' :: writtenArgs (next :: args)

end

end Expr

end ReportSheets
