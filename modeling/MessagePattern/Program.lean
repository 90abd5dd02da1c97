import MessagePattern.Locale
import MessagePattern.Program.Primitive
import MessagePattern.Text.Quoted

set_option autoImplicit false

namespace MessagePattern

inductive Operand
  | string (text : String)
  | integer (number : Int)
  | field (name : String)
deriving DecidableEq, Repr

structure Call where
  primitive : Primitive
  operands : List Operand
deriving DecidableEq, Repr

inductive Instruction
  | text (content : String)
  | field (name : String)
  | call (callee : Call)
  | ifElse (condition : Call) (consequence alternative : List Instruction)

structure Program where
  locale : Locale
  instructions : List Instruction

-- Whether a program has no instruction but perhaps one empty text.
def Program.isEmpty (program : Program) : Bool :=
  match program.instructions with
  | [] => true
  | [.text content] => content.isEmpty
  | _ => false

def isFieldName (name : String) : Bool :=
  name.toList.head?.any fun first => first.isAlpha || first == '_'

def displayField (name : String) : String :=
  if isFieldName name then "." ++ name else "(index . " ++ quoteText name ++ ")"

def Operand.display : Operand -> String
  | .string text => quoteText text
  | .integer number => number.repr
  | .field name => displayField name

def Call.display (call : Call) : String :=
  " ".intercalate
    (hostFunctionName :: quoteText call.primitive.name :: call.operands.map Operand.display)

def displayTag (content : String) : String :=
  "\x7b\x7b" ++ content ++ "\x7d\x7d"

mutual

def Instruction.display : Instruction -> String
  | .text content => content
  | .field name => displayTag (displayField name)
  | .call callee => displayTag callee.display
  | .ifElse condition consequence alternative =>
      displayTag ("if (" ++ condition.display ++ ")") ++ Instruction.displayAll consequence ++
        Instruction.displayElse alternative ++ displayTag "end"

def Instruction.displayAll : List Instruction -> String
  | [] => ""
  | instruction :: rest => instruction.display ++ Instruction.displayAll rest

-- The second body of a branch. Nothing is shown for an empty one, and a lone branch joins the one
-- it is in.
def Instruction.displayElse : List Instruction -> String
  | [] => ""
  | [.ifElse condition consequence alternative] =>
      displayTag ("else if (" ++ condition.display ++ ")") ++ Instruction.displayAll consequence ++
        Instruction.displayElse alternative
  | instruction :: rest =>
      displayTag "else" ++ instruction.display ++ Instruction.displayAll rest

end

def Program.display (program : Program) : String :=
  Instruction.displayAll program.instructions

end MessagePattern
