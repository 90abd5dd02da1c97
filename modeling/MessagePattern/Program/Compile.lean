import MessagePattern.Message
import MessagePattern.Pattern.SyntaxError
import MessagePattern.Program

set_option autoImplicit false

namespace MessagePattern

inductive CompileError
  | parse (error : SyntaxError)
  | missingSelectOther (name : String)
  | missingPluralOther (name : String)
  | poundOutsidePlural
deriving DecidableEq, Repr

def CompileError.message : CompileError -> String
  | .parse error => error.message
  | .missingSelectOther name => "missing select other clause for '" ++ name ++ "'"
  | .missingPluralOther name => "missing plural other clause for '" ++ name ++ "'"
  | .poundOutsidePlural => "pound token emitted incorrectly"

structure PoundField where
  field : String
  offset : Int
deriving DecidableEq, Repr

def PoundField.call (pound : PoundField) : Call :=
  { primitive := .pound, operands := [.field pound.field, .integer pound.offset] }

def dateTimeCall (tag : String) (slot : Slot) (kind : DateTimeKind) (style : DateTimeStyle) : Call :=
  { primitive := .dateTime kind
    operands := [.string tag, .string style.keyword, .field slot.key] }

def selectCall (slot : Slot) (keyword : String) : Call :=
  { primitive := .select, operands := [.field slot.key, .string keyword] }

-- The call that tests a selector of a plural. An exact selector has no keyword.
def pluralCall (tag : String) (slot : Slot) (kind : PluralKind) (offset : Int)
    (selector : Selector) : Call :=
  { primitive := .plural kind
    operands := [.string tag, .integer offset, .field slot.key,
      .string (selector.keyword?.getD ""), .integer (selector.number?.getD 0)] }

structure Branch where
  condition : Call
  body : List Instruction

def chain : List Branch -> List Instruction -> List Instruction
  | [], fallback => fallback
  | branch :: rest, fallback => [.ifElse branch.condition branch.body (chain rest fallback)]

mutual

def Node.compile (tag : String) (pound : Option PoundField) :
    Node -> Except CompileError (List Instruction)
  | .text content => .ok [.text content]
  | .argument slot => .ok [.field slot.key]
  | .dateTime slot kind style => .ok [.call (dateTimeCall tag slot kind style)]
  | .select slot clauses =>
      match compileSelectOther tag clauses with
      | none => .error (.missingSelectOther slot.key)
      | some other => do
          let branches <- compileSelect tag slot clauses
          let fallback <- other
          return chain branches fallback
  | .plural slot kind offset clauses =>
      let inner := { field := slot.key, offset }
      match compilePluralOther tag inner clauses with
      | none => .error (.missingPluralOther slot.key)
      | some other => do
          let condition := pluralCall tag slot kind offset
          let exact <- compilePlural tag inner condition (·.number?.isSome) clauses
          let keywords <-
            compilePlural tag inner condition (·.keyword?.any (· != otherKeyword)) clauses
          let fallback <- other
          return chain (exact ++ keywords) fallback
  | .pound =>
      match pound with
      | some pound => .ok [.call pound.call]
      | none => .error .poundOutsidePlural

def Node.compileAll (tag : String) (pound : Option PoundField) :
    List Node -> Except CompileError (List Instruction)
  | [] => .ok []
  | node :: rest => do
      let instructions <- node.compile tag pound
      let more <- Node.compileAll tag pound rest
      return instructions ++ more

def compileSelect (tag : String) (slot : Slot) :
    List (Clause String Node) -> Except CompileError (List Branch)
  | [] => .ok []
  | ⟨keyword, body⟩ :: rest =>
      if keyword == otherKeyword then compileSelect tag slot rest
      else do
        let body <- Node.compileAll tag none body
        let branches <- compileSelect tag slot rest
        return { condition := selectCall slot keyword, body } :: branches

def compileSelectOther (tag : String) :
    List (Clause String Node) -> Option (Except CompileError (List Instruction))
  | [] => none
  | ⟨keyword, body⟩ :: rest =>
      if keyword == otherKeyword then some (Node.compileAll tag none body)
      else compileSelectOther tag rest

def compilePlural (tag : String) (pound : PoundField) (condition : Selector -> Call)
    (accepts : Selector -> Bool) :
    List (Clause Selector Node) -> Except CompileError (List Branch)
  | [] => .ok []
  | ⟨selector, body⟩ :: rest =>
      if accepts selector then do
        let body <- Node.compileAll tag (some pound) body
        let branches <- compilePlural tag pound condition accepts rest
        return { condition := condition selector, body } :: branches
      else compilePlural tag pound condition accepts rest

def compilePluralOther (tag : String) (pound : PoundField) :
    List (Clause Selector Node) -> Option (Except CompileError (List Instruction))
  | [] => none
  | ⟨selector, body⟩ :: rest =>
      if selector == .keyword otherKeyword then some (Node.compileAll tag (some pound) body)
      else compilePluralOther tag pound rest

end

def Message.compile (locale : Locale) (message : Message) : Except CompileError Program := do
  let instructions <- Node.compileAll locale.tag none message.nodes
  return { locale, instructions }

end MessagePattern
