import MessagePattern.Bindings
import MessagePattern.Message
import MessagePattern.Message.FormatError
import MessagePattern.Message.Suggestion

set_option autoImplicit false

namespace MessagePattern

structure Environment where
  locales : LocaleReader
  plurals : PluralProvider
  dates : DateTimeService
  timeZone : String

structure FormatContext where
  bindings : Bindings
  locale : Locale
  environment : Environment

structure PoundNumber where
  name : String
  value : Value

def printValue (name : String) (value : Value) : Except FormatError String :=
  match value.render? with
  | some text => .ok text
  | none => .error (.unsupportedArgumentType name value.kind)

def reduceValue (name : String) (value : Value) (offset : Int) : Except FormatError Value :=
  match value.minus? offset with
  | some reduced => .ok reduced
  | none => .error (.expectedNumeric name value.kind)

def printPound (number : Option PoundNumber) : Except FormatError String :=
  match number with
  | some number => printValue number.name number.value
  | none => .error .poundOutsidePlural

namespace FormatContext

def resolve (context : FormatContext) (slot : Slot) : Except FormatError Value :=
  match context.bindings.get? slot.key with
  | some value => .ok value
  | none => .error (.unknownArgument slot.key (suggestions slot.key context.bindings.names))

def print (context : FormatContext) (slot : Slot) : Except FormatError String := do
  let value <- context.resolve slot
  printValue slot.key value

def printInstant (context : FormatContext) (slot : Slot) (request : DateTimeRequest) :
    Except FormatError String := do
  let value <- context.resolve slot
  match value.instant? with
  | none => throw (.expectedInstant slot.key value.kind)
  | some instant =>
      let environment := context.environment
      (environment.dates context.locale environment.timeZone request instant).mapError
        (.dateTime slot.key)

def category (context : FormatContext) (name : String) (kind : PluralKind) (value : Value) :
    Except FormatError PluralCategory :=
  (context.environment.plurals.category context.locale kind value).mapError (.plural name)

end FormatContext

def Selector.names (value : Value) (selector : Selector) : Bool :=
  selector.number?.any fun number => value.equals? number == some true

mutual

def Node.format (context : FormatContext) (pound : Option PoundNumber) :
    Node -> Except FormatError String
  | .text content => .ok content
  | .argument slot => context.print slot
  | .dateTime slot kind style => context.printInstant slot (kind.request style)
  | .select slot clauses => do
      let key <- context.print slot
      (formatSelect context (· == key) clauses <|>
        formatSelect context (· == otherKeyword) clauses).getD
          (.error (.missingSelectOther slot.key))
  | .plural slot kind offset clauses => do
      let value <- context.resolve slot
      let reduced <- reduceValue slot.key value offset
      let number := { name := slot.key, value := reduced }
      match formatPlural context number (Selector.names value) clauses with
      | some result => result
      | none => do
          let category <- context.category slot.key kind reduced
          (formatPlural context number (· == .keyword category.keyword) clauses <|>
            formatPlural context number (· == .keyword otherKeyword) clauses).getD
              (.error (.missingPluralOther slot.key))
  | .pound => printPound pound

def Node.formatAll (context : FormatContext) (pound : Option PoundNumber) :
    List Node -> Except FormatError String
  | [] => .ok ""
  | node :: rest => do
      let text <- node.format context pound
      let texts <- Node.formatAll context pound rest
      return text ++ texts

def formatSelect (context : FormatContext) (accepts : String -> Bool) :
    List (Clause String Node) -> Option (Except FormatError String)
  | [] => none
  | ⟨keyword, body⟩ :: rest =>
      if accepts keyword then some (Node.formatAll context none body)
      else formatSelect context accepts rest

def formatPlural (context : FormatContext) (number : PoundNumber) (accepts : Selector -> Bool) :
    List (Clause Selector Node) -> Option (Except FormatError String)
  | [] => none
  | ⟨selector, body⟩ :: rest =>
      if accepts selector then some (Node.formatAll context (some number) body)
      else formatPlural context number accepts rest

end

def Message.format (context : FormatContext) (message : Message) : Except FormatError String :=
  Node.formatAll context none message.nodes

end MessagePattern
