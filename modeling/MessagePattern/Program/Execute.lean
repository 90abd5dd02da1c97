import MessagePattern.Message.Format
import MessagePattern.Program

set_option autoImplicit false

namespace MessagePattern

inductive Request
  | dateTime (tag : String) (request : DateTimeRequest) (field : String)
  | select (field keyword : String)
  | plural (kind : PluralKind) (tag : String) (offset : Int) (field keyword : String) (number : Int)
  | pound (field : String) (offset : Int)
deriving DecidableEq, Repr

-- What a call asks for, if its operands fit. Operands after the last one needed do not matter.
def Call.request? (call : Call) : Option Request :=
  match call.primitive, call.operands with
  | .dateTime kind, .string tag :: .string keyword :: .field field :: _ =>
      (DateTimeStyle.ofKeyword? keyword).map fun style =>
        .dateTime tag (kind.request style) field
  | .select, .field field :: .string keyword :: _ => some (.select field keyword)
  | .plural kind,
      .string tag :: .integer offset :: .field field :: .string keyword :: .integer number :: _ =>
      some (.plural kind tag offset field keyword number)
  | .pound, .field field :: .integer offset :: _ => some (.pound field offset)
  | _, _ => none

inductive Output
  | text (content : String)
  | bool (holds : Bool)
deriving DecidableEq, Repr

-- A field that is not bound is no error: it is written as nothing and counted as zero.
def printField (field : String) (value : Option Value) : Except FormatError String :=
  match value with
  | some value => printValue field value
  | none => .ok ""

def testSelect (field : String) (value : Option Value) (keyword : String) :
    Except FormatError Bool :=
  (printField field value).map (· == keyword)

def printNumber (field : String) (value : Option Value) (offset : Int) :
    Except FormatError String := do
  let reduced <- reduceValue field (value.getD .zero) offset
  printValue field reduced

namespace Environment

def readLocale (environment : Environment) (tag : String) : Except FormatError Locale :=
  (environment.locales tag).mapError fun _ => .invalidLocale tag

-- Whether a field's number has the category of the keyword, or is the given one if the keyword is
-- empty. Only the category looks at the locale and the offset.
def testPlural (environment : Environment) (kind : PluralKind) (tag : String) (offset : Int)
    (field : String) (value : Option Value) (keyword : String) (number : Int) :
    Except FormatError Bool :=
  let value := value.getD .zero
  if keyword.isEmpty then
    match value.equals? number with
    | some holds => .ok holds
    | none => .error (.expectedNumeric field value.kind)
  else do
    let locale <- environment.readLocale tag
    let reduced <- reduceValue field value offset
    let category <- (environment.plurals.category locale kind reduced).mapError (.plural field)
    return category.keyword == keyword

def printInstant (environment : Environment) (tag : String) (request : DateTimeRequest)
    (field : String) (value : Option Value) : Except FormatError String :=
  match value with
  | none => .ok ""
  | some value =>
      match value.instant? with
      | none => .error (.expectedInstant field value.kind)
      | some instant => do
          let locale <- environment.readLocale tag
          (environment.dates locale environment.timeZone request instant).mapError
            (.dateTime field)

def answer (environment : Environment) (bindings : Bindings) :
    Request -> Except FormatError Output
  | .dateTime tag request field =>
      (environment.printInstant tag request field (bindings.get? field)).map .text
  | .select field keyword => (testSelect field (bindings.get? field) keyword).map .bool
  | .plural kind tag offset field keyword number =>
      (environment.testPlural kind tag offset field (bindings.get? field) keyword number).map .bool
  | .pound field offset => (printNumber field (bindings.get? field) offset).map .text

def invoke (environment : Environment) (bindings : Bindings) (call : Call) :
    Except FormatError Output :=
  match call.request? with
  | some request => environment.answer bindings request
  | none => .error (.malformedCall call.primitive)

end Environment

structure Host where
  bindings : Bindings
  environment : Environment
  escape : String -> String

namespace Host

def callText (host : Host) (call : Call) : Except FormatError String := do
  match <- host.environment.invoke host.bindings call with
  | .text content => return content
  | .bool _ => throw (.malformedCall call.primitive)

def callBool (host : Host) (call : Call) : Except FormatError Bool := do
  match <- host.environment.invoke host.bindings call with
  | .bool holds => return holds
  | .text _ => throw (.malformedCall call.primitive)

end Host

mutual

def Instruction.execute (host : Host) : Instruction -> Except FormatError String
  | .text content => .ok content
  | .field name => (printField name (host.bindings.get? name)).map host.escape
  | .call callee => (host.callText callee).map host.escape
  | .ifElse condition consequence alternative =>
      match host.callBool condition with
      | .error error => .error error
      | .ok true => Instruction.executeAll host consequence
      | .ok false => Instruction.executeAll host alternative

def Instruction.executeAll (host : Host) : List Instruction -> Except FormatError String
  | [] => .ok ""
  | instruction :: rest => do
      let text <- instruction.execute host
      let texts <- Instruction.executeAll host rest
      return text ++ texts

end

def Program.execute (host : Host) (program : Program) : Except FormatError String :=
  Instruction.executeAll host program.instructions

end MessagePattern
