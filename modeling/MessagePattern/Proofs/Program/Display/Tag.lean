import MessagePattern.Program
import MessagePattern.Proofs.Digits
import MessagePattern.Proofs.Program.Display.Scan

set_option autoImplicit false

namespace MessagePattern

namespace Display

inductive Tag
  | field (name : String)
  | call (callee : Call)
  | opens (condition : Call)
  | continues (condition : Call)
  | otherwise
  | ends

section Tokens

def fieldTokens (name : String) : List Token :=
  if isFieldName name then [.run ('.' :: name.toList)]
  else [.opening, .run "index".toList, .blank, .run ['.'], .blank, .quoted name.toList, .closing]

def operandTokens : Operand -> List Token
  | .string text => [.quoted text.toList]
  | .integer number => [.run number.repr.toList]
  | .field name => fieldTokens name

def callTokens (call : Call) : List Token :=
  .run hostFunctionName.toList :: .blank :: .quoted call.primitive.name.toList ::
    call.operands.flatMap fun operand => .blank :: operandTokens operand

def conditionTokens (condition : Call) : List Token :=
  .run "if".toList :: .blank :: .opening :: (callTokens condition ++ [.closing])

def Tag.tokens : Tag -> List Token
  | .field name => fieldTokens name
  | .call callee => callTokens callee
  | .opens condition => conditionTokens condition
  | .continues condition => .run "else".toList :: .blank :: conditionTokens condition
  | .otherwise => [.run "else".toList]
  | .ends => [.run "end".toList]

end Tokens

def Tag.content : Tag -> String
  | .field name => displayField name
  | .call callee => callee.display
  | .opens condition => "if (" ++ condition.display ++ ")"
  | .continues condition => "else if (" ++ condition.display ++ ")"
  | .otherwise => "else"
  | .ends => "end"

-- A field that is shown behind a dot has a name that does not end the run it stands in.
def LegibleField (name : String) : Prop :=
  isFieldName name = true -> ∀ letter ∈ name.toList, isRunCharacter letter = true

def LegibleCall (call : Call) : Prop :=
  ∀ name, .field name ∈ call.operands -> LegibleField name

def Tag.Legible : Tag -> Prop
  | .field name => LegibleField name
  | .call callee => LegibleCall callee
  | .opens condition | .continues condition => LegibleCall condition
  | .otherwise | .ends => True

section Reading

def readRun : List Char -> Operand
  | '.' :: name => .field (String.ofList name)
  | '-' :: digits => .integer (-numberOf digits)
  | digits => .integer (numberOf digits)

def readOperands : List Token -> List Operand × List Token
  | .blank :: .quoted text :: rest =>
      (.string (String.ofList text) :: (readOperands rest).1, (readOperands rest).2)
  | .blank :: .run letters :: rest =>
      (readRun letters :: (readOperands rest).1, (readOperands rest).2)
  | .blank :: .opening :: .run _ :: .blank :: .run _ :: .blank :: .quoted name :: .closing :: rest =>
      (.field (String.ofList name) :: (readOperands rest).1, (readOperands rest).2)
  | tokens => ([], tokens)

def readCall : List Token -> Option (Call × List Token)
  | .run _ :: .blank :: .quoted name :: rest =>
      (Primitive.all.find? fun primitive => primitive.name.toList == name).map fun primitive =>
        ({ primitive, operands := (readOperands rest).1 }, (readOperands rest).2)
  | _ => none

def readCondition : List Token -> Option Call
  | .run _ :: .blank :: .opening :: tokens =>
      match readCall tokens with
      | some (condition, [.closing]) => some condition
      | _ => none
  | _ => none

def readTag : List Token -> Option Tag
  | [.run ('.' :: name)] => some (.field (String.ofList name))
  | [.opening, .run _, .blank, .run _, .blank, .quoted name, .closing] =>
      some (.field (String.ofList name))
  | [.run word] => if word = "end".toList then some .ends else some .otherwise
  | .run word :: .blank :: .run more :: rest =>
      if word = "else".toList then (readCondition (.run more :: rest)).map .continues else none
  | .run word :: .blank :: .opening :: rest =>
      (readCondition (.run word :: .blank :: .opening :: rest)).map .opens
  | tokens =>
      match readCall tokens with
      | some (callee, []) => some (.call callee)
      | _ => none

end Reading

section Apart

theorem isRunCharacter_of_isWordPart {letter : Char} (part : isWordPart letter = true) :
    isRunCharacter letter = true := by
  rw [isWordPart_iff, isWordStart_iff, isDigit_iff] at part
  simp only [isRunCharacter, Bool.and_eq_true, bne_iff_ne]
  refine ⟨⟨⟨⟨?_, ?_⟩, ?_⟩, ?_⟩, ?_⟩ <;> rintro rfl <;> simp at part

theorem isRunCharacter_repr_nat (number : Nat) :
    ∀ letter ∈ number.repr.toList, isRunCharacter letter = true := by
  rw [Nat.toList_repr]
  intro letter member
  have isDigit := isDigits_toDigits number letter member
  exact isRunCharacter_of_isWordPart (isWordPart_iff.mpr (.inr isDigit))

theorem toList_repr_ne_nil (number : Int) : number.repr.toList ≠ [] := by
  cases number with
  | ofNat number => simp [Int.repr, Nat.toList_repr]
  | negSucc number => simp [Int.repr]

theorem isRunCharacter_repr (number : Int) :
    ∀ letter ∈ number.repr.toList, isRunCharacter letter = true := by
  cases number with
  | ofNat number => exact isRunCharacter_repr_nat number
  | negSucc number =>
    rw [Int.repr, String.toList_append, List.forall_mem_append]
    exact ⟨by simp [isRunCharacter], isRunCharacter_repr_nat number.succ⟩

variable {rest : List Token}

theorem apart_run {letters : List Char} (nonempty : letters ≠ [])
    (isRun : ∀ letter ∈ letters, isRunCharacter letter = true) (unjoined : ¬ BeginsRun rest)
    (apart : Apart rest) : Apart (.run letters :: rest) :=
  ⟨nonempty, isRun, unjoined, apart⟩

theorem apart_fieldTokens {name : String} (legible : LegibleField name)
    (unjoined : ¬ BeginsRun rest) (apart : Apart rest) : Apart (fieldTokens name ++ rest) := by
  unfold fieldTokens
  split
  next isName =>
    refine apart_run (by simp) ?_ unjoined apart
    exact List.forall_mem_cons.mpr ⟨by decide, legible isName⟩
  next =>
    refine apart_run (by simp) (by simp [isRunCharacter]) (by simp [BeginsRun]) ?_
    exact apart_run (by simp) (by simp [isRunCharacter]) (by simp [BeginsRun]) apart

theorem apart_operandTokens {operand : Operand}
    (legible : ∀ name, operand = .field name -> LegibleField name) (unjoined : ¬ BeginsRun rest)
    (apart : Apart rest) : Apart (operandTokens operand ++ rest) := by
  cases operand with
  | string text => exact apart
  | integer number =>
    exact apart_run (toList_repr_ne_nil number) (isRunCharacter_repr number) unjoined apart
  | field name => exact apart_fieldTokens (legible name rfl) unjoined apart

theorem apart_operands {operands : List Operand}
    (legible : ∀ name, .field name ∈ operands -> LegibleField name) (unjoined : ¬ BeginsRun rest)
    (apart : Apart rest) :
    Apart (operands.flatMap (fun operand => .blank :: operandTokens operand) ++ rest) ∧
      ¬ BeginsRun (operands.flatMap (fun operand => .blank :: operandTokens operand) ++ rest) := by
  induction operands with
  | nil => exact ⟨apart, unjoined⟩
  | cons operand operands ih =>
    obtain ⟨later, laterUnjoined⟩ := ih fun name member => legible name (List.mem_cons_of_mem _ member)
    rw [List.flatMap_cons, List.append_assoc]
    refine ⟨apart_operandTokens ?_ laterUnjoined later, by simp [BeginsRun]⟩
    rintro name rfl
    exact legible name List.mem_cons_self

theorem apart_callTokens {call : Call} (legible : LegibleCall call) (unjoined : ¬ BeginsRun rest)
    (apart : Apart rest) : Apart (callTokens call ++ rest) :=
  apart_run (by simp [hostFunctionName]) (by simp [hostFunctionName, isRunCharacter])
    (by simp [BeginsRun]) (apart_operands legible unjoined apart).1

theorem apart_conditionTokens {condition : Call} (legible : LegibleCall condition) :
    Apart (conditionTokens condition) :=
  apart_run (by simp) (by simp [isRunCharacter]) (by simp [BeginsRun])
    (apart_callTokens legible (by simp [BeginsRun]) trivial)

theorem Tag.apart {tag : Tag} (legible : tag.Legible) : Apart tag.tokens := by
  have nothing : ¬ BeginsRun [] := by simp [BeginsRun]
  cases tag with
  | field name =>
    rw [Tag.tokens, ← List.append_nil (fieldTokens name)]
    exact apart_fieldTokens legible nothing trivial
  | call callee =>
    rw [Tag.tokens, ← List.append_nil (callTokens callee)]
    exact apart_callTokens legible nothing trivial
  | opens condition => exact apart_conditionTokens legible
  | continues condition =>
    exact apart_run (by simp) (by simp [isRunCharacter]) (by simp [BeginsRun])
      (apart_conditionTokens legible)
  | otherwise | ends =>
    exact apart_run (by simp) (by simp [isRunCharacter]) nothing trivial

end Apart

section Texts

theorem toList_quoteText (text : String) :
    (quoteText text).toList = (Token.quoted text.toList).text := by
  simp [quoteText, Token.text]

theorem toList_displayField (name : String) :
    (displayField name).toList = (fieldTokens name).flatMap Token.text := by
  unfold displayField fieldTokens
  split
  · simp [Token.text]
  · simp [Token.text, toList_quoteText]

theorem toList_operand (operand : Operand) :
    operand.display.toList = (operandTokens operand).flatMap Token.text := by
  cases operand with
  | string text => simp [Operand.display, operandTokens, toList_quoteText]
  | integer number => simp [Operand.display, operandTokens, Token.text]
  | field name => exact toList_displayField name

theorem toList_intercalate_blank (first : String) (others : List String) :
    (" ".intercalate (first :: others)).toList =
      first.toList ++ others.flatMap fun other => ' ' :: other.toList := by
  induction others generalizing first with
  | nil => simp
  | cons second others ih =>
    have later := ih second
    rw [String.toList_intercalate] at later ⊢
    rw [List.map_cons, List.map_cons, List.intercalate_cons_cons, ← List.map_cons, later]
    simp

theorem toList_call (call : Call) :
    call.display.toList = (callTokens call).flatMap Token.text := by
  rw [Call.display, toList_intercalate_blank, callTokens]
  simp [Token.text, toList_quoteText, List.flatMap_map, List.flatMap_assoc, toList_operand]

theorem toList_condition (condition : Call) :
    ("if (" ++ condition.display ++ ")").toList =
      (conditionTokens condition).flatMap Token.text := by
  simp [conditionTokens, toList_call, Token.text]

theorem Tag.toList_content (tag : Tag) : tag.content.toList = tag.tokens.flatMap Token.text := by
  cases tag with
  | field name => exact toList_displayField name
  | call callee => exact toList_call callee
  | opens condition => exact toList_condition condition
  | continues condition =>
    have shown := toList_condition condition
    simp only [String.toList_append] at shown
    simp [Tag.content, Tag.tokens, Token.text, ← shown]
  | otherwise | ends => simp [Tag.content, Tag.tokens, Token.text]

theorem Tag.scan_display {tag : Tag} (legible : tag.Legible) (rest : List Char) :
    scan ((displayTag tag.content).toList ++ rest) = .tag tag.tokens :: scan rest := by
  have shown : (displayTag tag.content).toList = tagText tag.tokens := by
    simp [displayTag, tagText, tag.toList_content]
  rw [shown, scan_tagText (tag.apart legible)]

end Texts

section RoundTrips

theorem readRun_repr (number : Int) : readRun number.repr.toList = .integer number := by
  cases number with
  | ofNat number =>
    have digits := isDigits_toDigits number
    rw [Int.repr, Nat.toList_repr, readRun, numberOf_toDigits]
    · rfl
    · intro name same
      exact absurd (digits '.' (same ▸ List.mem_cons_self)) (by decide)
    · intro rest same
      exact absurd (digits '-' (same ▸ List.mem_cons_self)) (by decide)
  | negSucc number =>
    rw [Int.repr, String.toList_append, Nat.toList_repr]
    simp [readRun, numberOf_toDigits, Int.negSucc_eq]

theorem readOperands_operand (operand : Operand) (rest : List Token) :
    readOperands (.blank :: operandTokens operand ++ rest) =
      (operand :: (readOperands rest).1, (readOperands rest).2) := by
  cases operand with
  | string text => simp [operandTokens, readOperands]
  | integer number => simp [operandTokens, readOperands, readRun_repr]
  | field name =>
    rw [operandTokens, fieldTokens]
    split
    · simp [readOperands, readRun]
    · simp [readOperands]

theorem readOperands_flatMap (operands : List Operand) {rest : List Token}
    (ended : readOperands rest = ([], rest)) :
    readOperands (operands.flatMap (fun operand => .blank :: operandTokens operand) ++ rest) =
      (operands, rest) := by
  induction operands with
  | nil => exact ended
  | cons operand operands ih => rw [List.flatMap_cons, List.append_assoc, readOperands_operand, ih]

theorem find?_primitive (primitive : Primitive) :
    (Primitive.all.find? fun other => other.name.toList == primitive.name.toList) =
      some primitive := by
  rcases primitive with (_ | _ | _) | _ | (_ | _) | _ <;> decide

theorem readCall_tokens (call : Call) (rest : List Token)
    (ended : readOperands rest = ([], rest)) :
    readCall (callTokens call ++ rest) = some (call, rest) := by
  simp only [callTokens, List.cons_append, readCall, readOperands_flatMap _ ended,
    find?_primitive, Option.map_some]

theorem readCondition_tokens (condition : Call) :
    readCondition (conditionTokens condition) = some condition := by
  have read := readCall_tokens condition [.closing] rfl
  simp only [conditionTokens, readCondition, read]

theorem readTag_tokens (tag : Tag) : readTag tag.tokens = some tag := by
  cases tag with
  | field name =>
    rw [Tag.tokens, fieldTokens]
    split <;> simp [readTag]
  | call callee =>
    have read := readCall_tokens callee [] rfl
    rw [List.append_nil] at read
    rw [Tag.tokens, readTag, read] <;> simp [callTokens]
  | opens condition =>
    have read := readCondition_tokens condition
    rw [conditionTokens] at read
    simp only [Tag.tokens, conditionTokens, readTag, read, Option.map_some]
  | continues condition =>
    have read := readCondition_tokens condition
    rw [conditionTokens] at read
    simp only [Tag.tokens, conditionTokens, readTag, read, Option.map_some, if_true]
  | otherwise | ends => simp [Tag.tokens, readTag]

end RoundTrips

end Display

end MessagePattern
