import MessagePattern.Pattern.Progress

set_option autoImplicit false

namespace MessagePattern

inductive ArgumentType
  | dateTime (kind : DateTimeKind)
  | select
  | plural (kind : PluralKind)
deriving DecidableEq, Repr

namespace ArgumentType

def all : List ArgumentType :=
  [.plural .cardinal, .select, .plural .ordinal, .dateTime .date, .dateTime .time,
    .dateTime .dateTime]

def keyword : ArgumentType -> String
  | .dateTime kind => kind.keyword
  | .select => "select"
  | .plural kind => kind.keyword

def ofKeyword? (word : String) : Option ArgumentType :=
  all.find? fun type => type.keyword == word

end ArgumentType

structure OpenSelect where
  start : Nat
  slot : Slot
  clauses : Array (Clause String Node) := #[]

structure OpenPlural where
  start : Nat
  slot : Slot
  kind : PluralKind
  offset : Int := 0
  clauses : Array (Clause Selector Node) := #[]

inductive OpenClause
  | select (argument : OpenSelect) (keyword : String)
  | plural (argument : OpenPlural) (selector : Selector)

structure OuterBody where
  nodes : Array Node
  clause : OpenClause

inductive Focus
  -- The text with which a body starts, or goes on after an argument or a pound.
  | text
  -- After a text: an argument, a pound, or the end of the body.
  | joint
  | slot (start : Nat)
  | slotEnd (start : Nat) (slot : Slot)
  | typeName (start : Nat) (slot : Slot)
  | typeEnd (start : Nat) (slot : Slot) (type : ArgumentType)
  | style (slot : Slot) (kind : DateTimeKind)
  | styleEnd (slot : Slot) (kind : DateTimeKind) (style : DateTimeStyle)
  | selectClause (argument : OpenSelect)
  | selectBody (argument : OpenSelect) (keyword : String)
  | pluralStart (argument : OpenPlural)
  | offsetColon (argument : OpenPlural)
  | offsetNumber (argument : OpenPlural)
  | pluralClause (argument : OpenPlural)
  | exactNumber (argument : OpenPlural)
  | pluralBody (argument : OpenPlural) (selector : Selector)

structure Draft where
  nodes : Array Node
  outer : List OuterBody
  focus : Focus

inductive Progress
  | draft (draft : Draft)
  | message (message : Message)

def LocatedToken.unexpected (found : LocatedToken) (expected : List Expectation) : SyntaxFault :=
  { cause := .unexpectedToken found.token expected, offset := found.offset }

def LocatedToken.number (found : LocatedToken) : Except SyntaxFault Int :=
  match found.token with
  | .number value =>
      if Selector.maxNumber < value then
        .error { cause := .numberOutOfRange value, offset := found.offset }
      else
        .ok value
  | _ => .error (found.unexpected [.token .number])

namespace Draft

def inPlural (draft : Draft) : Bool :=
  match draft.outer with
  | { clause := .plural _ _, .. } :: _ => true
  | _ => false

def depth (draft : Draft) : Nat :=
  draft.outer.length + 1

def push (draft : Draft) (node : Node) : Draft :=
  { draft with nodes := draft.nodes.push node, focus := .text }

def expect (draft : Draft) (focus : Focus) : Draft :=
  { draft with focus }

def openBody (limit : Nat) (draft : Draft) (clause : OpenClause) (offset : Nat) :
    Except SyntaxFault Draft :=
  if draft.depth < limit then
    .ok { nodes := #[], outer := { nodes := draft.nodes, clause } :: draft.outer, focus := .text }
  else
    .error { cause := .nestingTooDeep limit, offset }

def closeBody (nodes : Array Node) (body : OuterBody) (outer : List OuterBody) : Draft :=
  match body.clause with
  | .select argument keyword =>
      let clause := { selector := keyword, body := nodes.toList }
      { nodes := body.nodes, outer,
        focus := .selectClause { argument with clauses := argument.clauses.push clause } }
  | .plural argument selector =>
      let clause := { selector, body := nodes.toList }
      { nodes := body.nodes, outer,
        focus := .pluralClause { argument with clauses := argument.clauses.push clause } }

def feedJoint (draft : Draft) (found : LocatedToken) : Except SyntaxFault Progress :=
  match found.token, draft.outer with
  | .openBrace, _ => .ok (.draft (draft.expect (.slot found.offset)))
  | .pound, _ => .ok (.draft (draft.push .pound))
  | .endOfInput, [] => .ok (.message { nodes := draft.nodes.toList })
  | .closeBrace, body :: outer => .ok (.draft (closeBody draft.nodes body outer))
  | _, [] => .error (found.unexpected [.token .openBrace, .token .endOfInput])
  | _, _ :: _ => .error (found.unexpected [.token .openBrace, .token .closeBrace])

def typeFocus (start : Nat) (slot : Slot) : ArgumentType -> Focus
  | .dateTime kind => .style slot kind
  | .select => .selectClause { start, slot }
  | .plural kind => .pluralStart { start, slot, kind }

def feedSelectClause (draft : Draft) (argument : OpenSelect) (found : LocatedToken) :
    Except SyntaxFault Draft :=
  match found.token with
  | .word keyword => .ok (draft.expect (.selectBody argument keyword))
  | .closeBrace =>
      if argument.clauses.isEmpty then
        .error { cause := .noClauses .select, offset := argument.start }
      else
        .ok (draft.push (.select argument.slot argument.clauses.toList))
  | _ => .error (found.unexpected [.token .closeBrace, .token .word])

def feedPluralClause (draft : Draft) (argument : OpenPlural) (found : LocatedToken) :
    Except SyntaxFault Draft :=
  match found.token with
  | .word keyword => .ok (draft.expect (.pluralBody argument (.keyword keyword)))
  | .equals => .ok (draft.expect (.exactNumber argument))
  | .closeBrace =>
      if argument.clauses.isEmpty then
        .error { cause := .noClauses .plural, offset := argument.start }
      else
        .ok (draft.push
          (.plural argument.slot argument.kind argument.offset argument.clauses.toList))
  | _ => .error (found.unexpected [.token .closeBrace, .token .word, .token .equals])

def feedText (draft : Draft) (found : LocatedToken) : Except SyntaxFault Draft :=
  match found.token with
  | .text content => .ok { draft with nodes := draft.nodes.push (.text content), focus := .joint }
  | _ => .error (found.unexpected [.token .text])

def feedSlot (draft : Draft) (found : LocatedToken) (start : Nat) : Except SyntaxFault Draft :=
  match found.token with
  | .word name => .ok (draft.expect (.slotEnd start (.name name)))
  | .number number => .ok (draft.expect (.slotEnd start (.index number)))
  | _ => .error (found.unexpected [.token .word, .token .number])

def feedSlotEnd (draft : Draft) (found : LocatedToken) (start : Nat) (slot : Slot) :
    Except SyntaxFault Draft :=
  match found.token with
  | .closeBrace => .ok (draft.push (.argument slot))
  | .comma => .ok (draft.expect (.typeName start slot))
  | _ => .error (found.unexpected [.token .closeBrace, .token .comma])

def feedTypeName (draft : Draft) (found : LocatedToken) (start : Nat) (slot : Slot) :
    Except SyntaxFault Draft :=
  match found.token with
  | .word spelling =>
      match ArgumentType.ofKeyword? spelling with
      | some type => .ok (draft.expect (.typeEnd start slot type))
      | none => .error (found.unexpected (ArgumentType.all.map fun type => .word type.keyword))
  | _ => .error (found.unexpected [.token .word])

def feedStyle (draft : Draft) (found : LocatedToken) (slot : Slot) (kind : DateTimeKind) :
    Except SyntaxFault Draft :=
  match found.token with
  | .word spelling =>
      match DateTimeStyle.ofKeyword? spelling with
      | some style => .ok (draft.expect (.styleEnd slot kind style))
      | none => .error (found.unexpected (DateTimeStyle.all.map fun style => .word style.keyword))
  | _ => .error (found.unexpected [.token .word])

def feedStyleEnd (draft : Draft) (found : LocatedToken) (slot : Slot) (kind : DateTimeKind)
    (style : DateTimeStyle) : Except SyntaxFault Draft :=
  match found.token with
  | .closeBrace => .ok (draft.push (.dateTime slot kind style))
  | _ => .error (found.unexpected [.token .closeBrace])

def feedPluralStart (draft : Draft) (argument : OpenPlural) (found : LocatedToken) :
    Except SyntaxFault Draft :=
  if found.token = .word "offset" then .ok (draft.expect (.offsetColon argument))
  else draft.feedPluralClause argument found

def feedExactly (draft : Draft) (found : LocatedToken) (token : Token) (next : Focus) :
    Except SyntaxFault Draft :=
  if found.token = token then .ok (draft.expect next)
  else .error (found.unexpected [.token token.kind])

def feedBody (limit : Nat) (draft : Draft) (found : LocatedToken) (clause : OpenClause) :
    Except SyntaxFault Draft :=
  if found.token = .openBrace then draft.openBody limit clause found.offset
  else .error (found.unexpected [.token .openBrace])

def feed (limit : Nat) (draft : Draft) (found : LocatedToken) : Except SyntaxFault Progress :=
  match draft.focus with
  | .text => (draft.feedText found).map .draft
  | .joint => draft.feedJoint found
  | .slot start => (draft.feedSlot found start).map .draft
  | .slotEnd start slot => (draft.feedSlotEnd found start slot).map .draft
  | .typeName start slot => (draft.feedTypeName found start slot).map .draft
  | .typeEnd start slot type =>
      (draft.feedExactly found .comma (typeFocus start slot type)).map .draft
  | .style slot kind => (draft.feedStyle found slot kind).map .draft
  | .styleEnd slot kind style => (draft.feedStyleEnd found slot kind style).map .draft
  | .selectClause argument => (draft.feedSelectClause argument found).map .draft
  | .selectBody argument keyword =>
      (draft.feedBody limit found (.select argument keyword)).map .draft
  | .pluralStart argument => (draft.feedPluralStart argument found).map .draft
  | .offsetColon argument =>
      (draft.feedExactly found .colon (.offsetNumber argument)).map .draft
  | .offsetNumber argument =>
      found.number.map fun offset => .draft (draft.expect (.pluralClause { argument with offset }))
  | .pluralClause argument => (draft.feedPluralClause argument found).map .draft
  | .exactNumber argument =>
      found.number.map fun number =>
        .draft (draft.expect (.pluralBody argument (.exactly number)))
  | .pluralBody argument selector =>
      (draft.feedBody limit found (.plural argument selector)).map .draft

def feedAll (limit : Nat) : Draft -> List LocatedToken -> Except SyntaxFault Progress
  | draft, [] => .ok (.draft draft)
  | draft, found :: rest =>
      match draft.feed limit found with
      | .error fault => .error fault
      | .ok (.message message) => .ok (.message message)
      | .ok (.draft next) => next.feedAll limit rest

end Draft

end MessagePattern
