import MessagePattern.Message
import MessagePattern.Text.Json

set_option autoImplicit false

namespace MessagePattern

def Slot.toJson : Slot -> Json
  | .name text => .object [("name", .string text)]
  | .index number => .object [("index", .number number)]

def Selector.toJson : Selector -> Json
  | .keyword word => .object [("keyword", .string word)]
  | .exactly number => .object [("explicit", .number number)]

def PluralKind.jsonName : PluralKind -> String
  | .cardinal => "cardinal"
  | .ordinal => "ordinal"

def DateTimeKind.jsonName (kind : DateTimeKind) : String :=
  kind.keyword ++ "_arg"

mutual

def Node.toJson : Node -> Json
  | .text content => .object [("type", .string "text"), ("value", .string content)]
  | .argument slot => .object [("type", .string "none_arg"), ("argument", slot.toJson)]
  | .dateTime slot kind style =>
      .object [("type", .string kind.jsonName), ("argument", slot.toJson),
        ("style", .string style.keyword)]
  | .select slot clauses =>
      .object [("type", .string "select_arg"), ("argument", slot.toJson),
        ("clauses", .array (selectClausesToJson clauses))]
  | .plural slot kind offset clauses =>
      .object [("type", .string "plural_arg"), ("argument", slot.toJson),
        ("kind", .string kind.jsonName), ("offset", .number offset),
        ("clauses", .array (pluralClausesToJson clauses))]
  | .pound => .object [("type", .string "pound")]

def nodesToJson : List Node -> List Json
  | [] => []
  | node :: rest => node.toJson :: nodesToJson rest

def selectClausesToJson : List (Clause String Node) -> List Json
  | [] => []
  | ⟨keyword, body⟩ :: rest =>
      .object [("keyword", .string keyword), ("nodes", .array (nodesToJson body))] ::
        selectClausesToJson rest

def pluralClausesToJson : List (Clause Selector Node) -> List Json
  | [] => []
  | ⟨selector, body⟩ :: rest =>
      .object [("selector", selector.toJson), ("nodes", .array (nodesToJson body))] ::
        pluralClausesToJson rest

end

def Message.toJson (message : Message) : Json :=
  .object [("nodes", .array (nodesToJson message.nodes))]

end MessagePattern
