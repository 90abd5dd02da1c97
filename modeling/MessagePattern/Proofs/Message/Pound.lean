import Mathlib
import MessagePattern.Proofs.Message.Failure
import MessagePattern.Proofs.Pattern.Recognition
import MessagePattern.Proofs.Pattern.WellFormed
import MessagePattern.Proofs.Program.Agreement
import MessagePattern.Proofs.Program.Gaps

set_option autoImplicit false

namespace MessagePattern

theorem Live.wellFormed {inPlural : Bool} {nodes : List Node} {place : Place}
    (live : Live inPlural nodes place) (wellFormed : Node.allWellFormed inPlural nodes) :
    place.node.WellFormed place.inPlural := by
  induction live with
  | here member => exact allWellFormed_iff.mp wellFormed _ member
  | select member live _ ih =>
    obtain ⟨_, _, clauses⟩ := allWellFormed_iff.mp wellFormed _ member
    exact ih (selectWellFormed_iff.mp clauses _ (mem_of_mem_liveClauses live)).2.2
  | plural member live _ ih =>
    obtain ⟨_, _, _, _, clauses⟩ := allWellFormed_iff.mp wellFormed _ member
    exact ih (pluralWellFormed_iff.mp clauses _ (mem_of_mem_liveClauses live)).2.2

theorem Message.not_lacks_poundNumber {limit : Nat} {pattern : String} {message : Message}
    (parsed : Message.parse limit pattern = .ok message) {place : Place}
    (live : message.Live place) : ¬ place.Lacks .poundNumber := by
  have spelled := (Message.spelled_of_parse parsed).1
  have wellFormed := Live.wellFormed live spelled.wellFormed.2
  rintro ⟨⟩
  cases wellFormed

theorem Message.format_ne_poundOutsidePlural {limit : Nat} {pattern : String} {message : Message}
    (parsed : Message.parse limit pattern = .ok message) (context : FormatContext) :
    message.format context ≠ .error .poundOutsidePlural := by
  intro failed
  obtain ⟨place, live, fails⟩ := Message.fails_of_format failed
  have lacks : place.Lacks .poundNumber := fails.lacks rfl
  exact Message.not_lacks_poundNumber parsed live lacks

theorem Message.compile_ne_poundOutsidePlural {limit : Nat} {pattern : String} {message : Message}
    (parsed : Message.parse limit pattern = .ok message) (locale : Locale) :
    message.compile locale ≠ .error .poundOutsidePlural := by
  intro failed
  obtain ⟨place, live, gap, lacks, same⟩ := Message.compileFails_of_compile failed
  obtain rfl : .poundNumber = gap := Gap.compileError_injective same
  exact Message.not_lacks_poundNumber parsed live lacks

-- A pound turned into a text. Pounds further inside stay.
def Node.answerPound (text : String) : Node -> Node
  | .pound => .text text
  | node => node

section

variable {context : FormatContext} {number : PoundNumber} {text : String}

theorem Node.format_answerPound (written : number.value.render? = some text) (node : Node) :
    node.format context (some number) = (node.answerPound text).format context none := by
  cases node with
  | pound => simp [Node.format, Node.answerPound, printPound, printValue, written]
  | select slot clauses =>
    exact (Node.format_select context _ slot clauses).trans
      (Node.format_select context none slot clauses).symm
  | plural slot kind offset clauses =>
    exact (Node.format_plural context _ slot kind offset clauses).trans
      (Node.format_plural context none slot kind offset clauses).symm
  | _ => rfl

theorem Node.formatAll_answerPound (written : number.value.render? = some text)
    (nodes : List Node) :
    Node.formatAll context (some number) nodes =
      Node.formatAll context none (nodes.map (·.answerPound text)) := by
  induction nodes with
  | nil => rfl
  | cons node rest ih =>
    rw [List.map_cons, Node.formatAll, Node.formatAll, ih, Node.format_answerPound written]

end

theorem Message.pound_answered :
    (∀ (limit : Nat) (pattern : String) (message : Message),
      Message.parse limit pattern = .ok message ->
        (∀ context, message.format context ≠ .error .poundOutsidePlural) ∧
          ∀ locale, message.compile locale ≠ .error .poundOutsidePlural) ∧
    (∀ (value reduced : Value) (offset : Int),
      value.minus? offset = some reduced -> reduced.Counts) ∧
    ∀ (context : FormatContext) (number : PoundNumber) (nodes : List Node),
      number.value.Counts ->
        ∃ text, number.value.render? = some text ∧
          Node.formatAll context (some number) nodes =
            Node.formatAll context none (nodes.map (·.answerPound text)) := by
  refine ⟨fun limit pattern message parsed => ?_, ?_, ?_⟩
  · exact ⟨Message.format_ne_poundOutsidePlural parsed,
      Message.compile_ne_poundOutsidePlural parsed⟩
  · intro value reduced offset reduces
    exact Value.counts_of_minus? reduces
  · intro context number nodes counts
    obtain ⟨text, written⟩ := counts.plain.render?
    exact ⟨text, written, Node.formatAll_answerPound written nodes⟩

-- A pound of its own, one in a select and one in a plural inside it, and one more of its own.
def rankBody : List Node :=
  [.text "", .pound, .text " of ",
    .select (.name "kind") [{ selector := "other", body := [.text "#"] }],
    .text " ",
    .plural (.name "rank") .ordinal 0
      [{ selector := .keyword "other", body := [.text "", .pound, .text "th"] }],
    .text " of ", .pound, .text ""]

def rankMessage : Message :=
  { nodes := [
      .text "",
      .plural (.name "count") .cardinal 1 [{ selector := .keyword "other", body := rankBody }],
      .text ""] }

def rankPattern : String :=
  "\x7bcount, plural, offset:1 other\x7b# of \x7bkind, select, other\x7b#\x7d\x7d " ++
    "\x7brank, selectordinal, other\x7b#th\x7d\x7d of #\x7d\x7d"

def rankContext : FormatContext :=
  guestContext [("count", guestCount 0), ("kind", .text "all"), ("rank", guestCount 5)]

theorem Message.pound_answered_rank :
    Message.parse 3 rankPattern = .ok rankMessage ∧
      rankMessage.format rankContext ≠ .error .poundOutsidePlural ∧
      rankMessage.compile Locale.english ≠ .error .poundOutsidePlural ∧
      (guestCount 0).minus? 1 = some (guestCount 255) ∧
      (guestCount 255).render? = some "255" ∧
      Node.formatAll rankContext (some { name := "count", value := guestCount 255 }) rankBody =
        Node.formatAll rankContext none (rankBody.map (·.answerPound "255")) ∧
      Node.formatAll rankContext none (rankBody.map (·.answerPound "255")) =
        .ok "255 of # 5th of 255" ∧
      rankMessage.format rankContext = .ok "255 of # 5th of 255" := by
  have parsed : Message.parse 3 rankPattern = .ok rankMessage := by cbv
  obtain ⟨formats, compiles⟩ := Message.pound_answered.1 3 rankPattern rankMessage parsed
  -- The number wraps around in its eight bits.
  have reduces : (guestCount 0).minus? 1 = some (guestCount 255) := rfl
  have counts := Message.pound_answered.2.1 (guestCount 0) (guestCount 255) 1 reduces
  obtain ⟨text, written, answered⟩ := Message.pound_answered.2.2 rankContext
    { name := "count", value := guestCount 255 } rankBody counts
  have decimal : (guestCount 255).render? = some "255" := rfl
  obtain rfl := Option.some.inj (decimal.symm.trans written)
  have formatted : Node.formatAll rankContext none (rankBody.map (·.answerPound "255")) =
      .ok "255 of # 5th of 255" := rfl
  have direct : rankMessage.format rankContext = .ok "255 of # 5th of 255" := rfl
  exact ⟨parsed, formats rankContext, compiles Locale.english, reduces, decimal, answered,
    formatted, direct⟩

end MessagePattern
