import MessagePattern.Proofs.Pattern.Recognition
import MessagePattern.Proofs.Pattern.WellFormed
import MessagePattern.Proofs.Program.Display.Reader
import MessagePattern.Proofs.Program.Emission

set_option autoImplicit false

namespace MessagePattern

open Display

def Program.CompiledFrom (pattern : String) (program : Program) : Prop :=
  ∃ limit locale message, Message.parse limit pattern = .ok message ∧
    message.compile locale = .ok program

def Instruction.BraceFree : Instruction -> Prop
  | .text content => '{' ∉ content.toList ∧ '}' ∉ content.toList
  | _ => True

section Legible

variable {tag : String} {nodes : List Node} {instruction : Instruction}

theorem Slot.WellFormed.legible {slot : Slot} (wellFormed : slot.WellFormed) :
    LegibleField slot.key := by
  intro _ letter member
  cases slot with
  | index number => exact isRunCharacter_repr_nat number letter member
  | name text =>
    apply isRunCharacter_of_isWordPart
    cases letters : text.toList with
    | nil => simp [Slot.key, letters] at member
    | cons first others =>
      have isWord : IsWord text.toList := wellFormed
      simp only [Slot.key, letters, List.mem_cons] at member isWord
      obtain ⟨start, parts⟩ := isWord
      rcases member with rfl | later
      · exact isWordPart_iff.mpr (.inl start)
      · exact parts letter later

theorem Instruction.From.legible (emitted : instruction.From tag nodes)
    (slots : ∀ node ∈ nodes, ∀ slot, node.slot? = some slot -> LegibleField slot.key)
    (braceFree : instruction.BraceFree) : instruction.Legible := by
  cases emitted with
  | text content => exact braceFree.1
  | field occurs => exact slots _ occurs _ rfl
  | dateTime occurs | pound occurs | select occurs member | plural occurs member =>
    rintro name isOperand
    have named := slots _ occurs _ rfl
    simp only [dateTimeCall, PoundField.call, selectCall, pluralCall, List.mem_cons,
      List.not_mem_nil, reduceCtorEq, Operand.field.injEq, false_or, or_false] at isOperand
    exact isOperand ▸ named

theorem Program.CompiledFrom.legible {program : Program} {pattern : String}
    (compiled : program.CompiledFrom pattern)
    (braceFree : Everywhere Instruction.BraceFree program.instructions) :
    Everywhere Instruction.Legible program.instructions := by
  obtain ⟨limit, locale, message, parsed, compiled⟩ := compiled
  have spelled := (Message.spelled_of_parse parsed).1
  intro top member instruction inside
  refine (Message.from_of_compile compiled top member instruction inside).legible ?_
    (braceFree top member instruction inside)
  intro node occurs slot reads
  exact (spelled.slot_wellFormed occurs reads).legible

end Legible

/-- A compiled program without braces in its texts is read back from its display, with its texts
merged. Programs that are displayed alike have the same instructions, but for how their texts are
cut, and do the same on every host. -/
theorem Program.display_determines {first second : Program} {firstPattern secondPattern : String}
    (firstCompiled : first.CompiledFrom firstPattern)
    (secondCompiled : second.CompiledFrom secondPattern)
    (firstBraceFree : Everywhere Instruction.BraceFree first.instructions)
    (secondBraceFree : Everywhere Instruction.BraceFree second.instructions) :
    readProgram first.display = some first.merged ∧
      (first.display = second.display ->
        first.merged = second.merged ∧ ∀ host, first.execute host = second.execute host) := by
  have firstRead := readProgram_display (firstCompiled.legible firstBraceFree)
  have secondRead := readProgram_display (secondCompiled.legible secondBraceFree)
  refine ⟨firstRead, fun alike => ?_⟩
  have same : first.merged = second.merged := by
    rw [alike, secondRead] at firstRead
    exact (Option.some.inj firstRead).symm
  refine ⟨same, fun host => ?_⟩
  rw [← first.merged_spec.2.2, same, second.merged_spec.2.2]

-- `{x, select, a {1} b {{0}} other {out}}`.
def routePattern : String :=
  "\x7bx, select, a \x7b1\x7d b \x7b\x7b0\x7d\x7d other \x7bout\x7d\x7d"

-- The same with `o{y, select, other {ut}}` for `out`.
def cutRoutePattern : String :=
  "\x7bx, select, a \x7b1\x7d b \x7b\x7b0\x7d\x7d other " ++
    "\x7bo\x7by, select, other \x7but\x7d\x7d\x7d\x7d"

def routeMessage (other : List Node) : Message :=
  { nodes := [
      .text "",
      .select (.name "x") [
        { selector := "a", body := [.text "1"] },
        { selector := "b", body := [.text "", .argument (.index 0), .text ""] },
        { selector := "other", body := other }],
      .text ""] }

def routeProgram (other : List Instruction) : Program :=
  { locale := Locale.english
    instructions := [
      .text "",
      .ifElse (selectCall (.name "x") "a") [.text "1"] [
        .ifElse (selectCall (.name "x") "b") [.text "", .field "0", .text ""] other],
      .text ""] }

def wholeRoute : Program :=
  routeProgram [.text "out"]

def cutRoute : Program :=
  routeProgram [.text "o", .text "ut", .text ""]

theorem wholeRoute_compiled : wholeRoute.CompiledFrom routePattern := by
  refine ⟨64, Locale.english, routeMessage [.text "out"], ?_, rfl⟩
  cbv

theorem cutRoute_compiled : cutRoute.CompiledFrom cutRoutePattern := by
  refine ⟨64, Locale.english, routeMessage [.text "o",
    .select (.name "y") [{ selector := "other", body := [.text "ut"] }], .text ""], ?_, rfl⟩
  cbv

theorem wholeRoute_display : wholeRoute.display = cutRoute.display := by
  simp [Program.display, wholeRoute, cutRoute, routeProgram, Instruction.displayAll,
    Instruction.display, Instruction.displayElse, String.append_assoc]

theorem Program.display_determines_cut :
    wholeRoute.CompiledFrom routePattern ∧ cutRoute.CompiledFrom cutRoutePattern ∧
      Everywhere Instruction.BraceFree wholeRoute.instructions ∧
      Everywhere Instruction.BraceFree cutRoute.instructions ∧
      wholeRoute.display = cutRoute.display ∧
      readProgram cutRoute.display = some [
        .ifElse (selectCall (.name "x") "a") [.text "1"] [
          .ifElse (selectCall (.name "x") "b") [.field "0"] [.text "out"]]] ∧
      wholeRoute.merged = cutRoute.merged := by
  have braceFree : Everywhere Instruction.BraceFree wholeRoute.instructions := by
    simp [wholeRoute, routeProgram, Instruction.BraceFree]
  have cutBraceFree : Everywhere Instruction.BraceFree cutRoute.instructions := by
    simp [cutRoute, routeProgram, Instruction.BraceFree]
  obtain ⟨read, alike⟩ := Program.display_determines wholeRoute_compiled cutRoute_compiled
    braceFree cutBraceFree
  refine ⟨wholeRoute_compiled, cutRoute_compiled, braceFree, cutBraceFree, wholeRoute_display, ?_,
    (alike wholeRoute_display).1⟩
  rw [← wholeRoute_display, read]
  simp [Program.merged, wholeRoute, routeProgram, Instruction.mergeAllOnto, Instruction.mergeOnto,
    joinText]

end MessagePattern
