import Mathlib.Data.List.Infix
import MessagePattern.Program.Html
import MessagePattern.Proofs.Program.Segments

set_option autoImplicit false

namespace MessagePattern

def entities : List (Char × String) :=
  [('&', "&amp;"), ('<', "&lt;"), ('>', "&gt;"), ('"', "&#34;"), ('\'', "&#39;")]

def isMarkup (character : Char) : Bool :=
  character == '<' || character == '>' || character == '"' || character == '\''

-- Puts the characters back that entities stand for, from left to right. An ampersand that begins no
-- entity stays.
def readEntities : List Char -> List Char
  | '&' :: 'a' :: 'm' :: 'p' :: ';' :: rest => '&' :: readEntities rest
  | '&' :: 'l' :: 't' :: ';' :: rest => '<' :: readEntities rest
  | '&' :: 'g' :: 't' :: ';' :: rest => '>' :: readEntities rest
  | '&' :: '#' :: '3' :: '4' :: ';' :: rest => '"' :: readEntities rest
  | '&' :: '#' :: '3' :: '9' :: ';' :: rest => '\'' :: readEntities rest
  | character :: rest => character :: readEntities rest
  | [] => []

def BeginsEntities (text : List Char) : Prop :=
  ∀ after, '&' :: after <:+ text ->
    ∃ character entity, (character, entity) ∈ entities ∧ entity.toList <+: '&' :: after

section Entities

variable {character : Char} {entity : String} {rest : List Char}

theorem readEntities_cons (plain : character ≠ '&') :
    readEntities (character :: rest) = character :: readEntities rest := by
  rw [readEntities]
  all_goals
    intros
    simp_all

theorem readEntities_entity (listed : (character, entity) ∈ entities) :
    readEntities (entity.toList ++ rest) = character :: readEntities rest := by
  simp only [entities, List.mem_cons, List.not_mem_nil, or_false, Prod.mk.injEq] at listed
  rcases listed with ⟨rfl, rfl⟩ | ⟨rfl, rfl⟩ | ⟨rfl, rfl⟩ | ⟨rfl, rfl⟩ | ⟨rfl, rfl⟩ <;> rfl

theorem entity_spelling (listed : (character, entity) ∈ entities) :
    ∃ name, entity.toList = '&' :: name ∧ '&' ∉ name ∧ entity.toList.filter isMarkup = [] := by
  simp only [entities, List.mem_cons, List.not_mem_nil, or_false, Prod.mk.injEq] at listed
  rcases listed with ⟨rfl, rfl⟩ | ⟨rfl, rfl⟩ | ⟨rfl, rfl⟩ | ⟨rfl, rfl⟩ | ⟨rfl, rfl⟩ <;>
    exact ⟨_, rfl, by decide, by decide⟩

theorem escapeCharacter_cases (character : Char) :
    (∃ entity, (character, entity) ∈ entities ∧ escapeCharacter character = entity.toList) ∨
      escapeCharacter character = [character] ∧ character ≠ '&' ∧ isMarkup character = false := by
  unfold escapeCharacter
  cases listed : htmlEntity? character with
  | some entity =>
    left
    refine ⟨entity, ?_, rfl⟩
    unfold htmlEntity? at listed
    split at listed <;> simp_all [entities]
  | none =>
    right
    unfold htmlEntity? at listed
    split at listed <;> simp_all [isMarkup]

theorem beginsEntities_nil : BeginsEntities [] := by
  simp [BeginsEntities]

theorem beginsEntities_cons (plain : character ≠ '&') (begins : BeginsEntities rest) :
    BeginsEntities (character :: rest) := by
  intro after suffix
  rcases List.suffix_cons_iff.mp suffix with whole | inRest
  · exact absurd (List.cons.inj whole).1.symm plain
  · exact begins after inRest

end Entities

-- Whether HTML can stand before any other for a text. It has the markup of some literal content,
-- and reading its entities gives the text.
structure Spells (html text content : List Char) : Prop where
  markup : html.filter isMarkup = content.filter isMarkup
  begins : ∀ rest, BeginsEntities rest -> BeginsEntities (html ++ rest)
  reads : ∀ rest, readEntities (html ++ rest) = text ++ readEntities rest

namespace Spells

variable {html text content moreHtml moreText moreContent : List Char}

theorem nil : Spells [] [] [] :=
  ⟨rfl, fun _ begins => begins, fun _ => rfl⟩

theorem append (first : Spells html text content) (second : Spells moreHtml moreText moreContent) :
    Spells (html ++ moreHtml) (text ++ moreText) (content ++ moreContent) where
  markup := by rw [List.filter_append, List.filter_append, first.markup, second.markup]
  begins rest beginsRest := by
    rw [List.append_assoc]
    exact first.begins _ (second.begins rest beginsRest)
  reads rest := by rw [List.append_assoc, first.reads, second.reads, List.append_assoc]

theorem character {character : Char} (plain : character ≠ '&') :
    Spells [character] [character] [character] :=
  ⟨rfl, fun _ begins => beginsEntities_cons plain begins, fun _ => readEntities_cons plain⟩

theorem literal (plain : '&' ∉ content) : Spells content content content := by
  induction content with
  | nil => exact .nil
  | cons character rest ih =>
    have here : character ≠ '&' := (List.ne_of_not_mem_cons plain).symm
    exact (Spells.character here).append (ih (List.not_mem_of_not_mem_cons plain))

theorem entity {character : Char} {entity : String} (listed : (character, entity) ∈ entities) :
    Spells entity.toList [character] [] := by
  obtain ⟨name, spelling, plain, noMarkup⟩ := entity_spelling listed
  refine ⟨noMarkup, fun rest begins after suffix => ?_, fun rest => readEntities_entity listed⟩
  rw [spelling, List.cons_append, List.suffix_cons_iff] at suffix
  -- The only ampersand of an entity is the one that begins it.
  rcases suffix with whole | inRest
  · refine ⟨character, entity, listed, ?_⟩
    rw [whole, ← List.cons_append, ← spelling]
    exact List.prefix_append entity.toList rest
  · exact (Spells.literal plain).begins rest begins after inRest

theorem escape (text : List Char) : Spells (text.flatMap escapeCharacter) text [] := by
  induction text with
  | nil => exact .nil
  | cons character rest ih =>
    rw [List.flatMap_cons]
    have here : Spells (escapeCharacter character) [character] [] := by
      rcases escapeCharacter_cases character with ⟨entity, listed, escaped⟩ |
        ⟨escaped, plain, notMarkup⟩
      · exact escaped ▸ .entity listed
      · have alone := Spells.character plain
        rw [escaped]
        exact ⟨by simp [notMarkup], alone.begins, alone.reads⟩
    exact here.append ih

theorem beginsEntities (spells : Spells html text content) : BeginsEntities html := by
  simpa using spells.begins [] beginsEntities_nil

theorem readEntities_eq (spells : Spells html text content) : readEntities html = text := by
  simpa [readEntities] using spells.reads []

end Spells

theorem toList_escapeHtml (text : String) :
    (escapeHtml text).toList = text.toList.flatMap escapeCharacter := by
  simp [escapeHtml]

theorem escapeHtml_injective : Function.Injective escapeHtml := by
  intro first second same
  have read (text : String) : readEntities (escapeHtml text).toList = text.toList :=
    toList_escapeHtml text ▸ (Spells.escape text.toList).readEntities_eq
  apply String.toList_injective
  rw [← read first, same, read second]

example : escapeHtml "&lt;i> \"Tom\" & 'Jerry'" =
    "&amp;lt;i&gt; &#34;Tom&#34; &amp; &#39;Jerry&#39;" := by
  decide

section

variable {environment : Environment} {bindings : Bindings}

def Instruction.content : Instruction -> List Char
  | .text content => content.toList
  | _ => []

theorem spells_of_writes {instruction : Instruction} {segment : Segment}
    (writes : instruction.Writes environment bindings segment)
    (plain : '&' ∉ instruction.content) :
    Spells (segment.write escapeHtml).toList (segment.write id).toList instruction.content := by
  cases writes with
  | text content => exact .literal plain
  | field | call =>
    rw [Segment.write, toList_escapeHtml]
    exact .escape _

theorem spells_writeAll {instructions : List Instruction} {segments : List Segment}
    (writes : List.Forall₂ (Instruction.Writes environment bindings) instructions segments)
    (plain : ∀ instruction ∈ instructions, '&' ∉ instruction.content) :
    Spells (writeAll escapeHtml segments).toList (writeAll id segments).toList
      (instructions.flatMap Instruction.content) := by
  induction writes with
  | nil => exact .nil
  | cons here _ ih =>
    obtain ⟨plainHere, plainRest⟩ := List.forall_mem_cons.mp plain
    rw [writeAll, writeAll, String.toList_append, String.toList_append, List.flatMap_cons]
    exact (spells_of_writes here plainHere).append (ih plainRest)

end

def Program.literals (program : Program) (environment : Environment) (bindings : Bindings) :
    List Char :=
  (program.path environment bindings).flatMap Instruction.content

theorem Program.execute_escapeHtml :
    Function.Injective escapeHtml ∧
    ∀ (program : Program) (environment : Environment) (bindings : Bindings),
      Everywhere (fun instruction => '&' ∉ instruction.content) program.instructions ->
      ((∃ html, program.execute { bindings, environment, escape := escapeHtml } = .ok html) ↔
        ∃ text, program.execute { bindings, environment, escape := id } = .ok text) ∧
      ∀ html text,
        program.execute { bindings, environment, escape := escapeHtml } = .ok html ->
        program.execute { bindings, environment, escape := id } = .ok text ->
        html.toList.filter isMarkup =
          (program.literals environment bindings).filter isMarkup ∧
        BeginsEntities html.toList ∧ readEntities html.toList = text.toList := by
  refine ⟨escapeHtml_injective, fun program environment bindings plain => ⟨?_, ?_⟩⟩
  · constructor
    · rintro ⟨html, executed⟩
      exact executeAll_escape id program.instructions html executed
    · rintro ⟨text, executed⟩
      exact executeAll_escape escapeHtml program.instructions text executed
  · intro html text wroteHtml wroteText
    have outcome : Segmented environment bindings program.instructions :=
      segmented program.instructions
    rcases outcome with ⟨error, fails⟩ | ⟨segments, writes, runs⟩
    · cases wroteText.symm.trans (fails id)
    cases wroteHtml.symm.trans (runs escapeHtml)
    cases wroteText.symm.trans (runs id)
    have spells := spells_writeAll writes plain.onPath
    exact ⟨spells.markup, spells.beginsEntities, spells.readEntities_eq⟩

-- `<a title="{title}">{kind, select, new {<b>new</b>} other {{title}}}</a>`.
def cardMessage : Message :=
  { nodes := [
      .text "<a title=\"", .argument (.name "title"), .text "\">",
      .select (.name "kind") [
        { selector := "new", body := [.text "<b>new</b>"] },
        { selector := "other", body := [.argument (.name "title")] }],
      .text "</a>"] }

theorem Program.execute_escapeHtml_card :
    cardMessage.compile Locale.english = .ok cardProgram ∧
    Everywhere (fun instruction => '&' ∉ instruction.content) cardProgram.instructions ∧
    ∃ html text,
      cardProgram.execute
        { bindings := cardBindings, environment := .standard, escape := escapeHtml } = .ok html ∧
      cardProgram.execute
        { bindings := cardBindings, environment := .standard, escape := id } = .ok text ∧
      html.toList.filter isMarkup =
        (cardProgram.literals .standard cardBindings).filter isMarkup ∧
      BeginsEntities html.toList ∧ readEntities html.toList = text.toList := by
  have plain :
      Everywhere (fun instruction => '&' ∉ instruction.content) cardProgram.instructions := by
    simp [cardProgram, Instruction.content]
  obtain ⟨succeeds, reads⟩ :=
    Program.execute_escapeHtml.2 cardProgram .standard cardBindings plain
  obtain ⟨text, wroteText⟩ : ∃ text, cardProgram.execute
      { bindings := cardBindings, environment := .standard, escape := id } = .ok text := ⟨_, rfl⟩
  obtain ⟨html, wroteHtml⟩ := succeeds.mpr ⟨text, wroteText⟩
  exact ⟨rfl, plain, html, text, wroteHtml, wroteText, reads html text wroteHtml wroteText⟩

end MessagePattern
