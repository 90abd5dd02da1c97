import MessagePattern.Proofs.Program.Display.Tag
import MessagePattern.Proofs.Program.Merge

set_option autoImplicit false

namespace MessagePattern

namespace Display

inductive Reading
  | finished (block : List Instruction)
  | ended (block : List Instruction) (after : Reading)
  | otherwise (block : List Instruction) (after : Reading)
  | continued (block : List Instruction) (condition : Call) (after : Reading)

def Reading.mapBlock (change : List Instruction -> List Instruction) : Reading -> Reading
  | finished block => finished (change block)
  | ended block after => ended (change block) after
  | otherwise block after => otherwise (change block) after
  | continued block condition after => continued (change block) condition after

structure Bodies where
  consequence : List Instruction
  alternative : List Instruction
  after : Reading

-- The bodies of the branch whose first body comes first. All branches that continue it share its
-- end.
def Reading.bodies? : Reading -> Option Bodies
  | finished _ => none
  | ended consequence after => some { consequence, alternative := [], after }
  | otherwise consequence (ended alternative after) => some { consequence, alternative, after }
  | otherwise _ _ => none
  | continued consequence condition later =>
      later.bodies?.map fun inner =>
        { consequence
          alternative := [.ifElse condition inner.consequence inner.alternative]
          after := inner.after }

def readPiece (reading : Reading) : Tag -> Option Reading
  | .field name => some (reading.mapBlock (.field name :: ·))
  | .call callee => some (reading.mapBlock (.call callee :: ·))
  | .opens condition =>
      reading.bodies?.map fun bodies =>
        bodies.after.mapBlock (.ifElse condition bodies.consequence bodies.alternative :: ·)
  | .continues condition => some (.continued [] condition reading)
  | .otherwise => some (.otherwise [] reading)
  | .ends => some (.ended [] reading)

def readPieces : List Piece -> Option Reading
  | [] => some (.finished [])
  | .character letter :: rest =>
      (readPieces rest).map (Reading.mapBlock (joinText (String.singleton letter)))
  | .tag tokens :: rest => do
      let tag <- readTag tokens
      let reading <- readPieces rest
      readPiece reading tag

def readProgram (displayed : String) : Option (List Instruction) :=
  match readPieces (scan displayed.toList) with
  | some (.finished instructions) => some instructions
  | _ => none

end Display

open Display

def Instruction.Legible : Instruction -> Prop
  | .text content => '{' ∉ content.toList
  | .field name => LegibleField name
  | .call callee => LegibleCall callee
  | .ifElse condition _ _ => LegibleCall condition

namespace Display

section Reading

variable {rest : List Char} {reading : Reading}

theorem mapBlock_id (reading : Reading) : reading.mapBlock id = reading := by
  cases reading <;> rfl

theorem mapBlock_mapBlock (first second : List Instruction -> List Instruction)
    (reading : Reading) :
    (reading.mapBlock first).mapBlock second = reading.mapBlock (second ∘ first) := by
  cases reading <;> rfl

theorem readPieces_tag (tag : Tag) (legible : tag.Legible)
    (read : readPieces (scan rest) = some reading) :
    readPieces (scan ((displayTag tag.content).toList ++ rest)) = readPiece reading tag := by
  rw [tag.scan_display legible, readPieces, readTag_tokens, read]
  rfl

theorem joinText_singleton (letter : Char) (letters : List Char) :
    joinText (String.singleton letter) ∘ joinText (String.ofList letters) =
      joinText (String.ofList (letter :: letters)) := by
  funext block
  rw [Function.comp_apply, joinText_joinText]
  congr 1
  rw [← String.toList_inj]
  simp

theorem readPieces_letters {letters : List Char} (noBrace : '{' ∉ letters)
    (read : readPieces (scan rest) = some reading) :
    readPieces (scan (letters ++ rest)) =
      some (reading.mapBlock (joinText (String.ofList letters))) := by
  induction letters with
  | nil =>
    have nothing : joinText (String.ofList []) = id := by
      funext block
      rcases block with _ | ⟨_ | _ | _ | _, _⟩ <;> simp [joinText]
    rw [List.nil_append, read, nothing, mapBlock_id]
  | cons letter letters ih =>
    rw [List.mem_cons, not_or] at noBrace
    rw [List.cons_append, scan_character (Ne.symm noBrace.1), readPieces, ih noBrace.2,
      Option.map_some, mapBlock_mapBlock, joinText_singleton]

def ReadsAll (instructions : List Instruction) : Prop :=
  ∀ rest reading, readPieces (scan rest) = some reading ->
    readPieces (scan ((Instruction.displayAll instructions).toList ++ rest)) =
      some (reading.mapBlock (Instruction.mergeAllOnto · instructions))

def ReadsElse (instructions : List Instruction) : Prop :=
  ∀ rest reading, readPieces (scan rest) = some reading ->
    ∃ later,
      readPieces (scan ((Instruction.displayElse instructions).toList ++
        ((displayTag Tag.ends.content).toList ++ rest))) = some later ∧
      ∀ change, (later.mapBlock change).bodies? = some {
        consequence := change []
        alternative := Instruction.mergeAllOnto [] instructions
        after := reading }

theorem readPieces_ends (read : readPieces (scan rest) = some reading) :
    readPieces (scan ((displayTag Tag.ends.content).toList ++ rest)) =
      some (.ended [] reading) :=
  readPieces_tag .ends trivial read

theorem readsElse_nil : ReadsElse [] := by
  intro rest reading read
  refine ⟨.ended [] reading, ?_, fun change => rfl⟩
  simpa [Instruction.displayElse] using readPieces_ends read

theorem ReadsAll.readsElse {instructions : List Instruction} (reads : ReadsAll instructions)
    (nonempty : instructions ≠ [])
    (others : ∀ condition consequence alternative,
      instructions ≠ [.ifElse condition consequence alternative]) :
    ReadsElse instructions := by
  intro rest reading read
  have shown : Instruction.displayElse instructions =
      displayTag Tag.otherwise.content ++ Instruction.displayAll instructions := by
    obtain ⟨instruction, more, rfl⟩ := List.exists_cons_of_ne_nil nonempty
    rw [Instruction.displayElse, Instruction.displayAll, String.append_assoc]
    · rfl
    · rintro condition consequence alternative rfl rfl
      exact others condition consequence alternative rfl
  have otherwise := readPieces_tag .otherwise trivial (reads _ _ (readPieces_ends read))
  refine ⟨.otherwise [] (.ended (Instruction.mergeAllOnto [] instructions) reading), ?_, ?_⟩
  · rw [shown, String.toList_append, List.append_assoc]
    exact otherwise
  · exact fun change => rfl

variable {condition : Call} {consequence alternative : List Instruction}

theorem displayAll_ifElse :
    Instruction.displayAll [.ifElse condition consequence alternative] =
      displayTag (Tag.opens condition).content ++ (Instruction.displayAll consequence ++
        (Instruction.displayElse alternative ++ displayTag Tag.ends.content)) := by
  simp only [Instruction.displayAll, Instruction.display, String.append_assoc, String.append_empty]
  rfl

theorem displayElse_ifElse :
    Instruction.displayElse [.ifElse condition consequence alternative] =
      displayTag (Tag.continues condition).content ++
        (Instruction.displayAll consequence ++ Instruction.displayElse alternative) := by
  rw [Instruction.displayElse, String.append_assoc]
  rfl

theorem readsAll_ifElse (legible : LegibleCall condition) (inConsequence : ReadsAll consequence)
    (inAlternative : ReadsElse alternative) :
    ReadsAll [.ifElse condition consequence alternative] := by
  intro rest reading read
  obtain ⟨later, laterRead, bodies⟩ := inAlternative rest reading read
  have opened := readPieces_tag (.opens condition) legible (inConsequence _ _ laterRead)
  rw [readPiece, bodies] at opened
  simp only [displayAll_ifElse, String.toList_append, List.append_assoc]
  exact opened

theorem readsElse_ifElse (legible : LegibleCall condition) (inConsequence : ReadsAll consequence)
    (inAlternative : ReadsElse alternative) :
    ReadsElse [.ifElse condition consequence alternative] := by
  intro rest reading read
  obtain ⟨later, laterRead, bodies⟩ := inAlternative rest reading read
  have continued := readPieces_tag (.continues condition) legible (inConsequence _ _ laterRead)
  refine ⟨.continued [] condition (later.mapBlock (Instruction.mergeAllOnto · consequence)), ?_, ?_⟩
  · simp only [displayElse_ifElse, String.toList_append, List.append_assoc]
    exact continued
  · intro change
    rw [Reading.mapBlock, Reading.bodies?, bodies]
    rfl

theorem readsAll_nil : ReadsAll [] := by
  intro rest reading read
  have unchanged : (Instruction.mergeAllOnto · []) = id := rfl
  simpa only [Instruction.displayAll, String.toList_empty, List.nil_append, unchanged, mapBlock_id]
    using read

theorem ReadsAll.cons {instruction : Instruction} {more : List Instruction}
    (here : ReadsAll [instruction]) (later : ReadsAll more) : ReadsAll (instruction :: more) := by
  intro rest reading read
  have both := here _ _ (later rest reading read)
  simp only [Instruction.displayAll, String.append_empty] at both
  rw [Instruction.displayAll, String.toList_append, List.append_assoc, both, mapBlock_mapBlock]
  rfl

theorem readsAll_text {content : String} (noBrace : '{' ∉ content.toList) :
    ReadsAll [.text content] := by
  intro rest reading read
  have letters := readPieces_letters noBrace read
  rw [String.ofList_toList] at letters
  rw [Instruction.displayAll, Instruction.display, Instruction.displayAll, String.append_empty]
  exact letters

theorem readsAll_tag (instruction : Instruction) (tag : Tag) (legible : tag.Legible)
    (shown : instruction.display = displayTag tag.content)
    (puts : ∀ reading, readPiece reading tag =
      some (reading.mapBlock (Instruction.mergeAllOnto · [instruction]))) :
    ReadsAll [instruction] := by
  intro rest reading read
  rw [Instruction.displayAll, shown, Instruction.displayAll, String.append_empty,
    readPieces_tag tag legible read, puts]

theorem reads_of_legible (instructions : List Instruction) :
    Everywhere Instruction.Legible instructions ->
      ReadsAll instructions ∧ ReadsElse instructions := by
  induction instructions using Instruction.induction with
  | nil => exact fun _ => ⟨readsAll_nil, readsElse_nil⟩
  | cons instruction more single ih =>
    intro legible
    obtain ⟨here, later⟩ := everywhere_append.mp (List.singleton_append ▸ legible)
    -- A lone branch is no block of its own where it is an alternative.
    cases more with
    | nil => exact single here
    | cons next more =>
      have reads := (single here).1.cons (ih later).1
      exact ⟨reads, reads.readsElse (by simp) (by simp)⟩
  | text content =>
    intro legible
    have reads := readsAll_text (everywhere_text.mp legible)
    exact ⟨reads, reads.readsElse (by simp) (by simp)⟩
  | field name =>
    intro legible
    have reads := readsAll_tag (.field name) (.field name) (everywhere_field.mp legible) rfl
      fun _ => rfl
    exact ⟨reads, reads.readsElse (by simp) (by simp)⟩
  | call callee =>
    intro legible
    have reads := readsAll_tag (.call callee) (.call callee) (everywhere_call.mp legible) rfl
      fun _ => rfl
    exact ⟨reads, reads.readsElse (by simp) (by simp)⟩
  | ifElse condition consequence alternative inConsequence inAlternative =>
    intro legible
    obtain ⟨here, consequenceLegible, alternativeLegible⟩ := everywhere_ifElse.mp legible
    have consequenceReads := (inConsequence consequenceLegible).1
    have alternativeReads := (inAlternative alternativeLegible).2
    exact ⟨readsAll_ifElse here consequenceReads alternativeReads,
      readsElse_ifElse here consequenceReads alternativeReads⟩

theorem readProgram_display {program : Program}
    (legible : Everywhere Instruction.Legible program.instructions) :
    readProgram program.display = some program.merged := by
  have read := (reads_of_legible program.instructions legible).1 [] (.finished []) rfl
  rw [List.append_nil] at read
  rw [readProgram, Program.display, read]
  rfl

end Reading

end Display

end MessagePattern
