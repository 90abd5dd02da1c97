import MessagePattern.Proofs.Program.Failure
import MessagePattern.Proofs.Program.Gaps

set_option autoImplicit false

namespace MessagePattern

theorem Host.Blames.ne_formatError {host : Host} {tag field : String} {error : FormatError}
    (blames : host.Blames tag field error) (gap : Gap) : error ≠ gap.formatError := by
  cases gap <;> cases blames <;> exact nofun

section

variable {locale : Locale} {message : Message} {program : Program}

theorem Message.compile_of_complete (complete : ∀ place, message.Live place -> place.Complete) :
    ∃ program, message.compile locale = .ok program := by
  cases compiled : message.compile locale with
  | ok program => exact ⟨program, rfl⟩
  | error error =>
    obtain ⟨place, live, gap, lacks, _⟩ := Message.compileFails_of_compile compiled
    exact absurd lacks ((complete place live).lacks_nothing gap)

theorem Message.format_ne_gap (compiled : message.compile locale = .ok program) (gap : Gap)
    (context : FormatContext) : message.format context ≠ .error gap.formatError := by
  intro failed
  obtain ⟨place, live, fails⟩ := Message.fails_of_format failed
  have complete := Message.complete_of_compile compiled live
  exact complete.lacks_nothing gap (fails.lacks rfl)

theorem Message.execute_ne_gap (compiled : message.compile locale = .ok program) (gap : Gap)
    (host : Host) : program.execute host ≠ .error gap.formatError := by
  intro failed
  obtain ⟨_, _, _, _, blames⟩ := Message.blames_of_execute compiled failed
  exact blames.ne_formatError gap rfl

end

theorem Message.compile_ok_iff_complete (locale : Locale) (message : Message) :
    ((∃ program, message.compile locale = .ok program) ↔
      ∀ place, message.Live place -> place.Complete) ∧
    ∀ program, message.compile locale = .ok program -> ∀ gap : Gap,
      (∀ context, message.format context ≠ .error gap.formatError) ∧
        ∀ host, program.execute host ≠ .error gap.formatError := by
  refine ⟨⟨?_, Message.compile_of_complete⟩, ?_⟩
  · rintro ⟨program, compiled⟩ place live
    exact Message.complete_of_compile compiled live
  · intro program compiled gap
    exact ⟨Message.format_ne_gap compiled gap, Message.execute_ne_gap compiled gap⟩

-- The second clause `other` has a pound in a select that has no such clause, but is dead.
def repeatedOther : Message :=
  { nodes := [
      .plural (.name "count") .cardinal 0 [
        { selector := .keyword "other", body := [.pound] },
        { selector := .exactly 1
          body := [.select (.name "host") [{ selector := "other", body := [.text "Ada"] }]] },
        { selector := .keyword "other"
          body := [.select (.name "host") [{ selector := "nobody", body := [.pound] }]] }]] }

theorem Message.compile_ok_iff_complete_repeatedOther :
    ∃ program, repeatedOther.compile Locale.english = .ok program ∧
      (∀ place, repeatedOther.Live place -> place.Complete) ∧
      ∀ gap : Gap,
        (∀ context, repeatedOther.format context ≠ .error gap.formatError) ∧
          ∀ host, program.execute host ≠ .error gap.formatError := by
  obtain ⟨program, compiled⟩ :
      ∃ program, repeatedOther.compile Locale.english = .ok program := ⟨_, rfl⟩
  obtain ⟨exact, sound⟩ := Message.compile_ok_iff_complete Locale.english repeatedOther
  exact ⟨program, compiled, exact.mp ⟨program, compiled⟩, sound program compiled⟩

end MessagePattern
