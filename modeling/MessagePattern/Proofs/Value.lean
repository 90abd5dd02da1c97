import MessagePattern.Value

set_option autoImplicit false

namespace MessagePattern

theorem minus?_eq_none_iff {value : Value} {offset whole : Int} :
    value.minus? offset = none ↔ value.equals? whole = none := by
  cases value <;> simp [Value.minus?, Value.equals?]

inductive Value.Plain : Value -> Prop
  | number (amount : Number) : Plain (.number amount)
  | text (content : String) : Plain (.text content)
  | truth (holds : Bool) : Plain (.truth holds)

theorem Value.Plain.render? {value : Value} (plain : value.Plain) :
    ∃ text, value.render? = some text := by
  cases plain with
  | number amount => exact ⟨_, rfl⟩
  | text content => exact ⟨_, rfl⟩
  | truth holds => exact ⟨_, rfl⟩

inductive Value.Counts : Value -> Prop
  | number (amount : Number) : Counts (.number amount)
  | text (content : String) : Counts (.text content)

theorem Value.counts_of_minus? {value reduced : Value} {offset : Int}
    (reduces : value.minus? offset = some reduced) : reduced.Counts := by
  cases value with
  | number amount =>
    obtain rfl := Option.some.inj reduces
    exact .number _
  | text content =>
    obtain ⟨float, _, rfl⟩ := Option.map_eq_some_iff.mp reduces
    exact .text _
  | truth holds => cases reduces
  | instant moment => cases reduces

theorem Value.Counts.plain {value : Value} (counts : value.Counts) : value.Plain := by
  cases counts with
  | number amount => exact .number amount
  | text content => exact .text content

theorem Value.minus?_zero (offset : Int) :
    ∃ integer, Value.zero.minus? offset = some (.number (.integer integer)) :=
  ⟨_, rfl⟩

end MessagePattern
