import MessagePattern.Formatter
import MessagePattern.Proofs.Message.Failure
import MessagePattern.Proofs.Message.Suggestion
import MessagePattern.Proofs.Pattern.Print

set_option autoImplicit false

namespace MessagePattern

theorem IsWord.ne_repr {name : String} (isWord : IsWord name.toList) (number : Nat) :
    name ≠ number.repr := by
  rintro rfl
  rw [Nat.toList_repr] at isWord
  cases digits : Nat.toDigits 10 number with
  | nil => exact Nat.toDigits_ne_nil digits
  | cons first rest =>
    rw [digits] at isWord
    have notDigit := not_isDigit_of_isWordStart isWord.1
    have digit : first.isDigit = true := isDigits_toDigits number first (by simp [digits])
    rw [digit] at notDigit
    cases notDigit

theorem Slot.WellFormed.key_inj {slot partner : Slot} (wellFormed : slot.WellFormed)
    (partnerWellFormed : partner.WellFormed) : slot.key = partner.key ↔ slot = partner := by
  cases slot with
  | name text =>
    cases partner with
    | name other => simp [Slot.key]
    | index number =>
      have isWord : IsWord text.toList := wellFormed
      simpa [Slot.key] using isWord.ne_repr number
  | index number =>
    cases partner with
    | name text =>
      have isWord : IsWord text.toList := partnerWellFormed
      simpa [Slot.key] using (isWord.ne_repr number).symm
    | index other => simp [Slot.key, Nat.repr_inj]

namespace Bindings

theorem ofValues_append_singleton (values : List Value) (last : Value) :
    ofValues (values ++ [last]) = (ofValues values).insert values.length.repr last := by
  simp only [ofValues, ofList, List.zipIdx_append, List.map_append, List.foldl_append]
  simp

theorem get?_ofValues_repr (values : List Value) (number : Nat) :
    (ofValues values).get? number.repr = values[number]? := by
  -- What is given last is bound last, so the induction takes values off the end.
  induction values using List.reverseRecOn with
  | nil => rfl
  | append_singleton values last ih =>
    rw [ofValues_append_singleton, get?_insert, ih]
    simp only [Nat.repr_inj]
    rcases Nat.lt_trichotomy number values.length with before | rfl | behind
    · rw [if_neg (Nat.ne_of_lt before), List.getElem?_append_left before]
    · rw [if_pos rfl, List.getElem?_concat_length]
    · have past : (values ++ [last]).length ≤ number := by
        rw [List.length_append, List.length_singleton]
        omega
      rw [if_neg (Nat.ne_of_gt behind), List.getElem?_eq_none (Nat.le_of_lt behind),
        List.getElem?_eq_none past]

theorem get?_ofValues_eq_none (values : List Value) {key : String}
    (noPlace : ∀ number : Nat, key ≠ number.repr) : (ofValues values).get? key = none := by
  induction values using List.reverseRecOn with
  | nil => rfl
  | append_singleton values last ih =>
    rw [ofValues_append_singleton, get?_insert, if_neg (noPlace values.length), ih]

def placeKeys (count : Nat) : List String :=
  (List.range count).map Nat.repr

theorem names_ofValues_perm (values : List Value) :
    (ofValues values).names.Perm (placeKeys values.length) := by
  have distinct : (placeKeys values.length).Nodup :=
    List.nodup_range.map fun _ _ => Nat.repr_inj.mp
  refine (List.perm_ext_iff_of_nodup (ofValues values).distinct distinct).mpr fun key => ?_
  change key ∈ (ofValues values).names ↔ key ∈ placeKeys values.length
  rw [mem_names_iff]
  by_cases place : ∃ number : Nat, key = number.repr
  next =>
    obtain ⟨number, rfl⟩ := place
    simp [get?_ofValues_repr, placeKeys, Nat.repr_inj]
  next =>
    have noPlace := not_exists.mp place
    simp [get?_ofValues_eq_none values noPlace, placeKeys, Ne.symm (noPlace _)]

end Bindings

def Slot.value? (values : List Value) : Slot -> Option Value
  | .name _ => none
  | .index number => values[number]?

theorem Slot.WellFormed.get?_ofValues {slot : Slot} (wellFormed : slot.WellFormed)
    (values : List Value) : (Bindings.ofValues values).get? slot.key = slot.value? values := by
  cases slot with
  | name text =>
    have isWord : IsWord text.toList := wellFormed
    exact Bindings.get?_ofValues_eq_none values isWord.ne_repr
  | index number => exact Bindings.get?_ofValues_repr values number

def Message.slots (message : Message) : List Slot :=
  message.occurring.filterMap Node.slot?

theorem Message.SpelledBy.slots_wellFormed {message : Message} {pattern : String}
    (spelled : message.SpelledBy pattern) : ∀ slot ∈ message.slots, slot.WellFormed := by
  intro slot member
  obtain ⟨node, occurs, reads⟩ := List.mem_filterMap.mp member
  exact spelled.slot_wellFormed occurs reads

-- A key that is unknown among as many values given in order. Keys of places may be suggested for it.
def FormatError.unfilled (count : Nat) (key : String) : FormatError :=
  .unknownArgument key (suggestions key (Bindings.placeKeys count))

theorem resolve_ofValues {context : FormatContext} {values : List Value} {slot : Slot}
    (given : context.bindings = .ofValues values) (wellFormed : slot.WellFormed) :
    context.resolve slot =
      match slot.value? values with
      | some value => .ok value
      | none => .error (.unfilled values.length slot.key) := by
  rw [FormatContext.resolve, given, wellFormed.get?_ofValues,
    suggestions_perm slot.key (Bindings.names_ofValues_perm values)]
  cases slot.value? values <;> rfl

def Slot.bareMessage (slot : Slot) : Message :=
  { nodes := [.text "", .argument slot, .text ""] }

theorem Slot.toList_key (slot : Slot) : slot.key.toList = slot.token.print := by
  cases slot with
  | name text => rfl
  | index number => exact Nat.toList_repr

theorem Slot.WellFormed.parse_bare {slot : Slot} {limit : Nat} (wellFormed : slot.WellFormed)
    (room : limit ≠ 0) :
    Message.parse limit ("\x7b" ++ slot.key ++ "\x7d") = .ok slot.bareMessage := by
  refine Message.parse_of_spelled ?_ (Nat.one_le_iff_ne_zero.mpr room)
  have tokens : Lexemes [slot.token, .closeBrace] (printTokens [slot.token, .closeBrace]) :=
    lexemes_printTokens (printable_slot wellFormed (by simp [Token.Printable]))
  have spelled : (Phrase.body false slot.bareMessage.nodes).Spelled
      ([] ++ '{' :: (printTokens [slot.token, .closeBrace] ++ [])) :=
    .argument .nil (.bare tokens) (.text .nil)
  rw [Message.SpelledBy, String.toList_append, String.toList_append, slot.toList_key]
  simpa [printTokens, Token.print] using spelled

theorem Slot.format_bare (context : FormatContext) (slot : Slot) :
    slot.bareMessage.format context = context.print slot := by
  cases printed : context.print slot <;>
    simp [bareMessage, Message.format, Node.formatAll, Node.format, printed]

namespace Formatter

def given (formatter : Formatter) (values : List Value) : FormatContext :=
  { bindings := .ofValues values, locale := formatter.locale, environment := formatter.environment }

theorem formatValues_of_parse {formatter : Formatter} {pattern : String} {message : Message}
    (parsed : formatter.parse pattern = .ok message) (values : List Value) :
    formatter.formatValues pattern values = message.format (formatter.given values) := by
  rw [formatValues, format, parsed]
  rfl

theorem formatValues_bare (formatter : Formatter) (values : List Value) (slot : Slot)
    (wellFormed : slot.WellFormed) :
    formatter.formatValues ("\x7b" ++ slot.key ++ "\x7d") values =
      if formatter.maxDepth = 0 then
        .error (.parse { cause := .nestingTooDeep 0, position := .start })
      else
        match slot.value? values with
        | some value => printValue slot.key value
        | none => .error (.unfilled values.length slot.key) := by
  split
  next closed =>
    rw [formatValues, format, parse, closed, Message.parse_zero]
    rfl
  next room =>
    have given : (formatter.given values).bindings = .ofValues values := rfl
    rw [formatValues_of_parse (wellFormed.parse_bare room), Slot.format_bare, FormatContext.print,
      resolve_ofValues given wellFormed]
    cases slot.value? values <;> rfl

-- Only a formatter that is set to open no body, and so reads no pattern at all, finds nothing here.
theorem slots_apart (formatter : Formatter) (values : List Value) :
    (∀ number ≤ Slot.maxIndex,
      formatter.formatValues ("\x7b" ++ number.repr ++ "\x7d") values =
        if formatter.maxDepth = 0 then
          .error (.parse { cause := .nestingTooDeep 0, position := .start })
        else
          match values[number]? with
          | some value => printValue number.repr value
          | none => .error (.unfilled values.length number.repr)) ∧
    ∀ pattern message, formatter.parse pattern = .ok message ->
      (∀ slot ∈ message.slots, ∀ partner ∈ message.slots,
        (slot.key = partner.key ↔
          (∃ name, slot = .name name ∧ partner = .name name) ∨
            ∃ number, slot = .index number ∧ partner = .index number)) ∧
      (∀ name, .name name ∈ message.slots ->
        (formatter.given values).resolve (.name name) = .error (.unfilled values.length name)) ∧
      ∀ node ∈ message.nodes, ∀ name, node.slot? = some (.name name) ->
        ∀ text, formatter.formatValues pattern values ≠ .ok text := by
  refine ⟨fun number inRange => ?_, fun pattern message parsed => ?_⟩
  · exact formatter.formatValues_bare values (.index number) inRange
  have wellFormed := (Message.spelled_of_parse parsed).1.slots_wellFormed
  have unnamed {name : String} (occurs : .name name ∈ message.slots) :
      (formatter.given values).resolve (.name name) = .error (.unfilled values.length name) :=
    resolve_ofValues rfl (wellFormed _ occurs)
  refine ⟨?keys, fun name => unnamed, ?run⟩
  case keys =>
    intro slot occurs partner partnerOccurs
    rw [(wellFormed slot occurs).key_inj (wellFormed partner partnerOccurs)]
    cases slot <;> cases partner <;> simp [eq_comm]
  case run =>
    intro node member name reads text
    have occurs : .name name ∈ message.slots :=
      List.mem_filterMap.mpr
        ⟨node, mem_occurringAll.mpr ⟨node, member, node.mem_occurring_self⟩, reads⟩
    rw [formatValues_of_parse parsed]
    exact formatAll_ne_ok member (Node.format_of_unresolved reads (unnamed occurs)) text

-- `{_1}{1, select, other {{10}}}`.
def underscoredPattern : String :=
  "\x7b_1\x7d\x7b1, select, other \x7b\x7b10\x7d\x7d\x7d"

def underscoredMessage : Message :=
  { nodes := [
      .text "",
      .argument (.name "_1"),
      .text "",
      .select (.index 1) [
        { selector := "other", body := [.text "", .argument (.index 10), .text ""] }],
      .text ""] }

def pairOfGuests : List Value :=
  [.text "Ada", .text "Bob"]

theorem slots_apart_underscored :
    ({} : Formatter).formatValues "\x7b1\x7d" pairOfGuests = .ok "Bob" ∧
      ({} : Formatter).formatValues "\x7b18446744073709551615\x7d" pairOfGuests =
        .error (.unknownArgument "18446744073709551615" []) ∧
      ({} : Formatter).parse underscoredPattern = .ok underscoredMessage ∧
      underscoredMessage.slots = [.name "_1", .index 1, .index 10] ∧
      (Slot.name "_1").key ≠ (Slot.index 1).key ∧
      (({} : Formatter).given pairOfGuests).resolve (.name "_1") =
        .error (.unknownArgument "_1" ["1"]) ∧
      ∀ text, ({} : Formatter).formatValues underscoredPattern pairOfGuests ≠ .ok text := by
  have parsed : ({} : Formatter).parse underscoredPattern = .ok underscoredMessage := by cbv
  have slots : underscoredMessage.slots = [.name "_1", .index 1, .index 10] := rfl
  have likeLargest : suggestions "18446744073709551615" (Bindings.placeKeys 2) = [] :=
    @suggestions_of_sorted _ _ [] (by decide +kernel) (by decide +kernel)
  have likeName : suggestions "_1" (Bindings.placeKeys 2) = ["1"] :=
    @suggestions_of_sorted _ _ [⟨1, "1"⟩] (by decide +kernel) (by decide +kernel)
  obtain ⟨filled, read⟩ := slots_apart {} pairOfGuests
  obtain ⟨keys, unnamed, run⟩ := read underscoredPattern underscoredMessage parsed
  have one := filled 1 (by decide)
  have largest := filled Slot.maxIndex (Nat.le_refl _)
  have named : .name "_1" ∈ underscoredMessage.slots := by simp [slots]
  have placed : .index 1 ∈ underscoredMessage.slots := by simp [slots]
  have different := (keys _ named _ placed).not.mpr (by simp)
  refine ⟨one, largest.trans ?_, parsed, slots, different, (unnamed "_1" named).trans ?_, ?_⟩
  · rw [← likeLargest]
    rfl
  · rw [← likeName]
    rfl
  · exact run (.argument (.name "_1")) (by simp [underscoredMessage]) "_1" rfl

end Formatter

end MessagePattern
