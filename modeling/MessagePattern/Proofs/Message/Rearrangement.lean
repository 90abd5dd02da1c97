import Mathlib.Data.List.Nodup
import Mathlib.Data.Option.Basic
import Mathlib.Logic.Relation
import MessagePattern.Proofs.Message.Clauses
import MessagePattern.Proofs.Message.Occurrence

set_option autoImplicit false

namespace MessagePattern

inductive ClausesRearranged {σ : Type} : List (Clause σ Node) -> List (Clause σ Node) -> Prop
  | permute {clauses others : List (Clause σ Node)}
      (distinct : (clauses.map Clause.selector).Nodup) (perm : others.Perm clauses) :
      ClausesRearranged clauses others
  | drop {front rest : List (Clause σ Node)} {clause earlier : Clause σ Node}
      (member : earlier ∈ front) (same : earlier.selector = clause.selector) :
      ClausesRearranged (front ++ clause :: rest) (front ++ rest)

inductive Rearranges : List Node -> List Node -> Prop
  | select {front rest : List Node} {slot : Slot} {clauses others : List (Clause String Node)}
      (changed : ClausesRearranged clauses others) :
      Rearranges (front ++ .select slot clauses :: rest) (front ++ .select slot others :: rest)
  | plural {front rest : List Node} {slot : Slot} {kind : PluralKind} {offset : Int}
      {clauses others : List (Clause Selector Node)} (changed : ClausesRearranged clauses others) :
      Rearranges (front ++ .plural slot kind offset clauses :: rest)
        (front ++ .plural slot kind offset others :: rest)
  | inSelect {front rest : List Node} {slot : Slot} {before after : List (Clause String Node)}
      {selector : String} {body other : List Node} (inside : Rearranges body other) :
      Rearranges (front ++ .select slot (before ++ ⟨selector, body⟩ :: after) :: rest)
        (front ++ .select slot (before ++ ⟨selector, other⟩ :: after) :: rest)
  | inPlural {front rest : List Node} {slot : Slot} {kind : PluralKind} {offset : Int}
      {before after : List (Clause Selector Node)} {selector : Selector} {body other : List Node}
      (inside : Rearranges body other) :
      Rearranges (front ++ .plural slot kind offset (before ++ ⟨selector, body⟩ :: after) :: rest)
        (front ++ .plural slot kind offset (before ++ ⟨selector, other⟩ :: after) :: rest)

def Message.RearrangedTo (message other : Message) : Prop :=
  Relation.ReflTransGen Rearranges message.nodes other.nodes

-- A selector that some clause has is had by a clause of the other list, where the first clauses of
-- each have related bodies. No clause of the other list comes from elsewhere.
structure ChoosesAlike {σ : Type} [BEq σ] (related : List Node -> List Node -> Prop)
    (clauses others : List (Clause σ Node)) : Prop where
  first : ∀ selector clause, clauses.find? (·.selector == selector) = some clause ->
    ∃ other, others.find? (·.selector == selector) = some other ∧ related clause.body other.body
  each : ∀ other ∈ others, ∃ clause ∈ clauses, clause.selector = other.selector ∧
    related clause.body other.body

section Clauses

variable {σ : Type} {clauses others : List (Clause σ Node)} {related : List Node -> List Node -> Prop}

theorem ClausesRearranged.subset (changed : ClausesRearranged clauses others) :
    others ⊆ clauses := by
  cases changed with
  | permute distinct perm => exact perm.subset
  | drop member same => simp

variable [BEq σ]

theorem choosesAlike_inside {before after : List (Clause σ Node)} {selector : σ}
    {body other : List Node} (inside : related body other) (refl : ∀ body, related body body) :
    ChoosesAlike related (before ++ ⟨selector, body⟩ :: after)
      (before ++ ⟨selector, other⟩ :: after) where
  first key clause found := by
    rw [List.find?_append, List.find?_cons] at found ⊢
    cases early : before.find? (·.selector == key) with
    | some earlier =>
      rw [early, Option.some_or, Option.some.injEq] at found
      exact ⟨earlier, rfl, found ▸ refl earlier.body⟩
    | none =>
      rw [early, Option.none_or] at found
      cases isHere : selector == key with
      | true =>
        simp only [isHere, Option.some.injEq] at found
        exact ⟨⟨selector, other⟩, by simp, found ▸ inside⟩
      | false =>
        simp only [isHere] at found
        exact ⟨clause, by simp [found], refl clause.body⟩
  each clause member := by
    rw [List.mem_append, List.mem_cons] at member
    rcases member with early | rfl | late
    · exact ⟨clause, by simp [early], rfl, refl clause.body⟩
    · exact ⟨⟨selector, body⟩, by simp, rfl, inside⟩
    · exact ⟨clause, by simp [late], rfl, refl clause.body⟩

theorem ChoosesAlike.imp {wider : List Node -> List Node -> Prop}
    (alike : ChoosesAlike related clauses others)
    (implies : ∀ clause ∈ clauses, ∀ other, related clause.body other -> wider clause.body other) :
    ChoosesAlike wider clauses others where
  first selector clause found := by
    obtain ⟨other, isFirst, inside⟩ := alike.first selector clause found
    exact ⟨other, isFirst, implies clause (List.mem_of_find?_eq_some found) other.body inside⟩
  each other member := by
    obtain ⟨clause, origin, same, inside⟩ := alike.each other member
    exact ⟨clause, origin, same, implies clause origin other.body inside⟩

theorem ChoosesAlike.find?_eq_none (alike : ChoosesAlike related clauses others) {selector : σ}
    (missing : clauses.find? (·.selector == selector) = none) :
    others.find? (·.selector == selector) = none := by
  rw [List.find?_eq_none] at missing ⊢
  intro other member
  obtain ⟨clause, origin, same, _⟩ := alike.each other member
  exact same ▸ missing clause origin

theorem ChoosesAlike.selectors (alike : ChoosesAlike related clauses others) :
    others.map Clause.selector ⊆ clauses.map Clause.selector := by
  intro selector member
  obtain ⟨other, isOther, rfl⟩ := List.mem_map.mp member
  obtain ⟨clause, origin, same, _⟩ := alike.each other isOther
  exact same ▸ List.mem_map_of_mem origin

theorem ChoosesAlike.map_find? {α : Type} {look : List Node -> α}
    (alike : ChoosesAlike (fun body other => look other = look body) clauses others)
    (selector : σ) :
    (others.find? (·.selector == selector)).map (look ·.body) =
      (clauses.find? (·.selector == selector)).map (look ·.body) := by
  cases found : clauses.find? (·.selector == selector) with
  | none => rw [alike.find?_eq_none found]
  | some clause =>
    obtain ⟨other, isFirst, same⟩ := alike.first selector clause found
    rw [isFirst]
    exact congrArg some same

variable [LawfulBEq σ]

theorem find?_eq_some_iff_of_distinct (distinct : (clauses.map Clause.selector).Nodup)
    {selector : σ} {clause : Clause σ Node} :
    clauses.find? (·.selector == selector) = some clause ↔
      clause ∈ clauses ∧ clause.selector = selector := by
  constructor
  · intro found
    exact ⟨List.mem_of_find?_eq_some found, by simpa using List.find?_some found⟩
  · rintro ⟨member, rfl⟩
    cases found : clauses.find? (·.selector == clause.selector) with
    | none => simpa using List.find?_eq_none.mp found clause member
    | some first =>
      have same : first.selector = clause.selector := by simpa using List.find?_some found
      rw [List.inj_on_of_nodup_map distinct (List.mem_of_find?_eq_some found) member same]

theorem ClausesRearranged.find?_eq (changed : ClausesRearranged clauses others) (selector : σ) :
    others.find? (·.selector == selector) = clauses.find? (·.selector == selector) := by
  cases changed with
  | permute distinct perm =>
    have distinctOthers := (perm.map Clause.selector).nodup_iff.mpr distinct
    ext clause
    rw [find?_eq_some_iff_of_distinct distinctOthers, find?_eq_some_iff_of_distinct distinct,
      perm.mem_iff]
  | @drop front rest clause earlier member same =>
    rw [List.find?_append, List.find?_append, List.find?_cons]
    split
    next isFirst =>
      -- The clause that is left out is not found, since the earlier one is.
      have found : (front.find? (·.selector == selector)).isSome = true :=
        List.find?_isSome.mpr ⟨earlier, member, same ▸ isFirst⟩
      obtain ⟨first, isFound⟩ := Option.isSome_iff_exists.mp found
      rw [isFound, Option.some_or, Option.some_or]
    next => rfl

theorem ClausesRearranged.choosesAlike (changed : ClausesRearranged clauses others)
    (refl : ∀ body, related body body) : ChoosesAlike related clauses others where
  first selector clause found := ⟨clause, by rw [changed.find?_eq, found], refl clause.body⟩
  each other member := ⟨other, changed.subset member, rfl, refl other.body⟩

theorem ChoosesAlike.filter (alike : ChoosesAlike related clauses others) (keep : σ -> Bool) :
    ChoosesAlike related (clauses.filter (keep ·.selector)) (others.filter (keep ·.selector)) where
  first selector clause found := by
    rw [find?_filter_selector] at found ⊢
    by_cases kept : keep selector = true
    next =>
      rw [if_pos kept] at found ⊢
      exact alike.first selector clause found
    next =>
      rw [if_neg kept] at found
      cases found
  each other member := by
    obtain ⟨isOther, kept⟩ := List.mem_filter.mp member
    obtain ⟨clause, origin, same, inside⟩ := alike.each other isOther
    exact ⟨clause, List.mem_filter.mpr ⟨origin, same ▸ kept⟩, same, inside⟩

theorem ChoosesAlike.eq_nil_iff (alike : ChoosesAlike related clauses others) :
    others = [] ↔ clauses = [] := by
  constructor
  · rintro rfl
    cases clauses with
    | nil => rfl
    | cons clause rest =>
      obtain ⟨other, found, _⟩ := alike.first clause.selector clause (by simp)
      cases found
  · rintro rfl
    cases others with
    | nil => rfl
    | cons other rest =>
      obtain ⟨clause, member, _⟩ := alike.each other List.mem_cons_self
      cases member

end Clauses

-- What holds for a body and itself, and is handed on from the clauses of a choice to the body that
-- the choice stands in, holds for a body and the rearranged one.
theorem Rearranges.induction {motive : List Node -> List Node -> Prop}
    (refl : ∀ body, motive body body)
    (select : ∀ front rest slot clauses others, ChoosesAlike motive clauses others ->
      motive (front ++ .select slot clauses :: rest) (front ++ .select slot others :: rest))
    (plural : ∀ front rest slot kind offset clauses others, ChoosesAlike motive clauses others ->
      motive (front ++ .plural slot kind offset clauses :: rest)
        (front ++ .plural slot kind offset others :: rest))
    {body other : List Node} (rearranges : Rearranges body other) : motive body other := by
  induction rearranges with
  | select changed => exact select _ _ _ _ _ (changed.choosesAlike refl)
  | plural changed => exact plural _ _ _ _ _ _ _ (changed.choosesAlike refl)
  | inSelect _ ih => exact select _ _ _ _ _ (choosesAlike_inside ih refl)
  | inPlural _ ih => exact plural _ _ _ _ _ _ _ (choosesAlike_inside ih refl)

theorem Rearranges.induction_where {holds : Node -> Prop} {motive : List Node -> List Node -> Prop}
    (refl : ∀ body, motive body body)
    (select : ∀ front rest slot clauses others, holds (.select slot clauses) ->
      ChoosesAlike motive clauses others ->
        motive (front ++ .select slot clauses :: rest) (front ++ .select slot others :: rest))
    (plural : ∀ front rest slot kind offset clauses others,
      holds (.plural slot kind offset clauses) -> ChoosesAlike motive clauses others ->
        motive (front ++ .plural slot kind offset clauses :: rest)
          (front ++ .plural slot kind offset others :: rest))
    {body other : List Node} (rearranges : Rearranges body other) :
    (∀ node ∈ Node.occurringAll body, holds node) -> motive body other := by
  refine Rearranges.induction
    (motive := fun body other => (∀ node ∈ Node.occurringAll body, holds node) -> motive body other)
    ?refl ?select ?plural rearranges
  case refl => exact fun body _ => refl body
  case select =>
    intro front rest slot clauses others alike everywhere
    obtain ⟨-, here, -⟩ := Node.forall_occurringAll_middle.mp everywhere
    obtain ⟨self, inClauses⟩ := Node.forall_occurring_select.mp here
    exact select front rest slot clauses others self
      (alike.imp fun clause member _ inside => inside (inClauses clause member))
  case plural =>
    intro front rest slot kind offset clauses others alike everywhere
    obtain ⟨-, here, -⟩ := Node.forall_occurringAll_middle.mp everywhere
    obtain ⟨self, inClauses⟩ := Node.forall_occurring_plural.mp here
    exact plural front rest slot kind offset clauses others self
      (alike.imp fun clause member _ inside => inside (inClauses clause member))

theorem Rearranges.forall_occurring {holds : Node -> Prop}
    (select : ∀ slot clauses others, others.map Clause.selector ⊆ clauses.map Clause.selector ->
      holds (.select slot clauses) -> holds (.select slot others))
    (plural : ∀ slot kind offset clauses others,
      others.map Clause.selector ⊆ clauses.map Clause.selector ->
        holds (.plural slot kind offset clauses) -> holds (.plural slot kind offset others))
    {body other : List Node} (rearranges : Rearranges body other) :
    (∀ node ∈ Node.occurringAll body, holds node) ->
      ∀ node ∈ Node.occurringAll other, holds node := by
  refine Rearranges.induction
    (motive := fun body other => (∀ node ∈ Node.occurringAll body, holds node) ->
      ∀ node ∈ Node.occurringAll other, holds node) ?refl ?select ?plural rearranges
  case refl => exact fun body => id
  case select =>
    intro front rest slot clauses others alike inBody
    obtain ⟨inFront, here, inRest⟩ := Node.forall_occurringAll_middle.mp inBody
    obtain ⟨self, inClauses⟩ := Node.forall_occurring_select.mp here
    refine Node.forall_occurringAll_middle.mpr ⟨inFront, ?_, inRest⟩
    refine Node.forall_occurring_select.mpr ⟨select slot clauses others alike.selectors self, ?_⟩
    intro other member
    obtain ⟨clause, origin, _, inside⟩ := alike.each other member
    exact inside (inClauses clause origin)
  case plural =>
    intro front rest slot kind offset clauses others alike inBody
    obtain ⟨inFront, here, inRest⟩ := Node.forall_occurringAll_middle.mp inBody
    obtain ⟨self, inClauses⟩ := Node.forall_occurring_plural.mp here
    refine Node.forall_occurringAll_middle.mpr ⟨inFront, ?_, inRest⟩
    refine Node.forall_occurring_plural.mpr
      ⟨plural slot kind offset clauses others alike.selectors self, ?_⟩
    intro other member
    obtain ⟨clause, origin, _, inside⟩ := alike.each other member
    exact inside (inClauses clause origin)

-- The values that no two exact selectors name.
inductive Value.Exact : Value -> Prop
  | integer (fixed : FixedInteger) : Exact (.number (.integer fixed))
  | truth (holds : Bool) : Exact (.truth holds)
  | instant (moment : Instant) : Exact (.instant moment)

-- Whether a plural, if its argument is bound at all, finds a value that no two exact selectors
-- name.
def Node.CountsExactly (bindings : Bindings) : Node -> Prop
  | .plural slot _ _ _ => ∀ value, bindings.get? slot.key = some value -> value.Exact
  | _ => True

theorem Rearranges.countsExactly {bindings : Bindings} {body other : List Node}
    (rearranges : Rearranges body other)
    (counted : ∀ node ∈ Node.occurringAll body, node.CountsExactly bindings) :
    ∀ node ∈ Node.occurringAll other, node.CountsExactly bindings :=
  rearranges.forall_occurring (fun _ _ _ _ _ => trivial) (fun _ _ _ _ _ _ self => self) counted

theorem Selector.names_integer (fixed : FixedInteger) (selector : Selector) :
    selector.names (.number (.integer fixed)) = (selector == .exactly fixed.value) := by
  cases selector with
  | keyword word => rfl
  | exactly whole =>
    rw [Bool.eq_iff_iff]
    simpa [Selector.names, Selector.number?, Value.equals?, Number.equals] using eq_comm

section Formatting

variable {context : FormatContext} {number : Option PoundNumber}

theorem format_select_rearranged {slot : Slot} {clauses others : List (Clause String Node)}
    (alike : ChoosesAlike (fun body other => ∀ number,
      Node.formatAll context number other = Node.formatAll context number body) clauses others) :
    (Node.select slot others).format context number =
      (Node.select slot clauses).format context number := by
  have found := (alike.imp fun _ _ _ same => same none).map_find?
  simp only [Node.format, formatSelect_eq, found]

theorem format_plural_rearranged {slot : Slot} {kind : PluralKind} {offset : Int}
    {clauses others : List (Clause Selector Node)}
    (counted : (Node.plural slot kind offset clauses).CountsExactly context.bindings)
    (alike : ChoosesAlike (fun body other => ∀ number,
      Node.formatAll context number other = Node.formatAll context number body) clauses others) :
    (Node.plural slot kind offset others).format context number =
      (Node.plural slot kind offset clauses).format context number := by
  rw [Node.format, Node.format, FormatContext.resolve]
  cases bound : context.bindings.get? slot.key with
  | none => rfl
  | some value =>
    cases counted value bound with
    | integer fixed =>
      have found (reduced : PoundNumber) :=
        (alike.imp fun _ _ _ same => same (some reduced)).map_find?
      simp only [ok_bind, formatPlural_eq, Selector.names_integer, found]
    | truth | instant => rfl

theorem formatAll_middle (front rest : List Node) {node other : Node}
    (same : other.format context number = node.format context number) :
    Node.formatAll context number (front ++ other :: rest) =
      Node.formatAll context number (front ++ node :: rest) := by
  rw [formatAll_append, formatAll_append, Node.formatAll, Node.formatAll, same]

theorem formatAll_rearranged {body other : List Node} (rearranges : Rearranges body other)
    (counted : ∀ node ∈ Node.occurringAll body, node.CountsExactly context.bindings) :
    ∀ number, Node.formatAll context number other = Node.formatAll context number body := by
  refine Rearranges.induction_where
    (motive := fun body other =>
      ∀ number, Node.formatAll context number other = Node.formatAll context number body)
    ?refl ?select ?plural rearranges counted
  case refl => exact fun body number => rfl
  case select =>
    intro front rest slot clauses others _ alike number
    exact formatAll_middle front rest (format_select_rearranged alike)
  case plural =>
    intro front rest slot kind offset clauses others self alike number
    exact formatAll_middle front rest (format_plural_rearranged self alike)

theorem formatAll_of_rearrangements {body other : List Node}
    (rearranges : Relation.ReflTransGen Rearranges body other)
    (counted : ∀ node ∈ Node.occurringAll body, node.CountsExactly context.bindings) :
    Node.formatAll context number other = Node.formatAll context number body := by
  induction rearranges using Relation.ReflTransGen.head_induction_on with
  | refl => rfl
  | head step _ ih => rw [ih (step.countsExactly counted), formatAll_rearranged step counted]

end Formatting

end MessagePattern
