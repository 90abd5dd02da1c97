import MessagePattern.Value

set_option autoImplicit false

namespace MessagePattern

structure Bindings where
  entries : List (String × Value)
  distinct : (entries.map Prod.fst).Nodup

namespace Bindings

def empty : Bindings :=
  { entries := [], distinct := by simp }

def get? (bindings : Bindings) (name : String) : Option Value :=
  bindings.entries.lookup name

def names (bindings : Bindings) : List String :=
  bindings.entries.map Prod.fst

def size (bindings : Bindings) : Nat :=
  bindings.entries.length

def erase (bindings : Bindings) (name : String) : Bindings :=
  { entries := bindings.entries.filter fun entry => entry.1 != name
    distinct := by
      refine List.Nodup.sublist ?_ bindings.distinct
      exact List.Sublist.map Prod.fst List.filter_sublist }

def insert (bindings : Bindings) (name : String) (value : Value) : Bindings :=
  { entries := (name, value) :: (bindings.erase name).entries
    distinct := by
      refine List.nodup_cons.mpr ⟨?_, (bindings.erase name).distinct⟩
      simp [erase] }

@[simp] theorem get?_empty (name : String) : empty.get? name = none := rfl

theorem get?_erase (bindings : Bindings) (erased name : String) :
    (bindings.erase erased).get? name = if name = erased then none else bindings.get? name := by
  unfold get?
  simp only [erase]
  generalize bindings.entries = entries
  induction entries with
  | nil => simp
  | cons entry rest ih =>
    obtain ⟨bound, value⟩ := entry
    by_cases dropped : bound = erased
    · rw [List.filter_cons_of_neg (by simp [dropped]), ih]
      by_cases same : name = erased
      · simp [same]
      · have other : (name == bound) = false := beq_false_of_ne (dropped ▸ same)
        simp [List.lookup_cons, other]
    · rw [List.filter_cons_of_pos (by simp [dropped]), List.lookup_cons, List.lookup_cons, ih]
      by_cases found : name = bound
      · simp [found, dropped]
      · simp [beq_false_of_ne found]

theorem get?_insert (bindings : Bindings) (inserted name : String) (value : Value) :
    (bindings.insert inserted value).get? name =
      if name = inserted then some value else bindings.get? name := by
  have erased := get?_erase bindings inserted name
  unfold get? at erased ⊢
  simp only [insert, List.lookup_cons, erased]
  by_cases same : name = inserted
  · simp [same]
  · simp [same, beq_false_of_ne same]

theorem mem_names_iff (bindings : Bindings) (name : String) :
    name ∈ bindings.names ↔ (bindings.get? name).isSome = true := by
  unfold names get?
  generalize bindings.entries = entries
  induction entries with
  | nil => simp
  | cons entry rest ih =>
    obtain ⟨bound, value⟩ := entry
    rw [List.map_cons, List.mem_cons, ih, List.lookup_cons]
    by_cases found : name = bound
    · simp [found]
    · simp [found, beq_false_of_ne found]

-- The bindings of a list of pairs. A later pair takes the place of an earlier one of its name.
def ofList (pairs : List (String × Value)) : Bindings :=
  pairs.foldl (fun bindings pair => bindings.insert pair.1 pair.2) empty

def ofValues (values : List Value) : Bindings :=
  ofList (values.zipIdx.map fun (value, index) => (index.repr, value))

end Bindings

end MessagePattern
