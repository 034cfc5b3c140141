import LogMarkup.Resolver

/-!
# Arguments by name

Two ways to keep values under names: a list of entries, in which the first entry of a name
counts, and a dictionary, in which the last value stored under a name counts. Lookups ignore the
index of the argument, which only appears in the error about a missing one.

* `lookup_foldl`: what any map finds that was filled in order.
* `Dictionary.lookup_ofEntries`: a dictionary filled in order finds what the list of its entries
  in reverse finds.
-/

namespace LogMarkup

/-- The value of the first entry with a name. -/
def findEntry (entries : List (Text × Value)) (name : Text) : Option Value :=
  (entries.find? (·.1 = name)).map (·.2)

/-- Filled in order, a map finds the last entry of a name, and else what it held before. All that
counts is what storing one value under a name does to each lookup. -/
theorem lookup_foldl {μ : Type} {insert : μ → Text → Value → μ} {lookup : μ → Text → Option Value}
    (hInsert : ∀ m n name v,
      lookup (insert m n v) name = if n = name then some v else lookup m name)
    (entries : List (Text × Value)) (m : μ) (name : Text) :
    lookup (entries.foldl (fun m (n, v) => insert m n v) m) name =
      (findEntry entries.reverse name).or (lookup m name) := by
  induction entries generalizing m with
  | nil => rfl
  | cons entry rest ih =>
    obtain ⟨n, v⟩ := entry
    rw [List.foldl_cons, ih, hInsert]
    simp only [findEntry, List.reverse_cons, List.find?_append]
    cases rest.reverse.find? (·.1 = name) with
    | some found => rfl
    | none => by_cases h : n = name <;> simp [h]

/-- Values under distinct names, in the order in which the names came. -/
structure Dictionary where
  entries : List (Text × Value)

namespace Dictionary

def empty : Dictionary := ⟨[]⟩

/-- Replaces the value of an entry with the name, or adds an entry at the end. -/
def put (name : Text) (v : Value) : List (Text × Value) → List (Text × Value)
  | [] => [(name, v)]
  | (n, w) :: rest => if n = name then (n, v) :: rest else (n, w) :: put name v rest

def insert (d : Dictionary) (name : Text) (v : Value) : Dictionary := ⟨put name v d.entries⟩

def ofEntries (entries : List (Text × Value)) : Dictionary :=
  entries.foldl (fun d (name, v) => d.insert name v) empty

def lookup (d : Dictionary) (name : Text) : Option Value := findEntry d.entries name

theorem findEntry_cons (n name : Text) (v : Value) (rest : List (Text × Value)) :
    findEntry ((n, v) :: rest) name = if n = name then some v else findEntry rest name := by
  by_cases h : n = name <;> simp [findEntry, h]

theorem findEntry_put (n name : Text) (v : Value) (entries : List (Text × Value)) :
    findEntry (put n v entries) name = if n = name then some v else findEntry entries name := by
  induction entries with
  | nil => exact findEntry_cons ..
  | cons entry rest ih =>
    obtain ⟨m, w⟩ := entry
    by_cases hm : m = n
    · subst hm
      simp only [put, if_pos, findEntry_cons]
      split <;> rfl
    · simp only [put, if_neg hm, findEntry_cons, ih]
      by_cases hn : n = name
      · subst hn
        simp [hm]
      · simp [hn]

theorem lookup_insert (d : Dictionary) (n name : Text) (v : Value) :
    (d.insert n v).lookup name = if n = name then some v else d.lookup name :=
  findEntry_put n name v d.entries

theorem lookup_foldl_insert (entries : List (Text × Value)) (d : Dictionary) (name : Text) :
    (entries.foldl (fun d (n, v) => d.insert n v) d).lookup name =
      (findEntry entries.reverse name).or (d.lookup name) :=
  lookup_foldl lookup_insert entries d name

theorem lookup_ofEntries (entries : List (Text × Value)) (name : Text) :
    (ofEntries entries).lookup name = findEntry entries.reverse name := by
  rw [ofEntries, lookup_foldl_insert]
  exact Option.or_none

end Dictionary

namespace Resolver

variable {σ : Type}

/-- The values of a list of entries, by name. -/
def named (entries : List (Text × Value)) : Resolver σ :=
  answering fun index name => .ofFound index name (findEntry entries name)

/-- The values of a dictionary, by name. -/
def dictionary (d : Dictionary) : Resolver σ :=
  answering fun index name => .ofFound index name (d.lookup name)

end Resolver

end LogMarkup
