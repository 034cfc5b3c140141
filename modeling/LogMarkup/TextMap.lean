import LogMarkup.Text

/-!
# Maps sorted by text

A finite map whose keys are texts, kept in rising order of the keys. Texts are compared
character by character, by code point, which is also the order of their UTF-8 bytes.

* `lookup_alter`: what an update does to each key.
* `mem_keys_alter`: an update adds no key but its own.
-/

namespace LogMarkup

theorem Text.lt_of_not_lt_of_ne {s t : Text} (h : ¬ s < t) (hne : s ≠ t) : t < s := by
  rcases Std.lt_trichotomy s t with hlt | heq | hgt
  · exact absurd hlt h
  · exact absurd heq hne
  · exact hgt

structure TextMap (α : Type) where
  entries : List (Text × α)
  sorted : entries.Pairwise fun a b => a.1 < b.1

namespace TextMap

variable {α β : Type}

def empty : TextMap α := ⟨[], .nil⟩

def keys (m : TextMap α) : List Text := m.entries.map (·.1)

def lookup (m : TextMap α) (key : Text) : Option α :=
  (m.entries.find? (·.1 = key)).map (·.2)

def contains (m : TextMap α) (key : Text) : Bool := m.entries.any (·.1 = key)

/-! ## Updates -/

/-- Puts `f` of the old value, if there is one, under the key. -/
def alterEntries (key : Text) (f : Option α → α) : List (Text × α) → List (Text × α)
  | [] => [(key, f none)]
  | (k, v) :: rest =>
    if key < k then (key, f none) :: (k, v) :: rest
    else if key = k then (k, f (some v)) :: rest
    else (k, v) :: alterEntries key f rest

theorem mem_keys_alterEntries {key k : Text} {f : Option α → α} {entries : List (Text × α)} :
    k ∈ (alterEntries key f entries).map (·.1) ↔ k = key ∨ k ∈ entries.map (·.1) := by
  induction entries with
  | nil => simp [alterEntries]
  | cons entry rest ih =>
    obtain ⟨k', v⟩ := entry
    simp only [alterEntries]
    split
    · simp
    · split
      · rename_i h
        simp [h]
      · simp only [List.map_cons, List.mem_cons, ih]
        exact or_left_comm

theorem pairwise_alterEntries (key : Text) (f : Option α → α) {entries : List (Text × α)}
    (h : entries.Pairwise fun a b => a.1 < b.1) :
    (alterEntries key f entries).Pairwise fun a b => a.1 < b.1 := by
  induction entries with
  | nil => simp [alterEntries]
  | cons entry rest ih =>
    obtain ⟨k, v⟩ := entry
    obtain ⟨hk, hrest⟩ := List.pairwise_cons.mp h
    simp only [alterEntries]
    split
    · rename_i hlt
      refine List.pairwise_cons.mpr ⟨fun e he => ?_, h⟩
      rcases List.mem_cons.mp he with rfl | he
      · exact hlt
      · exact List.lt_trans hlt (hk e he)
    · split
      · exact List.pairwise_cons.mpr ⟨hk, hrest⟩
      · rename_i hlt hne
        refine List.pairwise_cons.mpr ⟨fun e he => ?_, ih hrest⟩
        rcases mem_keys_alterEntries.mp (List.mem_map_of_mem he) with heq | hmem
        · rw [heq]
          exact Text.lt_of_not_lt_of_ne hlt hne
        · obtain ⟨e', he', heq⟩ := List.mem_map.mp hmem
          exact heq ▸ hk e' he'

def alter (m : TextMap α) (key : Text) (f : Option α → α) : TextMap α :=
  ⟨alterEntries key f m.entries, pairwise_alterEntries key f m.sorted⟩

def insert (m : TextMap α) (key : Text) (v : α) : TextMap α := m.alter key fun _ => v

theorem lookupEntries_cons (k key : Text) (v : α) (rest : List (Text × α)) :
    (((k, v) :: rest).find? (·.1 = key)).map (·.2) =
      if k = key then some v else (rest.find? (·.1 = key)).map (·.2) := by
  by_cases h : k = key <;> simp [h]

theorem lookup_alterEntries {key k : Text} {f : Option α → α} {entries : List (Text × α)}
    (h : entries.Pairwise fun a b => a.1 < b.1) :
    ((alterEntries key f entries).find? (·.1 = k)).map (·.2) =
      if k = key then some (f ((entries.find? (·.1 = key)).map (·.2)))
      else (entries.find? (·.1 = k)).map (·.2) := by
  induction entries with
  | nil =>
    by_cases hk : k = key
    · simp [alterEntries, hk]
    · simp [alterEntries, hk, Ne.symm hk]
  | cons entry rest ih =>
    obtain ⟨k', v⟩ := entry
    obtain ⟨hk', hrest⟩ := List.pairwise_cons.mp h
    simp only [alterEntries]
    split
    · rename_i hlt
      have hnone : ((k', v) :: rest).find? (·.1 = key) = none := by
        refine List.find?_eq_none.mpr fun e he heq => ?_
        simp only [decide_eq_true_eq] at heq
        rcases List.mem_cons.mp he with rfl | he
        · exact List.lt_irrefl _ (heq ▸ hlt)
        · exact List.lt_irrefl _ (heq ▸ List.lt_trans hlt (hk' e he))
      rw [hnone, lookupEntries_cons]
      by_cases hk : k = key
      · simp [hk]
      · simp only [if_neg hk, if_neg (Ne.symm hk)]
    · split
      · rename_i heq
        subst heq
        simp only [lookupEntries_cons, if_pos]
        by_cases hk : k = key
        · simp [hk]
        · simp only [if_neg hk, if_neg (Ne.symm hk)]
      · rename_i hne
        simp only [lookupEntries_cons, ih hrest, if_neg (Ne.symm hne)]
        by_cases hk : k = key
        · simp [hk, Ne.symm hne]
        · simp [hk]

theorem lookup_alter (m : TextMap α) (key k : Text) (f : Option α → α) :
    (m.alter key f).lookup k = if k = key then some (f (m.lookup key)) else m.lookup k :=
  lookup_alterEntries m.sorted

theorem mem_keys_alter {m : TextMap α} {key k : Text} {f : Option α → α} :
    k ∈ (m.alter key f).keys ↔ k = key ∨ k ∈ m.keys := mem_keys_alterEntries

end TextMap

/-- A sorted set of texts. -/
abbrev TextSet := TextMap Unit

def TextSet.ofList (texts : List Text) : TextSet :=
  texts.foldl (fun s t => s.insert t ()) TextMap.empty

end LogMarkup
