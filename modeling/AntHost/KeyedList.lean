/-!
# Keyed lists

Entries under keys in the order the keys were first used. Setting a key replaces its entry and
leaves every other key alone.
-/

namespace AntHost

/-- Entries under keys, the first entry of a key being the one that counts. -/
structure KeyedList (κ α : Type) where
  entries : List (κ × α) := []
deriving Repr

namespace KeyedList

variable {κ α : Type} [DecidableEq κ]

/-- The entry of a key among entries. -/
def find? (key : κ) : List (κ × α) → Option α
  | [] => none
  | (other, entry) :: rest => if other = key then some entry else find? key rest

/-- Entries with the entry of a key replaced, or added at the end. -/
def replace (key : κ) (entry : α) : List (κ × α) → List (κ × α)
  | [] => [(key, entry)]
  | (other, old) :: rest =>
      if other = key then (key, entry) :: rest else (other, old) :: replace key entry rest

def get? (list : KeyedList κ α) (key : κ) : Option α := find? key list.entries

def set (list : KeyedList κ α) (key : κ) (entry : α) : KeyedList κ α :=
  ⟨replace key entry list.entries⟩

def erase (list : KeyedList κ α) (key : κ) : KeyedList κ α :=
  ⟨list.entries.filter fun entry => entry.1 ≠ key⟩

def values (list : KeyedList κ α) : List α := list.entries.map (·.2)

theorem find?_replace (key other : κ) (entry : α) (entries : List (κ × α)) :
    find? other (replace key entry entries) =
      if other = key then some entry else find? other entries := by
  induction entries with
  | nil =>
      by_cases hkey : other = key
      · simp [replace, find?, hkey]
      · simp [replace, find?, hkey, Ne.symm hkey]
  | cons head rest ih =>
      obtain ⟨first, old⟩ := head
      by_cases hfirst : first = key
      · by_cases hkey : other = key
        · simp [replace, find?, hfirst, hkey]
        · simp [replace, find?, hfirst, hkey, Ne.symm hkey]
      · by_cases hother : first = other
        · have hkey : other ≠ key := fun heq => hfirst (hother.trans heq)
          simp [replace, find?, hother, hkey]
        · simp [replace, find?, hfirst, hother, ih]

/-- Setting a key changes what that key finds and nothing else. -/
theorem get?_set (list : KeyedList κ α) (key other : κ) (entry : α) :
    (list.set key entry).get? other = if other = key then some entry else list.get? other :=
  find?_replace key other entry list.entries

/-- Every key has one entry. -/
def Distinct (list : KeyedList κ α) : Prop := (list.entries.map Prod.fst).Nodup

theorem mem_of_get? {list : KeyedList κ α} {key : κ} {entry : α}
    (hfound : list.get? key = some entry) : (key, entry) ∈ list.entries := by
  obtain ⟨entries⟩ := list
  change find? key entries = some entry at hfound
  induction entries with
  | nil => cases hfound
  | cons head rest ih =>
      rw [find?] at hfound
      split at hfound
      next hkey =>
        cases hfound
        subst hkey
        exact List.mem_cons_self
      next => exact List.mem_cons_of_mem _ (ih hfound)

theorem mem_keys_replace {key other : κ} {entry : α} {entries : List (κ × α)} :
    other ∈ (replace key entry entries).map Prod.fst ↔
      other = key ∨ other ∈ entries.map Prod.fst := by
  induction entries with
  | nil => simp [replace]
  | cons head rest ih =>
      obtain ⟨first, old⟩ := head
      by_cases hfirst : first = key
      · simp [replace, hfirst]
      · rw [replace, if_neg hfirst, List.map_cons, List.mem_cons, ih, List.map_cons, List.mem_cons]
        exact or_left_comm

namespace Distinct

variable {list : KeyedList κ α}

theorem set (hdistinct : list.Distinct) (key : κ) (entry : α) : (list.set key entry).Distinct := by
  obtain ⟨entries⟩ := list
  change ((replace key entry entries).map Prod.fst).Nodup
  induction entries with
  | nil => exact List.nodup_cons.mpr ⟨nofun, List.nodup_nil⟩
  | cons head rest ih =>
      obtain ⟨first, old⟩ := head
      obtain ⟨hfirst, hrest⟩ := List.nodup_cons.mp hdistinct
      rw [replace]
      split
      next hkey =>
        subst hkey
        exact List.nodup_cons.mpr ⟨hfirst, hrest⟩
      next hkey =>
        refine List.nodup_cons.mpr ⟨fun hmem => ?_, ih hrest⟩
        exact (mem_keys_replace.mp hmem).elim hkey hfirst

theorem erase (hdistinct : list.Distinct) (key : κ) : (list.erase key).Distinct :=
  hdistinct.sublist (List.filter_sublist.map Prod.fst)

/-- Setting a key puts its entry next to the entries of the other keys. -/
theorem values_set (hdistinct : list.Distinct) (key : κ) (entry : α) :
    (list.set key entry).values.Perm (entry :: (list.erase key).values) := by
  obtain ⟨entries⟩ := list
  change ((replace key entry entries).map Prod.snd).Perm
    (entry :: (entries.filter fun other => other.1 ≠ key).map Prod.snd)
  induction entries with
  | nil => exact .refl _
  | cons head rest ih =>
      obtain ⟨first, old⟩ := head
      obtain ⟨hfirst, hrest⟩ := List.nodup_cons.mp hdistinct
      by_cases hkey : first = key
      · subst hkey
        have hothers : (rest.filter fun other => other.1 ≠ first) = rest :=
          List.filter_eq_self.mpr fun other hother =>
            decide_eq_true fun heq => hfirst (List.mem_map.mpr ⟨other, hother, heq⟩)
        rw [replace, if_pos rfl, List.filter_cons_of_neg (by simp), hothers]
        exact .refl _
      · simpa [replace, hkey] using ((ih hrest).cons old).trans (.swap ..)

/-- The entry of a key stands next to the entries of the other keys. -/
theorem values_of_mem (hdistinct : list.Distinct) {key : κ} {entry : α}
    (hmem : (key, entry) ∈ list.entries) :
    list.values.Perm (entry :: (list.erase key).values) := by
  suffices hsame : list.set key entry = list by
    have hset := hdistinct.values_set key entry
    rwa [hsame] at hset
  obtain ⟨entries⟩ := list
  change KeyedList.mk (replace key entry entries) = _
  congr
  induction entries with
  | nil => cases hmem
  | cons head rest ih =>
      obtain ⟨first, old⟩ := head
      obtain ⟨hfirst, hrest⟩ := List.nodup_cons.mp hdistinct
      rw [replace]
      rcases List.mem_cons.mp hmem with heq | hlater
      · cases heq
        rw [if_pos rfl]
      · have hkey : first ≠ key := fun heq => hfirst (List.mem_map.mpr ⟨_, hlater, heq.symm⟩)
        rw [if_neg hkey, ih hrest hlater]

end Distinct

end KeyedList

end AntHost
