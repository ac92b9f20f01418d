import Mathlib.Data.List.Nodup
import Mathlib.Data.Finset.Card
import Mathlib.Data.Finset.Dedup
import Mathlib.Tactic.Common

/-!
# Insertion-ordered maps

A map keeps its entries in the order in which their keys were first set:
setting a present key replaces its value in place, and deleting a key leaves
the order of the others.
-/

namespace VaultCore

/-- Entries in the order of insertion, with one of each key. -/
structure OrderedMap (κ ν : Type) where
  entries : List (κ × ν)
  nodup : (entries.map Prod.fst).Nodup

namespace OrderedMap

variable {κ ν : Type}

/-- `new Map()` -/
def empty : OrderedMap κ ν := { entries := [], nodup := List.nodup_nil }

/-- The keys in the order of insertion. -/
def keys (map : OrderedMap κ ν) : List κ := map.entries.map Prod.fst

/-- `map.size` -/
def size (map : OrderedMap κ ν) : Nat := map.entries.length

/-- The entries that are kept, in their order. -/
def filter (map : OrderedMap κ ν) (keep : κ → ν → Bool) : OrderedMap κ ν :=
  { entries := map.entries.filter fun entry => keep entry.1 entry.2
    nodup := map.nodup.sublist
      (List.Sublist.map Prod.fst List.filter_sublist) }

@[simp] theorem keys_empty : (empty : OrderedMap κ ν).keys = [] := rfl

theorem mem_keys_of_filter {map : OrderedMap κ ν} {keep : κ → ν → Bool}
    {key : κ} (member : key ∈ (map.filter keep).keys) : key ∈ map.keys := by
  obtain ⟨entry, kept, same⟩ := List.mem_map.mp member
  exact List.mem_map.mpr ⟨entry, (List.mem_filter.mp kept).1, same⟩

theorem size_filter_le (map : OrderedMap κ ν) (keep : κ → ν → Bool) :
    (map.filter keep).size ≤ map.size :=
  List.length_filter_le _ _

theorem filter_filter_self (map : OrderedMap κ ν) (keep : κ → ν → Bool) :
    (map.filter keep).filter keep = map.filter keep := by
  obtain ⟨entries, nodup⟩ := map
  simp [filter]

variable [DecidableEq κ]

def setEntry (key : κ) (value : ν) : List (κ × ν) → List (κ × ν)
  | [] => [(key, value)]
  | entry :: rest =>
      if entry.1 = key then (key, value) :: rest
      else entry :: setEntry key value rest

theorem mem_keys_setEntry {key other : κ} {value : ν}
    {entries : List (κ × ν)} :
    other ∈ (setEntry key value entries).map Prod.fst ↔
      other = key ∨ other ∈ entries.map Prod.fst := by
  induction entries with
  | nil => simp [setEntry]
  | cons entry rest ih =>
      by_cases same : entry.1 = key
      · simp [setEntry, same]
      · simp only [setEntry, if_neg same, List.map_cons, List.mem_cons, ih]
        tauto

theorem nodup_setEntry {key : κ} {value : ν} {entries : List (κ × ν)}
    (nodup : (entries.map Prod.fst).Nodup) :
    ((setEntry key value entries).map Prod.fst).Nodup := by
  induction entries with
  | nil => simp [setEntry]
  | cons entry rest ih =>
      obtain ⟨fresh, restNodup⟩ := List.nodup_cons.mp nodup
      by_cases same : entry.1 = key
      · rw [setEntry, if_pos same, List.map_cons, ← same]
        exact List.nodup_cons.mpr ⟨fresh, restNodup⟩
      · rw [setEntry, if_neg same, List.map_cons]
        apply List.nodup_cons.mpr
        refine ⟨?_, ih restNodup⟩
        intro member
        rcases mem_keys_setEntry.mp member with equal | earlier
        · exact same equal
        · exact fresh earlier

theorem lookup_setEntry_self [BEq κ] [LawfulBEq κ] (key : κ) (value : ν)
    (entries : List (κ × ν)) :
    (setEntry key value entries).lookup key = some value := by
  induction entries with
  | nil => simp [setEntry]
  | cons entry rest ih =>
      obtain ⟨held, old⟩ := entry
      by_cases same : held = key
      · simp [setEntry, same]
      · have different : (key == held) = false := by
          simpa using Ne.symm same
        simp [setEntry, same, List.lookup_cons, different, ih]

theorem lookup_setEntry_of_ne [BEq κ] [LawfulBEq κ] {key other : κ}
    (different : other ≠ key) (value : ν) (entries : List (κ × ν)) :
    (setEntry key value entries).lookup other = entries.lookup other := by
  induction entries with
  | nil => simp [setEntry, different]
  | cons entry rest ih =>
      obtain ⟨held, old⟩ := entry
      by_cases same : held = key
      · have notHeld : (other == held) = false := by
          simpa [same] using different
        have notKey : (other == key) = false := by simpa using different
        simp [setEntry, same, List.lookup_cons, notKey]
      · simp [setEntry, same, List.lookup_cons, ih]

/-- `map.get(key)` -/
def get? (map : OrderedMap κ ν) (key : κ) : Option ν :=
  map.entries.lookup key

/-- `map.set(key, value)`: a key that is there keeps its place. -/
def set (map : OrderedMap κ ν) (key : κ) (value : ν) : OrderedMap κ ν :=
  { entries := setEntry key value map.entries
    nodup := nodup_setEntry map.nodup }

/-- `map.delete(key)` -/
def delete (map : OrderedMap κ ν) (key : κ) : OrderedMap κ ν :=
  map.filter fun other _ => decide (other ≠ key)

@[simp] theorem get?_empty (key : κ) :
    (empty : OrderedMap κ ν).get? key = none := rfl

theorem get?_eq_none_iff {map : OrderedMap κ ν} {key : κ} :
    map.get? key = none ↔ key ∉ map.keys := by
  simp only [get?, keys, List.lookup_eq_none_iff, List.mem_map, not_exists,
    not_and]
  constructor
  · intro absent entry member same
    have different := absent entry member
    simp [same] at different
  · intro absent entry member
    have different := absent entry member
    simpa using fun same : key = entry.1 => different same.symm

theorem get?_eq_some_iff {map : OrderedMap κ ν} {key : κ} {value : ν} :
    map.get? key = some value ↔ (key, value) ∈ map.entries := by
  obtain ⟨entries, nodup⟩ := map
  simp only [get?]
  induction entries with
  | nil => simp
  | cons entry rest ih =>
      obtain ⟨held, old⟩ := entry
      obtain ⟨fresh, restNodup⟩ := List.nodup_cons.mp nodup
      by_cases same : key = held
      · subst same
        have absent : (key, value) ∉ rest := by
          intro member
          exact fresh (List.mem_map.mpr ⟨_, member, rfl⟩)
        simp only [List.lookup_cons, beq_self_eq_true, List.mem_cons, absent,
          or_false, Option.some.injEq, Prod.mk.injEq, true_and]
        exact eq_comm
      · have different : (key == held) = false := by simpa using same
        simp only [List.lookup_cons, different, List.mem_cons, Prod.mk.injEq,
          same, false_and, false_or]
        exact ih restNodup

@[simp] theorem get?_set_self (map : OrderedMap κ ν) (key : κ) (value : ν) :
    (map.set key value).get? key = some value :=
  lookup_setEntry_self key value map.entries

theorem get?_set_of_ne (map : OrderedMap κ ν) {key other : κ}
    (different : other ≠ key) (value : ν) :
    (map.set key value).get? other = map.get? other :=
  lookup_setEntry_of_ne different value map.entries

theorem get?_filter_of_keep {map : OrderedMap κ ν} {keep : κ → ν → Bool}
    {key : κ} {value : ν} (found : map.get? key = some value)
    (kept : keep key value = true) :
    (map.filter keep).get? key = some value := by
  rw [get?_eq_some_iff] at found ⊢
  exact List.mem_filter.mpr ⟨found, kept⟩

theorem get?_filter_of_none {map : OrderedMap κ ν} {keep : κ → ν → Bool}
    {key : κ} (absent : map.get? key = none) :
    (map.filter keep).get? key = none := by
  rw [get?_eq_none_iff] at absent ⊢
  intro member
  apply absent
  obtain ⟨entry, kept, same⟩ := List.mem_map.mp member
  exact List.mem_map.mpr ⟨entry, (List.mem_filter.mp kept).1, same⟩

theorem get?_of_filter {map : OrderedMap κ ν} {keep : κ → ν → Bool}
    {key : κ} {value : ν} (found : (map.filter keep).get? key = some value) :
    map.get? key = some value := by
  rw [get?_eq_some_iff] at found ⊢
  exact (List.mem_filter.mp found).1

theorem get?_delete_self (map : OrderedMap κ ν) (key : κ) :
    (map.delete key).get? key = none := by
  rw [get?_eq_none_iff]
  intro member
  obtain ⟨entry, kept, same⟩ := List.mem_map.mp member
  have different := (List.mem_filter.mp kept).2
  simp [same] at different

theorem get?_delete_of_ne (map : OrderedMap κ ν) {key other : κ}
    (different : other ≠ key) :
    (map.delete key).get? other = map.get? other := by
  cases found : map.get? other with
  | none => exact get?_filter_of_none found
  | some value => exact get?_filter_of_keep found (by simpa using different)

theorem mem_keys_set {map : OrderedMap κ ν} {key other : κ} {value : ν} :
    other ∈ (map.set key value).keys ↔ other = key ∨ other ∈ map.keys :=
  mem_keys_setEntry

theorem length_setEntry_of_not_mem {key : κ} (value : ν)
    {entries : List (κ × ν)} (fresh : key ∉ entries.map Prod.fst) :
    (setEntry key value entries).length = entries.length + 1 := by
  induction entries with
  | nil => rfl
  | cons entry rest ih =>
      rw [List.map_cons, List.mem_cons, not_or] at fresh
      rw [setEntry, if_neg (Ne.symm fresh.1), List.length_cons, ih fresh.2,
        List.length_cons]

theorem length_setEntry_of_mem {key : κ} (value : ν)
    {entries : List (κ × ν)} (held : key ∈ entries.map Prod.fst) :
    (setEntry key value entries).length = entries.length := by
  induction entries with
  | nil => cases held
  | cons entry rest ih =>
      by_cases same : entry.1 = key
      · rw [setEntry, if_pos same, List.length_cons, List.length_cons]
      · have later : key ∈ rest.map Prod.fst := by
          rcases List.mem_cons.mp held with here | later
          · exact absurd here.symm same
          · exact later
        rw [setEntry, if_neg same, List.length_cons, ih later,
          List.length_cons]

theorem size_set_of_not_mem {map : OrderedMap κ ν} {key : κ} (value : ν)
    (fresh : key ∉ map.keys) : (map.set key value).size = map.size + 1 :=
  length_setEntry_of_not_mem value fresh

theorem size_set_of_mem {map : OrderedMap κ ν} {key : κ} (value : ν)
    (held : key ∈ map.keys) : (map.set key value).size = map.size :=
  length_setEntry_of_mem value held

theorem keys_delete (map : OrderedMap κ ν) (key : κ) :
    (map.delete key).keys = map.keys.erase key := by
  have erased : map.keys.erase key = map.keys.filter (· != key) :=
    map.nodup.erase_eq_filter key
  rw [erased, keys, keys, List.filter_map]
  simp [delete, filter, bne, Function.comp_def, beq_eq_decide]

theorem size_delete_of_mem {map : OrderedMap κ ν} {key : κ}
    (held : key ∈ map.keys) : (map.delete key).size + 1 = map.size := by
  have sizes : ∀ other : OrderedMap κ ν, other.size = other.keys.length :=
    fun other => (List.length_map Prod.fst).symm
  have positive := List.length_pos_of_mem held
  rw [sizes, sizes, keys_delete, List.length_erase_of_mem held]
  omega

/-- A map whose keys all lie in a list without `key` is smaller than the
number of distinct keys of that list together with `key`. -/
theorem size_lt_of_absent {map : OrderedMap κ ν} {key : κ}
    {domain : List κ} (within : ∀ other ∈ map.keys, other ∈ domain)
    (absent : key ∉ map.keys) (known : key ∈ domain) :
    map.size < domain.toFinset.card := by
  have distinct : map.keys.toFinset.card = map.size := by
    have counted := List.toFinset_card_of_nodup map.nodup
    simpa [keys, size] using counted
  rw [← distinct]
  apply Finset.card_lt_card
  constructor
  · intro other member
    exact List.mem_toFinset.mpr (within other (List.mem_toFinset.mp member))
  · intro contained
    exact absent (List.mem_toFinset.mp
      (contained (List.mem_toFinset.mpr known)))

theorem get?_cons {held : κ} {value : ν} {entries : List (κ × ν)}
    (nodup : (((held, value) :: entries).map Prod.fst).Nodup) (key : κ) :
    get? ⟨(held, value) :: entries, nodup⟩ key =
      if key = held then some value
      else get? ⟨entries, (List.nodup_cons.mp nodup).2⟩ key := by
  by_cases same : key = held
  · rw [if_pos same, get?, same, List.lookup_cons, beq_self_eq_true]
  · have different : (key == held) = false := by simpa using same
    rw [if_neg same, get?, List.lookup_cons, different]
    rfl

/-- `{ ...map, ...other }` -/
def merge (map other : OrderedMap κ ν) : OrderedMap κ ν :=
  other.entries.foldl (fun merged entry => merged.set entry.1 entry.2) map

theorem get?_foldl_set (key : κ) {entries : List (κ × ν)}
    (nodup : (entries.map Prod.fst).Nodup) (map : OrderedMap κ ν) :
    (entries.foldl (fun merged entry => merged.set entry.1 entry.2) map).get?
        key = (entries.lookup key).or (map.get? key) := by
  induction entries generalizing map with
  | nil => rfl
  | cons entry rest ih =>
      obtain ⟨held, value⟩ := entry
      obtain ⟨fresh, restNodup⟩ := List.nodup_cons.mp nodup
      rw [List.foldl_cons, ih restNodup]
      by_cases same : key = held
      · subst same
        have absent : rest.lookup key = none := by
          apply List.lookup_eq_none_iff.mpr
          intro other member
          have different : key ≠ other.1 := by
            intro equal
            exact fresh (List.mem_map.mpr ⟨other, member, equal.symm⟩)
          simpa using different
        rw [absent, get?_set_self, List.lookup_cons, beq_self_eq_true]
        rfl
      · have different : (key == held) = false := by simpa using same
        rw [get?_set_of_ne map same, List.lookup_cons, different]

theorem get?_merge (map other : OrderedMap κ ν) (key : κ) :
    (map.merge other).get? key = (other.get? key).or (map.get? key) :=
  get?_foldl_set key other.nodup map

end OrderedMap

end VaultCore
