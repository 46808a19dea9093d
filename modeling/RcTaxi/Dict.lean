/-
This file is a small library of insertion-ordered dictionaries: a list of pairs in
which no key occurs twice, carried as a field, so that looking a key up and running
over the items can never disagree. Assigning to a present key keeps its place;
assigning to a new key appends it.
-/

import Mathlib.Data.List.Nodup
import Mathlib.Data.List.Lookmap
import Mathlib.Data.Finset.Dedup

namespace RcTaxi

/-- An insertion-ordered dictionary. -/
structure Dict (Key Value : Type) where
  items : List (Key × Value)
  nodup : (items.map Prod.fst).Nodup

namespace Dict

variable {Key Value : Type} [DecidableEq Key]

/-- The dictionary without items. -/
def empty : Dict Key Value := ⟨[], List.nodup_nil⟩

def keys (dict : Dict Key Value) : List Key := dict.items.map Prod.fst

def values (dict : Dict Key Value) : List Value := dict.items.map Prod.snd

/-- `dict.get(key)`. -/
def get? (dict : Dict Key Value) (key : Key) : Option Value := dict.items.lookup key

/-- `key in dict`. -/
def contains (dict : Dict Key Value) (key : Key) : Bool := key ∈ dict.keys

/-- The items with the value at `key` replaced. -/
def replace (key : Key) (value : Value) (items : List (Key × Value)) : List (Key × Value) :=
  items.map fun item => if item.1 = key then (key, value) else item

theorem replace_keys (key : Key) (value : Value) (items : List (Key × Value)) :
    (replace key value items).map Prod.fst = items.map Prod.fst := by
  unfold replace
  rw [List.map_map]
  refine List.map_congr_left fun item _ => ?_
  by_cases same : item.1 = key
  · simp [same]
  · simp [same]

/-- `dict[key] = value`. -/
def insert (dict : Dict Key Value) (key : Key) (value : Value) : Dict Key Value :=
  if present : key ∈ dict.keys then
    ⟨replace key value dict.items, by rw [replace_keys]; exact dict.nodup⟩
  else
    ⟨dict.items ++ [(key, value)], by
      rw [List.map_append, List.map_singleton]
      exact List.nodup_append.mpr ⟨dict.nodup, List.nodup_singleton _, by
        intro first member second memberSecond same
        have equal : first = key := same.trans (List.mem_singleton.mp memberSecond)
        exact present (equal ▸ member)⟩⟩

theorem lookup_of_mem {items : List (Key × Value)} (nodup : (items.map Prod.fst).Nodup)
    {key : Key} {value : Value} (member : (key, value) ∈ items) :
    items.lookup key = some value := by
  induction items with
  | nil => cases member
  | cons head rest inductionHypothesis =>
    rw [List.map_cons, List.nodup_cons] at nodup
    obtain ⟨headKey, headValue⟩ := head
    rcases List.mem_cons.mp member with same | inRest
    · cases same
      exact List.lookup_cons_self
    · have different : key ≠ headKey := by
        intro same
        rw [same] at inRest
        exact nodup.1 (List.mem_map.mpr ⟨_, inRest, rfl⟩)
      rw [List.lookup_cons, beq_false_of_ne different]
      exact inductionHypothesis nodup.2 inRest

theorem mem_of_lookup {items : List (Key × Value)} {key : Key} {value : Value}
    (found : items.lookup key = some value) : (key, value) ∈ items := by
  induction items with
  | nil => cases found
  | cons head rest inductionHypothesis =>
    obtain ⟨headKey, headValue⟩ := head
    rw [List.lookup_cons] at found
    by_cases same : key = headKey
    · subst same
      rw [beq_self_eq_true] at found
      cases found
      exact List.mem_cons_self
    · rw [beq_false_of_ne same] at found
      exact List.mem_cons_of_mem _ (inductionHypothesis found)

/-- Looking a key up and listing the items agree. -/
theorem get?_eq_some_iff (dict : Dict Key Value) (key : Key) (value : Value) :
    dict.get? key = some value ↔ (key, value) ∈ dict.items :=
  ⟨mem_of_lookup, lookup_of_mem dict.nodup⟩

theorem mem_keys_of_get? {dict : Dict Key Value} {key : Key} {value : Value}
    (found : dict.get? key = some value) : key ∈ dict.keys :=
  List.mem_map.mpr ⟨_, (get?_eq_some_iff dict key value).mp found, rfl⟩

theorem exists_get?_of_mem_keys {dict : Dict Key Value} {key : Key} (member : key ∈ dict.keys) :
    ∃ value, dict.get? key = some value := by
  obtain ⟨⟨_, value⟩, inItems, rfl⟩ := List.mem_map.mp member
  exact ⟨value, (get?_eq_some_iff dict _ value).mpr inItems⟩

theorem contains_iff (dict : Dict Key Value) (key : Key) :
    dict.contains key = true ↔ ∃ value, dict.get? key = some value := by
  rw [contains, decide_eq_true_iff]
  exact ⟨exists_get?_of_mem_keys, fun ⟨_, found⟩ => mem_keys_of_get? found⟩

end Dict

end RcTaxi
