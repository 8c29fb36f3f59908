import Mathlib.Data.List.Basic
import Mathlib.Data.List.Nodup

/-!
# Ordered maps

A map from keys to values as the list of its entries, in the order of the keys.  The order
is part of the type, so that every key has one entry and the first entry has the least key.

`insert` replaces the entry of a key that is there already.
-/

set_option linter.unusedSectionVars false

namespace Ssp21

structure OrderedMap (κ ν : Type) [LT κ] where
  entries : List (κ × ν)
  sorted : entries.Pairwise (fun a b => a.1 < b.1)

namespace OrderedMap

variable {κ ν : Type} [LE κ] [LT κ] [Std.IsLinearOrder κ] [Std.LawfulOrderLT κ] [DecidableLT κ]
  [DecidableEq κ]

def empty : OrderedMap κ ν := ⟨[], .nil⟩

def size (map : OrderedMap κ ν) : Nat := map.entries.length

def keys (map : OrderedMap κ ν) : List κ := map.entries.map Prod.fst

def find? (map : OrderedMap κ ν) (key : κ) : Option ν :=
  (map.entries.find? (fun entry => entry.1 = key)).map Prod.snd

/-- The entry with the least key. -/
def first? (map : OrderedMap κ ν) : Option (κ × ν) := map.entries.head?

/-- The entry with the greatest key. -/
def last? (map : OrderedMap κ ν) : Option (κ × ν) := map.entries.getLast?

def erase (map : OrderedMap κ ν) (key : κ) : OrderedMap κ ν where
  entries := map.entries.filter (fun entry => entry.1 ≠ key)
  sorted := map.sorted.filter _

def insert (map : OrderedMap κ ν) (key : κ) (value : ν) : OrderedMap κ ν where
  entries := map.entries.filter (fun entry => entry.1 < key) ++
    (key, value) :: map.entries.filter (fun entry => key < entry.1)
  sorted := by
    refine List.pairwise_append.mpr ⟨map.sorted.filter _, List.pairwise_cons.mpr
      ⟨?_, map.sorted.filter _⟩, ?_⟩
    · intro entry hin
      simpa using (List.mem_filter.mp hin).2
    · intro below hbelow entry hin
      have hlt : below.1 < key := by simpa using (List.mem_filter.mp hbelow).2
      rcases List.mem_cons.mp hin with rfl | hin
      · exact hlt
      · have hgt : key < entry.1 := by simpa using (List.mem_filter.mp hin).2
        exact Std.lt_trans hlt hgt

variable {map : OrderedMap κ ν} {key other : κ} {value : ν} {entry : κ × ν}

theorem keys_nodup (map : OrderedMap κ ν) : map.keys.Nodup := by
  apply List.pairwise_map.mpr
  apply map.sorted.imp
  intro first second hlt heq
  rw [heq] at hlt
  exact Std.lt_irrefl hlt

theorem mem_erase :
    entry ∈ (map.erase key).entries ↔ entry ∈ map.entries ∧ entry.1 ≠ key := by
  simp [erase, List.mem_filter]

theorem mem_insert :
    entry ∈ (map.insert key value).entries ↔
      entry = (key, value) ∨ entry ∈ map.entries ∧ entry.1 ≠ key := by
  simp only [insert, List.mem_append, List.mem_cons, List.mem_filter, decide_eq_true_eq]
  constructor
  · rintro (⟨hin, hlt⟩ | rfl | ⟨hin, hlt⟩)
    · exact .inr ⟨hin, fun heq => Std.lt_irrefl (heq ▸ hlt)⟩
    · exact .inl rfl
    · exact .inr ⟨hin, fun heq => Std.lt_irrefl (heq ▸ hlt)⟩
  · rintro (rfl | ⟨hin, hne⟩)
    · exact .inr (.inl rfl)
    · rcases Std.lt_trichotomy entry.1 key with hlt | heq | hlt
      · exact .inl ⟨hin, hlt⟩
      · exact absurd heq hne
      · exact .inr (.inr ⟨hin, hlt⟩)

theorem mem_keys : key ∈ map.keys ↔ ∃ value, (key, value) ∈ map.entries := by
  simp [keys]

theorem mem_keys_erase : other ∈ (map.erase key).keys ↔ other ∈ map.keys ∧ other ≠ key := by
  simp [mem_keys, mem_erase]

theorem mem_keys_insert :
    other ∈ (map.insert key value).keys ↔ other = key ∨ other ∈ map.keys := by
  simp only [mem_keys, mem_insert, Prod.mk.injEq]
  constructor
  · rintro ⟨_, ⟨rfl, rfl⟩ | ⟨hin, -⟩⟩
    · exact .inl rfl
    · exact .inr ⟨_, hin⟩
  · rintro (rfl | ⟨found, hin⟩)
    · exact ⟨value, .inl ⟨rfl, rfl⟩⟩
    · by_cases heq : other = key
      · exact ⟨value, .inl ⟨heq, rfl⟩⟩
      · exact ⟨found, .inr ⟨hin, heq⟩⟩

/-- A key is found with the value of its entry. -/
theorem find?_eq_some_iff : map.find? key = some value ↔ (key, value) ∈ map.entries := by
  rw [find?, Option.map_eq_some_iff]
  constructor
  · rintro ⟨⟨found, value⟩, hfind, rfl⟩
    have hkey : found = key := by simpa using List.find?_some hfind
    rw [← hkey]
    exact List.mem_of_find?_eq_some hfind
  · intro hin
    refine ⟨(key, value), ?_, rfl⟩
    cases hfind : map.entries.find? (fun entry => entry.1 = key) with
    | none => simpa using List.find?_eq_none.mp hfind (key, value) hin
    | some entry =>
        have hkey : entry.1 = key := by simpa using List.find?_some hfind
        -- the keys are distinct, so that both are the one entry
        exact congrArg some (List.inj_on_of_nodup_map map.keys_nodup
          (List.mem_of_find?_eq_some hfind) hin hkey)

theorem find?_eq_none_iff : map.find? key = none ↔ key ∉ map.keys := by
  rw [mem_keys, Option.eq_none_iff_forall_ne_some]
  simp [find?_eq_some_iff]

theorem size_erase (hkey : key ∈ map.keys) : (map.erase key).size + 1 = map.size := by
  have hkeys : (map.erase key).keys = map.keys.erase key := by
    rw [map.keys_nodup.erase_eq_filter, keys, keys, erase, List.filter_map]
    refine congrArg (List.map Prod.fst) (List.filter_congr fun entry _ => ?_)
    by_cases heq : entry.1 = key
    · simp [heq]
    · simp [heq]
  have hlength : (map.erase key).size = (map.erase key).keys.length := by simp [size, keys]
  have hpos := List.length_pos_of_mem hkey
  have hsize : map.keys.length = map.size := by simp [size, keys]
  rw [hlength, hkeys, List.length_erase_of_mem hkey]
  omega

theorem size_insert (hkey : key ∉ map.keys) : (map.insert key value).size = map.size + 1 := by
  have habove : map.entries.filter (fun entry => key < entry.1) =
      map.entries.filter (fun entry => !decide (entry.1 < key)) := by
    apply List.filter_congr
    intro entry hin
    have hne : entry.1 ≠ key := by
      rintro rfl
      exact hkey (List.mem_map_of_mem hin)
    rcases Std.lt_trichotomy entry.1 key with hlt | heq | hlt
    · have hnot : ¬ key < entry.1 := fun h => Std.lt_irrefl (Std.lt_trans hlt h)
      simp [hlt, hnot]
    · exact absurd heq hne
    · have hnot : ¬ entry.1 < key := fun h => Std.lt_irrefl (Std.lt_trans hlt h)
      simp [hlt, hnot]
  have hsplit := List.length_eq_length_filter_add (l := map.entries)
    (fun entry => decide (entry.1 < key))
  simp only [size, insert, List.length_append, List.length_cons, habove]
  omega

/-- The first entry has the least key. -/
theorem first?_least (hfirst : map.first? = some entry) :
    entry ∈ map.entries ∧ ∀ key ∈ map.keys, entry.1 ≤ key := by
  obtain ⟨rest, hentries⟩ := List.head?_eq_some_iff.mp hfirst
  have hsorted := map.sorted
  rw [hentries] at hsorted
  constructor
  · rw [hentries]
    exact List.mem_cons_self
  · intro key hkey
    obtain ⟨value, hin⟩ := mem_keys.mp hkey
    rw [hentries] at hin
    rcases List.mem_cons.mp hin with heq | hin
    · rw [← heq]
      exact Std.le_refl key
    · exact Std.le_of_lt (List.rel_of_pairwise_cons hsorted hin)

/-- The last entry has the greatest key. -/
theorem last?_greatest (hlast : map.last? = some entry) :
    entry ∈ map.entries ∧ ∀ key ∈ map.keys, key ≤ entry.1 := by
  obtain ⟨front, hentries⟩ := List.getLast?_eq_some_iff.mp hlast
  have hsorted := map.sorted
  rw [hentries] at hsorted
  constructor
  · rw [hentries]
    simp
  · intro key hkey
    obtain ⟨value, hin⟩ := mem_keys.mp hkey
    rw [hentries] at hin
    rcases List.mem_append.mp hin with hin | hin
    · exact Std.le_of_lt ((List.pairwise_append.mp hsorted).2.2 _ hin entry (by simp))
    · rw [← List.mem_singleton.mp hin]
      exact Std.le_refl key

theorem last?_eq_none_iff : map.last? = none ↔ map.keys = [] := by
  rw [last?, List.getLast?_eq_none_iff, keys, List.map_eq_nil_iff]

theorem first?_eq_none_iff : map.first? = none ↔ map.keys = [] := by
  rw [first?, List.head?_eq_none_iff, keys, List.map_eq_nil_iff]

theorem length_keys : map.keys.length = map.size := by
  rw [keys, size, List.length_map]

end OrderedMap

end Ssp21
