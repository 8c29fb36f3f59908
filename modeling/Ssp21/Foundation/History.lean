import Mathlib.Data.List.Basic

/-!
# Histories

A history is a list of observations, the newest last.  Facts about what happened
since an observation speak of the ways to split a history at it; a step appends to
the history, and the lemmas below say how the splits of the longer history come
from those of the shorter one.
-/

namespace Ssp21.History

variable {α : Type*} {history new before after : List α} {a b : α}

/-- What was appended stands behind everything that was there. -/
theorem split_append (heq : history ++ new = before ++ a :: after) (hnew : a ∉ new) :
    ∃ kept, after = kept ++ new ∧ history = before ++ a :: kept := by
  rcases List.append_eq_append_iff.mp heq with ⟨part, rfl, hpart⟩ | ⟨part, rfl, hpart⟩
  · rw [hpart] at hnew
    simp at hnew
  · cases part with
    | nil =>
        rw [List.nil_append] at hpart
        rw [← hpart] at hnew
        simp at hnew
    | cons b kept =>
        cases hpart
        exact ⟨kept, rfl, rfl⟩

/-- A split at the entry that was appended, or at an earlier one. -/
theorem split_concat (heq : history ++ [b] = before ++ a :: after) :
    (after = [] ∧ b = a ∧ history = before) ∨
      ∃ kept, after = kept ++ [b] ∧ history = before ++ a :: kept := by
  rcases List.append_eq_append_iff.mp heq with ⟨part, rfl, hpart⟩ | ⟨part, rfl, hpart⟩
  · cases part with
    | nil =>
        cases hpart
        exact Or.inl ⟨rfl, rfl, by simp⟩
    | cons c part => simp at hpart
  · cases part with
    | nil =>
        cases hpart
        exact Or.inl ⟨rfl, rfl, by simp⟩
    | cons c kept =>
        cases hpart
        exact Or.inr ⟨kept, rfl, rfl⟩

/-- Additions that meet a condition add up. -/
theorem extends_trans {P : α → Prop} {first second third : List α}
    (h : ∃ new, second = first ++ new ∧ ∀ a ∈ new, P a)
    (h' : ∃ new, third = second ++ new ∧ ∀ a ∈ new, P a) :
    ∃ new, third = first ++ new ∧ ∀ a ∈ new, P a := by
  obtain ⟨new, rfl, hnew⟩ := h
  obtain ⟨new', rfl, hnew'⟩ := h'
  refine ⟨new ++ new', List.append_assoc .., ?_⟩
  intro a hmem
  exact (List.mem_append.mp hmem).elim (hnew a) (hnew' a)

/-! ## What precedes an entry -/

/-- Every entry stands behind a history that meets a condition with it. -/
def Preceded (condition : List α → α → Prop) (history : List α) : Prop :=
  ∀ before a after, history = before ++ a :: after → condition before a

theorem Preceded.nil (condition : List α → α → Prop) : Preceded condition [] := by
  intro before a after heq
  simp at heq

theorem Preceded.concat {condition : List α → α → Prop} (hpreceded : Preceded condition history)
    (hnew : condition history a) : Preceded condition (history ++ [a]) := by
  intro before b after heq
  rcases split_concat heq with ⟨-, rfl, rfl⟩ | ⟨kept, -, hkept⟩
  · exact hnew
  · exact hpreceded before b kept hkept

theorem preceded_iff {condition : List α → α → Prop} :
    Preceded condition history ↔
      ∀ i : Fin history.length, condition (history.take i) (history.get i) := by
  constructor
  · intro hpreceded i
    refine hpreceded _ _ (history.drop (i + 1)) ?_
    rw [List.get_eq_getElem, List.getElem_cons_drop, List.take_append_drop]
  · intro hall before a after heq
    subst heq
    have hentry := hall ⟨before.length, by simp⟩
    simpa using hentry

instance {condition : List α → α → Prop} [∀ before a, Decidable (condition before a)] :
    Decidable (Preceded condition history) :=
  decidable_of_iff _ preceded_iff.symm

/-! ## Values by key -/

section Keyed

variable {κ ν : Type*} [DecidableEq κ]

/-- The values that were recorded under a key, in order. -/
def valuesAt (key : κ) (pairs : List (κ × ν)) : List ν :=
  pairs.filterMap (fun pair => if pair.1 = key then some pair.2 else none)

theorem valuesAt_append (key : κ) (pairs more : List (κ × ν)) :
    valuesAt key (pairs ++ more) = valuesAt key pairs ++ valuesAt key more :=
  List.filterMap_append

theorem valuesAt_self (key : κ) (value : ν) : valuesAt key [(key, value)] = [value] := by
  simp [valuesAt]

theorem valuesAt_other {key other : κ} (hother : other ≠ key) (value : ν) :
    valuesAt key [(other, value)] = [] := by
  simp [valuesAt, hother]

theorem valuesAt_cons_self (key : κ) (value : ν) (pairs : List (κ × ν)) :
    valuesAt key ((key, value) :: pairs) = value :: valuesAt key pairs := by
  simp [valuesAt]

theorem mem_valuesAt {key : κ} {value : ν} {pairs : List (κ × ν)} :
    value ∈ valuesAt key pairs ↔ (key, value) ∈ pairs := by
  rw [valuesAt, List.mem_filterMap]
  constructor
  · rintro ⟨⟨key', value'⟩, hmem, hvalue⟩
    split_ifs at hvalue with hkey
    cases hkey
    cases hvalue
    exact hmem
  · intro hmem
    exact ⟨(key, value), hmem, by simp⟩

/-- If no key has a value twice, no pair occurs twice. -/
theorem nodup_of_valuesAt {pairs : List (κ × ν)}
    (hvalues : ∀ key, (valuesAt key pairs).Nodup) : pairs.Nodup := by
  induction pairs with
  | nil => exact List.nodup_nil
  | cons pair pairs ih =>
      obtain ⟨key, value⟩ := pair
      have hhead := hvalues key
      rw [valuesAt_cons_self, List.nodup_cons, mem_valuesAt] at hhead
      refine List.nodup_cons.mpr ⟨hhead.1, ih ?_⟩
      intro other
      have htail := hvalues other
      rw [show (key, value) :: pairs = [(key, value)] ++ pairs from rfl, valuesAt_append] at htail
      exact (List.nodup_append.mp htail).2.1

end Keyed

/-- If no value occurs twice, at most one entry has a given value. -/
theorem length_filter_le_one {β : Type*} {value : α → β} {entries : List α} {selected : α → Bool}
    (hnodup : (entries.map value).Nodup) {b : β}
    (hselected : ∀ entry, selected entry = true → value entry = b) :
    (entries.filter selected).length ≤ 1 := by
  have hsub : ((entries.filter selected).map value).Nodup :=
    hnodup.sublist (List.filter_sublist.map value)
  have hall : ∀ entry ∈ entries.filter selected, value entry = b :=
    fun entry hmem => hselected entry (List.mem_filter.mp hmem).2
  match hlist : entries.filter selected with
  | [] => exact Nat.zero_le _
  | [_] => exact Nat.le_refl _
  | first :: second :: rest =>
      rw [hlist] at hsub hall
      have hne : value first ≠ value second := by
        have hhead := (List.nodup_cons.mp hsub).1
        intro heq
        exact hhead (by simp [heq])
      exact absurd ((hall first (by simp)).trans (hall second (by simp)).symm) hne

end Ssp21.History
