import Mathlib.Data.List.Nodup
import Mathlib.Logic.Function.Basic
import Compositing.Registry
import Compositing.Table

/-! Registries and tables by what they hold under a key. -/

namespace Compositing

namespace Registry

variable {kind : Kind} {α : Type} (r : Registry kind α)

@[simp] theorem get?_nextKey : r.get? r.nextKey = none := by
  simp [get?, nextKey]

theorem index_lt {key : Key kind} {value : α} (held : r.get? key = some value) :
    key.index < r.nextKey.index := by
  have slot : r.slots[key.index]? = some (some value) := Option.join_eq_some_iff.mp held
  exact (List.getElem?_eq_some_iff.mp slot).1

@[simp] theorem nextKey_add (value : α) : (r.add value).nextKey = ⟨r.nextKey.index + 1⟩ := by
  simp [nextKey, add]

@[simp] theorem nextKey_modify (key : Key kind) (change : α → α) :
    (r.modify key change).nextKey = r.nextKey := by
  simp [nextKey, modify]

@[simp] theorem nextKey_set (key : Key kind) (value : α) : (r.set key value).nextKey = r.nextKey :=
  r.nextKey_modify key _

@[simp] theorem nextKey_removeAll (keys : List (Key kind)) :
    (keys.foldl remove r).nextKey = r.nextKey := by
  induction keys generalizing r with
  | nil => rfl
  | cons key rest ih =>
      rw [List.foldl_cons, ih]
      simp [nextKey, remove]

theorem get?_set (key other : Key kind) (value : α) :
    (r.set key value).get? other =
      if other = key then (r.get? key).map fun _ => value else r.get? other := by
  by_cases same : other = key
  · rw [if_pos same, same]
    exact r.get?_modify_self key _
  · rw [if_neg same]
    exact r.get?_modify_other _ same

@[simp] theorem get?_set_self {r : Registry kind α} {key : Key kind} {old : α}
    (held : r.get? key = some old) (value : α) : (r.set key value).get? key = some value := by
  rw [get?_set, if_pos rfl, held, Option.map_some]

@[simp] theorem get?_set_other {key other : Key kind} (apart : other ≠ key) (value : α) :
    (r.set key value).get? other = r.get? other := by
  rw [get?_set, if_neg apart]

theorem set_held {r : Registry kind α} {key : Key kind} {value : α}
    (held : r.get? key = some value) : r.set key value = r := by
  rcases r with ⟨slots⟩
  have slot : slots[key.index]? = some (some value) := Option.join_eq_some_iff.mp held
  rw [set, modify]
  congr 1
  apply List.ext_getElem?
  intro i
  rw [List.getElem?_modify]
  by_cases same : key.index = i
  · rw [← same, slot]
    simp
  · simp [same]

theorem remove_absent {r : Registry kind α} {key : Key kind} (absent : r.get? key = none) :
    r.remove key = r := by
  rcases r with ⟨slots⟩
  have empty : slots[key.index]?.join = none := absent
  rw [remove]
  congr 1
  cases slot : slots[key.index]? with
  | none => exact List.set_eq_of_length_le (List.getElem?_eq_none_iff.mp slot)
  | some held =>
      rw [slot, Option.join_some] at empty
      rcases List.getElem?_eq_some_iff.mp slot with ⟨inside, there⟩
      rw [← empty, ← there, List.set_getElem_self]

theorem get?_remove (key other : Key kind) :
    (r.remove key).get? other = if other = key then none else r.get? other := by
  by_cases same : other = key
  · rw [if_pos same, same]
    exact r.get?_remove_self key
  · rw [if_neg same]
    exact r.get?_remove_other same

@[simp] theorem set_set (key : Key kind) (first second : α) :
    (r.set key first).set key second = r.set key second := by
  simp only [set, modify, List.modify_modify_eq, Option.map_comp_map]
  rfl

theorem modify_held {r : Registry kind α} {key : Key kind} {value : α}
    (held : r.get? key = some value) (change : α → α) :
    r.modify key change = r.set key (change value) :=
  calc r.modify key change
      = (r.set key value).modify key change := by rw [set_held held]
    _ = r.set key (change value) := by
        simp only [set, modify, List.modify_modify_eq, Option.map_comp_map]
        rfl

@[simp] theorem remove_set (key : Key kind) (value : α) :
    (r.set key value).remove key = r.remove key := by
  simp only [set, modify, remove]
  congr 1
  apply List.ext_getElem?
  intro i
  rw [List.getElem?_set, List.getElem?_set, List.getElem?_modify, List.length_modify]
  by_cases same : key.index = i <;> simp [same]

@[simp] theorem mem_toList {key : Key kind} {value : α} :
    (key, value) ∈ r.toList ↔ r.get? key = some value := by
  simp only [toList, List.mem_filterMap, Prod.exists, List.mem_zipIdx_iff_getElem?,
    Option.map_eq_some_iff, Prod.mk.injEq, get?, Option.join_eq_some_iff]
  constructor
  · intro listed
    rcases listed with ⟨slot, index, there, held, rfl, rfl, rfl⟩
    exact there
  · intro there
    exact ⟨some value, key.index, there, value, rfl, rfl, rfl⟩

theorem keys_nodup : r.keys.Nodup := by
  have places : (r.slots.zipIdx.map (·.2)).Nodup := by
    rw [List.zipIdx_map_snd]
    exact List.nodup_range'
  rw [keys, toList, List.Nodup, List.pairwise_map, List.pairwise_filterMap]
  apply (List.pairwise_map.mp places).imp
  intro first second apart entry held entry' held' same
  rcases first with ⟨slot, index⟩
  rcases second with ⟨other, place⟩
  rcases Option.map_eq_some_iff.mp held with ⟨value, _, rfl⟩
  rcases Option.map_eq_some_iff.mp held' with ⟨value', _, rfl⟩
  exact apart (congrArg Key.index same)

theorem mem_keys {key : Key kind} : key ∈ r.keys ↔ ∃ value, r.get? key = some value := by
  simp only [keys, List.mem_map, Prod.exists, mem_toList]
  constructor
  · intro listed
    rcases listed with ⟨_, value, held, rfl⟩
    exact ⟨value, held⟩
  · intro held
    rcases held with ⟨value, held⟩
    exact ⟨key, value, held, rfl⟩

theorem count_eq : r.count = r.keys.length := (List.length_map ..).symm

theorem get?_removeAll (keys : List (Key kind)) (other : Key kind) :
    (keys.foldl remove r).get? other = if other ∈ keys then none else r.get? other := by
  induction keys generalizing r with
  | nil => simp
  | cons key rest ih =>
      rw [List.foldl_cons, ih, get?_remove]
      by_cases same : other = key <;> simp [same]

def Each (r : Registry kind α) (holds : α → Prop) : Prop :=
  ∀ key value, r.get? key = some value → holds value

section Each

variable {r : Registry kind α} {holds : α → Prop} (each : r.Each holds)

include each

theorem Each.add {value : α} (holding : holds value) : (r.add value).Each holds := by
  intro key found there
  by_cases new : key = r.nextKey
  · rw [new, get?_add_next] at there
    cases there
    exact holding
  · rw [r.get?_add_other value new] at there
    exact each key found there

theorem Each.set {value : α} (holding : holds value) (key : Key kind) :
    (r.set key value).Each holds := by
  intro other found there
  rw [get?_set] at there
  split at there
  · rcases Option.map_eq_some_iff.mp there with ⟨_, _, rfl⟩
    exact holding
  · exact each other found there

theorem Each.removeAll (keys : List (Key kind)) : (keys.foldl Registry.remove r).Each holds := by
  intro other found there
  rw [get?_removeAll] at there
  split at there
  · cases there
  · exact each other found there

end Each

theorem view_eq {β : Type} (view : Option α → β) {r after : Registry kind α} {key : Key kind}
    (others : ∀ other, other ≠ key → after.get? other = r.get? other) :
    (fun other => view (after.get? other)) =
      Function.update (fun other => view (r.get? other)) key (view (after.get? key)) := by
  funext other
  by_cases same : other = key
  · rw [same, Function.update_self]
  · rw [Function.update_of_ne same, others other same]

end Registry

namespace Table

variable {κ α : Type} [DecidableEq κ] (t : Table κ α)

@[simp] theorem get?_insert (key other : κ) (value : α) :
    (t.insert key value).get? other = if other = key then some value else t.get? other := by
  rw [insert]
  split
  · rename_i present
    -- A replaced entry keeps its key, so the search ends at the same place.
    have keeps : ((fun entry : κ × α => decide (entry.1 = other)) ∘ fun entry =>
        if entry.1 = key then (key, value) else entry) = fun entry => decide (entry.1 = other) := by
      funext entry
      by_cases own : entry.1 = key <;> simp [own]
    rw [get?, List.find?_map, keeps, Option.map_map, get?]
    cases search : t.entries.find? fun entry => decide (entry.1 = other) with
    | none =>
        have absent := List.find?_eq_none.mp search
        by_cases same : other = key
        · rcases List.any_eq_true.mp present with ⟨entry, member, own⟩
          exact absurd (same ▸ own) (absent entry member)
        · rw [if_neg same]
          rfl
    | some entry =>
        have found : entry.1 = other := by simpa using List.find?_some search
        by_cases same : other = key
        · simp [found, same]
        · simp [found, same]
  · rename_i absent
    rw [get?, List.find?_append, get?]
    by_cases same : other = key
    · have missing : t.entries.find? (fun entry => decide (entry.1 = other)) = none := by
        apply List.find?_eq_none.mpr
        intro entry member own
        exact absent (List.any_eq_true.mpr ⟨entry, member, same ▸ own⟩)
      rw [missing, same]
      simp
    · have skipped : key ≠ other := Ne.symm same
      simp [same, skipped]

@[simp] theorem get?_erase (key other : κ) :
    (t.erase key).get? other = if other = key then none else t.get? other := by
  rw [get?, erase, List.find?_filter, get?]
  by_cases same : other = key
  · subst same
    simp
  · rw [if_neg same]
    congr 2
    funext entry
    by_cases own : entry.1 = other <;> simp [own, same]

theorem entries_eq_nil {t : Table κ α} (none : ∀ key, t.get? key = none) : t.entries = [] := by
  rcases t with ⟨entries⟩
  cases entries with
  | nil => rfl
  | cons entry rest =>
      have absent := none entry.1
      simp [get?] at absent

def keys : List κ := t.entries.map (·.1)

theorem keyed_iff {key : κ} : (t.entries.any fun entry => entry.1 = key) = true ↔ key ∈ t.keys := by
  simp [keys]

theorem mem_keys {key : κ} : key ∈ t.keys ↔ (t.get? key).isSome := by
  rw [← keyed_iff, get?, Option.isSome_map, List.find?_isSome, List.any_eq_true]

theorem keys_insert (key : κ) (value : α) :
    (t.insert key value).keys = if key ∈ t.keys then t.keys else t.keys ++ [key] := by
  simp only [insert, keyed_iff]
  split
  · have same : (fun entry : κ × α => entry.1) ∘ (fun entry =>
        if entry.1 = key then (key, value) else entry) = fun entry => entry.1 := by
      funext entry
      by_cases own : entry.1 = key <;> simp [own]
    rw [keys, List.map_map, same, keys]
  · rw [keys, List.map_append, List.map_cons, List.map_nil, keys]

theorem keys_erase (key : κ) : (t.erase key).keys.Sublist t.keys := List.filter_sublist.map _

def Distinct (t : Table κ α) : Prop := (t.entries.map (·.1)).Nodup

section Distinct

variable {t} (distinct : t.Distinct)

include distinct

theorem Distinct.insert (key : κ) (value : α) : (t.insert key value).Distinct := by
  change (t.insert key value).keys.Nodup
  rw [keys_insert]
  split
  · exact distinct
  · rename_i absent
    rw [← List.concat_eq_append]
    exact List.Nodup.concat absent distinct

theorem Distinct.erase (key : κ) : (t.erase key).Distinct := distinct.sublist (t.keys_erase key)

theorem mem_entries {key : κ} {value : α} : (key, value) ∈ t.entries ↔ t.get? key = some value := by
  rw [get?, Option.map_eq_some_iff]
  constructor
  · intro member
    refine ⟨(key, value), ?_, rfl⟩
    cases search : t.entries.find? fun other => decide (other.1 = key) with
    | none => exact absurd (decide_eq_true rfl) (List.find?_eq_none.mp search _ member)
    | some other =>
        have same : other.1 = key := by simpa using List.find?_some search
        rw [List.inj_on_of_nodup_map distinct (List.mem_of_find?_eq_some search) member same]
  · rintro ⟨entry, search, rfl⟩
    have same : entry.1 = key := by simpa using List.find?_some search
    rw [← same]
    exact List.mem_of_find?_eq_some search

theorem mem_values {value : α} : value ∈ t.values ↔ ∃ key, t.get? key = some value := by
  simp only [values, List.mem_map, ← mem_entries distinct]
  constructor
  · rintro ⟨entry, member, rfl⟩
    exact ⟨entry.1, member⟩
  · rintro ⟨key, member⟩
    exact ⟨(key, value), member, rfl⟩

end Distinct

end Table

end Compositing
