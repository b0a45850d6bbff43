import Mathlib.Data.List.Induction
import Mathlib.Data.List.Nodup
import Mathlib.Tactic.Common
import LayeredSettings.Dictionary

/-! The keys of a dictionary, and how entries that stand in key order split at a key. -/
namespace LayeredSettings

variable {α : Type}

def Dictionary.keys (d : Dictionary α) : List String := d.entries.map (·.1)

lemma nodup_keys {entries : List (String × α)} (h : KeysIncrease entries) :
    (entries.map (·.1)).Nodup := by
  rw [List.Nodup, List.pairwise_map]
  refine List.Pairwise.imp (fun {a b} hab he => ?_) h
  rw [he] at hab
  exact String.lt_irrefl _ hab

lemma lookup_eq_none_iff_notMem {entries : List (String × α)} {key : String} :
    entries.lookup key = none ↔ key ∉ entries.map (·.1) := by
  rw [List.lookup_eq_none_iff]
  simp only [bne_iff_ne, ne_eq, List.mem_map, not_exists, not_and, eq_comm (a := key)]

lemma lookup_eq_some_of_mem {entries : List (String × α)} (hn : (entries.map (·.1)).Nodup)
    {key : String} {value : α} (h : (key,value) ∈ entries) : entries.lookup key = some value := by
  induction entries with
  | nil => simp at h
  | cons e rest ih =>
    rw [List.map_cons, List.nodup_cons] at hn
    rw [Dictionary.lookup_cons_if]
    rcases List.mem_cons.1 h with rfl | h
    · simp
    · rw [if_neg, ih hn.2 h]
      intro he
      exact hn.1 (he ▸ List.mem_map_of_mem (f := (·.1)) h)

lemma lookup_eq_some_iff_mem {entries : List (String × α)} (hn : (entries.map (·.1)).Nodup)
    {key : String} {value : α} : entries.lookup key = some value ↔ (key,value) ∈ entries := by
  constructor
  · intro h
    obtain ⟨before,after,he,-⟩ := List.lookup_eq_some_iff.1 h
    simp [he]
  · exact lookup_eq_some_of_mem hn

/-- Distinct keys lead to the same values from either end. -/
lemma lookup_reverse_of_nodup {entries : List (String × α)} (hn : (entries.map (·.1)).Nodup)
    (key : String) : entries.reverse.lookup key = entries.lookup key := by
  have hreverse : (entries.reverse.map (·.1)).Nodup := by
    rw [List.map_reverse]
    exact List.nodup_reverse.2 hn
  apply Option.ext
  intro value
  rw [lookup_eq_some_iff_mem hreverse, lookup_eq_some_iff_mem hn, List.mem_reverse]

/-- Entries in key order are told by what is found under the keys. -/
theorem keysIncrease_ext {entries others : List (String × α)} (h : KeysIncrease entries)
    (ho : KeysIncrease others) (heq : ∀ key, entries.lookup key = others.lookup key) :
    entries = others := by
  have hperm : entries.Perm others := by
    refine (List.perm_ext_iff_of_nodup (nodup_keys h).of_map (nodup_keys ho).of_map).2 ?_
    rintro ⟨key,value⟩
    rw [← lookup_eq_some_iff_mem (nodup_keys h), heq, lookup_eq_some_iff_mem (nodup_keys ho)]
  refine hperm.eq_of_pairwise (fun a b _ _ hab hba => ?_) h ho
  exact absurd (String.lt_trans hab hba) (String.lt_irrefl _)

namespace Dictionary

theorem get?_eq_none_iff {d : Dictionary α} {key : String} : d.get? key = none ↔ key ∉ d.keys :=
  lookup_eq_none_iff_notMem

theorem get?_eq_some_iff {d : Dictionary α} {key : String} {value : α} :
    d.get? key = some value ↔ (key,value) ∈ d.entries :=
  lookup_eq_some_iff_mem (nodup_keys d.ordered)

theorem get?_ofList (pairs : List (String × α)) (key : String) :
    (ofList pairs).get? key = pairs.reverse.lookup key := by
  induction pairs using List.reverseRecOn with
  | nil => rfl
  | append_singleton pairs pair ih =>
    have happ : ofList (pairs ++ [pair]) = (ofList pairs).insert pair.1 pair.2 := by
      simp [ofList, List.foldl_append]
    rw [happ, get?_insert, List.reverse_append, List.reverse_singleton, List.singleton_append,
      lookup_cons_if, ih]

lemma get?_ofList_of_nodup {pairs : List (String × α)} (hn : (pairs.map (·.1)).Nodup)
    (key : String) : (ofList pairs).get? key = pairs.lookup key := by
  rw [get?_ofList, lookup_reverse_of_nodup hn]

end Dictionary

/-- The entries before a key are those of smaller keys. -/
theorem lookup_before {before after : List (String × α)} {e : String × α}
    (h : KeysIncrease (before ++ e :: after)) (key : String) :
    before.lookup key = if key < e.1 then (before ++ e :: after).lookup key else none := by
  obtain ⟨-,hafter,hbefore⟩ := List.pairwise_append.1 h
  split_ifs with hk
  · have hne : (e :: after).lookup key = none := by
      refine lookup_eq_none_iff_notMem.2 fun hm => ?_
      obtain ⟨other,ho,rfl⟩ := List.mem_map.1 hm
      rcases List.mem_cons.1 ho with rfl | ho
      · exact String.lt_irrefl _ hk
      · exact String.lt_irrefl _ (String.lt_trans hk ((List.pairwise_cons.1 hafter).1 other ho))
    rw [List.lookup_append, hne, Option.or_none]
  · refine lookup_eq_none_iff_notMem.2 fun hm => hk ?_
    obtain ⟨other,ho,rfl⟩ := List.mem_map.1 hm
    exact hbefore other ho e (by simp)

end LayeredSettings
