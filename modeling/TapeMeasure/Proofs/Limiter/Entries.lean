import Mathlib.Data.List.Dedup
import Mathlib.Data.List.Nodup
import Mathlib.Data.List.Perm.Subperm
import TapeMeasure.Limiter

/-!
# The entries of the limiter

What one check does to the remembered times.  A check looks only at the times of its own key, and
as long as there is room for every key, it changes only these: a request that is let through is
added to those that still count, and requests that no longer count are forgotten.

* `Within`: every key has one entry at most, and all of them are among some given keys.
* `evict_of_within`: nothing is dropped while there is room for the given keys.
* `verdict`, `remembered`: the answer of a check, and the times that it leaves.
* `check_fst`, `times_check`, `Within.check`: a check in these terms.
-/

namespace TapeMeasure

namespace Limiter

variable {config : Config} {entries : Entries} {keys : List String} {key : String}

/-! ## Remembered times -/

@[simp] theorem times_nil (key : String) : times [] key = [] := rfl

theorem times_cons (entry : String × List Double) (entries : Entries) (key : String) :
    times (entry :: entries) key = if entry.1 = key then entry.2 else times entries key := by
  by_cases heq : entry.1 = key <;> simp [times, heq]

/-- A removed key that comes last has its new times, and other keys keep theirs. -/
theorem times_remove_append (key : String) (recent : List Double) (entries : Entries)
    (other : String) :
    times (remove key entries ++ [(key, recent)]) other =
      if key = other then recent else times entries other := by
  induction entries with
  | nil => simp [remove, times_cons]
  | cons entry entries ih =>
    rw [remove] at ih
    rw [remove, List.filter_cons]
    by_cases hkey : entry.1 = key
    · rw [if_neg (by simpa using hkey), ih, times_cons, hkey]
      by_cases hother : key = other
      · rw [if_pos hother, if_pos hother]
      · rw [if_neg hother, if_neg hother, if_neg hother]
    · rw [if_pos (by simpa using hkey), List.cons_append, times_cons, ih, times_cons]
      by_cases hother : entry.1 = other
      · rw [if_pos hother, if_pos hother, if_neg (fun heq => hkey (hother.trans heq.symm))]
      · rw [if_neg hother, if_neg hother]

/-- Other keys keep their times when one is put, and that one has the times that were put. -/
theorem times_put (key : String) (recent : List Double) (entries : Entries) (other : String) :
    times (put key recent entries) other =
      if key = other then recent else times entries other := by
  by_cases heq : key = other
  · rw [if_pos heq, ← heq, times_put_self]
  · rw [if_neg heq, times_put_of_ne (Ne.symm heq)]

/-! ## Room for every key -/

/-- Every key has one entry at most, and all of them are among the given keys. -/
structure Within (keys : List String) (entries : Entries) : Prop where
  nodup : (entries.map Prod.fst).Nodup
  subset : entries.map Prod.fst ⊆ keys

theorem within_nil (keys : List String) : Within keys [] :=
  ⟨List.nodup_nil, List.nil_subset keys⟩

/-- There are no more entries than different keys. -/
theorem Within.length_le (h : Within keys entries) : entries.length ≤ keys.dedup.length := by
  rw [← List.length_map (f := Prod.fst)]
  exact (List.Nodup.subperm h.nodup fun _ hmem => List.mem_dedup.mpr (h.subset hmem)).length_le

/-- No key is there twice after one was moved to the end. -/
theorem nodup_keys_remove_append (h : (entries.map Prod.fst).Nodup) (recent : List Double) :
    ((remove key entries ++ [(key, recent)]).map Prod.fst).Nodup := by
  have hsub : ((remove key entries).map Prod.fst).Sublist (entries.map Prod.fst) :=
    List.filter_sublist.map Prod.fst
  rw [← List.concat_eq_append, List.map_concat]
  exact (hsub.nodup h).concat (notMem_keys_remove key entries)

theorem Within.remove_append (h : Within keys entries) (hkey : key ∈ keys)
    (recent : List Double) : Within keys (remove key entries ++ [(key, recent)]) := by
  have hsub : (remove key entries).map Prod.fst ⊆ entries.map Prod.fst :=
    List.map_subset Prod.fst (List.filter_sublist.subset)
  refine ⟨nodup_keys_remove_append h.nodup recent, ?_⟩
  rw [List.map_append]
  exact List.append_subset.mpr ⟨fun _ hmem => h.subset (hsub hmem), by simpa using hkey⟩

theorem keys_put_of_mem {recent : List Double} (h : key ∈ entries.map Prod.fst) :
    (put key recent entries).map Prod.fst = entries.map Prod.fst := by
  induction entries with
  | nil => cases h
  | cons entry entries ih =>
    rw [put]
    split
    · rename_i heq
      rw [List.map_cons, List.map_cons, heq]
    · rename_i hne
      rw [List.map_cons, List.mem_cons] at h
      rw [List.map_cons, List.map_cons, ih (h.resolve_left (Ne.symm hne))]

theorem put_of_notMem {recent : List Double} (h : key ∉ entries.map Prod.fst) :
    put key recent entries = entries ++ [(key, recent)] := by
  induction entries with
  | nil => rfl
  | cons entry entries ih =>
    rw [List.map_cons, List.mem_cons, not_or] at h
    rw [put, if_neg (Ne.symm h.1), ih h.2, List.cons_append]

theorem Within.put (h : Within keys entries) (hkey : key ∈ keys) (recent : List Double) :
    Within keys (put key recent entries) := by
  by_cases hmem : key ∈ entries.map Prod.fst
  · exact ⟨(keys_put_of_mem hmem).symm ▸ h.nodup, (keys_put_of_mem hmem).symm ▸ h.subset⟩
  · rw [put_of_notMem hmem]
    have hremove : remove key entries = entries :=
      List.filter_eq_self.mpr fun entry hentry => by
        simpa using fun heq : entry.1 = key => hmem (heq ▸ List.mem_map_of_mem hentry)
    rw [← hremove]
    exact h.remove_append hkey recent

/-- Nothing is dropped while there is room for the given keys. -/
theorem evict_of_within (h : Within keys entries) (hroom : (keys.dedup.length : Int) ≤
    config.maxKeys) (now : Double) : evict config now entries = entries := by
  have hlength := h.length_le
  rw [evict, if_pos (by omega)]

/-! ## One check -/

/-- The answer to a request, from the times of its key that count. -/
def verdict (config : Config) (now : Double) (recent : List Double) : Except Fault Decision :=
  if config.maxRequests ≤ recent.length then deny config now recent
  else allow config (recent ++ [now])

/-- The times of a key that are remembered after a request. -/
def remembered (config : Config) (now : Double) (recent : List Double) : List Double :=
  if config.maxRequests ≤ recent.length then recent else recent ++ [now]

/-- The answer depends only on the times of the key that count. -/
theorem check_fst (config : Config) (entries : Entries) (now : Double) (key : String) :
    (check config entries now key).1 = verdict config now (recentTimes config entries now key) := by
  simp only [check, verdict]
  split <;> rfl

/-- The entries after a check, if there is room for all keys. -/
theorem check_snd (h : Within keys entries) (hkey : key ∈ keys)
    (hroom : (keys.dedup.length : Int) ≤ config.maxKeys) (now : Double) :
    (check config entries now key).2 =
      if config.maxRequests ≤ (recentTimes config entries now key).length then
        put key (recentTimes config entries now key) entries
      else remove key entries ++ [(key, recentTimes config entries now key ++ [now])] := by
  simp only [check]
  split
  · rfl
  · exact evict_of_within (h.remove_append hkey _) hroom now

/-- A check changes the times of its own key and no others. -/
theorem times_check (h : Within keys entries) (hkey : key ∈ keys)
    (hroom : (keys.dedup.length : Int) ≤ config.maxKeys) (now : Double) (other : String) :
    times (check config entries now key).2 other =
      if key = other then remembered config now (recentTimes config entries now key)
      else times entries other := by
  rw [check_snd h hkey hroom, remembered]
  split
  · rw [times_put]
  · rw [times_remove_append]

theorem Within.check (h : Within keys entries) (hkey : key ∈ keys)
    (hroom : (keys.dedup.length : Int) ≤ config.maxKeys) (now : Double) :
    Within keys (Limiter.check config entries now key).2 := by
  rw [check_snd h hkey hroom]
  split
  · exact h.put hkey _
  · exact h.remove_append hkey _

end Limiter

end TapeMeasure
