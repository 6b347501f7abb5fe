import TickWalk.Keyed
import Mathlib.Data.List.Nodup

/-!
# What numbered entries hold

Writing keeps one entry for each number. When many entries are written one after the other, the last
one under a number is read, and as long as no number occurs twice the order of entries does not matter
to a reader.
-/

namespace TickWalk.Keyed

variable {α : Type} {entries more : Keyed α} {n m : Int} {a : α}

lemma mem_keys_iff : n ∈ entries.map (·.1) ↔ (entries.get? n).isSome = true := by
  simp only [List.mem_map, get?, List.lookup_isSome_iff, beq_iff_eq]
  constructor
  · rintro ⟨p, hp, h⟩
    exact ⟨p, hp, h.symm⟩
  · rintro ⟨p, hp, h⟩
    exact ⟨p, hp, h.symm⟩

lemma mem_keys_put : m ∈ (entries.put n a).map (·.1) ↔ m = n ∨ m ∈ entries.map (·.1) := by
  rw [mem_keys_iff, mem_keys_iff, get?_put]
  by_cases h : m = n <;> simp [h]

lemma nodup_put (h : (entries.map (·.1)).Nodup) (n : Int) (a : α) :
    ((entries.put n a).map (·.1)).Nodup := by
  induction entries with
  | nil => simp [put]
  | cons p rest ih =>
    obtain ⟨m, old⟩ := p
    rw [List.map_cons, List.nodup_cons] at h
    by_cases hm : m = n
    · subst hm
      simp only [put, if_true, List.map_cons, List.nodup_cons]
      exact h
    · simp only [put, hm, if_false, List.map_cons, List.nodup_cons]
      refine ⟨?_, ih h.2⟩
      intro hmem
      rcases mem_keys_put.mp hmem with heq | hrest
      · exact hm heq
      · exact h.1 hrest

lemma put_fresh (h : n ∉ entries.map (·.1)) (a : α) : entries.put n a = entries ++ [(n, a)] := by
  induction entries with
  | nil => rfl
  | cons p rest ih =>
    obtain ⟨m, b⟩ := p
    rw [List.map_cons, List.mem_cons, not_or] at h
    rw [put, if_neg (Ne.symm h.1), ih h.2]
    rfl

lemma eq_or_mem_of_mem_put {e : Int × α} (h : e ∈ entries.put n a) : e = (n, a) ∨ e ∈ entries := by
  induction entries with
  | nil => exact .inl (List.mem_singleton.mp h)
  | cons p rest ih =>
    obtain ⟨m, old⟩ := p
    unfold put at h
    split at h
    · rename_i heq
      rcases List.mem_cons.mp h with rfl | hrest
      · exact .inl (by rw [heq])
      · exact .inr (List.mem_cons_of_mem _ hrest)
    · rcases List.mem_cons.mp h with rfl | hrest
      · exact .inr List.mem_cons_self
      · exact (ih hrest).imp_right (List.mem_cons_of_mem _)

lemma get?_append (entries more : Keyed α) (n : Int) :
    get? (entries ++ more) n = (entries.get? n).or (more.get? n) :=
  List.lookup_append

lemma mem_of_get? (h : entries.get? n = some a) : (n, a) ∈ entries := by
  induction entries with
  | nil => cases h
  | cons p rest ih =>
    obtain ⟨m, b⟩ := p
    rw [get?_cons] at h
    split at h
    · rename_i heq
      rw [heq, Option.some.inj h]
      exact List.mem_cons_self
    · exact List.mem_cons_of_mem _ (ih h)

lemma get?_eq_some_iff (h : (entries.map (·.1)).Nodup) :
    entries.get? n = some a ↔ (n, a) ∈ entries := by
  refine ⟨mem_of_get?, fun hmem => ?_⟩
  have hkey : n ∈ entries.map (·.1) := List.mem_map_of_mem hmem
  obtain ⟨b, hb⟩ := Option.isSome_iff_exists.mp (mem_keys_iff.mp hkey)
  have heq := List.inj_on_of_nodup_map h (mem_of_get? hb) hmem rfl
  rw [hb, (Prod.mk.inj heq).2]

lemma get?_of_perm (h : (entries.map (·.1)).Nodup) (hperm : entries.Perm more) (n : Int) :
    entries.get? n = more.get? n := by
  have hmore : (more.map (·.1)).Nodup := (hperm.map _).nodup_iff.mp h
  apply Option.ext
  intro a
  rw [get?_eq_some_iff h, get?_eq_some_iff hmore, hperm.mem_iff]

def putAll (entries more : Keyed α) : Keyed α := more.foldl (fun es e => es.put e.1 e.2) entries

lemma nodup_putAll (h : (entries.map (·.1)).Nodup) : ((putAll entries more).map (·.1)).Nodup := by
  induction more generalizing entries with
  | nil => exact h
  | cons e rest ih => exact ih (nodup_put h e.1 e.2)

/-- The entry that was written last is read. -/
theorem get?_putAll (entries more : Keyed α) (n : Int) :
    (putAll entries more).get? n = (get? more.reverse n).or (entries.get? n) := by
  induction more generalizing entries with
  | nil => rfl
  | cons e rest ih =>
    obtain ⟨m, b⟩ := e
    have hstep : putAll entries ((m, b) :: rest) = putAll (entries.put m b) rest := rfl
    rw [hstep, ih, get?_put, List.reverse_cons, get?_append, Option.or_assoc, get?_cons]
    by_cases h : n = m <;> simp [h]

end TickWalk.Keyed
