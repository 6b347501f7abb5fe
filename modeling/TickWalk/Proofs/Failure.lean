import TickWalk.Scan.Walk
import TickWalk.Proofs.Text.Integer
import Mathlib.Tactic.SplitIfs

/-!
# Messages and slots within their limits

A message can be composed when every integer that it shows is short, and copies can be made when there
are no more of them than a list may have. Otherwise the operation fails with that instead.
-/

namespace TickWalk

namespace Value

lemma isShort_int_iff {i : Int} : (int i).isShort = true ↔ Text.Short i := by
  unfold isShort
  exact decide_eq_true_iff

lemma isShort_of_le {i : Int} (h : Nat.pow 10 Text.digitLimit ≤ i.natAbs) :
    (int i).isShort = false := by
  rw [Bool.eq_false_iff, ne_eq, isShort_int_iff, Text.short_iff]
  exact Nat.not_lt.mpr h

end Value

section Messages

variable {shown : List Value} {text : String} {e : Failure}

lemma Text.composed_of_short (h : ∀ v ∈ shown, v.isShort = true) : composed shown text = .ok text :=
  if_pos (List.all_eq_true.mpr h)

lemma Text.composed_singleton {v : Value} (h : v.isShort = true) (text : String) :
    composed [v] text = .ok text :=
  composed_of_short fun _ hw => List.mem_singleton.mp hw ▸ h

lemma Text.composed_of_long {v : Value} (hv : v ∈ shown) (h : v.isShort = false) :
    composed shown text = .error (.tooManyDigits none) := by
  refine if_neg fun hall => ?_
  rw [List.all_eq_true.mp hall v hv] at h
  cases h

lemma Text.composed_cases (shown : List Value) :
    ((∀ v ∈ shown, v.isShort = true) ∧ ∀ text, composed shown text = .ok text) ∨
      (∃ v ∈ shown, v.isShort = false) ∧ ∀ text, composed shown text = .error (.tooManyDigits none) := by
  cases hall : shown.all Value.isShort with
  | true =>
    rw [List.all_eq_true] at hall
    exact .inl ⟨hall, fun _ => composed_of_short hall⟩
  | false =>
    rw [List.all_eq_false] at hall
    obtain ⟨v, hv, hlong⟩ := hall
    rw [Bool.not_eq_true] at hlong
    exact .inr ⟨⟨v, hv, hlong⟩, fun _ => composed_of_long hv hlong⟩

lemma Text.eq_of_composed {s : String} (h : composed shown text = .ok s) :
    s = text ∧ ∀ v ∈ shown, v.isShort = true := by
  unfold composed at h
  split_ifs at h with hshort
  exact ⟨(Except.ok.inj h).symm, List.all_eq_true.mp hshort⟩

lemma Text.eq_tooManyDigits_of_composed (h : composed shown text = .error e) :
    e = .tooManyDigits none := by
  unfold composed at h
  split_ifs at h
  exact (Except.error.inj h).symm

namespace Failure

lemma told_of_short (h : ∀ v ∈ e.shows, v.isShort = true) : e.told = e :=
  if_pos (List.all_eq_true.mpr h)

lemma told_of_long {v : Value} (hv : v ∈ e.shows) (h : v.isShort = false) :
    e.told = .tooManyDigits none := by
  refine if_neg fun hall => ?_
  rw [List.all_eq_true.mp hall v hv] at h
  cases h

lemma told_eq_or (e : Failure) : e.told = e ∨ e.told = .tooManyDigits none := by
  unfold told
  split_ifs
  · exact .inl rfl
  · exact .inr rfl

lemma told_readFailed (call : String) (block : Int) (kind message : String) :
    let failure := readFailed call block (.raised kind message)
    failure.told = if (Value.int block).isShort then failure else .tooManyDigits none := by
  intro failure
  have hshows : failure.shows.all Value.isShort = (Value.int block).isShort := Bool.and_true _
  rw [told, hshows]

lemma told_request_iff (fault : RequestFault) :
    (request fault).told = request fault ↔ ∀ v ∈ fault.shows, v.isShort = true := by
  constructor
  · intro h v hv
    cases hshort : v.isShort with
    | true => rfl
    | false =>
      rw [told_of_long hv hshort] at h
      cases h
  · exact told_of_short (e := request fault)

end Failure

end Messages

section Copies

variable {most k : Nat} {n : Int}

lemma copies_eq_ok_iff (hmost : most < Nat.pow 2 63) :
    copies most n = .ok k ↔ (-(Nat.pow 2 63 : Nat) ≤ n ∧ n ≤ most) ∧ n.toNat = k := by
  unfold copies
  simp only [Bool.or_eq_true, decide_eq_true_eq]
  split_ifs with hindex hroom
  · refine iff_of_false (fun h => nomatch h) ?_
    omega
  · refine iff_of_false (fun h => nomatch h) ?_
    omega
  · have hin : -(Nat.pow 2 63 : Nat) ≤ n ∧ n ≤ most := by omega
    rw [Except.ok.injEq, and_iff_right hin]

end Copies

namespace Scanner

def noRoom (maxSteps : Nat) : Failure :=
  if Nat.pow 2 63 ≤ maxSteps then .notIndex else .noMemory

lemma copies_of_le {maxSteps : Nat} (h : maxSteps ≤ slotLimit) :
    copies slotLimit maxSteps = .ok maxSteps := by
  have hnonneg : -((Nat.pow 2 63 : Nat) : Int) ≤ maxSteps := by omega
  exact (copies_eq_ok_iff (by decide)).mpr ⟨⟨hnonneg, Int.ofNat_le.mpr h⟩, Int.toNat_natCast _⟩

lemma copies_of_lt {maxSteps : Nat} (h : slotLimit < maxSteps) :
    copies slotLimit maxSteps = .error (noRoom maxSteps) := by
  have hindex : ((Nat.pow 2 63 : Nat) ≤ (maxSteps : Int) ∨ (maxSteps : Int) < -(Nat.pow 2 63 : Nat)) ↔
      Nat.pow 2 63 ≤ maxSteps := by
    omega
  have hroom : (slotLimit : Int) < maxSteps := Int.ofNat_lt.mpr h
  simp only [copies, Bool.or_eq_true, decide_eq_true_eq, hindex, if_pos hroom, noRoom]
  split_ifs
  · rfl
  · rfl

end Scanner

end TickWalk
