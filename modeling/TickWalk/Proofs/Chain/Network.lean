import TickWalk.Chain.Network
import Mathlib.Data.List.Nodup
import Mathlib.Tactic.Lemma

/-!
# Networks by their names

A text names a network when its lower case is the key of the network. The number of a network is looked up
only where it is given as a number: written as a text it is taken for a name, and no network has such a
name.
-/

namespace TickWalk.Network

variable {n : Network} {name : String}

/-- The number of the network in decimal digits. -/
def idText (n : Network) : String := toString n.chainId

/-- A network is found under every text whose lower case is its key. -/
theorem ofName_eq_ok_iff : ofName name = .ok n ↔ n ∈ known ∧ Text.lowercase name = n.key := by
  have hdistinct : (known.map (·.key)).Nodup := by decide
  unfold ofName
  dsimp only
  constructor
  · intro h
    split at h
    · rename_i m hfind
      obtain rfl := Except.ok.inj h
      have hkey := List.find?_some hfind
      exact ⟨List.mem_of_find?_eq_some hfind, (beq_iff_eq.mp hkey).symm⟩
    · cases h
  · rintro ⟨hn, hname⟩
    cases hfind : known.find? (·.key == Text.lowercase name) with
    | none => exact absurd (beq_iff_eq.mpr hname.symm) (List.find?_eq_none.mp hfind n hn)
    | some m =>
      have hkey := List.find?_some hfind
      rw [List.inj_on_of_nodup_map hdistinct (List.mem_of_find?_eq_some hfind) hn
        ((beq_iff_eq.mp hkey).trans hname)]

/-- The number of a network is no name. -/
theorem ofName_idText (hn : n ∈ known) :
    ofName n.idText = .error (.unsupportedChain n.idText (known.map (·.key))) := by
  have hnumbers : ∀ m ∈ known, Text.lowercase m.idText = m.idText ∧
      known.find? (·.key == m.idText) = none := by decide +kernel
  obtain ⟨hlower, hfind⟩ := hnumbers n hn
  unfold ofName
  dsimp only
  rw [hlower, hfind]

end TickWalk.Network
