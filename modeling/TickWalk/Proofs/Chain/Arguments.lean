import TickWalk.Proofs.Chain.Reads

/-!
# Arguments of chain reads

The contract takes the number of a word in 16 bits and a tick in 24. A search never leaves the closed
domain of its scan, and so no word and no tick that is asked for is out of range as long as the
ticks of the domain, and the one after it, have 24 bits. The ticks of a pool have far fewer.
-/

namespace TickWalk

variable {domain : KeyDomain} {c : Call} {e : Failure}

namespace Call

/-- A call whose argument is in the range of its type; a tick is strictly inside the domain as well. -/
inductive InRange (domain : KeyDomain) : Call → Prop
  | word {n : Int} (hfits : Abi.fits 16 n = true) : InRange domain (.word n)
  | liquidity {t : Int} (hfits : Abi.fits 24 t = true) (ht : domain.strictlyInside t = true) :
      InRange domain (.liquidity t)

lemma InRange.fits (h : c.InRange domain) : c.fits = true := by
  cases h with
  | word hfits => exact hfits
  | liquidity hfits ht => exact hfits

lemma Within.inRange (hc : c.Within domain) (hlow : -8388608 ≤ domain.minKey)
    (hhigh : domain.maxKey < 8388607) : c.InRange domain := by
  have hfits : ∀ t, domain.contains t = true →
      Abi.fits 24 t = true ∧ Abi.fits 24 (t + 1) = true := by
    intro t ht
    have hbounds := KeyDomain.contains_iff.mp ht
    rw [Abi.fits_24_iff, Abi.fits_24_iff]
    omega
  cases hc with
  | word hcursor hpos hprobe =>
    obtain ⟨hself, hnext⟩ := hfits _ hcursor
    rw [Bitmap.at?_of_pos hpos] at hprobe
    obtain rfl := Except.ok.inj hprobe
    exact .word ((Bitmap.fits_word_iff _).mpr (Bitmap.fits_firstCompressed hpos hself hnext _))
  | liquidity ht =>
    obtain ⟨hself, -⟩ := hfits _ (KeyDomain.contains_of_strictlyInside ht)
    exact .liquidity hself ht

end Call

section

variable {α β : Type} {x : Except Failure α} {f : α → Except Failure β}

lemma bind_ne_error (hx : x ≠ .error e) (hf : ∀ a, f a ≠ .error e) : (x >>= f) ≠ .error e := by
  cases x with
  | error e' => exact fun h => hx (congrArg Except.error (Except.error.inj h))
  | ok a => exact hf a

end

namespace Value

lemma toInteger_ne_argumentOutOfRange (v : Value) : v.toInteger ≠ .error .argumentOutOfRange := by
  have hspelled : ∀ given s, spelled given s ≠ .error .argumentOutOfRange := by
    intro given s
    unfold spelled
    split <;> simp
  unfold toInteger
  split
  case h_3 => split <;> simp
  all_goals first | exact hspelled _ _ | simp

lemma pair_ne_argumentOutOfRange (v : Value) : v.pair ≠ .error .argumentOutOfRange := by
  have hitems : v.items ≠ .error .argumentOutOfRange := by cases v <;> simp [items]
  unfold pair unpack
  apply bind_ne_error
  · apply bind_ne_error hitems
    intro vs
    split
    · simp
    · split <;> simp
  · intro vs
    split <;> simp

lemma amounts_ne_argumentOutOfRange (v : Value) : v.amounts ≠ .error .argumentOutOfRange := by
  apply bind_ne_error v.pair_ne_argumentOutOfRange
  intro amounts
  apply bind_ne_error amounts.1.toInteger_ne_argumentOutOfRange
  intro gross
  apply bind_ne_error amounts.2.toInteger_ne_argumentOutOfRange
  simp

end Value

/-- In a domain within the ticks of a pool, every chain read of a scan or a load has its argument in
range, and none is refused because it has not: whatever is asked, and whatever the node answers. -/
theorem chain_arguments_in_range (v : StateView) (hlow : KeyDomain.ticks.minKey ≤ domain.minKey)
    (hhigh : domain.maxKey ≤ KeyDomain.ticks.maxKey) (change : Read → Node → Node) :
    v.RunsConfined change domain (fun _ => True)
      (fun read => ∃ block c, read = v.readOf block c ∧ c.InRange domain)
      (fun e => e ≠ .argumentOutOfRange) := by
  have hrange : ∀ c : Call, c.Within domain → c.InRange domain := by
    intro c hc
    apply hc.inRange
    · exact (show (-8388608 : Int) ≤ KeyDomain.ticks.minKey by decide).trans hlow
    · exact hhigh.trans_lt (show KeyDomain.ticks.maxKey < 8388607 by decide)
  have hscans : Failure.OfScans fun e => e ≠ .argumentOutOfRange := by
    refine ⟨by simp, by simp, by simp, fun maxSteps => ?_⟩
    unfold Scanner.noRoom
    split_ifs <;> simp [Failure.notIndex, Failure.noMemory]
  apply StateView.runs_confined _ hscans fun _ _ _ => trivial
  intro snapshot
  constructor
  case unpinned =>
    intro e he
    rw [StateView.unpinned_of_block he]
    exact hscans.told (by simp)
  case untold =>
    intro c text e _ he
    rw [Text.eq_tooManyDigits_of_composed he]
    exact hscans.untold
  case read => exact fun c block hc _ _ => ⟨block, c, rfl, hrange c hc⟩
  case refusedCall =>
    intro c e hc he
    rw [v.transport.admits_of_fits (hrange c hc).fits] at he
    cases he
  case failed => exact fun call block kind message _ => hscans.told (by simp)
  case undecoded =>
    rintro pool block t e - he rfl
    exact Value.amounts_ne_argumentOutOfRange _ he

/-- A walk down to the last tick of a pool, over a node that sets every bit of the lowest word. -/
theorem chain_arguments_in_range_at_lower_bound :
    let v : StateView := ⟨.endpoint "http://node", .zero, ⟨List.replicate 32 7, rfl⟩⟩
    let node : Node := .start ⟨1, [], [], none, .null, .null, [], []⟩
    let change (_ : Read) (node : Node) : Node :=
      ⟨{ node.pool with words := some [(-3466, -1)] }, node.asked⟩
    let run := (Scanner.scan ⟨v.provider.stirred change, .ticks⟩
      ⟨.int (5 : Nat), .int (-887271), .ok .inclusive, .int 2, .int 1⟩).run node
    (KeyDomain.ticks.minKey ≤ KeyDomain.ticks.minKey ∧
      KeyDomain.ticks.maxKey ≤ KeyDomain.ticks.maxKey) ∧
      chainReads run.events =
        [.word (-3466), .liquidity (-887271), .word (-3466)].map (v.readOf 5) ∧
      run.Confined (fun _ => True)
        (fun read => ∃ block c, read = v.readOf block c ∧ c.InRange .ticks)
        (fun e => e ≠ .argumentOutOfRange) := by
  intro v node change run
  have hreads : chainReads run.events =
      [.word (-3466), .liquidity (-887271), .word (-3466)].map (v.readOf 5) := by
    subst run change node v
    rfl
  have hrange := chain_arguments_in_range v (le_refl KeyDomain.ticks.minKey) le_rfl change
  exact ⟨⟨le_rfl, le_rfl⟩, hreads, hrange.scan _ node trivial⟩

end TickWalk
