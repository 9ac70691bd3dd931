import KernelLink.Rehearsal.Clock

namespace KernelLink
namespace Clock

variable {σ : Type} {k : Clock σ} {holds : σ → Prop}

theorem awaitWith_keeps (pass : ∀ ms s, holds s → holds (k.pass ms s)) (done : σ → Bool)
    (pause deadline fuel : Nat) {s : σ} (known : holds s) : holds (k.awaitWith done pause deadline fuel s).2 := by
  induction fuel generalizing s with
  | zero => exact known
  | succ fuel ih =>
    unfold awaitWith
    split
    · exact known
    split
    · exact known
    · exact ih (pass pause s known)

theorem await_keeps (pass : ∀ ms s, holds s → holds (k.pass ms s)) (done : σ → Bool) (budget pause : Nat)
    {s : σ} (known : holds s) : holds (k.await done budget pause s).2 := awaitWith_keeps pass done _ _ _ known

/-- Whoever looks again after every pause ends with a look that finds something or one when the time is over, if there
are looks enough for the time. What holds before each look, `holds`, comes to `ends` with the last. -/
theorem awaitWith_leads {ends : Bool → σ → Prop} {done : σ → Bool} {pause deadline fuel : Nat}
    (later : ∀ s, k.now (k.pass pause s) = k.now s + pause)
    (found : ∀ s, holds s → done s = true → ends true s)
    (late : ∀ s, holds s → done s = false → deadline ≤ k.now s → ends false s)
    (again : ∀ s, holds s → done s = false → k.now s < deadline → holds (k.pass pause s)) {s : σ} (begun : holds s)
    (enough : deadline ≤ k.now s + pause * fuel) :
    ends (k.awaitWith done pause deadline fuel s).1 (k.awaitWith done pause deadline fuel s).2 := by
  induction fuel generalizing s with
  | zero =>
    unfold awaitWith
    cases seen : done s with
    | true => exact found s begun seen
    | false => exact late s begun seen enough
  | succ fuel ih =>
    unfold awaitWith
    cases seen : done s with
    | true => exact found s begun seen
    | false =>
      rw [if_neg Bool.false_ne_true]
      by_cases due : deadline ≤ k.now s
      · rw [if_pos due]
        exact late s begun seen due
      · rw [if_neg due]
        refine ih (again s begun seen (Nat.lt_of_not_le due)) ?_
        rw [later, Nat.add_assoc, Nat.add_comm pause, ← Nat.mul_succ]
        exact enough

/-- A wait has looks enough for its time. -/
theorem await_leads (holds : σ → Prop) (ends : Bool → σ → Prop) {done : σ → Bool} {budget pause : Nat} {s s' : σ}
    {answer : Bool} (waited : k.await done budget pause s = (answer, s'))
    (later : ∀ ms s, k.now (k.pass ms s) = k.now s + ms)
    (found : ∀ t, holds t → done t = true → ends true t)
    (late : ∀ t, holds t → done t = false → k.now s + budget ≤ k.now t → ends false t)
    (again : ∀ t, holds t → done t = false → k.now t < k.now s + budget → holds (k.pass (max pause 1) t))
    (begun : holds s) : ends answer s' := by
  have enough : k.now s + budget ≤ k.now s + max pause 1 * (budget / max pause 1 + 2) := by
    have covers := Nat.lt_mul_div_succ budget (Nat.lt_of_lt_of_le Nat.one_pos (Nat.le_max_right pause 1))
    rw [Nat.mul_succ]
    omega
  have ended := awaitWith_leads (later _) found late again begun enough
  rw [← await, waited] at ended
  exact ended

end Clock
end KernelLink
