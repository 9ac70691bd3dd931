namespace KernelLink

/-- A world with a clock in milliseconds, and how it goes on when time passes. -/
structure Clock (σ : Type) where
  now : σ → Nat
  pass : Nat → σ → σ

namespace Clock

variable {σ : Type}

/-- Looks whether something is the case, and again after every pause, up to a time. -/
def awaitWith (k : Clock σ) (done : σ → Bool) (pause deadline : Nat) : Nat → σ → Bool × σ
  | 0, s => (done s, s)
  | fuel + 1, s =>
    if done s then (true, s)
    else if deadline ≤ k.now s then (false, s)
    else awaitWith k done pause deadline fuel (k.pass pause s)

/-- Waits for something for a time, and looks at it after every pause. No pause is shorter than a
millisecond. -/
def await (k : Clock σ) (done : σ → Bool) (budget pause : Nat) (s : σ) : Bool × σ :=
  k.awaitWith done (max pause 1) (k.now s + budget) (budget / max pause 1 + 2) s

end Clock
end KernelLink
