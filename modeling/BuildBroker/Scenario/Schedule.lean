/-!
# A Schedule in Virtual Time

How calls that run side by side take turns on one thread. The call that was started first among
those that can move runs until it has to wait; then the choice is made anew. The clock stands still
while any call can move, and is set forward from deadline to deadline.
-/

namespace BuildBroker.Scenario

variable {σ ι : Type}

/-- Lets one call run until it has to wait; also whether it moved at all. -/
def runCall (turn : ι → σ → Option σ) (fuel : Nat) (i : ι) (s : σ) : σ × Bool :=
  match fuel with
  | 0 => (s, false)
  | fuel + 1 =>
    match turn i s with
    | none => (s, false)
    | some s => ((runCall turn fuel i s).1, true)

/-- Lets the first of the calls that can move run until it has to wait; `none` if none can. -/
def runFirst? (turn : ι → σ → Option σ) (fuel : Nat) (s : σ) : List ι → Option σ
  | [] => none
  | i :: rest =>
    match runCall turn fuel i s with
    | (s', true) => some s'
    | (_, false) => runFirst? turn fuel s rest

/-- Lets calls run until all of them wait. -/
def settle (turn : ι → σ → Option σ) (order : List ι) (turns : Nat) : (fuel : Nat) → σ → σ
  | 0, s => s
  | fuel + 1, s =>
    match runFirst? turn turns s order with
    | none => s
    | some s => settle turn order turns fuel s

/-- Enough fuel for `n` calls: the slot they share changes at most twice for each of them, and every
change wakes each of them at most once. -/
def fuelFor (n : Nat) : Nat :=
  (4 * n + 16) * (4 * n + 16)

/-- The earliest deadline that is due by the target. -/
def nextDeadline? (target : Nat) (deadlines : List Nat) : Option Nat :=
  (deadlines.filter (· ≤ target)).min?

/-- Sets the clock forward to the target, stopping at every deadline on the way; each stop ends at
least one wait. -/
def advance (deadlines : σ → List Nat) (at_ : Nat → σ → σ) (target : Nat) : (fuel : Nat) → σ → σ
  | 0, s => at_ target s
  | fuel + 1, s =>
    match nextDeadline? target (deadlines s) with
    | none => at_ target s
    | some d => advance deadlines at_ target fuel (at_ d s)

end BuildBroker.Scenario
