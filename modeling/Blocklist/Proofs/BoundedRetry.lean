import Mathlib.Algebra.Group.Nat.Defs
import Blocklist.Proofs.EngineCalls

/-!
# Bounds of retries

What a call answers may depend on the calls and the waits before it, so the answers are followed
from world to world. As soon as a call succeeds there are no more, and none follows the last one that
is allowed. A record of the calls and waits, which the world keeps beside everything else, tells how
many there are and in which order.

* `RetryPolicy.delay_eq`, `RetryPolicy.delay_mono`, `RetryPolicy.delay_le`   how long the waits are;
* `RetryPolicy.wordDelay`, `RetryPolicy.toNat_wordDelay`   the same, computed in words;
* `RetryPolicy.Recorded`, `RetryPolicy.recorded`   worlds with a record;
* `RetryPolicy.answerOf`, `RetryPolicy.FirstSuccess`   the answers, and the first success;
* `RetryPolicy.run_of_failures`         a run some failed calls later;
* `RetryPolicy.schedule`, `RetryPolicy.Scheduled`   the record of so many calls;
* `RetryPolicy.run_bounded`             how many calls a run makes, and what it answers.
-/

namespace Blocklist

namespace RetryPolicy

/-! ## delays -/

theorem delay_eq (p : RetryPolicy) (n : Nat) :
    p.delay n = min p.maxDelayMs.toNat (p.baseDelayMs.toNat * 2 ^ min (n - 1) 16) :=
  Nat.min_comm _ _

theorem delay_mono (p : RetryPolicy) {i j : Nat} (h : i ≤ j) : p.delay i ≤ p.delay j := by
  have hshift : min (i - 1) 16 ≤ min (j - 1) 16 := by omega
  have hpow : 2 ^ min (i - 1) 16 ≤ 2 ^ min (j - 1) 16 := Nat.pow_le_pow_right Nat.two_pos hshift
  rw [delay_eq, delay_eq]
  have hproduct := Nat.mul_le_mul_left p.baseDelayMs.toNat hpow
  omega

theorem delay_le (p : RetryPolicy) (n : Nat) : p.delay n ≤ p.maxDelayMs.toNat :=
  Nat.min_le_right _ _

/-- the product, or the largest word -/
def saturatingMul (a b : UInt64) : UInt64 := (min (a.toNat * b.toNat) (UInt64.size - 1)).toUInt64

/-- how often the delay is doubled after call `n` -/
def doublings (n : UInt32) : UInt32 := min (if n = 0 then 0 else n - 1) 16

/-- the delay after call `n`, with a word for each number on the way -/
def wordDelay (p : RetryPolicy) (n : UInt32) : UInt64 :=
  min (saturatingMul p.baseDelayMs (1 <<< (doublings n).toUInt64)) p.maxDelayMs

theorem toNat_saturatingMul (a b : UInt64) :
    (saturatingMul a b).toNat = min (a.toNat * b.toNat) (UInt64.size - 1) := by
  rw [saturatingMul, UInt64.toNat_ofNat']
  refine Nat.mod_eq_of_lt (Nat.lt_of_le_of_lt (Nat.min_le_right _ _) ?_)
  decide

theorem toNat_doublings (n : UInt32) : (doublings n).toNat = min (n.toNat - 1) 16 := by
  rw [doublings, UInt32.toNat_min]
  split
  · next hzero =>
    rw [hzero]
    rfl
  · next hpos =>
    have hle : (1 : UInt32) ≤ n := by
      rw [UInt32.le_iff_toNat_le]
      exact Nat.pos_of_ne_zero fun h => hpos (UInt32.toNat_inj.mp h)
    rw [UInt32.toNat_sub_of_le _ _ hle]
    rfl

theorem toNat_shiftLeft_one {n : UInt64} (h : n.toNat ≤ 16) :
    (1 <<< n : UInt64).toNat = 2 ^ n.toNat := by
  have hpow : 2 ^ n.toNat ≤ 2 ^ 16 := Nat.pow_le_pow_right Nat.two_pos h
  have hfits : 2 ^ n.toNat < 2 ^ 64 := Nat.lt_of_le_of_lt hpow (by decide)
  rw [UInt64.toNat_shiftLeft, Nat.mod_eq_of_lt (show n.toNat < 64 by omega), UInt64.toNat_one,
    Nat.one_shiftLeft, Nat.mod_eq_of_lt hfits]

/-- The words are as good as numbers: only the product may be too large for one, and then it is
larger than the longest delay in any case. -/
theorem toNat_wordDelay (p : RetryPolicy) (n : UInt32) :
    (p.wordDelay n).toNat = p.delay n.toNat := by
  have hshift : (doublings n).toUInt64.toNat = min (n.toNat - 1) 16 := by
    rw [UInt32.toNat_toUInt64, toNat_doublings]
  have hsmall : (doublings n).toUInt64.toNat ≤ 16 := by
    rw [hshift]
    exact Nat.min_le_right _ _
  have hlongest : p.maxDelayMs.toNat ≤ UInt64.size - 1 := Nat.le_pred_of_lt p.maxDelayMs.toNat_lt
  rw [wordDelay, UInt64.toNat_min, toNat_saturatingMul, toNat_shiftLeft_one hsmall, hshift,
    Nat.min_assoc, Nat.min_eq_right hlongest]
  rfl

/-! ## records -/

variable {σ ε α : Type}

/-- what a run does to the world -/
inductive Event where
  | call
  | wait (ms : Nat)
  deriving DecidableEq, Repr

def Event.wait? : Event → Option Nat
  | call => none
  | wait ms => some ms

/-- a world, and what has been done to it -/
structure Recorded (σ : Type) where
  world : σ
  events : List Event := []

section
variable [Sleep (StateM σ)]

instance : Sleep (StateM (Recorded σ)) where
  sleepMs ms := fun r =>
    ((), ⟨((Sleep.sleepMs ms : StateM σ Unit) r.world).2, r.events ++ [.wait ms]⟩)

/-- the call, and a record of it -/
def recorded (call : StateM σ (Except ε α)) : StateM (Recorded σ) (Except ε α) := fun r =>
  ((call r.world).1, ⟨(call r.world).2, r.events ++ [.call]⟩)

variable (p : RetryPolicy) (call : StateM σ (Except ε α)) (w : σ)

/-- a record changes nothing -/
theorem runFrom_recorded (n left : Nat) (r : Recorded σ) :
    p.runFrom call n left r.world =
      ((p.runFrom (recorded call) n left r).1, (p.runFrom (recorded call) n left r).2.world) := by
  induction left generalizing n r with
  | zero =>
    rw [runFrom_zero, runFrom_zero, recorded]
    rcases call r.world with ⟨e | a, w⟩ <;> rfl
  | succ left ih =>
    rw [runFrom_succ, runFrom_succ, recorded]
    rcases call r.world with ⟨e | a, w⟩
    · exact ih (n + 1)
        ((Sleep.sleepMs (p.delay n) : StateM (Recorded σ) Unit) ⟨w, r.events ++ [.call]⟩).2
    · rfl

/-! ## calls that fail -/

/-- the world after `n` failed calls and the waits after them -/
def afterFailures : Nat → σ
  | 0 => w
  | n + 1 => ((Sleep.sleepMs (p.delay (n + 1)) : StateM σ Unit) (call (afterFailures n)).2).2

/-- what call `n` answers when all calls before it have failed; the first one has the number 1 -/
def answerOf (n : Nat) : Except ε α := (call (p.afterFailures call w (n - 1))).1

/-- the number of the first call that succeeds, if there is one -/
inductive FirstSuccess (answers : Nat → Except ε α) : Option Nat → Prop where
  | found {k : Nat} {a : α} (pos : 0 < k) (succeeds : answers k = .ok a)
      (fails : ∀ i, 0 < i → i < k → ∃ e, answers i = .error e) : FirstSuccess answers (some k)
  | never (fails : ∀ i, 0 < i → ∃ e, answers i = .error e) : FirstSuccess answers none

/-- `n` calls and the waits after them -/
def failedCalls (n : Nat) : List Event :=
  (List.range n).flatMap fun i => [.call, .wait (p.delay (i + 1))]

theorem failedCalls_succ (n : Nat) :
    p.failedCalls (n + 1) = p.failedCalls n ++ [.call] ++ [.wait (p.delay (n + 1))] := by
  rw [failedCalls, List.range_succ, List.flatMap_append, List.flatMap_singleton, List.append_assoc]
  rfl

/-- `c` calls with one wait between any two of them -/
def schedule (c : Nat) : List Event := p.failedCalls (c - 1) ++ [.call]

/-- As long as calls fail and others are allowed, a run is at the next call, after a wait. -/
theorem run_of_failures {n : Nat} (hn : n < p.attempts)
    (h : ∀ i, 0 < i → i ≤ n → ∃ e, p.answerOf call w i = .error e) :
    p.run (recorded call) ⟨w, []⟩ =
      p.runFrom (recorded call) (n + 1) (p.attempts - (n + 1))
        ⟨p.afterFailures call w n, p.failedCalls n⟩ := by
  induction n with
  | zero => rfl
  | succ n ih =>
    obtain ⟨e, he⟩ := h (n + 1) (Nat.succ_pos n) (Nat.le_refl _)
    have hleft : p.attempts - (n + 1) = p.attempts - (n + 1 + 1) + 1 := by omega
    change (call (p.afterFailures call w n)).1 = .error e at he
    rw [ih (Nat.lt_of_succ_lt hn) fun i hpos hi => h i hpos (Nat.le_succ_of_le hi), hleft,
      runFrom_succ, recorded, he, failedCalls_succ]
    rfl

variable {call w}

/-- a call that succeeds is the last one -/
theorem runFrom_of_ok {a : α} (h : (call w).1 = .ok a) (n left : Nat) (events : List Event) :
    p.runFrom (recorded call) n left ⟨w, events⟩ = (.ok a, ⟨(call w).2, events ++ [.call]⟩) := by
  cases left with
  | zero => rw [runFrom_zero, recorded, h]
  | succ left => rw [runFrom_succ, recorded, h]

/-- and so is one that fails when no other is allowed -/
theorem runFrom_of_error {e : ε} (h : (call w).1 = .error e) (n : Nat) (events : List Event) :
    p.runFrom (recorded call) n 0 ⟨w, events⟩ =
      (.error ⟨n, e⟩, ⟨(call w).2, events ++ [.call]⟩) := by
  rw [runFrom_zero, recorded, h]

/-! ## what a run does -/

variable (call w)

/-- `c` calls with one wait between any two of them. The waits are exact numbers, which fit into
words, and become longer up to the longest delay. -/
structure Scheduled (c : Nat) (events : List Event) : Prop where
  order : events = p.schedule c
  calls : events.count .call = c
  waits : events.filterMap Event.wait? = (List.range (c - 1)).map fun i =>
    min p.maxDelayMs.toNat (p.baseDelayMs.toNat * 2 ^ min i 16)
  words : events.filterMap Event.wait? = (List.range (c - 1)).map fun i =>
    (p.wordDelay (i + 1).toUInt32).toNat
  ascending : (events.filterMap Event.wait?).Pairwise (· ≤ ·)
  le_longest : ∀ ms ∈ events.filterMap Event.wait?, ms ≤ p.maxDelayMs.toNat

/-- The run makes `c` calls and ends with the answer, in the world that the last call leaves. -/
structure EndsAfter (c : Nat) (answer : Except (RetryExhausted ε) α) : Prop where
  run : p.run call w = (answer, (call (p.afterFailures call w (c - 1))).2)
  record : ∃ events, p.run (recorded call) ⟨w, []⟩ =
    (answer, ⟨(call (p.afterFailures call w (c - 1))).2, events⟩) ∧ p.Scheduled c events

theorem count_failedCalls (n : Nat) : (p.failedCalls n).count Event.call = n := by
  induction n with
  | zero => rfl
  | succ n ih =>
    rw [failedCalls_succ, List.count_append, List.count_append, ih]
    rfl

theorem waits_failedCalls (n : Nat) :
    (p.failedCalls n).filterMap Event.wait? = (List.range n).map fun i => p.delay (i + 1) := by
  induction n with
  | zero => rfl
  | succ n ih =>
    rw [failedCalls_succ, List.filterMap_append, List.filterMap_append, ih, List.range_succ,
      List.map_append, List.append_assoc]
    rfl

theorem scheduled {c : Nat} (hpos : 0 < c) (hfits : c < UInt32.size) :
    p.Scheduled c (p.schedule c) := by
  have hwaits : (p.schedule c).filterMap Event.wait? =
      (List.range (c - 1)).map fun i => p.delay (i + 1) := by
    rw [schedule, List.filterMap_append, waits_failedCalls]
    exact List.append_nil _
  refine
    { order := rfl, calls := ?_, waits := ?_, words := ?_, ascending := ?_, le_longest := ?_ }
  · rw [schedule, List.count_append, count_failedCalls, List.count_singleton_self,
      Nat.sub_add_cancel hpos]
  · rw [hwaits]
    exact List.map_congr_left fun i _ => p.delay_eq (i + 1)
  · rw [hwaits]
    refine List.map_congr_left fun i hi => ?_
    have hi := List.mem_range.mp hi
    have hsize : UInt32.size = 2 ^ 32 := rfl
    have hword : (i + 1).toUInt32.toNat = i + 1 := Nat.mod_eq_of_lt (by omega)
    rw [toNat_wordDelay, hword]
  · rw [hwaits]
    exact List.pairwise_lt_range.map _ fun i j hij => p.delay_mono (by omega)
  · intro ms hms
    rw [hwaits] at hms
    obtain ⟨i, -, rfl⟩ := List.mem_map.mp hms
    exact p.delay_le (i + 1)

theorem attempts_eq : p.attempts = max 1 p.maxAttempts.toNat := Nat.max_comm _ _

theorem attempts_lt : p.attempts < UInt32.size :=
  Nat.max_lt.mpr ⟨p.maxAttempts.toNat_lt, by decide⟩

/-- the end of a run, from the end of the last of its calls -/
theorem EndsAfter.of_failures {c : Nat} {answer : Except (RetryExhausted ε) α} (hpos : 0 < c)
    (hc : c ≤ p.attempts) (hfails : ∀ i, 0 < i → i < c → ∃ e, p.answerOf call w i = .error e)
    (hlast : p.runFrom (recorded call) c (p.attempts - c)
      ⟨p.afterFailures call w (c - 1), p.failedCalls (c - 1)⟩ =
        (answer, ⟨(call (p.afterFailures call w (c - 1))).2, p.schedule c⟩)) :
    p.EndsAfter call w c answer := by
  have hrun : p.run (recorded call) ⟨w, []⟩ =
      (answer, ⟨(call (p.afterFailures call w (c - 1))).2, p.schedule c⟩) := by
    rw [p.run_of_failures call w (n := c - 1) (by omega) fun i hi hic => hfails i hi (by omega),
      Nat.sub_add_cancel hpos, hlast]
  refine ⟨?_, _, hrun, p.scheduled hpos (Nat.lt_of_le_of_lt hc p.attempts_lt)⟩
  rw [RetryPolicy.run] at hrun
  rw [RetryPolicy.run, p.runFrom_recorded call 1 (p.attempts - 1) ⟨w, []⟩, hrun]

/-- If the first success is among the calls that are allowed, a run ends with it, and otherwise with
the error of the last call that is allowed. -/
theorem run_bounded {first : Option Nat} (h : FirstSuccess (p.answerOf call w) first) :
    (∀ k, first = some k → k ≤ max 1 p.maxAttempts.toNat →
      ∃ a, p.answerOf call w k = .ok a ∧ p.EndsAfter call w k (.ok a)) ∧
    ((∀ k, first = some k → max 1 p.maxAttempts.toNat < k) →
      ∃ e, p.answerOf call w (max 1 p.maxAttempts.toNat) = .error e ∧
        p.EndsAfter call w (max 1 p.maxAttempts.toNat)
          (.error ⟨max 1 p.maxAttempts.toNat, e⟩)) := by
  rw [← attempts_eq]
  constructor
  · rintro k rfl hk
    cases h with
    | found hpos hok hfails =>
      exact ⟨_, hok, .of_failures p call w hpos hk hfails (p.runFrom_of_ok hok _ _ _)⟩
  · intro hlate
    have hfails : ∀ i, 0 < i → i ≤ p.attempts → ∃ e, p.answerOf call w i = .error e := by
      intro i hpos hi
      cases h with
      | found _ _ hfails => exact hfails i hpos (Nat.lt_of_le_of_lt hi (hlate _ rfl))
      | never hfails => exact hfails i hpos
    obtain ⟨e, he⟩ := hfails p.attempts p.attempts_pos (Nat.le_refl _)
    refine ⟨e, he, .of_failures p call w p.attempts_pos (Nat.le_refl _)
      (fun i hpos hi => hfails i hpos (Nat.le_of_lt hi)) ?_⟩
    rw [Nat.sub_self]
    exact p.runFrom_of_error he _ _

end

/-- A call that fails twice: with delays that reach the largest word it succeeds at the third
attempt, and when no attempt at all is asked for it is made once. -/
theorem run_bounded_twice :
    let p : RetryPolicy :=
      { maxAttempts := 4294967295, baseDelayMs := 9223372036854775808,
        maxDelayMs := 18446744073709551615 }
    let call : StateM Memory (Except EngineError Nat) := Memory.faultyCall fun e => (.ok 7, e)
    let w : Memory := { engine := { failures := 2 } }
    let hasty : RetryPolicy := { p with maxAttempts := 0 }
    FirstSuccess (p.answerOf call w) (some 3) ∧ p.EndsAfter call w 3 (.ok 7) ∧
    p.schedule 3 = [.call, .wait 9223372036854775808, .call, .wait 18446744073709551615, .call] ∧
    FirstSuccess (hasty.answerOf call w) (some 3) ∧
    hasty.EndsAfter call w 1 (.error ⟨1, .unavailable "injected failure"⟩) := by
  intro p call w hasty
  have hfails (p : RetryPolicy) : ∀ i, 0 < i → i < 3 →
      ∃ e, p.answerOf call w i = .error e := by
    intro i hpos hi
    obtain rfl | rfl : i = 1 ∨ i = 2 := by omega
    · exact ⟨.unavailable "injected failure", rfl⟩
    · exact ⟨.unavailable "injected failure", rfl⟩
  have hfirst (p : RetryPolicy) : FirstSuccess (p.answerOf call w) (some 3) :=
    .found (a := 7) (by decide) rfl (hfails p)
  obtain ⟨a, ha, patient⟩ := (p.run_bounded call w (hfirst p)).1 3 rfl (by decide)
  obtain ⟨e, he, impatient⟩ := (hasty.run_bounded call w (hfirst hasty)).2
    fun k hk => by rw [← Option.some.inj hk]; decide
  cases ha
  cases he
  exact ⟨hfirst p, patient, by decide +kernel, hfirst hasty, impatient⟩

end RetryPolicy

end Blocklist
