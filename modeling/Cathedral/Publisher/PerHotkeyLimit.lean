import Mathlib.Tactic.FieldSimp
import Cathedral.Lib.Dict
import Cathedral.Lib.PyStr
import Cathedral.Lib.TokenBucket

/-!
# Cathedral.Publisher.PerHotkeyLimit — a token bucket per hotkey

`publisher/per_hotkey_limit.py` over exact rational time. Every 500th request drops the
buckets that were not seen for 600 seconds, and a hotkey without a bucket starts with a full
one. Where a bucket fills up in that time nobody can tell (`own_log`); where it does not, a
hotkey gets tokens that did not flow in, and gets them by the requests of others. `fair_iff`
has both.
-/

namespace Cathedral.Publisher.PerHotkey

open TokenBucket (Level Within)

structure PerHotkeyConfig where
  enabled : Bool
  burst : ℤ
  refillPerSec : ℚ

def PerHotkeyConfig.active (c : PerHotkeyConfig) : Bool :=
  c.enabled && decide (c.burst > 0) && decide (c.refillPerSec > 0)

structure Bucket where
  tokens : ℚ
  lastRefill : ℚ
  lastSeen : ℚ

/-- The state of a `PerHotkeyLimiter`. -/
structure Limiter where
  buckets : Dict PyStr Bucket
  reqCount : ℕ

def gcEveryN : ℕ := 500

def gcIdleTtl : ℚ := 600

def gc (now : ℚ) (buckets : Dict PyStr Bucket) : Dict PyStr Bucket :=
  buckets.filterItems fun _ b => !decide (b.lastSeen < now - gcIdleTtl)

section Model

variable (c : PerHotkeyConfig)

/-- The bucket of a request, filled up and seen. -/
def seen (now : ℚ) : Option Bucket → Bucket
  | none => ⟨c.burst, now, now⟩
  | some b =>
    if now - b.lastRefill > 0 then
      ⟨min c.burst (b.tokens + (now - b.lastRefill) * c.refillPerSec), now, now⟩
    else ⟨b.tokens, b.lastRefill, now⟩

/-- Counting a request, with the eviction that may be due. -/
def counted (now : ℚ) (s : Limiter) : Limiter :=
  if s.reqCount + 1 ≥ gcEveryN then ⟨gc now s.buckets, 0⟩ else ⟨s.buckets, s.reqCount + 1⟩

/-- `bucket.tokens -= 1.0`: the bucket is changed where the dictionary has it. -/
def spend (h : PyStr) (bucket : Bucket) (s : Limiter) : Limiter :=
  if s.buckets.contains h then
    { s with buckets := s.buckets.set h { bucket with tokens := bucket.tokens - 1 } }
  else s

/-- `allow(hotkey, now=now)`. -/
def allow (s : Limiter) (hotkey : Option PyStr) (now : ℚ) : Bool × Limiter :=
  if c.active = false then (true, s)
  else
    match hotkey with
    | none => (true, s)
    | some h =>
      if h = [] then (true, s)
      else
        let bucket := seen c now (s.buckets.get? h)
        let s := counted now { s with buckets := s.buckets.set h bucket }
        if bucket.tokens ≥ 1 then (true, spend h bucket s) else (false, s)

/-- A call: who asks, and when. -/
abbrev Call : Type := Option PyStr × ℚ

/-- The calls in their order, each with its answer. -/
def log (s : Limiter) : List Call → List (Call × Bool)
  | [] => []
  | call :: calls =>
    (call, (allow c s call.1 call.2).1) :: log (allow c s call.1 call.2).2 calls

def after (s : Limiter) (calls : List Call) : Limiter :=
  calls.foldl (fun s call => (allow c s call.1 call.2).2) s

end Model

def Limiter.fresh : Limiter := ⟨Dict.empty, 0⟩

/-- The times at which `h` asks. -/
def times (h : PyStr) (calls : List Call) : List ℚ :=
  (calls.filter fun call => call.1 = some h).map Prod.snd

/-- What `h` asks and what it is answered. -/
def own (h : PyStr) (entries : List (Call × Bool)) : List (ℚ × Bool) :=
  (entries.filter fun p => p.1.1 = some h).map fun p => (p.1.2, p.2)

/-- Calls at times that do not decrease. -/
def InOrder (calls : List Call) : Prop := (calls.map Prod.snd).Pairwise (· ≤ ·)

/-- No hotkey is allowed more in an interval than its burst and what is refilled meanwhile, and
what a hotkey is answered depends on its own calls alone. An empty hotkey is none. -/
structure Fair (c : PerHotkeyConfig) : Prop where
  bound : ∀ calls, InOrder calls → ∀ h ≠ [], ∀ a e : ℚ, a ≤ e →
    (TokenBucket.given a e (own h (log c .fresh calls)) : ℚ) ≤
      c.burst + c.refillPerSec * (e - a)
  independent : ∀ calls calls', InOrder calls → InOrder calls' → ∀ h ≠ [],
    times h calls = times h calls' → own h (log c .fresh calls) = own h (log c .fresh calls')

/-! ## One call -/

section Calls

variable {c : PerHotkeyConfig} {s : Limiter} {h h' : PyStr} {now : ℚ}

theorem get?_gc (buckets : Dict PyStr Bucket) (h : PyStr) :
    (gc now buckets).get? h =
      (buckets.get? h).filter fun b => !decide (b.lastSeen < now - gcIdleTtl) :=
  Dict.get?_filterItems _ buckets h

theorem seen_lastSeen (m : Option Bucket) : (seen c now m).lastSeen = now := by
  cases m with
  | none => rfl
  | some b =>
    rw [seen]
    split_ifs <;> rfl

/-- A bucket that has just been seen is not evicted. -/
theorem get?_counted_self {b : Bucket} (hb : s.buckets.get? h = some b) (hseen : b.lastSeen = now) :
    (counted now s).buckets.get? h = some b := by
  rw [counted]
  split_ifs
  · rw [get?_gc, hb, Option.filter_some_pos]
    simp [hseen, gcIdleTtl]
  · exact hb

/-- Another bucket stays as it is, or is evicted. -/
theorem get?_counted (h : PyStr) : (counted now s).buckets.get? h = s.buckets.get? h ∨
    (counted now s).buckets.get? h = none ∧
      ∃ b, s.buckets.get? h = some b ∧ b.lastSeen < now - gcIdleTtl := by
  rw [counted]
  split_ifs
  · rw [get?_gc]
    cases hb : s.buckets.get? h with
    | none => exact Or.inl rfl
    | some b =>
      by_cases hidle : b.lastSeen < now - gcIdleTtl
      · exact Or.inr ⟨Option.filter_some_neg (by simpa using hidle), b, rfl, hidle⟩
      · exact Or.inl (Option.filter_some_pos (by simpa using hidle))
  · exact Or.inl rfl

/-- The bucket that is left after a request. -/
def taken (b : Bucket) : Bucket := if b.tokens ≥ 1 then { b with tokens := b.tokens - 1 } else b

theorem allow_own (hc : c.active) (hh : h ≠ []) :
    (allow c s (some h) now).1 = decide (1 ≤ (seen c now (s.buckets.get? h)).tokens) ∧
      (allow c s (some h) now).2.buckets.get? h =
        some (taken (seen c now (s.buckets.get? h))) := by
  have hself := get?_counted_self (s := { s with buckets := s.buckets.set h _ })
    (Dict.get?_set_self s.buckets h (seen c now (s.buckets.get? h))) (seen_lastSeen _)
  simp only [allow, hc, Bool.true_eq_false, if_false, if_neg hh, taken]
  split_ifs with htokens
  · refine ⟨(decide_eq_true htokens).symm, ?_⟩
    rw [spend, if_pos (by rw [Dict.contains, hself]; rfl), Dict.get?_set_self]
  · exact ⟨(decide_eq_false htokens).symm, hself⟩

theorem allow_other (hne : h' ≠ h) :
    (allow c s (some h) now).2.buckets.get? h' = s.buckets.get? h' ∨
      (allow c s (some h) now).2.buckets.get? h' = none ∧
        ∃ b, s.buckets.get? h' = some b ∧ b.lastSeen < now - gcIdleTtl := by
  have hcases :=
    @get?_counted { s with buckets := s.buckets.set h (seen c now (s.buckets.get? h)) } now h'
  rw [Dict.get?_set_ne _ _ hne.symm] at hcases
  simp only [allow]
  split_ifs with hc hh htokens
  · exact Or.inl rfl
  · exact Or.inl rfl
  · rw [spend]
    split_ifs
    · rw [Dict.get?_set_ne _ _ hne.symm]
      exact hcases
    · exact hcases
  · exact hcases

theorem allow_nobody {hotkey : Option PyStr} (hnone : ∀ h, hotkey = some h → h = []) :
    allow c s hotkey now = (true, s) := by
  cases hotkey with
  | none => exact ite_self _
  | some h =>
    rw [allow, if_pos (hnone h rfl)]
    exact ite_self _

end Calls

/-! ## Calls that nobody else changes -/

section Own

variable {c : PerHotkeyConfig} {s : Limiter} {h : PyStr} {now : ℚ}

/-- The bucket of a hotkey stands for the level of one that is never evicted, at any time from
`now` on: it is there, or it would be full again. -/
def StandsFor (now : ℚ) (l : Option (Level ℚ)) : Option Bucket → Prop
  | some b => l = some ⟨b.tokens, b.lastRefill⟩ ∧ b.lastSeen = b.lastRefill
  | none => ∀ l' ∈ l, l'.time + gcIdleTtl < now

/-- The level is one that calls up to `now` leave. -/
def Past (c : PerHotkeyConfig) (now : ℚ) (l : Option (Level ℚ)) : Prop :=
  ∀ l' ∈ l, Within (c.burst : ℚ) l' ∧ l'.time ≤ now

theorem active_pos (hc : c.active) : 0 < c.burst ∧ 0 < c.refillPerSec := by
  rw [PerHotkeyConfig.active, Bool.and_eq_true, Bool.and_eq_true, decide_eq_true_eq,
    decide_eq_true_eq] at hc
  exact ⟨hc.1.2, hc.2⟩

/-- A bucket that stands for a level is seen at that level. -/
theorem seen_eq (hfull : (c.burst : ℚ) ≤ c.refillPerSec * gcIdleTtl) (hc : c.active)
    {l : Option (Level ℚ)} {m : Option Bucket} (hpast : Past c now l) (h : StandsFor now l m) :
    seen c now m = ⟨TokenBucket.level c.burst c.refillPerSec l now, now, now⟩ := by
  cases m with
  | some b =>
    obtain ⟨rfl, -⟩ := h
    obtain ⟨hwithin, htime⟩ := hpast _ rfl
    rw [seen, TokenBucket.level]
    split_ifs with helapsed
    · rfl
    · obtain hsame : b.lastRefill = now := le_antisymm htime (by linarith)
      dsimp only
      rw [hsame, sub_self, zero_mul, add_zero, min_eq_right hwithin.le_cap]
  | none =>
    cases l with
    | none => rfl
    | some l =>
      have hidle : gcIdleTtl < now - l.time := by linarith [h l rfl]
      have hflow : c.refillPerSec * gcIdleTtl ≤ (now - l.time) * c.refillPerSec := by
        rw [mul_comm]
        exact mul_le_mul_of_nonneg_right hidle.le (active_pos hc).2.le
      rw [TokenBucket.level_eq_cap (hpast l rfl).1 (hfull.trans hflow)]
      rfl

theorem StandsFor.mono {now' : ℚ} {l : Option (Level ℚ)} {m : Option Bucket}
    (h : StandsFor now l m) (hle : now ≤ now') : StandsFor now' l m := by
  cases m with
  | some b => exact h
  | none => exact fun l' hl' => (h l' hl').trans_le hle

theorem Past.mono {now' : ℚ} {l : Option (Level ℚ)} (h : Past c now l) (hle : now ≤ now') :
    Past c now' l :=
  fun l' hl' => ⟨(h l' hl').1, (h l' hl').2.trans hle⟩

/-- Whatever others ask and whenever buckets are dropped, a hotkey is answered as by a bucket of
its own. -/
theorem own_log (hc : c.active) (hfull : (c.burst : ℚ) ≤ c.refillPerSec * gcIdleTtl) (hh : h ≠ []) :
    ∀ {calls : List Call} {s : Limiter} {now : ℚ} {l : Option (Level ℚ)},
      InOrder calls → (∀ call ∈ calls, now ≤ call.2) → Past c now l →
        StandsFor now l (s.buckets.get? h) →
          own h (log c s calls) = TokenBucket.answers (c.burst : ℚ) c.refillPerSec l (times h calls)
  | [], _, _, _, _, _, _, _ => rfl
  | (hotkey, now') :: calls, s, now, l, horder, hlater, hpast, hstands => by
    obtain ⟨hfirst, hrest⟩ := List.pairwise_cons.mp horder
    have hnow : now ≤ now' := hlater _ List.mem_cons_self
    have hnext : ∀ call ∈ calls, now' ≤ call.2 := fun call hcall =>
      hfirst _ (List.mem_map_of_mem hcall)
    have hpast' := hpast.mono hnow
    have hstands' := hstands.mono hnow
    by_cases hmine : hotkey = some h
    · subst hmine
      obtain ⟨hanswer, hbucket⟩ := @allow_own c s h now' hc hh
      rw [seen_eq hfull hc hpast' hstands'] at hanswer hbucket
      have hlevel : 0 ≤ TokenBucket.level (c.burst : ℚ) c.refillPerSec l now' := by
        cases l with
        | none =>
          show (0 : ℚ) ≤ c.burst
          exact_mod_cast (active_pos hc).1.le
        | some l =>
          exact TokenBucket.level_nonneg (hpast' l rfl).1 (active_pos hc).2.le (hpast' l rfl).2
      have hwithin := TokenBucket.within_take hlevel
      -- both take the same token from the same level
      obtain ⟨htake, htaken⟩ : decide (1 ≤ TokenBucket.level (c.burst : ℚ) c.refillPerSec l now') =
          (TokenBucket.take (c.burst : ℚ) c.refillPerSec l now').1 ∧
        StandsFor now' (some (TokenBucket.take (c.burst : ℚ) c.refillPerSec l now').2)
          (some (taken ⟨TokenBucket.level (c.burst : ℚ) c.refillPerSec l now', now', now'⟩)) := by
        rw [TokenBucket.take, taken]
        split_ifs with hone
        · exact ⟨decide_eq_true hone, rfl, rfl⟩
        · exact ⟨decide_eq_false hone, rfl, rfl⟩
      have ih := own_log hc hfull hh hrest hnext
        (l := some (TokenBucket.take (c.burst : ℚ) c.refillPerSec l now').2)
        (fun l' hl' => by cases hl'; exact ⟨hwithin, TokenBucket.take_time.le⟩)
        (s := (allow c s (some h) now').2) (by rw [hbucket]; exact htaken)
      have htimes : times h ((some h, now') :: calls) = now' :: times h calls := by
        rw [times, List.filter_cons_of_pos (by simp)]
        rfl
      have hown : own h (log c s ((some h, now') :: calls)) =
          (now', (allow c s (some h) now').1) :: own h (log c (allow c s (some h) now').2 calls) := by
        rw [log, own, List.filter_cons_of_pos (by simp)]
        rfl
      rw [htimes, hown, TokenBucket.answers, ih, hanswer, htake]
    · have htimes : times h ((hotkey, now') :: calls) = times h calls := by
        rw [times, List.filter_cons_of_neg (by simpa using hmine)]
        rfl
      have hown : own h (log c s ((hotkey, now') :: calls)) =
          own h (log c (allow c s hotkey now').2 calls) := by
        rw [log, own, List.filter_cons_of_neg (by simpa using hmine)]
        rfl
      rw [htimes, hown]
      refine own_log hc hfull hh hrest hnext hpast' ?_
      cases hotkey with
      | none =>
        rw [allow_nobody (by simp)]
        exact hstands'
      | some other =>
        rcases @allow_other c s other h now'
            (fun heq : h = other => hmine (by rw [heq])) with hsame | ⟨hgone, b, hb, hidle⟩
        · rw [hsame]
          exact hstands'
        · rw [hgone]
          rw [hb] at hstands'
          obtain ⟨rfl, hsame⟩ := hstands'
          intro l' hl'
          cases hl'
          rw [hsame] at hidle
          dsimp only
          linarith

end Own

/-! ## Buckets that are dropped too early -/

section Spree

variable {c : PerHotkeyConfig} {s : Limiter} {h other : PyStr} {now : ℚ}

theorem log_append (s : Limiter) (calls calls' : List Call) :
    log c s (calls ++ calls') = log c s calls ++ log c (after c s calls) calls' := by
  induction calls generalizing s with
  | nil => rfl
  | cons call calls ih => exact congrArg (List.cons _) (ih _)

/-- What a hotkey is answered is to its own calls. -/
theorem times_own (h : PyStr) (s : Limiter) (calls : List Call) :
    (own h (log c s calls)).map Prod.fst = times h calls := by
  induction calls generalizing s with
  | nil => rfl
  | cons call calls ih =>
    have hrest := ih (allow c s call.1 call.2).2
    rw [own, times] at hrest ⊢
    rw [log, List.filter_cons, List.filter_cons]
    split_ifs
    · exact congrArg (List.cons _) hrest
    · exact hrest

theorem own_append (h : PyStr) (entries entries' : List (Call × Bool)) :
    own h (entries ++ entries') = own h entries ++ own h entries' := by
  rw [own, List.filter_append, List.map_append]
  rfl

theorem own_replicate (n : ℕ) (h : PyStr) (now : ℚ) :
    own h (List.replicate n ((some h, now), true)) = List.replicate n (now, true) := by
  rw [own, List.filter_replicate_of_pos (by simp), List.map_replicate]

/-- Seeing a bucket twice at one time is seeing it once. -/
theorem seen_taken (m : Option Bucket) (htokens : 1 ≤ (seen c now m).tokens) :
    seen c now (some (taken (seen c now m))) = taken (seen c now m) := by
  have hrefilled : ¬ now - (taken (seen c now m)).lastRefill > 0 := by
    rw [taken, if_pos htokens]
    cases m with
    | none => simp [seen]
    | some b =>
      rw [seen]
      split_ifs with helapsed
      · simp
      · exact helapsed
  rw [seen, if_neg hrefilled, taken, if_pos htokens]
  exact congrArg (Bucket.mk _ _) (seen_lastSeen m).symm

/-- As many calls at one time as there are tokens are all allowed, and leave a bucket that was
seen then. -/
theorem log_spree (hc : c.active) (hh : h ≠ []) : ∀ (n : ℕ) (s : Limiter),
    (n : ℚ) ≤ (seen c now (s.buckets.get? h)).tokens →
      log c s (List.replicate n (some h, now)) = List.replicate n ((some h, now), true) ∧
        (0 < n → ∃ b, (after c s (List.replicate n (some h, now))).buckets.get? h = some b ∧
          b.lastSeen = now)
  | 0, _, _ => ⟨rfl, fun hn => absurd hn (lt_irrefl 0)⟩
  | n + 1, s, hn => by
    have hone : 1 ≤ (seen c now (s.buckets.get? h)).tokens :=
      le_trans (by push_cast; linarith [(n.cast_nonneg : (0 : ℚ) ≤ n)]) hn
    obtain ⟨hanswer, hbucket⟩ := @allow_own c s h now hc hh
    rw [decide_eq_true hone] at hanswer
    have hleft : (n : ℚ) ≤
        (seen c now ((allow c s (some h) now).2.buckets.get? h)).tokens := by
      rw [hbucket, seen_taken _ hone, taken, if_pos hone]
      push_cast at hn
      dsimp only
      linarith
    obtain ⟨hlog, hlast⟩ := log_spree hc hh n (allow c s (some h) now).2 hleft
    refine ⟨?_, fun _ => ?_⟩
    · rw [List.replicate_succ, log, hlog, hanswer, List.replicate_succ]
    · cases n with
      | zero =>
        refine ⟨_, hbucket, ?_⟩
        rw [taken, if_pos hone]
        exact seen_lastSeen _
      | succ n => exact hlast (Nat.succ_pos n)

theorem spend_reqCount (b : Bucket) : (spend h b s).reqCount = s.reqCount := by
  rw [spend]
  split_ifs <;> rfl

theorem counted_reqCount_lt : (counted now s).reqCount < gcEveryN := by
  rw [counted]
  split_ifs with hdue
  · exact Nat.succ_pos 499
  · exact not_le.mp hdue

theorem allow_reqCount_lt (hs : s.reqCount < gcEveryN) (hotkey : Option PyStr) :
    (allow c s hotkey now).2.reqCount < gcEveryN := by
  cases hotkey with
  | none => rwa [allow_nobody (by simp)]
  | some h =>
    simp only [allow]
    split_ifs
    · exact hs
    · exact hs
    · rw [spend_reqCount]
      exact counted_reqCount_lt
    · exact counted_reqCount_lt

theorem after_reqCount_lt : ∀ (calls : List Call) {s : Limiter}, s.reqCount < gcEveryN →
    (after c s calls).reqCount < gcEveryN
  | [], _, hs => hs
  | call :: calls, _, hs => after_reqCount_lt calls (allow_reqCount_lt hs call.1)

/-- Past the counting, a request changes its own bucket only. -/
theorem allow_counted (hc : c.active) (hother : other ≠ []) (hne : h ≠ other) :
    (allow c s (some other) now).2.reqCount = (counted now { s with
      buckets := s.buckets.set other (seen c now (s.buckets.get? other)) }).reqCount ∧
    (allow c s (some other) now).2.buckets.get? h = (counted now { s with
      buckets := s.buckets.set other (seen c now (s.buckets.get? other)) }).buckets.get? h := by
  simp only [allow, hc, Bool.true_eq_false, if_false, if_neg hother]
  split_ifs
  · refine ⟨spend_reqCount _, ?_⟩
    rw [spend]
    split_ifs
    · exact Dict.get?_set_ne _ _ hne.symm
    · rfl
  · exact ⟨rfl, rfl⟩

/-- A request of another hotkey counts, or drops an idle bucket. -/
theorem allow_idle (hc : c.active) (hother : other ≠ []) (hne : h ≠ other) {b : Bucket}
    (hb : s.buckets.get? h = some b) (hidle : b.lastSeen < now - gcIdleTtl) :
    (allow c s (some other) now).2.buckets.get? h = none ∨
      (allow c s (some other) now).2.reqCount = s.reqCount + 1 ∧
        (allow c s (some other) now).2.buckets.get? h = some b := by
  obtain ⟨hcount, hget⟩ := @allow_counted c s h other now hc hother hne
  rw [hcount, hget]
  have hset : (s.buckets.set other (seen c now (s.buckets.get? other))).get? h = some b := by
    rw [Dict.get?_set_ne _ _ hne.symm, hb]
  rw [counted]
  split_ifs
  · refine Or.inl ?_
    rw [get?_gc, hset, Option.filter_some_neg]
    simpa using hidle
  · exact Or.inr ⟨rfl, hset⟩

/-- Requests of another hotkey, as many as bring the eviction about, drop an idle bucket. -/
theorem get?_after_others (hc : c.active) (hother : other ≠ []) (hne : h ≠ other) :
    ∀ (n : ℕ) (s : Limiter), (s.buckets.get? h = none ∨
      s.reqCount < gcEveryN ∧ gcEveryN ≤ s.reqCount + n ∧
        ∃ b, s.buckets.get? h = some b ∧ b.lastSeen < now - gcIdleTtl) →
          (after c s (List.replicate n (some other, now))).buckets.get? h = none
  | 0, _, hidle => by
    rcases hidle with hnone | ⟨hlt, hle, -⟩
    · exact hnone
    · exact absurd hlt (not_lt.mpr hle)
  | n + 1, s, hidle => by
    refine get?_after_others hc hother hne n (allow c s (some other) now).2 ?_
    rcases hidle with hnone | ⟨hlt, hle, b, hb, hbidle⟩
    · rcases @allow_other c s other h now hne with hsame | ⟨hgone, -⟩
      · exact Or.inl (hsame.trans hnone)
      · exact Or.inl hgone
    · rcases allow_idle hc hother hne hb hbidle with hgone | ⟨hcount, hsame⟩
      · exact Or.inl hgone
      · exact Or.inr ⟨allow_reqCount_lt hlt _, by rw [hcount]; omega, b, hsame, hbidle⟩

/-- Where a bucket is dropped before it is full again, a hotkey gets its burst twice. -/
theorem not_fair (hc : c.active) (hslow : c.refillPerSec * gcIdleTtl < c.burst) : ¬ Fair c := by
  intro hfair
  obtain ⟨hburst, hrate⟩ := active_pos hc
  -- a time after the eviction at which the bucket would not be full
  obtain ⟨d, hidle, hflow⟩ : ∃ d : ℚ, gcIdleTtl < d ∧ c.refillPerSec * d < c.burst := by
    have hlt : gcIdleTtl < c.burst / c.refillPerSec := by
      rwa [lt_div_iff₀ hrate, mul_comm]
    obtain ⟨d, hd, hd'⟩ := exists_between hlt
    exact ⟨d, hd, by rwa [lt_div_iff₀ hrate, mul_comm] at hd'⟩
  obtain ⟨n, hn⟩ := Int.eq_ofNat_of_zero_le hburst.le
  have hcast : (c.burst : ℚ) = n := by rw [hn]; rfl
  have hpos : 0 < n := by omega
  let mine : PyStr := PyStr.ofString "a"
  let others : PyStr := PyStr.ofString "b"
  let first : List Call := List.replicate n (some mine, 0)
  let middle : List Call := List.replicate gcEveryN (some others, d)
  let last : List Call := List.replicate n (some mine, d)
  obtain ⟨hfirst, hseen⟩ := @log_spree c mine 0 hc (by decide) n .fresh
    (by rw [← hcast]; exact le_rfl)
  obtain ⟨b, hb, hbseen⟩ := hseen hpos
  have hgone : (after c (after c .fresh first) middle).buckets.get? mine = none :=
    get?_after_others hc (by decide) (by decide) _ _ (Or.inr
      ⟨after_reqCount_lt first (by decide), Nat.le_add_left _ _, b, hb, by rw [hbseen]; linarith⟩)
  obtain ⟨hlast, -⟩ := @log_spree c mine d hc (by decide) n
    (after c (after c .fresh first) middle) (by rw [hgone, ← hcast]; exact le_rfl)
  have hd : (0 : ℚ) ≤ d := le_trans (by decide) hidle.le
  have horder : InOrder (first ++ (middle ++ last)) := by
    simp [InOrder, first, middle, last, List.pairwise_append, List.pairwise_replicate, hd]
  have hnobody : own mine (log c (after c .fresh first) middle) = [] := by
    rw [← List.map_eq_nil_iff (f := Prod.fst), times_own, times,
      List.filter_replicate_of_neg
        (by simpa using (by decide : PyStr.ofString "b" ≠ PyStr.ofString "a"))]
    rfl
  have hbound := hfair.bound _ horder mine (by decide) 0 d hd
  have hcount : TokenBucket.given 0 d (own mine (log c .fresh (first ++ (middle ++ last)))) =
      n + n := by
    rw [log_append, log_append, own_append, own_append, hfirst, hnobody, hlast, own_replicate,
      own_replicate, TokenBucket.given, List.nil_append, List.filter_append, List.length_append,
      List.filter_replicate_of_pos (by simpa using hd), List.filter_replicate_of_pos (by simpa using hd),
      List.length_replicate, List.length_replicate]
  rw [hcount, hcast] at hbound
  push_cast at hbound
  rw [hcast] at hflow
  linarith

end Spree

/-- For every active configuration: the limiter is fair if and only if a bucket fills up in the
time after which it may be dropped. -/
theorem fair_iff (c : PerHotkeyConfig) (hc : c.active) :
    Fair c ↔ (c.burst : ℚ) ≤ c.refillPerSec * gcIdleTtl := by
  refine ⟨fun hfair => not_lt.mp fun hslow => not_fair hc hslow hfair, fun hfull => ?_⟩
  obtain ⟨hburst, hrate⟩ := active_pos hc
  have hown : ∀ calls, InOrder calls → ∀ h ≠ [], own h (log c .fresh calls) =
      TokenBucket.answers (c.burst : ℚ) c.refillPerSec none (times h calls) := by
    intro calls horder h hh
    cases calls with
    | nil => rfl
    | cons call calls =>
      refine @own_log c h hc hfull hh _ _ call.2 _ horder (fun call' hcall' => ?_)
        (fun l' hl' => by cases hl') (fun l' hl' => by cases hl')
      rcases List.mem_cons.mp hcall' with rfl | hlater
      · exact le_rfl
      · exact (List.pairwise_cons.mp horder).1 _ (List.mem_map_of_mem hlater)
  refine ⟨fun calls horder h hh a e hae => ?_, fun calls calls' horder horder' h hh htimes => ?_⟩
  · rw [hown calls horder h hh]
    refine TokenBucket.given_le hrate.le (by exact_mod_cast hburst.le) hae
      (fun l' hl' => by cases hl') ?_
    exact horder.sublist (List.Sublist.map _ (List.filter_sublist))
  · rw [hown calls horder h hh, hown calls' horder' h hh, htimes]

/-- A burst of one and a token in a thousand seconds. -/
def slowRefill : PerHotkeyConfig := ⟨true, 1, 1 / 1000⟩

theorem slowRefill_unfair : slowRefill.active ∧ ¬ Fair slowRefill :=
  ⟨by decide +kernel, not_fair (by decide +kernel) (by norm_num [slowRefill, gcIdleTtl])⟩

/-- Thirty at once and five a second, as configured by default. -/
theorem defaults_fair : Fair ⟨true, 30, 5⟩ ↔ (30 : ℚ) ≤ 5 * gcIdleTtl := by
  have h := fair_iff ⟨true, 30, 5⟩ (by decide +kernel)
  exact_mod_cast h

end Cathedral.Publisher.PerHotkey
