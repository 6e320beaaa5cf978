import Mathlib.Data.Nat.Find
import Mathlib.Order.Monotone.Basic
import Sahara.Cdh.Lifecycle

/-! `await_agents`: the `while` loop on the clock.  A pass reads the clock and, under the timeout,
polls the hosts, then sleeps unless every instance has registered.  On a clock that is monotone and
advances by the five seconds of each sleep, the loop makes at most sixty-one passes.  It returns
after the first poll that finds every instance, or raises at the first reading past the timeout,
having slept once after each poll that did not. -/

namespace Sahara.Cdh.ClouderaUtils

open Run

/-- Every instance has registered with the manager: its name is a hostname of the inventory. -/
def Registered (instances : List Instance) (hosts : List ApiHost) : Prop :=
  ∀ inst ∈ instances, inst.fqdn ∈ hosts.map ApiHost.hostname

instance (instances : List Instance) (hosts : List ApiHost) :
    Decidable (Registered instances hosts) :=
  inferInstanceAs (Decidable (∀ inst ∈ instances, inst.fqdn ∈ hosts.map ApiHost.hostname))

theorem all_mem_eq_registered (instances : List Instance) (hosts : List ApiHost) :
    ((instances.map Instance.fqdn).all fun hostname =>
      decide (hostname ∈ hosts.map ApiHost.hostname)) = decide (Registered instances hosts) := by
  rw [Bool.eq_iff_iff]
  simp [Registered]

theorem deltaSeconds_lt_timeout (before after : Int) :
    deltaSeconds before after < 300 ↔ after - before < 300000000 := by
  have h := deltaSeconds_lt_iff before after 300
  push_cast at h
  exact h

/-- The message `await_agents` raises on timeout. -/
def timeoutMessage : String := "Cloudera agents failed to connect to Cloudera Manager"

section Pass

variable {polls : Polls} {api : ApiResource} {instances : List Instance} {sTime : Instant} {k : Nat}

theorem awaitAgentsPass_timeout (h : ¬deltaSeconds sTime (polls.utcnow (k + 1)) < 300) :
    awaitAgentsPass polls api instances sTime k =
      ⟨[.call .utcnow], .error (.hadoopProvisionError timeoutMessage)⟩ := by
  simp [awaitAgentsPass, h, timeoutMessage]

theorem awaitAgentsPass_poll {hosts : List ApiHost}
    (h : deltaSeconds sTime (polls.utcnow (k + 1)) < 300) (hp : polls.getAllHosts k = .ok hosts) :
    awaitAgentsPass polls api instances sTime k =
      if Registered instances hosts then
        ⟨[.call .utcnow, .call (.getAllHosts api "full")], .ok false⟩
      else ⟨[.call .utcnow, .call (.getAllHosts api "full"), .call (.sleep 5)], .ok true⟩ := by
  simp only [awaitAgentsPass, invoke_bind, h, ite_true, hp, all_mem_eq_registered]
  by_cases hr : Registered instances hosts <;> simp [hr]

end Pass

/-- The loop, from pass `k`, when the `K` passes from `k` on find an instance missing under the
timeout and pass `k + K` either finds every instance or is past the timeout: the `K` passes each
read, poll and sleep, and the last one ends the loop. -/
theorem awaitAgentsLoop_eq (polls : Polls) (api : ApiResource) (instances : List Instance)
    (sTime : Instant) (hosts : Nat → List ApiHost) (hp : ∀ k, polls.getAllHosts k = .ok (hosts k)) :
    ∀ K k fuel, K < fuel →
      (∀ j < K, deltaSeconds sTime (polls.utcnow (k + j + 1)) < 300 ∧
        ¬Registered instances (hosts (k + j))) →
      (deltaSeconds sTime (polls.utcnow (k + K + 1)) < 300 → Registered instances (hosts (k + K))) →
      awaitAgentsLoop polls api instances sTime fuel k = some
        ⟨(List.replicate K
            [.call .utcnow, .call (.getAllHosts api "full"), .call (.sleep 5)]).flatten ++
          (if deltaSeconds sTime (polls.utcnow (k + K + 1)) < 300 then
            [.call .utcnow, .call (.getAllHosts api "full")] else [.call .utcnow]),
          if deltaSeconds sTime (polls.utcnow (k + K + 1)) < 300 then .ok ()
          else .error (.hadoopProvisionError timeoutMessage)⟩
  | 0, k, fuel + 1, _, _, hlast => by
    simp only [Nat.add_zero] at hlast ⊢
    by_cases h : deltaSeconds sTime (polls.utcnow (k + 1)) < 300
    · simp only [awaitAgentsLoop, awaitAgentsPass_poll h (hp k), hlast h, h, ite_true]
      rfl
    · simp only [awaitAgentsLoop, awaitAgentsPass_timeout h, h, ite_false]
      rfl
  | K + 1, k, fuel + 1, hfuel, hcont, hlast => by
    obtain ⟨h, hmiss⟩ := hcont 0 (Nat.succ_pos K)
    have ih := awaitAgentsLoop_eq polls api instances sTime hosts hp K (k + 1) fuel (by omega)
      (fun j hj => by simpa only [Nat.add_right_comm, Nat.add_assoc] using hcont (j + 1) (by omega))
      (by simpa only [Nat.add_right_comm, Nat.add_assoc] using hlast)
    simp only [Nat.add_zero] at h hmiss
    simp only [Nat.add_right_comm k 1 K, Nat.add_assoc k K 1] at ih
    simp [awaitAgentsLoop, awaitAgentsPass_poll h (hp k), hmiss, ih, List.replicate_succ,
      seqRight_eq_bind]

section Clock

variable {clock : Nat → Int}

/-- A clock that advances by five seconds across every sleep has advanced by `5 k` seconds from the
first pass's reading to the `k`-th pass's after it. -/
theorem clock_advances (hsleep : ∀ k, clock (k + 1) + 5000000 ≤ clock (k + 2)) (k : Nat) :
    clock 1 + k * 5000000 ≤ clock (k + 1) := by
  induction k with
  | zero => simp
  | succ k ih =>
    have h : clock (k + 1) + 5000000 ≤ clock (k + 1 + 1) := hsleep k
    push_cast
    omega

theorem past_timeout (hmono : Monotone clock)
    (hsleep : ∀ k, clock (k + 1) + 5000000 ≤ clock (k + 2)) :
    ¬deltaSeconds (clock 0) (clock 61) < 300 := by
  have h60 : clock 1 + 60 * 5000000 ≤ clock 61 := by simpa using clock_advances hsleep 60
  have h01 : clock 0 ≤ clock 1 := hmono (Nat.zero_le 1)
  rw [deltaSeconds_lt_timeout]
  omega

theorem under_timeout_of_le (hmono : Monotone clock) {j k : Nat} (hjk : j ≤ k)
    (h : deltaSeconds (clock 0) (clock (k + 1)) < 300) :
    deltaSeconds (clock 0) (clock (j + 1)) < 300 := by
  have := hmono (Nat.add_le_add_right hjk 1)
  rw [deltaSeconds_lt_timeout] at h ⊢
  omega

end Clock

variable (self : ClouderaUtils)

/-- For a non-empty list of instances, the inventories the successive polls return, and a monotone
clock that advances by at least the five seconds of each sleep, `await_agents` ends within sixty-one
passes.  It returns normally exactly when some poll begun under the timeout found every instance.
Its passes are, in order, `K` that found an instance missing, each followed by one sleep, and a last
one: a poll that found every instance, after which it polls and sleeps no more, or a clock reading
past the timeout, the first one, at which it raises. -/
theorem awaitAgents_terminates (first : Instance) (rest : List Instance) (clock : Nat → Instant)
    (inventories : Nat → List ApiHost) (hmono : Monotone clock)
    (hsleep : ∀ k, clock (k + 1) + 5000000 ≤ clock (k + 2)) :
    ∃ run, (∀ fuel ≥ 61,
        self.awaitAgents ⟨clock, fun k => .ok (inventories k)⟩ (first :: rest) fuel = some run) ∧
      (run.result = .ok () ↔ ∃ k, deltaSeconds (clock 0) (clock (k + 1)) < 300 ∧
        Registered (first :: rest) (inventories k)) ∧
      ∃ K ≤ 60, (∀ j < K, deltaSeconds (clock 0) (clock (j + 1)) < 300 ∧
          ¬Registered (first :: rest) (inventories j)) ∧
        (deltaSeconds (clock 0) (clock (K + 1)) < 300 → Registered (first :: rest) (inventories K)) ∧
        run.events = .call .utcnow ::
          ((List.replicate K [.call .utcnow,
            .call (.getAllHosts (self.getApiClient first.nodeGroup.cluster) "full"),
            .call (.sleep 5)]).flatten ++
          if deltaSeconds (clock 0) (clock (K + 1)) < 300 then
            [.call .utcnow, .call (.getAllHosts (self.getApiClient first.nodeGroup.cluster) "full")]
          else [.call .utcnow]) ∧
        run.result = if deltaSeconds (clock 0) (clock (K + 1)) < 300 then .ok ()
          else .error (.hadoopProvisionError timeoutMessage) := by
  classical
  have hex : ∃ j, deltaSeconds (clock 0) (clock (j + 1)) < 300 →
      Registered (first :: rest) (inventories j) :=
    ⟨60, fun h => absurd h (past_timeout hmono hsleep)⟩
  have hK : Nat.find hex ≤ 60 := Nat.find_min' hex fun h => absurd h (past_timeout hmono hsleep)
  have hcont : ∀ j < Nat.find hex, deltaSeconds (clock 0) (clock (j + 1)) < 300 ∧
      ¬Registered (first :: rest) (inventories j) :=
    fun j hj => Classical.not_imp.mp (Nat.find_min hex hj)
  have hloop := awaitAgentsLoop_eq ⟨clock, fun k => .ok (inventories k)⟩
    (self.getApiClient first.nodeGroup.cluster) (first :: rest) (clock 0) inventories (fun _ => rfl)
    (Nat.find hex) 0
  simp only [Nat.zero_add] at hloop
  refine ⟨⟨.call .utcnow :: _,
    if deltaSeconds (clock 0) (clock (Nat.find hex + 1)) < 300 then .ok ()
    else .error (.hadoopProvisionError timeoutMessage)⟩, fun fuel hfuel => ?_, ?_, Nat.find hex, hK,
    hcont, Nat.find_spec hex, rfl, rfl⟩
  · simp only [awaitAgents, List.head?, hloop fuel (by omega) hcont (Nat.find_spec hex)]
    rfl
  · constructor
    · intro h
      by_cases hu : deltaSeconds (clock 0) (clock (Nat.find hex + 1)) < 300
      · exact ⟨_, hu, Nat.find_spec hex hu⟩
      · simp [hu] at h
    · rintro ⟨k, hk, hreg⟩
      have hu := under_timeout_of_le hmono (Nat.find_min' hex fun _ => hreg) hk
      simp [hu]

/-- With one worker that registers at the fourth poll, on a clock that reads ten seconds more at
each pass, `await_agents` returns. -/
theorem awaitAgents_returns_after_registration :
    ∃ run, (∀ fuel ≥ 61, keepShownames.awaitAgents
        ⟨fun k => k * 10000000, fun k => .ok (if k < 3 then [] else [⟨"h1", "worker-1"⟩])⟩
        [⟨"worker-1", "10.0.0.3", ⟨["DATANODE"], exampleCluster⟩⟩] fuel = some run) ∧
      run.result = .ok () := by
  obtain ⟨run, hrun, hiff, -⟩ := awaitAgents_terminates keepShownames
    ⟨"worker-1", "10.0.0.3", ⟨["DATANODE"], exampleCluster⟩⟩ [] (fun k => k * 10000000)
    (fun k => if k < 3 then [] else [⟨"h1", "worker-1"⟩])
    (fun a b h => show (a : Int) * 10000000 ≤ b * 10000000 by omega)
    (fun k => show ((k + 1 : Nat) : Int) * 10000000 + 5000000 ≤ ((k + 2 : Nat) : Int) * 10000000 by
      push_cast; omega)
  exact ⟨run, hrun, hiff.mpr ⟨3, by rw [deltaSeconds_lt_timeout]; decide, by decide⟩⟩

end Sahara.Cdh.ClouderaUtils
