import Sahara.Cdh.ClouderaUtils

/-! What `cloudera_cmd` does with the commands its producer yields.  The test on a finished command
comes down to `failureMessage`; the loop performs the producer's events in order, each yield as the
wait on its command, and stops at the first command that fails the test, before the producer is
resumed again.  A failed command with a list of children none of which failed passes the test. -/

namespace Sahara.Cdh

open Run

/-- The message of the `HadoopProvisionError` that `cloudera_cmd` raises on a finished command, if
it raises one: the first failed child's when the command failed with a list of children, its own
when it failed with none. -/
def failureMessage (result : CommandResult) : Option String :=
  if result.success then none
  else match result.children with
    | some children => (children.find? fun c => !c.success).map ChildCommand.resultMessage
    | none => some result.resultMessage

theorem failureMessage_eq_none_iff (result : CommandResult) :
    failureMessage result = none ↔ result.success = true ∨
      ∃ children, result.children = some children ∧ ∀ c ∈ children, c.success = true := by
  unfold failureMessage
  cases result.success <;> cases result.children <;> simp

theorem forM_children_eq (children : List ChildCommand) :
    (children.forM fun c => if !c.success then throw (.hadoopProvisionError c.resultMessage)
      else pure () : Run Event Unit) =
      match children.find? fun c => !c.success with
      | some c => throw (.hadoopProvisionError c.resultMessage)
      | none => pure () := by
  induction children with
  | nil => rfl
  | cons c cs ih =>
    rw [List.forM_cons', List.find?_cons]
    cases c.success
    · rfl
    · exact ih

theorem checkResult_eq (result : CommandResult) :
    checkResult result = match failureMessage result with
      | some m => throw (.hadoopProvisionError m)
      | none => pure () := by
  unfold checkResult failureMessage
  cases result.success with
  | true => rfl
  | false =>
    cases result.children with
    | none => rfl
    | some children =>
      simp only [Bool.not_false, ↓reduceIte, forM_children_eq]
      cases children.find? fun c => !c.success <;> rfl

variable (ep : Endpoint)

/-- How the wrapper's pass on `cmd` ends: with the exception the wait raises, or with the one the
test raises, or with none. -/
def waitError (cmd : ApiCommand) : Option PyError :=
  match ep (.wait cmd) with
  | .error e => some e
  | .ok result => (failureMessage result).map PyError.hadoopProvisionError

@[simp] theorem waitOn_events (cmd : ApiCommand) :
    (waitOn ep cmd).events = [.call (.wait cmd)] := by
  unfold waitOn ask
  rw [invoke_bind]
  cases ep (.wait cmd) with
  | error e => rfl
  | ok r =>
    show _ :: (checkResult r).events = _
    rw [checkResult_eq]
    cases failureMessage r <;> rfl

theorem waitOn_result (cmd : ApiCommand) :
    (waitOn ep cmd).result = match waitError ep cmd with
      | some e => .error e
      | none => .ok () := by
  unfold waitOn ask waitError
  rw [invoke_bind]
  cases ep (.wait cmd) with
  | error e => rfl
  | ok r =>
    show (checkResult r).result = match (failureMessage r).map PyError.hadoopProvisionError with
      | some e => .error e
      | none => .ok ()
    rw [checkResult_eq]
    cases failureMessage r <;> rfl

/-- How the wrapper performs an event of the producer: a call as itself, a yielded command as the
wait on it. -/
def waitFor : Event → Event
  | .call c => .call c
  | .yield cmd => .call (.wait cmd)

/-- Every command yielded among `evs` passes the wrapper's pass. -/
def AllPass (evs : List Event) : Prop := ∀ cmd, .yield cmd ∈ evs → waitError ep cmd = none

theorem allPass_cons {ev : Event} {evs : List Event} (h : AllPass ep (ev :: evs)) :
    AllPass ep evs :=
  fun cmd hm => h cmd (List.mem_cons_of_mem ev hm)

/-- When every command passes, the wrapper performs all the producer's events and ends as it
does. -/
theorem clouderaCmdLoop_pass (evs : List Event) (r : Except PyError Unit) (h : AllPass ep evs) :
    clouderaCmdLoop ep evs r = ⟨evs.map waitFor, r⟩ := by
  induction evs with
  | nil => rfl
  | cons ev evs ih =>
    cases ev with
    | call c => simp [clouderaCmdLoop, ih (allPass_cons ep h), waitFor]
    | yield cmd =>
      have hpass : (waitOn ep cmd).result = .ok () := by
        rw [waitOn_result, h cmd (List.mem_cons_self _ _)]
      rw [clouderaCmdLoop, bind_ok hpass, ih (allPass_cons ep h)]
      simp [waitFor]

/-- At the first command that fails, the wrapper stops with that failure: the producer's events
after it are never performed. -/
theorem clouderaCmdLoop_fail (pre post : List Event) (cmd : ApiCommand) (r : Except PyError Unit)
    (e : PyError) (hpre : AllPass ep pre) (he : waitError ep cmd = some e) :
    clouderaCmdLoop ep (pre ++ .yield cmd :: post) r =
      ⟨(pre ++ [Event.yield cmd]).map waitFor, .error e⟩ := by
  induction pre with
  | nil =>
    have hfail : (waitOn ep cmd).result = .error e := by rw [waitOn_result, he]
    simp [clouderaCmdLoop, bind_error hfail, waitFor]
  | cons ev pre ih =>
    cases ev with
    | call c => simp [clouderaCmdLoop, ih (allPass_cons ep hpre), waitFor]
    | yield c =>
      have hpass : (waitOn ep c).result = .ok () := by
        rw [waitOn_result, hpre c (List.mem_cons_self _ _)]
      rw [List.cons_append, clouderaCmdLoop, bind_ok hpass, ih (allPass_cons ep hpre)]
      simp [waitFor]

theorem allPass_append {evs evs' : List Event} (h : AllPass ep evs) (h' : AllPass ep evs') :
    AllPass ep (evs ++ evs') := fun cmd hm =>
  (List.mem_append.mp hm).elim (h cmd) (h' cmd)

/-- Either every yielded command passes, or there is a first one that fails. -/
theorem allPass_or_first_failure (evs : List Event) :
    AllPass ep evs ∨ ∃ pre cmd post e, evs = pre ++ .yield cmd :: post ∧ AllPass ep pre ∧
      waitError ep cmd = some e := by
  induction evs with
  | nil => exact .inl fun _ h => absurd h (List.not_mem_nil _)
  | cons ev evs ih =>
    by_cases hfail : ∃ cmd e, ev = .yield cmd ∧ waitError ep cmd = some e
    · obtain ⟨cmd, e, rfl, he⟩ := hfail
      exact .inr ⟨[], cmd, evs, e, rfl, fun _ h => absurd h (List.not_mem_nil _), he⟩
    · have hev : AllPass ep [ev] := fun cmd hm => by
        rw [List.mem_singleton] at hm
        cases he : waitError ep cmd with
        | none => rfl
        | some e => exact absurd ⟨cmd, e, hm.symm, he⟩ hfail
      rcases ih with hall | ⟨pre, cmd, post, e, rfl, hpre, he⟩
      · exact .inl (allPass_append ep hev hall)
      · exact .inr ⟨ev :: pre, cmd, post, e, rfl, allPass_append ep hev hpre, he⟩

theorem clouderaCmd_result_ok_iff (producer : Run Event Unit) :
    (clouderaCmd ep producer).result = .ok () ↔
      producer.result = .ok () ∧ AllPass ep producer.events := by
  unfold clouderaCmd
  rcases allPass_or_first_failure ep producer.events with hall | ⟨pre, cmd, post, e, heq, hpre, he⟩
  · rw [clouderaCmdLoop_pass ep _ _ hall]
    exact ⟨fun h => ⟨h, hall⟩, And.left⟩
  · rw [heq, clouderaCmdLoop_fail ep pre post cmd _ e hpre he]
    refine ⟨nofun, fun ⟨_, hall⟩ => ?_⟩
    rw [hall cmd (by simp)] at he
    cases he

/-- `cloudera_cmd` returns normally exactly when its producer does and the wait on every command it
yields returns a result that succeeded, or that failed with a list of children none of which
failed. -/
theorem clouderaCmd_returns_iff (producer : Run Event Unit) :
    (clouderaCmd ep producer).result = .ok () ↔ producer.result = .ok () ∧
      ∀ cmd, .yield cmd ∈ producer.events → ∃ result, ep (.wait cmd) = .ok result ∧
        (result.success = true ∨
          ∃ children, result.children = some children ∧ ∀ c ∈ children, c.success = true) := by
  rw [clouderaCmd_result_ok_iff]
  refine and_congr_right fun _ => forall_congr' fun cmd => imp_congr_right fun _ => ?_
  unfold waitError
  cases ep (.wait cmd) with
  | error e => simp
  | ok result => simp [failureMessage_eq_none_iff]

/-! ### `cloudera_cmd` and the sequencing of generator bodies -/

theorem clouderaCmdLoop_append (evs evs' : List Event) (r : Except PyError Unit) :
    clouderaCmdLoop ep (evs ++ evs') r =
      clouderaCmdLoop ep evs (.ok ()) >>= fun _ => clouderaCmdLoop ep evs' r := by
  induction evs with
  | nil => rfl
  | cons ev evs ih =>
    cases ev <;> simp only [List.cons_append, clouderaCmdLoop, List.append_eq, ih, bind_assoc]

theorem clouderaCmdLoop_error_bind (evs : List Event) (e : PyError) (f : Unit → Run Event Unit) :
    (clouderaCmdLoop ep evs (.error e) >>= f) = clouderaCmdLoop ep evs (.error e) := by
  induction evs with
  | nil => rfl
  | cons ev evs ih => cases ev <;> simp only [clouderaCmdLoop, bind_assoc, ih]

theorem clouderaCmd_bind (p q : Run Event Unit) :
    clouderaCmd ep (p >>= fun _ => q) = clouderaCmd ep p >>= fun _ => clouderaCmd ep q := by
  cases hp : p.result with
  | error e => rw [bind_error hp, clouderaCmd, clouderaCmd, hp, clouderaCmdLoop_error_bind]
  | ok u =>
    rw [bind_ok hp, clouderaCmd, clouderaCmd, hp, clouderaCmdLoop_append]
    rfl

/-- `cloudera_cmd` commutes with the sequencing of generator bodies: a decorated body that runs one
producer and then another makes the same calls, waits on the same commands in the same order, and
ends the same way as the two decorated producers run one after the other; and a decorated loop of
producers is the loop of the decorated producers. -/
theorem clouderaCmd_commutes_with_sequencing :
    (∀ p q : Run Event Unit,
      clouderaCmd ep (p >>= fun _ => q) = clouderaCmd ep p >>= fun _ => clouderaCmd ep q) ∧
    ∀ {α : Type} (xs : List α) (f : α → Run Event Unit),
      clouderaCmd ep (xs.forM f) = xs.forM fun x => clouderaCmd ep (f x) := by
  refine ⟨clouderaCmd_bind ep, fun xs f => ?_⟩
  induction xs with
  | nil => rfl
  | cons x xs ih => rw [List.forM_cons', List.forM_cons', clouderaCmd_bind, ih]

/-- An endpoint on which `service.start()` submits a command that fails with an empty list of
children. -/
def failsWithNoChildren : Endpoint := fun
  | .serviceStart _ => .ok ⟨0⟩
  | .wait _ => .ok ⟨false, "Command failed", some []⟩
  | _ => .error (.raised "ApiException" "unexpected call")

/-- `start_service` returns normally there, although the command it waited on failed. -/
theorem startService_passes_failed_command :
    failsWithNoChildren (.wait ⟨0⟩) = .ok ⟨false, "Command failed", some []⟩ ∧
    (ClouderaUtils.startService failsWithNoChildren ⟨"cluster", "hdfs01"⟩).events =
      [.call (.serviceStart ⟨"cluster", "hdfs01"⟩), .call (.wait ⟨0⟩)] ∧
    (ClouderaUtils.startService failsWithNoChildren ⟨"cluster", "hdfs01"⟩).result = .ok () :=
  ⟨rfl, rfl, rfl⟩

end Sahara.Cdh
