import Mathlib.Algebra.Order.Field.Rat
import Mathlib.Data.List.Nodup
import Mathlib.Algebra.Order.Field.Basic
import Mathlib.Tactic.NormNum

/-! The part of Python that the plugin and the periodic tasks rely on.  A call of the code runs
against collaborators whose answers are fixed functions of their arguments, so what a call does is a
finite `Run`: the events it performs, in order, and how it ends, with a value or with an exception.
An exception keeps the events performed before it, as Python keeps their side effects. -/

namespace Sahara

/-- The exceptions the code raises itself, and any exception a collaborator raises. -/
inductive PyError where
  | hadoopProvisionError (message : String)
  | valueError (message : String)
  | indexError (message : String)
  | raised (cls message : String)
  deriving DecidableEq, Repr

/-- Outcomes are compared constructor by constructor, so that a test on an answer can be run. -/
instance instDecidableEqExcept {ε α : Type} [DecidableEq ε] [DecidableEq α] :
    DecidableEq (Except ε α)
  | .ok a, .ok b => if h : a = b then isTrue (h ▸ rfl) else isFalse fun h' => h (Except.ok.inj h')
  | .error a, .error b =>
    if h : a = b then isTrue (h ▸ rfl) else isFalse fun h' => h (Except.error.inj h')
  | .ok _, .error _ => isFalse nofun
  | .error _, .ok _ => isFalse nofun

/-- What one call of the code does: the events it performs and its result. -/
structure Run (ε α : Type) where
  events : List ε
  result : Except PyError α

namespace Run

variable {ε α β γ : Type}

/-- Run `x`, then, unless it raised, `f` on its value; an exception skips the rest. -/
def bind (x : Run ε α) (f : α → Run ε β) : Run ε β :=
  match x.result with
  | .ok a => ⟨x.events ++ (f a).events, (f a).result⟩
  | .error e => ⟨x.events, .error e⟩

instance : Monad (Run ε) where
  pure a := ⟨[], .ok a⟩
  bind := bind

/-- `try x except: h`: on an exception of `x`, `h` runs after the events of `x`. -/
def tryCatch (x : Run ε α) (h : PyError → Run ε α) : Run ε α :=
  match x.result with
  | .ok _ => x
  | .error e => ⟨x.events ++ (h e).events, (h e).result⟩

instance : MonadExceptOf PyError (Run ε) where
  throw e := ⟨[], .error e⟩
  tryCatch := tryCatch

/-- A call to a collaborator: the call is recorded, then its answer is returned or raised. -/
def invoke (ev : ε) (answer : Except PyError α) : Run ε α := ⟨[ev], answer⟩

@[simp] theorem events_pure (a : α) : (pure a : Run ε α).events = [] := rfl
@[simp] theorem result_pure (a : α) : (pure a : Run ε α).result = .ok a := rfl
@[simp] theorem events_throw (e : PyError) : (throw e : Run ε α).events = [] := rfl
@[simp] theorem result_throw (e : PyError) : (throw e : Run ε α).result = .error e := rfl
@[simp] theorem events_invoke (ev : ε) (r : Except PyError α) : (invoke ev r).events = [ev] := rfl
@[simp] theorem result_invoke (ev : ε) (r : Except PyError α) : (invoke ev r).result = r := rfl

theorem bind_def (x : Run ε α) (f : α → Run ε β) : x >>= f = x.bind f := rfl

theorem bind_ok {x : Run ε α} {a : α} (h : x.result = .ok a) (f : α → Run ε β) :
    x >>= f = ⟨x.events ++ (f a).events, (f a).result⟩ := by
  simp only [bind_def, bind, h]

theorem bind_error {x : Run ε α} {e : PyError} (h : x.result = .error e) (f : α → Run ε β) :
    x >>= f = ⟨x.events, .error e⟩ := by
  simp only [bind_def, bind, h]

@[simp] theorem ok_bind (evs : List ε) (a : α) (f : α → Run ε β) :
    (⟨evs, .ok a⟩ : Run ε α) >>= f = ⟨evs ++ (f a).events, (f a).result⟩ := rfl

@[simp] theorem error_bind (evs : List ε) (e : PyError) (f : α → Run ε β) :
    (⟨evs, .error e⟩ : Run ε α) >>= f = ⟨evs, .error e⟩ := rfl

@[simp] theorem invoke_bind (ev : ε) (r : Except PyError α) (f : α → Run ε β) :
    invoke ev r >>= f = match r with
      | .ok a => ⟨ev :: (f a).events, (f a).result⟩
      | .error e => ⟨[ev], .error e⟩ := by
  cases r <;> rfl

@[simp] theorem monadExcept_tryCatch (x : Run ε α) (h : PyError → Run ε α) :
    MonadExcept.tryCatch x h = x.tryCatch h := rfl

@[simp] theorem invoke_tryCatch (ev : ε) (r : Except PyError α) (h : PyError → Run ε α) :
    (invoke ev r).tryCatch h = match r with
      | .ok a => ⟨[ev], .ok a⟩
      | .error e => ⟨ev :: (h e).events, (h e).result⟩ := by
  cases r <;> rfl

theorem bind_invoke_ok (x : Run ε Unit) (ev : ε) :
    (x >>= fun _ => invoke ev (.ok ())) =
      ⟨x.events ++ (match x.result with | .ok _ => [ev] | .error _ => []), x.result⟩ := by
  obtain ⟨evs, _ | ⟨⟩⟩ := x <;> simp [invoke]

instance : LawfulMonad (Run ε) := LawfulMonad.mk' (Run ε)
  (fun x => by
    obtain ⟨evs, _ | _⟩ := x <;> simp [Functor.map, bind])
  (fun _ _ => rfl)
  (fun x f g => by
    obtain ⟨evs, _ | a⟩ := x
    · rfl
    · cases h : (f a).result <;> simp [bind_def, bind, h])

theorem events_bind_ok {x : Run ε α} {a : α} (h : x.result = .ok a) (f : α → Run ε β) :
    (x >>= f).events = x.events ++ (f a).events := by
  rw [bind_ok h]

theorem result_bind_ok {x : Run ε α} {a : α} (h : x.result = .ok a) (f : α → Run ε β) :
    (x >>= f).result = (f a).result := by
  rw [bind_ok h]

theorem bind_result_ok {x : Run ε α} {f : α → Run ε β} {b : β} (h : (x >>= f).result = .ok b) :
    ∃ a, x.result = .ok a ∧ (f a).result = .ok b ∧ (x >>= f).events = x.events ++ (f a).events := by
  cases hx : x.result with
  | error e => rw [bind_error hx] at h; cases h
  | ok a => exact ⟨a, rfl, by rwa [result_bind_ok hx] at h, events_bind_ok hx f⟩

theorem forM_ok {xs : List α} {f : α → Run ε PUnit} (h : ∀ x ∈ xs, (f x).result = .ok ⟨⟩) :
    (xs.forM f).result = .ok ⟨⟩ ∧ (xs.forM f).events = xs.flatMap fun x => (f x).events := by
  induction xs with
  | nil => exact ⟨rfl, rfl⟩
  | cons x xs ih =>
    obtain ⟨hr, he⟩ := ih fun y hy => h y (List.mem_cons_of_mem x hy)
    rw [List.forM_cons', bind_ok (h x (List.mem_cons_self x xs))]
    exact ⟨hr, by simp [he]⟩

/-- A loop ends normally exactly when every iteration does. -/
theorem forM_result_ok_iff {xs : List α} {f : α → Run ε PUnit} :
    (xs.forM f).result = .ok ⟨⟩ ↔ ∀ x ∈ xs, (f x).result = .ok ⟨⟩ := by
  induction xs with
  | nil => exact ⟨fun _ _ h => absurd h (List.not_mem_nil _), fun _ => rfl⟩
  | cons x xs ih =>
    rw [List.forM_cons']
    rcases hx : (f x).result with e | ⟨⟩
    · rw [bind_error hx]
      exact ⟨nofun, fun h => by rw [h x (List.mem_cons_self x xs)] at hx; cases hx⟩
    · rw [result_bind_ok hx, ih]
      simp only [List.mem_cons, forall_eq_or_imp, hx, true_and]

theorem forM_append_ok {xs ys : List α} {f : α → Run ε PUnit}
    (h : (xs.forM f).result = .ok ⟨⟩) :
    (xs ++ ys).forM f = ⟨(xs.forM f).events ++ (ys.forM f).events, (ys.forM f).result⟩ := by
  rw [List.forM_append, bind_ok h]

theorem forM_insert {l₁ l₂ : List α} {x : α} {f : α → Run ε PUnit}
    (h₁ : (l₁.forM f).result = .ok ⟨⟩) (hx : (f x).result = .ok ⟨⟩) :
    (l₁ ++ x :: l₂).forM f =
      ⟨(l₁.forM f).events ++ (f x).events ++ (l₂.forM f).events, (l₂.forM f).result⟩ ∧
    (l₁ ++ l₂).forM f = ⟨(l₁.forM f).events ++ (l₂.forM f).events, (l₂.forM f).result⟩ := by
  rw [forM_append_ok h₁, forM_append_ok h₁, List.forM_cons', bind_ok hx]
  simp

theorem forM_stop {l₁ l₂ : List α} {x : α} {f : α → Run ε PUnit} {e : PyError}
    (h₁ : (l₁.forM f).result = .ok ⟨⟩) (hx : (f x).result = .error e) :
    (l₁ ++ x :: l₂).forM f = ⟨(l₁.forM f).events ++ (f x).events, .error e⟩ := by
  rw [forM_append_ok h₁, List.forM_cons', bind_error hx]

theorem mem_bind_events {x : Run ε α} {f : α → Run ε β} {ev : ε} (h : ev ∈ (x >>= f).events) :
    ev ∈ x.events ∨ ∃ a, ev ∈ (f a).events := by
  cases hx : x.result with
  | error e => rw [bind_error hx] at h; exact .inl h
  | ok a =>
    rw [events_bind_ok hx, List.mem_append] at h
    exact h.imp id fun h => ⟨a, h⟩

theorem mem_forM_events {xs : List α} {f : α → Run ε PUnit} {ev : ε}
    (h : ev ∈ (xs.forM f).events) : ∃ x ∈ xs, ev ∈ (f x).events := by
  induction xs with
  | nil => cases h
  | cons x xs ih =>
    rw [List.forM_cons'] at h
    cases hx : (f x).result with
    | error e => exact ⟨x, List.mem_cons_self x xs, by rwa [bind_error hx] at h⟩
    | ok u =>
      rw [events_bind_ok hx, List.mem_append] at h
      rcases h with h | h
      · exact ⟨x, List.mem_cons_self x xs, h⟩
      · obtain ⟨y, hy, hev⟩ := ih h
        exact ⟨y, List.mem_cons_of_mem x hy, hev⟩

theorem filterMap_forM_sublist {xs : List α} {f : α → Run ε PUnit} (p : ε → Option β)
    (g : α → List β) (h : ∀ x ∈ xs, ((f x).events.filterMap p).Sublist (g x)) :
    ((xs.forM f).events.filterMap p).Sublist (xs.flatMap g) := by
  induction xs with
  | nil => exact List.Sublist.slnil
  | cons x xs ih =>
    have hx := h x (List.mem_cons_self x xs)
    rw [List.forM_cons', List.flatMap_cons]
    cases hr : (f x).result with
    | error e => rw [bind_error hr]; exact hx.trans (List.sublist_append_left _ _)
    | ok u =>
      rw [events_bind_ok hr, List.filterMap_append]
      exact hx.append (ih fun y hy => h y (List.mem_cons_of_mem x hy))

end Run

theorem mem_map_filter_iff {α β : Type} {f : α → β} {l : List α} (hl : (l.map f).Nodup)
    {p : α → Bool} {a : α} (ha : a ∈ l) : f a ∈ (l.filter p).map f ↔ p a = true := by
  constructor
  · intro h
    obtain ⟨b, hb, hf⟩ := List.mem_map.mp h
    obtain ⟨hbl, hpb⟩ := List.mem_filter.mp hb
    rwa [← List.inj_on_of_nodup_map hl hbl ha hf]
  · exact fun h => List.mem_map_of_mem f (List.mem_filter.mpr ⟨ha, h⟩)

/-- `s.startswith(prefix)`. -/
def startswith (s pfx : String) : Bool := pfx.toList.isPrefixOf s.toList

/-- The slice `s[n:]`. -/
def sliceFrom (s : String) (n : Nat) : String := ⟨s.toList.drop n⟩

theorem startswith_append (pfx s : String) : startswith (pfx ++ s) pfx = true :=
  List.isPrefixOf_iff_prefix.mpr (List.prefix_append pfx.data s.data)

theorem sliceFrom_append (pfx s : String) : sliceFrom (pfx ++ s) pfx.length = s :=
  congrArg String.mk (List.drop_left pfx.data s.data)

theorem eq_append_sliceFrom {s pfx : String} (h : startswith s pfx = true) :
    s = pfx ++ sliceFrom s pfx.length := by
  obtain ⟨t, ht⟩ := List.isPrefixOf_iff_prefix.mp h
  have hs : s.data = pfx.data ++ t := ht.symm
  apply String.ext
  show s.data = pfx.data ++ s.data.drop pfx.data.length
  rw [hs, List.drop_left]

/-- A point in time, as `timeutils.utcnow()` returns it: microseconds, the resolution of
`datetime`. -/
abbrev Instant := Int

/-- `timeutils.delta_seconds(before, after)`: the seconds from `before` to `after`. -/
def deltaSeconds (before after : Instant) : ℚ := ((after - before : Int) : ℚ) / 1000000

/-- Against a whole number of seconds, `delta_seconds` compares as the microseconds do. -/
theorem deltaSeconds_lt_iff (before after : Instant) (seconds : Int) :
    deltaSeconds before after < seconds ↔ after - before < seconds * 1000000 := by
  rw [deltaSeconds, div_lt_iff₀ (by norm_num)]
  exact_mod_cast Iff.rfl

end Sahara
