import Utterance.Act

/-! How acts end that are made of other acts, and acts that end early only when their caller stops them. -/

namespace Utterance

/-- A part that is read as it was written. -/
def Part.Retains {W V : Type} (part : Part W V) : Prop :=
  ∀ v w, part.read (part.write v w) = v

theorem Part.read_whole {W : Type} (w : W) : (Part.whole W).read w = w := rfl

theorem Part.retains_whole (W : Type) : (Part.whole W).Retains := fun _ _ => rfl

instance {α : Type} [DecidableEq α] : DecidableEq (Outcome α)
  | .ok x, .ok y => decidable_of_iff (x = y) ⟨congrArg Except.ok, Except.ok.inj⟩
  | .error e, .error f => decidable_of_iff (e = f) ⟨congrArg Except.error, Except.error.inj⟩
  | .ok _, .error _ => isFalse fun h => by cases h
  | .error _, .ok _ => isFalse fun h => by cases h

namespace Act

variable {W α β : Type}

@[simp] theorem on_pure (x : α) (w : W) : (pure x : Act W α).on w = (.ok x, w) := rfl

@[simp] theorem on_throw (e : Fault) (w : W) : (throw e : Act W α).on w = (.error e, w) := rfl

@[simp] theorem on_get (w : W) : (get : Act W W).on w = (.ok w, w) := rfl

@[simp] theorem on_set (v w : W) : (set v : Act W PUnit).on w = (.ok ⟨⟩, v) := rfl

theorem on_lift (m : StateM W α) (w : W) : (liftM m : Act W α).on w = (.ok (m w).1, (m w).2) := rfl

theorem on_bind (a : Act W α) (f : α → Act W β) (w : W) :
    (a >>= f).on w =
      match a.on w with
      | (.ok x, v) => (f x).on v
      | (.error e, v) => (.error e, v) := by
  show (ExceptT.bindCont f (a.on w).1).run (a.on w).2 = _
  cases a.on w with
  | mk o v => cases o <;> rfl

theorem on_bind_ok {a : Act W α} {x : α} {v w : W} (h : a.on w = (.ok x, v)) (f : α → Act W β) :
    (a >>= f).on w = (f x).on v := by rw [on_bind, h]

theorem on_forM_cons {f : α → Act W PUnit} {x : α} {v w : W} (h : (f x).on w = (.ok ⟨⟩, v))
    (xs : List α) : ((x :: xs).forM f).on w = (xs.forM f).on v := by
  rw [List.forM_eq_forM, List.forM_cons, on_bind_ok h]

@[simp] theorem on_attempt (a : Act W α) (w : W) :
    a.attempt.on w = (.ok (a.on w).1, (a.on w).2) := rfl

theorem exists_of_bind {a : Act W α} {f : α → Act W β} {y : β} {v w : W}
    (h : (a >>= f).on w = (.ok y, v)) : ∃ x u, a.on w = (.ok x, u) ∧ (f x).on u = (.ok y, v) := by
  rw [on_bind] at h
  split at h
  · exact ⟨_, _, by assumption, h⟩
  · cases h

theorem on_recover (a : Act W α) (f : Fault → Act W α) (w : W) :
    (a.recover f).on w =
      match a.on w with
      | (.ok x, v) => (.ok x, v)
      | (.error e, v) => if e.isCancelled then (.error e, v) else (f e).on v := by
  unfold recover
  rw [on_bind, on_attempt]
  rcases a.on w with ⟨o, v⟩
  cases o with
  | ok x => rfl
  | error e => cases h : e.isCancelled <;> simp [h]

theorem on_map (a : Act W α) (f : α → β) (w : W) :
    Act.on (a.map f) w = ((a.on w).1.map f, (a.on w).2) := by
  show Act.on (a >>= fun x => pure (f x)) w = _
  rw [on_bind]
  rcases a.on w with ⟨o, v⟩
  cases o <;> rfl

theorem exists_on_ok {a : Act W α} {w : W} (h : (a.on w).1.toOption.isSome) :
    ∃ x v, a.on w = (.ok x, v) := by
  cases ha : a.on w with
  | mk o v =>
    rw [ha] at h
    cases o with
    | ok x => exact ⟨x, v, rfl⟩
    | error e => cases h

theorem exists_on_of_map {a : Act W α} {w : W} {f : α → β} {y : β}
    (h : (a.on w).1.toOption.map f = some y) : ∃ x v, a.on w = (.ok x, v) ∧ f x = y := by
  rcases ha : a.on w with ⟨o, v⟩
  rw [ha] at h
  cases o with
  | ok x => exact ⟨x, v, rfl, Option.some.inj h⟩
  | error e => cases h

/-- What an act ends with in a world, if it does not fail, has a property. -/
def YieldsAt (w : W) (P : α → Prop) (a : Act W α) : Prop := ∀ x v, a.on w = (.ok x, v) → P x

def Yields (P : α → Prop) (a : Act W α) : Prop := ∀ w, YieldsAt w P a

theorem yields_pure {P : α → Prop} {x : α} (h : P x) : Yields P (pure x : Act W α) := by
  intro w y v hy
  cases hy
  exact h

theorem yields_throw (P : α → Prop) (e : Fault) : Yields P (throw e : Act W α) := by
  intro w y v hy
  cases hy

theorem YieldsAt.bind {w : W} {P : α → Prop} {Q : β → Prop} {a : Act W α} {f : α → Act W β}
    (ha : YieldsAt w P a) (hf : ∀ x, P x → Yields Q (f x)) : YieldsAt w Q (a >>= f) := by
  intro y v h
  rw [on_bind] at h
  cases hw : a.on w with
  | mk o u =>
    rw [hw] at h
    cases o with
    | ok x => exact hf x (ha x u hw) u y v h
    | error e => cases h

theorem Yields.bind {P : α → Prop} {Q : β → Prop} {a : Act W α} {f : α → Act W β}
    (ha : Yields P a) (hf : ∀ x, P x → Yields Q (f x)) : Yields Q (a >>= f) :=
  fun w => (ha w).bind hf

theorem yields_bind {Q : β → Prop} (a : Act W α) {f : α → Act W β} (hf : ∀ x, Yields Q (f x)) :
    Yields Q (a >>= f) :=
  Yields.bind (P := fun _ => True) (fun _ _ _ _ => trivial) fun x _ => hf x

/-! Watches. -/

theorem on_check (watch : Watch W) (w : W) :
    watch.check.on w = (match watch.fault? w with | some e => .error e | none => .ok (), w) := by
  unfold Watch.check
  rw [on_bind, on_get]
  dsimp only
  cases watch.fault? w <;> rfl

end Act

def Lost (e : Fault) : Prop := e.isCancelled = true

theorem Watch.lost_of_fault? {W : Type} {watch : Watch W} {w : W} {e : Fault}
    (h : watch.fault? w = some e) : Lost e := by
  unfold fault? at h
  split at h
  · cases h
    rfl
  · split at h
    · cases h
      rfl
    · cases h

/-- A watch of a caller who never loses patience. -/
structure Watch.IsSteady {W : Type} (watch : Watch W) : Prop where
  calledOff : ∀ w, watch.calledOff w = false
  deadline : watch.deadline = none

theorem Watch.IsSteady.on_check {W : Type} {watch : Watch W} (h : watch.IsSteady) (w : W) :
    watch.check.on w = (.ok (), w) := by
  rw [Act.on_check]
  simp [fault?, h.calledOff, h.deadline]

/-- The caller has stopped an act that ended with this fault in this world: it was called off, or its time
was over. -/
def Watch.HasStopped {W : Type} (watch : Watch W) (e : Fault) (w : W) : Prop :=
  Lost e ∧ (watch.fault? w).isSome

namespace Act

variable {W α β : Type} {watch : Watch W}

/-- An act that fails only when its caller stops it. -/
def OnlyStopped (watch : Watch W) (a : Act W α) : Prop :=
  ∀ w e v, a.on w = (.error e, v) → watch.HasStopped e v

theorem onlyStopped_of_ok {a : Act W α} (h : ∀ w, ∃ x v, a.on w = (.ok x, v)) : OnlyStopped watch a := by
  intro w e v he
  obtain ⟨x, u, hw⟩ := h w
  rw [hw] at he
  cases he

theorem onlyStopped_pure (x : α) : OnlyStopped watch (pure x : Act W α) :=
  onlyStopped_of_ok fun w => ⟨x, w, rfl⟩

/-- An act that begins with one that fails only when its caller stops it is stopped there, or goes on. -/
theorem OnlyStopped.on_bind {a : Act W α} {f : α → Act W β} (ha : OnlyStopped watch a) {o : Outcome β}
    {w v : W} (h : (a >>= f).on w = (o, v)) :
    (∃ e, o = .error e ∧ watch.HasStopped e v) ∨ ∃ x u, a.on w = (.ok x, u) ∧ (f x).on u = (o, v) := by
  rw [Act.on_bind] at h
  cases hw : a.on w with
  | mk o' u =>
    rw [hw] at h
    cases o' with
    | ok x => exact .inr ⟨x, u, rfl, h⟩
    | error e =>
      cases h
      exact .inl ⟨e, rfl, ha w e v hw⟩

theorem OnlyStopped.bind {a : Act W α} {f : α → Act W β} (ha : OnlyStopped watch a)
    (hf : ∀ x, OnlyStopped watch (f x)) : OnlyStopped watch (a >>= f) := by
  intro w e v h
  obtain ⟨_, ⟨⟩, hstop⟩ | ⟨x, u, -, h⟩ := ha.on_bind h
  · exact hstop
  · exact hf x u e v h

theorem onlyStopped_check (watch : Watch W) : OnlyStopped watch watch.check := by
  intro w e v h
  rw [on_check] at h
  cases hf : watch.fault? w with
  | none =>
    rw [hf] at h
    cases h
  | some e' =>
    rw [hf] at h
    cases h
    exact ⟨Watch.lost_of_fault? hf, by rw [hf]; rfl⟩

/-- Nothing has happened in a world that passes a check. -/
theorem eq_of_on_check {w v : W} (h : watch.check.on w = (.ok (), v)) : v = w := by
  rw [on_check] at h
  exact (Prod.mk.inj h).2.symm

theorem isSome_fault?_of_late (hclock : watch.clock.Retains) {d : Nat} (hd : watch.deadline = some d)
    (w : W) : (watch.fault? (watch.clock.write d w)).isSome := by
  unfold Watch.fault?
  split
  · rfl
  · simp [hd, hclock d w]

/-- A wait ends early when the caller loses patience, and otherwise only time has gone by. -/
theorem on_sleep (hclock : watch.clock.Retains) (span : Span) {o : Outcome Unit} {w v : W}
    (h : (watch.sleep span).on w = (o, v)) :
    (∃ e, o = .error e ∧ watch.HasStopped e v) ∨
      o = .ok () ∧ v = watch.clock.write (watch.clock.read w + span.nanos) w := by
  have hv : watch.clock.value.on w = (.ok (watch.clock.read w), w) := rfl
  unfold Watch.sleep at h
  obtain hstop | ⟨_, u, hc, h⟩ := (onlyStopped_check watch).on_bind h
  · exact .inl hstop
  · rw [eq_of_on_check hc, Act.on_bind_ok hv] at h
    dsimp only at h
    cases hd : watch.deadline.filter (· ≤ watch.clock.read w + span.nanos) with
    | none =>
      rw [hd] at h
      cases h
      exact .inr ⟨rfl, rfl⟩
    | some d =>
      rw [hd] at h
      cases h
      have hlate := isSome_fault?_of_late hclock (Option.filter_eq_some_iff.mp hd).1 w
      exact .inl ⟨Watch.lateFault, rfl, rfl, hlate⟩

theorem onlyStopped_sleep (hclock : watch.clock.Retains) (span : Span) :
    OnlyStopped watch (watch.sleep span) := by
  intro w e v h
  obtain ⟨_, ⟨⟩, hstop⟩ | ⟨⟨⟩, -⟩ := on_sleep hclock span h
  exact hstop

end Act

end Utterance
