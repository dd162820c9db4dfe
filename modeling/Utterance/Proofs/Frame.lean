import Utterance.Proofs.Logs

/-! What acts may do to a part of the world, and acts that fail only when patience is lost. -/

namespace Utterance

theorem Part.on_act {W V α : Type} (part : Part W V) (a : Act V α) (w : W) :
    (part.act a).on w = ((a.on (part.read w)).1, part.write (a.on (part.read w)).2 w) := rfl

namespace Act

variable {W V α β : Type}

theorem ext {a b : Act W α} (h : ∀ w, a.on w = b.on w) : a = b :=
  funext h

/-! Moves. -/

/-- An act that moves what `f` reads of the world only as `R` allows, however it ends. -/
def Moves (f : W → V) (R : V → V → Prop) (a : Act W α) : Prop :=
  ∀ w, R (f w) (f (a.on w).2)

section

variable {f : W → V} {R S : V → V → Prop}

theorem Moves.mono {a : Act W α} (h : Moves f R a) (hs : ∀ u v, R u v → S u v) : Moves f S a :=
  fun w => hs _ _ (h w)

theorem Moves.attempt {a : Act W α} (h : Moves f R a) : Moves f R a.attempt := h

theorem Moves.map {a : Act W α} (h : Moves f R a) (g : α → β) : Moves f R (a.map g : Act W β) := by
  intro w
  rw [on_map]
  exact h w

theorem Moves.bind [Trans R R R] {a : Act W α} {g : α → Act W β} (ha : Moves f R a)
    (hg : ∀ x, Moves f R (g x)) : Moves f R (a >>= g) := by
  intro w
  have h := ha w
  rw [on_bind]
  cases hw : a.on w with
  | mk o v =>
    rw [hw] at h
    cases o with
    | ok x => exact Trans.trans h (hg x v)
    | error e => exact h

theorem Moves.eq_of_on {a : Act W α} (h : Moves f Eq a) {o : Outcome α} {v w : W} (ha : a.on w = (o, v)) :
    f v = f w := by
  have hm := h w
  rw [ha] at hm
  exact hm.symm

/-- What is done behind an act that moves something may leave it alone. -/
theorem Moves.before {a : Act W α} {g : α → Act W β} (ha : Moves f R a) (hg : ∀ x, Moves f Eq (g x)) :
    Moves f R (a >>= g) := by
  intro w
  have h := ha w
  rw [on_bind]
  cases hw : a.on w with
  | mk o v =>
    rw [hw] at h
    cases o with
    | ok x => exact hg x v ▸ h
    | error e => exact h

variable [Std.Refl R]

theorem moves_pure (x : α) : Moves f R (pure x : Act W α) := fun w => Std.Refl.refl (f w)

theorem moves_throw (e : Fault) : Moves f R (throw e : Act W α) := fun w => Std.Refl.refl (f w)

theorem moves_ofOutcome (o : Outcome α) : Moves f R (ofOutcome o : Act W α) := by
  cases o with
  | ok x => exact moves_pure x
  | error e => exact moves_throw e

theorem moves_value {U : Type} (part : Part W U) : Moves f R part.value :=
  fun w => Std.Refl.refl (f w)

theorem moves_check (watch : Watch W) : Moves f R watch.check := by
  intro w
  rw [on_check]
  exact Std.Refl.refl (f w)

/-- What is done in front of an act that moves something may leave it alone. -/
theorem Moves.behind {a : Act W α} {g : α → Act W β} (ha : Moves f Eq a) (hg : ∀ x, Moves f R (g x)) :
    Moves f R (a >>= g) := by
  intro w
  have h := ha w
  rw [on_bind]
  cases hw : a.on w with
  | mk o v =>
    rw [hw] at h
    cases o with
    | ok x => exact h ▸ hg x v
    | error e => exact h ▸ Std.Refl.refl (f w)

theorem moves_bind_ofOutcome {o : Outcome α} {g : α → Act W β} (hg : ∀ x, o = .ok x → Moves f R (g x)) :
    Moves f R (ofOutcome o >>= g) := by
  cases o with
  | ok x => exact hg x rfl
  | error e => exact moves_throw e

variable [Trans R R R]

theorem Moves.recover {a : Act W α} {g : Fault → Act W α} (ha : Moves f R a)
    (hg : ∀ e, Moves f R (g e)) : Moves f R (a.recover g) := by
  refine ha.attempt.bind fun o => ?_
  cases o with
  | ok x => exact moves_pure x
  | error e =>
    dsimp only
    split
    · exact moves_throw e
    · exact hg e

theorem Moves.run {a : Act W α} (ha : Moves f R a) (watch : Watch W) : Moves f R (watch.run a) :=
  (moves_check watch).bind fun _ => ha

theorem moves_mapM {g : α → Act W β} {xs : List α} (h : ∀ x ∈ xs, Moves f R (g x)) :
    Moves f R (xs.mapM g) := by
  induction xs with
  | nil => exact moves_pure []
  | cons x xs ih =>
    obtain ⟨hx, hxs⟩ := List.forall_mem_cons.mp h
    rw [List.mapM_cons]
    exact hx.bind fun y => (ih hxs).bind fun ys => moves_pure (y :: ys)

end

/-- What is so before is so after. -/
def Kept (P : V → Prop) (u v : V) : Prop := P u → P v

instance : Std.Refl (@Eq V) := ⟨fun _ => rfl⟩

instance (P : V → Prop) : Std.Refl (Kept P) := ⟨fun _ h => h⟩

instance (P : V → Prop) : Trans (Kept P) (Kept P) (Kept P) := ⟨fun h h' hu => h' (h hu)⟩

/-! Faults. -/

/-- An act that fails only when patience is lost. -/
def OnlyLost (a : Act W α) : Prop :=
  ∀ w e v, a.on w = (.error e, v) → Lost e

theorem onlyLost_of_ok {a : Act W α} (h : ∀ w, ∃ x v, a.on w = (.ok x, v)) : OnlyLost a := by
  intro w e v he
  obtain ⟨x, u, hw⟩ := h w
  rw [hw] at he
  cases he

theorem onlyLost_check (watch : Watch W) : OnlyLost watch.check := by
  intro w e v h
  rw [on_check] at h
  cases hf : watch.fault? w with
  | none =>
    rw [hf] at h
    cases h
  | some e =>
    rw [hf] at h
    cases h
    exact Watch.lost_of_fault? hf

theorem OnlyLost.bind {a : Act W α} {g : α → Act W β} (ha : OnlyLost a) (hg : ∀ x, OnlyLost (g x)) :
    OnlyLost (a >>= g) := by
  intro w e v h
  rw [on_bind] at h
  cases hw : a.on w with
  | mk o u =>
    rw [hw] at h
    cases o with
    | ok x => exact hg x u e v h
    | error e' =>
      cases h
      exact ha w e v hw

theorem onlyLost_pure (x : α) : OnlyLost (pure x : Act W α) :=
  onlyLost_of_ok fun w => ⟨x, w, rfl⟩

theorem OnlyLost.run {a : Act W α} (ha : OnlyLost a) (watch : Watch W) : OnlyLost (watch.run a) :=
  (onlyLost_check watch).bind fun _ => ha

/-- Where only patience can be lost there is nothing to make up for. -/
theorem OnlyLost.recover_eq {a : Act W α} (ha : OnlyLost a) (g : Fault → Act W α) : a.recover g = a := by
  refine ext fun w => ?_
  rw [on_recover]
  cases hw : a.on w with
  | mk o v =>
    cases o with
    | ok x => rfl
    | error e =>
      have he : e.isCancelled = true := ha w e v hw
      simp [he]

theorem on_of_run {watch : Watch W} {a : Act W α} {x : α} {w v : W}
    (h : (watch.run a).on w = (.ok x, v)) : a.on w = (.ok x, v) := by
  obtain ⟨_, u, hc, ha⟩ := exists_of_bind h
  rw [on_check] at hc
  cases hf : watch.fault? w with
  | some e =>
    rw [hf] at hc
    cases hc
  | none =>
    rw [hf] at hc
    cases hc
    exact ha

theorem of_on_ofOutcome {o : Outcome α} {x : α} {v w : W} (h : (ofOutcome o).on w = (.ok x, v)) :
    o = .ok x ∧ v = w := by
  cases o with
  | ok y =>
    cases h
    exact ⟨rfl, rfl⟩
  | error e => cases h

/-- What cannot fail but for the loss of patience was carried out if nothing has failed. -/
theorem on_of_recover_run {watch : Watch W} {a : Act W α} {g : Fault → Act W α} {x y : α} {w v u : W}
    (ha : a.on w = (.ok x, u)) (h : ((watch.run a).recover g).on w = (.ok y, v)) : v = u := by
  have hr : (watch.run a).on w = (watch.check >>= fun _ => a).on w := rfl
  rw [on_recover, hr, on_bind, on_check] at h
  cases hf : watch.fault? w with
  | none =>
    rw [hf] at h
    dsimp only at h
    rw [ha] at h
    cases h
    rfl
  | some e =>
    have he : e.isCancelled = true := Watch.lost_of_fault? hf
    rw [hf] at h
    dsimp only at h
    rw [he] at h
    cases h

end Act

end Utterance
