import ElementSyntax.Proofs.Advance

/-!
# Deeper walks

The depth of a walk is a bound, not a part of what it does: a walk that is not stopped by its bound
does exactly what every deeper one does (`performBy_settled`).  What stops it cannot be hidden,
because no computation goes on after an error.
-/

namespace ElementSyntax

/-- The resolution was stopped because it went too deep. -/
def ResolveError.isEndless : ResolveError → Bool
  | .endlessNesting _ => true
  | _ => false

namespace Resolver

open ResolveM

variable {r : Resolver} {s t : Progress} {α β : Type}

/-- Wherever `m` is not stopped for going too deep, `m'` does the same. -/
def Settled (m m' : ResolveM α) : Prop :=
  ∀ s, (∃ e t, e.isEndless = true ∧ m s = .error e t) ∨ m s = m' s

theorem settled_refl (m : ResolveM α) : Settled m m := fun _ => .inr rfl

theorem settled_bind {m m' : ResolveM α} {f f' : α → ResolveM β} (first : Settled m m')
    (rest : ∀ a, Settled (f a) (f' a)) : Settled (m >>= f) (m' >>= f') := by
  intro s
  rcases first s with ⟨e, t, endless, ran⟩ | same
  · exact .inl ⟨e, t, endless, bind_of_error ran⟩
  · cases ran : m s with
    | ok a t =>
      rw [bind_of_ok ran, bind_of_ok (same.symm.trans ran)]
      exact rest a t
    | error e t =>
      rw [bind_of_error ran, bind_of_error (same.symm.trans ran)]
      exact .inr rfl

theorem settled_bracket {prepare : Progress → Progress} {done : Progress → α → Progress → Progress}
    {failed : Progress → Progress → Progress} {body body' : ResolveM α}
    (inner : Settled body body') :
    Settled (body.bracket prepare done failed) (body'.bracket prepare done failed) := by
  intro s
  rcases inner (prepare s) with ⟨e, t, endless, ran⟩ | same
  · exact .inl ⟨e, _, endless, bracket_of_error ran⟩
  · exact .inr (by rw [bracket, bracket, same])

theorem settled_known {key : CacheKey} {marker : Declaration} {build build' : ResolveM Declaration}
    (inner : Settled build build') :
    Settled (known key marker build) (known key marker build') := by
  refine settled_bind (settled_refl _) fun found => ?_
  cases found with
  | some d => exact settled_refl _
  | none => exact settled_bracket inner

/-- What calls are made of goes the same way, if its parts do. -/
theorem callCongruence_settled : CallCongruence r (fun _ {_} m m' => Settled m m') where
  pure _ := settled_refl _
  bind first rest := settled_bind first rest
  unknownType _ := settled_refl _
  nameCollision _ := settled_refl _
  namespaceFor _ _ rest := settled_bind (settled_refl _) fun own => rest own trivial
  unflattened _ _ := settled_refl _
  member _ inner := settled_bracket inner
  throw _ := settled_refl _
  lookUp _ := settled_refl _
  remember _ _ := settled_refl _
  problems := settled_refl _
  takeProblems := settled_refl _
  checkPlacement _ _ _ _ := settled_refl _
  named _ inner := settled_bracket inner
  transaction inner := settled_bracket inner

/-- **A deeper walk does the same**, where the other one is not stopped. -/
theorem walk_settled {depth depth' : Nat} (deeper : depth ≤ depth') :
    Related (fun _ => True) (fun _ {_} m m' => Settled m m') (r.walk depth) (r.walk depth') := by
  induction depth generalizing depth' with
  | zero =>
    -- the shallower walk is stopped at once
    exact ⟨fun _ _ _ _ s => .inl ⟨_, s, rfl, rfl⟩, fun _ _ _ _ _ _ s => .inl ⟨_, s, rfl, rfl⟩⟩
  | succ depth ih =>
    obtain ⟨further, rfl⟩ : ∃ further, depth' = further + 1 :=
      Nat.exists_eq_succ_of_ne_zero (by omega)
    refine (ih (Nat.le_of_succ_le_succ deeper)).step callCongruence_settled.toCongruence
      fun last id node ns _ found inner => ?_
    rw [typeDeclaration, typeDeclaration, typeAt_of_some found, pure_bind, pure_bind]
    refine settled_bind (settled_refl _) fun frame => ?_
    dsimp only
    split
    · exact settled_known (settled_bracket (inner last _))
    · split
      · exact settled_refl _
      · exact settled_known (settled_bracket (inner last _))

/-- Every call does the same with a deeper walk, unless it is stopped for going too deep. -/
theorem performBy_settled {depth depth' : Nat} (deeper : depth ≤ depth') (c : Call) :
    Settled (r.performBy (r.walk depth) c) (r.performBy (r.walk depth') c) :=
  @CallCongruence.performBy r _ _ _ none callCongruence_settled (walk_settled deeper) c

end Resolver

end ElementSyntax
