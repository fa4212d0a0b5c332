import ElementSyntax.Proofs.Checkpoints

/-!
# Checkpoints inside checkpoints

A run is **nested** in an earlier cache if all that it stores and places is new there, and if it
commits the checkpoints that it takes, the last one first.  Rolling back to a checkpoint that was
taken before such a run can always be done.

That it gives the earlier cache again is not true of every nested run.  `commit` takes any
checkpoint at the start of both journals for the oldest one, but where nothing is in the journals
the checkpoints that are taken inside stand there as well.  To commit one of them empties the
journals, so what was added before is out of reach of the rollback.  The main result
(`rollback?_of_nested`) says that this is all that can go wrong: entries, markers and placements are
those of the earlier cache again if and only if no checkpoint at the start of the journals is
committed after something was added.

One direction needs the checkpoints of a nested run: one that is at the start of the journals tells
that the earlier cache has empty journals, too (`Extends.nested`).  The other direction does not: it
follows what was added operation by operation (`Grows`).
-/

namespace ElementSyntax

/-- The checkpoint at the start of both journals. -/
def Checkpoint.start : Checkpoint := { entries := 0, placements := 0 }

namespace Cache

/-- The operation stores a key without an entry in `earlier`, or places an identity that is not
placed there. -/
def Operation.Adds (earlier : Cache) : Operation → Prop
  | .insert key _ | .begin key _ | .complete key _ => earlier.find? key = none
  | .place identity _ => earlier.placements.find? identity = none
  | _ => False

/-- `last` comes from `c` by a run that adds to `earlier`, and that commits each checkpoint that it
takes once it has committed those that it took after it. -/
inductive Nested (earlier : Cache) : Cache → List Operation → Cache → Prop
  | done (c : Cache) : Nested earlier c [] c
  | add {c next last : Cache} {op : Operation} {ops : List Operation} (adds : op.Adds earlier)
      (done : c.perform op = some next) (rest : Nested earlier next ops last) :
      Nested earlier c (op :: ops) last
  | committed {c next last : Cache} {inner ops : List Operation}
      (inside : Nested earlier c inner next)
      (rest : Nested earlier (next.commit c.checkpoint) ops last) :
      Nested earlier c (inner ++ .commit c.checkpoint :: ops) last

/-- A checkpoint at the start of the journals is committed after something was added. -/
def EmptiesJournals (earlier : Cache) (ops : List Operation) : Prop :=
  ∃ first rest, ops = first ++ .commit .start :: rest ∧ ∃ op ∈ first, op.Adds earlier

variable {earlier c next last : Cache} {op : Operation} {ops : List Operation} {p : Checkpoint}

/-! ## Commits -/

theorem commit_of_ne_start (inside : p ≠ .start) : c.commit p = c := by
  unfold commit
  split
  · next atStart =>
    obtain ⟨entries, placements⟩ := atStart
    cases p
    exact absurd (by simp_all [Checkpoint.start]) inside
  · rfl

theorem commit_start : c.commit .start = { c with entryJournal := [], placementJournal := [] } :=
  rfl

theorem checkpoint_eq_start_iff :
    c.checkpoint = .start ↔ c.entryJournal = [] ∧ c.placementJournal = [] := by
  simp [checkpoint, Checkpoint.start]

/-- To commit a checkpoint at once changes nothing, since the journals are empty if it is at their
start. -/
theorem commit_checkpoint (c : Cache) : c.commit c.checkpoint = c := by
  by_cases atStart : c.checkpoint = .start
  · obtain ⟨noKeys, noIdentities⟩ := checkpoint_eq_start_iff.mp atStart
    rw [atStart, commit_start, ← noKeys, ← noIdentities]
  · exact commit_of_ne_start atStart

/-! ## What a nested run does not spoil -/

/-- What adds to the earlier cache spares it. -/
theorem Operation.Adds.spares (adds : op.Adds earlier) : op.Spares earlier := by
  cases op with
  | insert key d => exact adds
  | begin key marker => exact adds
  | complete key d => exact adds
  | place identity sighting => trivial
  | abandon key => exact adds.elim
  | commit p => exact adds.elim
  | rollback p => exact adds.elim
  | clear => exact adds.elim
  | read => exact adds.elim

/-- A cache that has only grown has no shorter journals. -/
theorem Extends.checkpoint_eq_start (grown : Extends earlier c) (atStart : c.checkpoint = .start) :
    earlier.checkpoint = .start := by
  obtain ⟨keys, identities, grown⟩ := grown
  obtain ⟨noKeys, noIdentities⟩ := checkpoint_eq_start_iff.mp atStart
  rw [grown.entryJournal] at noKeys
  rw [grown.placementJournal] at noIdentities
  exact checkpoint_eq_start_iff.mpr
    ⟨(List.append_eq_nil_iff.mp noKeys).1, (List.append_eq_nil_iff.mp noIdentities).1⟩

/-- A run that commits no checkpoint at the start of empty journals only extends the cache. -/
theorem Extends.nested (reached : Reachable earlier) (grown : Extends earlier c)
    (nested : Nested earlier c ops last)
    (kept : earlier.checkpoint = .start → .commit .start ∉ ops) : Extends earlier last := by
  induction nested with
  | done c => exact grown
  | add adds done rest ih =>
    refine ih (grown.perform reached adds.spares done) fun atStart => ?_
    exact fun member => kept atStart (List.mem_cons_of_mem _ member)
  | @committed c next last inner ops inside rest ihInside ihRest =>
    have grownInside : Extends earlier next :=
      ihInside grown fun atStart member => kept atStart (List.mem_append_left _ member)
    -- the checkpoint of `c` is at the start only if that of the earlier cache is, too
    have untouched : next.commit c.checkpoint = next := by
      apply commit_of_ne_start
      intro atStart
      apply kept (grown.checkpoint_eq_start atStart)
      rw [atStart]
      exact List.mem_append_right _ List.mem_cons_self
    rw [untouched] at ihRest
    refine ihRest grownInside fun atStart member => kept atStart ?_
    exact List.mem_append_right _ (List.mem_cons_of_mem _ member)

/-- A run that adds nothing changes nothing, whatever it commits. -/
theorem Nested.eq_of_no_adds (nested : Nested earlier c ops last)
    (idle : ∀ op ∈ ops, ¬ op.Adds earlier) : last = c := by
  induction nested with
  | done c => rfl
  | add adds done rest ih => exact absurd adds (idle _ List.mem_cons_self)
  | @committed c next last inner ops inside rest ihInside ihRest =>
    have same : next = c := ihInside fun op member => idle op (List.mem_append_left _ member)
    have idleRest : ∀ op ∈ ops, ¬ op.Adds earlier := fun op member =>
      idle op (List.mem_append_right _ (List.mem_cons_of_mem _ member))
    rw [ihRest idleRest, same, commit_checkpoint]

/-- A run from the earlier cache extends it, unless it empties the journals after an addition. -/
theorem extends_of_nested (reached : Reachable earlier) (nested : Nested earlier c ops last)
    (start : c = earlier) (kept : ¬ EmptiesJournals earlier ops) : Extends earlier last := by
  by_cases atStart : earlier.checkpoint = .start
  · induction nested with
    | done c => exact start ▸ Extends.refl earlier
    | @add c next last op ops adds done rest ih =>
      subst start
      -- from here on something has been added, so no checkpoint at the start is committed
      refine ((Extends.refl c).perform reached adds.spares done).nested reached rest
        fun _ member => kept ?_
      obtain ⟨first, after, rfl⟩ := List.append_of_mem member
      exact ⟨op :: first, after, rfl, op, List.mem_cons_self, adds⟩
    | @committed c next last inner ops inside rest ihInside ihRest =>
      subst start
      -- the checkpoint is at the start, so nothing was added before it was committed
      have idle : ∀ op ∈ inner, ¬ op.Adds c := fun op member adds =>
        kept ⟨inner, ops, by rw [atStart], op, member, adds⟩
      have same : next.commit c.checkpoint = c := by
        rw [inside.eq_of_no_adds idle, commit_checkpoint]
      refine ihRest same fun ⟨first, after, split, op, member, adds⟩ => kept ?_
      refine ⟨inner ++ .commit c.checkpoint :: first, after, by simp [split], op, ?_, adds⟩
      exact List.mem_append_right _ (List.mem_cons_of_mem _ member)
  · exact (start ▸ Extends.refl earlier : Extends earlier c).nested reached nested
      fun start => absurd start atStart

/-! ## What stays once the journals are empty -/

/-- Nothing has gone, and the journals have got only what is new. -/
structure Grows (c next : Cache) : Prop where
  keys : ∀ key ∈ c.entries.keys, key ∈ next.entries.keys
  identities : ∀ identity ∈ c.placements.keys, identity ∈ next.placements.keys
  entryJournal : ∀ key ∈ next.entryJournal, key ∈ c.entryJournal ∨ key ∉ c.entries.keys
  placementJournal : ∀ identity ∈ next.placementJournal,
    identity ∈ c.placementJournal ∨ identity ∉ c.placements.keys

theorem Grows.refl (c : Cache) : Grows c c :=
  ⟨fun _ => id, fun _ => id, fun _ => .inl, fun _ => .inl⟩

theorem Grows.trans (first : Grows c next) (second : Grows next last) : Grows c last where
  keys key known := second.keys key (first.keys key known)
  identities identity known := second.identities identity (first.identities identity known)
  entryJournal key member :=
    (second.entryJournal key member).elim (first.entryJournal key)
      fun new => .inr fun known => new (first.keys key known)
  placementJournal identity member :=
    (second.placementJournal identity member).elim (first.placementJournal identity)
      fun new => .inr fun known => new (first.identities identity known)

theorem grows_insert (c : Cache) (key : CacheKey) (d : Declaration) : Grows c (c.insert key d) where
  keys k known := OrderedMap.mem_keys_insert.mpr (.inr known)
  identities _ := id
  entryJournal k member := by
    have member : k ∈ if c.entries.contains key then c.entryJournal else c.entryJournal ++ [key] :=
      member
    split at member
    · exact .inl member
    · next unknown =>
      refine (List.mem_append.mp member).imp_right fun here => ?_
      obtain rfl := List.mem_singleton.mp here
      exact fun known => unknown (OrderedMap.contains_iff_mem_keys.mpr known)
  placementJournal _ := .inl

theorem grows_place (c : Cache) (identity : String) (sighting : Sighting) :
    Grows c (c.place identity sighting).1 := by
  unfold Cache.place
  split
  · exact .refl c
  · next unseen =>
    refine ⟨fun _ => id, fun i known => OrderedMap.mem_keys_insert.mpr (.inr known),
      fun _ => .inl, fun i member => ?_⟩
    refine (List.mem_append.mp member).imp_right fun here => ?_
    obtain rfl := List.mem_singleton.mp here
    exact OrderedMap.find?_eq_none_iff.mp unseen

theorem grows_commit (c : Cache) (p : Checkpoint) : Grows c (c.commit p) := by
  unfold commit
  split
  · exact ⟨fun _ => id, fun _ => id, fun _ member => absurd member List.not_mem_nil,
      fun _ member => absurd member List.not_mem_nil⟩
  · exact .refl c

/-- What one operation of a nested run does. -/
theorem grows_of_perform (allowed : op.Adds earlier ∨ ∃ p, op = .commit p)
    (done : c.perform op = some next) : Grows c next := by
  cases op with
  | insert key d =>
    cases done
    exact grows_insert c key d
  | begin key marker =>
    cases done
    -- the marker is noted before its entry is stored
    exact ⟨(grows_insert c key marker).keys, fun _ => id, (grows_insert c key marker).entryJournal,
      fun _ => .inl⟩
  | complete key d =>
    cases done
    exact ⟨(grows_insert c key d).keys, fun _ => id, (grows_insert c key d).entryJournal,
      fun _ => .inl⟩
  | place identity sighting =>
    cases done
    exact grows_place c identity sighting
  | commit p =>
    cases done
    exact grows_commit c p
  | abandon key => simp [Operation.Adds] at allowed
  | rollback p => simp [Operation.Adds] at allowed
  | clear => simp [Operation.Adds] at allowed
  | read => simp [Operation.Adds] at allowed

/-- What a sequence of operations of a nested run does. -/
theorem grows_of_run (allowed : ∀ op ∈ ops, op.Adds earlier ∨ ∃ p, op = .commit p)
    (ran : c.run ops = some last) : Grows c last := by
  induction ops generalizing c with
  | nil => exact Option.some.inj ran ▸ .refl c
  | cons op ops ih =>
    obtain ⟨next, done, rest⟩ := Option.bind_eq_some_iff.mp ran
    have step : Grows c next := grows_of_perform (allowed op List.mem_cons_self) done
    exact step.trans (ih (fun op member => allowed op (List.mem_cons_of_mem _ member)) rest)

/-- What an addition adds: a key or an identity that the earlier cache does not have, and that the
cache after it has. -/
theorem Operation.Adds.exists_new (adds : op.Adds earlier) (done : c.perform op = some next) :
    (∃ key ∉ earlier.entries.keys, key ∈ next.entries.keys) ∨
      ∃ identity ∉ earlier.placements.keys, identity ∈ next.placements.keys := by
  cases op with
  | insert key d =>
    cases done
    exact .inl ⟨key, OrderedMap.find?_eq_none_iff.mp adds, OrderedMap.mem_keys_insert_self _ _ _⟩
  | begin key marker =>
    cases done
    exact .inl ⟨key, OrderedMap.find?_eq_none_iff.mp adds, OrderedMap.mem_keys_insert_self _ _ _⟩
  | complete key d =>
    cases done
    exact .inl ⟨key, OrderedMap.find?_eq_none_iff.mp adds, OrderedMap.mem_keys_insert_self _ _ _⟩
  | place identity sighting =>
    cases done
    refine .inr ⟨identity, OrderedMap.find?_eq_none_iff.mp adds, ?_⟩
    unfold Cache.place
    split
    · next seen => exact OrderedMap.mem_keys_iff_find?.mpr ⟨_, seen⟩
    · exact OrderedMap.mem_keys_insert_self _ _ _
  | abandon key => exact adds.elim
  | commit p => exact adds.elim
  | rollback p => exact adds.elim
  | clear => exact adds.elim
  | read => exact adds.elim

/-- A key that is not in the journal outlasts every rollback. -/
theorem mem_keys_rollback {key : CacheKey} (known : key ∈ c.entries.keys)
    (settled : key ∉ c.entryJournal) : key ∈ (c.rollback p).entries.keys := by
  show key ∈ ((c.entryJournal.drop p.entries).foldl OrderedMap.erase c.entries).keys
  rw [OrderedMap.keys_foldl_erase]
  refine List.mem_filter.mpr ⟨known, ?_⟩
  simpa using fun dropped => settled (List.mem_of_mem_drop dropped)

/-- A placement that is not in the journal outlasts every rollback. -/
theorem mem_placements_rollback {identity : String} (known : identity ∈ c.placements.keys)
    (settled : identity ∉ c.placementJournal) : identity ∈ (c.rollback p).placements.keys := by
  show identity ∈ ((c.placementJournal.drop p.placements).foldl OrderedMap.erase c.placements).keys
  rw [OrderedMap.keys_foldl_erase]
  refine List.mem_filter.mpr ⟨known, ?_⟩
  simpa using fun dropped => settled (List.mem_of_mem_drop dropped)

/-- What was there when the journals were emptied is there after a later rollback. -/
theorem Grows.rollback (grows : Grows (c.commit .start) last) (p : Checkpoint) :
    (∀ key ∈ c.entries.keys, key ∈ (last.rollback p).entries.keys) ∧
      ∀ identity ∈ c.placements.keys, identity ∈ (last.rollback p).placements.keys := by
  constructor
  · intro key known
    refine mem_keys_rollback (grows.keys key known) fun member => ?_
    exact (grows.entryJournal key member).elim List.not_mem_nil fun new => new known
  · intro identity known
    refine mem_placements_rollback (grows.identities identity known) fun member => ?_
    exact (grows.placementJournal identity member).elim List.not_mem_nil fun new => new known

/-! ## The main result -/

/-- A nested run is a sequence of operations that can be done. -/
theorem Nested.run (nested : Nested earlier c ops last) : c.run ops = some last := by
  induction nested with
  | done c => rfl
  | add adds done rest ih => exact Option.bind_eq_some_iff.mpr ⟨_, done, ih⟩
  | committed inside rest ihInside ihRest =>
    rw [Cache.run, List.foldlM_append]
    exact Option.bind_eq_some_iff.mpr ⟨_, ihInside, ihRest⟩

theorem Nested.allowed (nested : Nested earlier c ops last) :
    ∀ op ∈ ops, op.Adds earlier ∨ ∃ p, op = .commit p := by
  induction nested with
  | done c => exact fun _ member => absurd member List.not_mem_nil
  | add adds done rest ih => exact List.forall_mem_cons.mpr ⟨.inl adds, ih⟩
  | committed inside rest ihInside ihRest =>
    exact List.forall_mem_append.mpr
      ⟨ihInside, List.forall_mem_cons.mpr ⟨.inr ⟨_, rfl⟩, ihRest⟩⟩

/-- What was added before the journals were emptied is there after the outer rollback. -/
theorem exists_new_of_emptiesJournals (nested : Nested earlier c ops last)
    (emptied : EmptiesJournals earlier ops) (p : Checkpoint) :
    (∃ key ∉ earlier.entries.keys, key ∈ (last.rollback p).entries.keys) ∨
      ∃ identity ∉ earlier.placements.keys, identity ∈ (last.rollback p).placements.keys := by
  obtain ⟨first, rest, rfl, op, member, adds⟩ := emptied
  obtain ⟨before, after, rfl⟩ := List.append_of_mem member
  have allowed := nested.allowed
  have ran := nested.run
  -- the caches after the operation, before the commit, and after it
  rw [Cache.run, List.foldlM_append, List.foldlM_append] at ran
  obtain ⟨middle, ran, ranRest⟩ := Option.bind_eq_some_iff.mp ran
  obtain ⟨opened, -, ran⟩ := Option.bind_eq_some_iff.mp ran
  obtain ⟨stored, done, ranAfter⟩ := Option.bind_eq_some_iff.mp ran
  have ranRest : (middle.commit .start).run rest = some last := ranRest
  simp only [List.forall_mem_append, List.forall_mem_cons] at allowed
  obtain ⟨⟨-, -, allowedAfter⟩, -, allowedRest⟩ := allowed
  have grown : Grows stored middle := grows_of_run allowedAfter ranAfter
  obtain ⟨keys, identities⟩ := (grows_of_run allowedRest ranRest).rollback p
  rcases adds.exists_new done with ⟨key, new, stored⟩ | ⟨identity, new, placed⟩
  · exact .inl ⟨key, new, keys key (grown.keys key stored)⟩
  · exact .inr ⟨identity, new, identities identity (grown.identities identity placed)⟩

/-- **When an outer rollback undoes what inner checkpoints committed.**  After a nested run the
rollback to the checkpoint before it can be done.  It gives back the entries, the markers and the
placements if and only if the run commits no checkpoint at the start of the journals after it has
added something. -/
theorem rollback?_of_nested (reached : Reachable earlier)
    (nested : Nested earlier earlier ops last) :
    ∃ restored, last.rollback? earlier.checkpoint = some restored ∧
      ((restored.entries = earlier.entries ∧ restored.inProgress = earlier.inProgress ∧
          restored.placements = earlier.placements) ↔
        ¬ EmptiesJournals earlier ops) := by
  have reaches : last.reaches earlier.checkpoint = true := by
    by_cases atStart : earlier.checkpoint = .start
    · simp [Cache.reaches, atStart, Checkpoint.start]
    · exact ((Extends.refl earlier).nested reached nested fun start =>
        absurd start atStart).reaches
  refine ⟨last.rollback earlier.checkpoint, by rw [rollback?, if_pos reaches], ?_, ?_⟩
  · rintro ⟨entries, -, placements⟩ emptied
    rcases exists_new_of_emptiesJournals nested emptied earlier.checkpoint with
      ⟨key, new, left⟩ | ⟨identity, new, left⟩
    · exact new (entries ▸ left)
    · exact new (placements ▸ left)
  · intro kept
    rw [(extends_of_nested reached nested rfl kept).rollback]
    exact ⟨rfl, rfl, rfl⟩

/-- A transfer with two checkpoints inside: one that is committed at once, and one around all that
follows the first key. -/
def transfer : List Operation :=
  [.commit .start, .begin (.entity .operation "transfer") {},
    .place "Amount" { placement := .child, path := "transfer/amount" },
    .insert (.parameter .operation "transfer" "amount") { attributeName := "amount" },
    .commit { entries := 1, placements := 0 }, .complete (.entity .operation "transfer") {}]

theorem rollback?_of_nested_transfer :
    Reachable {} ∧ ∃ last, Nested {} {} transfer last ∧
      ∃ restored, last.rollback? (checkpoint {}) = some restored ∧
        restored.entries = ∅ ∧ restored.inProgress = [] ∧ restored.placements = ∅ := by
  have reached : Reachable {} := ⟨[], rfl⟩
  obtain ⟨last, nested⟩ : ∃ last, Nested {} {} transfer last :=
    ⟨_, @Nested.committed _ _ _ _ [] _ (.done _) (.add rfl rfl
      (@Nested.committed _ _ _ _ [.place _ _, .insert _ _] _
        (.add rfl rfl (.add rfl rfl (.done _))) (.add rfl rfl (.done _))))⟩
  -- the only commit at the start comes first
  have kept : ¬ EmptiesJournals {} transfer := by
    rintro ⟨first, rest, split, op, member, -⟩
    cases first with
    | nil => exact List.not_mem_nil member
    | cons o first =>
      have later : .commit .start ∈ transfer.tail := by
        rw [split]
        exact List.mem_append_right _ List.mem_cons_self
      simp [transfer, Checkpoint.start] at later
  obtain ⟨restored, done, same⟩ := rollback?_of_nested reached nested
  exact ⟨reached, last, nested, restored, done, same.mpr kept⟩

/-- **An inner commit can defeat the outer rollback.**  The two checkpoints are both at the start of
empty journals, so that the inner one is taken for the oldest. -/
theorem inner_commit_defeats_rollback :
    ¬ ∀ earlier last ops, Reachable earlier → Nested earlier earlier ops last →
      ∃ restored, last.rollback? earlier.checkpoint = some restored ∧
        restored.entries = earlier.entries ∧ restored.inProgress = earlier.inProgress ∧
        restored.placements = earlier.placements := by
  intro claim
  let key : CacheKey := .entity .operation "transfer"
  have inside : Nested {} {} [.insert key {}] _ := .add rfl rfl (.done _)
  obtain ⟨restored, done, entries, -⟩ := claim {} _ _ ⟨[], rfl⟩ (inside.committed (.done _))
  have left : restored.entries.size = 1 := Option.some.inj done ▸ rfl
  rw [entries] at left
  exact absurd left (by decide)

end Cache

end ElementSyntax
