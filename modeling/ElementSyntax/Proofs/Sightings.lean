import ElementSyntax.Proofs.Placements
import ElementSyntax.Proofs.Quiet

/-!
# What stands behind a reported contradiction

The first sighting of a type is remembered across calls, and a later one that contradicts it cites
the path of the first.  What a call placed and reported is dropped if the call fails.  So both
sightings come from parameters that were declared in calls with an answer, one at the path of the
problem and the other at the path that is cited (`Accounts`).  A type is placed in two ways only if
it is a single value that is not extensible, and then the two declarations can be written in one
form each (`only_of_noted`): what is reported is so (`contradictions_are_real`).
-/

namespace ElementSyntax

/-- The declaration is written in this form only. -/
def Declaration.Only (d : Declaration) : Placement → Prop
  | .attributeOnly => d.supportsAttribute = true ∧ d.supportsChild = false
  | .child => d.supportsChild = true ∧ d.supportsAttribute = false

/-- The path of the parameter where it is declared with the element of its entity. -/
def ParameterGroup.pathTo (group : ParameterGroup) (e : Entity) (p : Parameter) : Path :=
  (({} : Frame).enterNamed e.name |>.inGroup group).path.enter p.name

namespace Resolver

open ResolveM

variable {r : Resolver} {s t u : Progress} {e e' : Entity} {p p' : Parameter} {node : TypeNode}
  {identity path : String} {placement : Placement} {sighting : Sighting} {d : Declaration}
  {ns : Namespace} {c : Call} {x : ExtensionSyntax} {calls : List Call} {problem : Problem}
  {depth : Nat}

/-! ## Where parameters are declared -/

/-- In the state `s` the call is answered, and declares the parameter of the entity anew at the
path: the call is for the parameter, or for the entity, whose element has the parameter's
declaration in it. -/
inductive Declaring (r : Resolver) (s : Progress) :
    Call → Entity → Parameter → String → Declaration → Prop
  | alone {e : Entity} {p : Parameter} {d : Declaration} {t : Progress} :
    r.perform (.parameter p e) s = .ok (.declaration d) t →
    s.cache.find? (.parameter e.kind e.name p.name) = none →
      Declaring r s (.parameter p e) e p ((Path.root.enterNamed e.name).enter p.name).text d
  | written {e : Entity} {p : Parameter} {group : ParameterGroup} {done : List Parameter}
    {whole d : Declaration} {t : Progress} :
    r.perform (.topLevel e) s = .ok (.declaration whole) t →
    s.cache.find? (.parameter e.kind e.name p.name) = none →
    r.WrittenAfter e done group p → (∀ q ∈ done, q.name ≠ p.name) →
    whole.follow? (placeOf group p) = some d →
      Declaring r s (.topLevel e) e p (group.pathTo e p).text d

/-- The call was made in the state `s`: it is one of the calls, or one that a call for the whole
extension among them consists of, and those before it were answered. -/
inductive Made (r : Resolver) (calls : List Call) : Call → Progress → Prop
  | itself {before after : List Call} {c : Call} : calls = before ++ c :: after →
    Made r calls c (r.stateAfter before {})
  | part {before after done rest : List Call} {c : Call} {s : Progress} :
    calls = before ++ .extension :: after → r.extensionCalls = done ++ c :: rest →
      r.Completes done (r.stateAfter before {}) s → Made r calls c s

/-- One of the calls that were made declared the parameter at the path. -/
def DeclaredAt (r : Resolver) (calls : List Call) (e : Entity) (p : Parameter) (path : String)
    (d : Declaration) : Prop :=
  ∃ c s, r.Made calls c s ∧ r.Declaring s c e p path d

theorem DeclaredAt.of_part {done later : List Call} {u : Progress}
    (parts : r.extensionCalls = done ++ c :: later)
    (completes : r.Completes done (r.stateAfter calls {}) u)
    (declaring : r.Declaring u c e p path d) : r.DeclaredAt (calls ++ [.extension]) e p path d :=
  ⟨c, u, .part rfl parts completes, declaring⟩

theorem Made.concat {s : Progress} (made : r.Made calls c s) (last : Call) :
    r.Made (calls ++ [last]) c s := by
  cases made with
  | itself same => exact .itself (by rw [same, List.append_assoc, List.cons_append])
  | part same parts completes =>
    exact .part (by rw [same, List.append_assoc, List.cons_append]) parts completes

theorem DeclaredAt.concat (declared : r.DeclaredAt calls e p path d) (last : Call) :
    r.DeclaredAt (calls ++ [last]) e p path d := by
  obtain ⟨c, s, made, declaring⟩ := declared
  exact ⟨c, s, made.concat last, declaring⟩

/-! ## Accounts of what was placed and reported -/

section

variable {born born' : Entity → Parameter → String → Declaration → Prop} {c c' : Cache}

/-- Entries for parameters are left as they are. -/
def ParametersKept (c c' : Cache) : Prop :=
  ∀ kind owner name d, c.find? (.parameter kind owner name) = some d →
    c'.find? (.parameter kind owner name) = some d

theorem ParametersKept.refl (c : Cache) : ParametersKept c c := fun _ _ _ _ found => found

theorem Advance.parametersKept (step : r.Advance s t) : ParametersKept s.cache t.cache :=
  fun _ _ _ _ found => step.cache.find?_eq found

/-- The parameter was declared at the path of the sighting, and noted with its placement; the cache
has the declaration. -/
structure Seen (r : Resolver) (born : Entity → Parameter → String → Declaration → Prop) (c : Cache)
    (identity : String) (sighting : Sighting) (e : Entity) (p : Parameter) (node : TypeNode)
    (d : Declaration) : Prop where
  born : born e p sighting.path d
  kept : c.find? (.parameter e.kind e.name p.name) = some d
  found : r.types.get? p.valueType = some node
  known : node.identity = some identity
  noted : notedPlacement? p node = some sighting.placement
  form : d.form = r.formFor p node

/-- The sighting is that of a parameter of the entity. -/
def SeenAt (r : Resolver) (born : Entity → Parameter → String → Declaration → Prop) (c : Cache)
    (identity : String) (sighting : Sighting) (e : Entity) (p : Parameter) : Prop :=
  ∃ node d, r.Seen born c identity sighting e p node d

theorem SeenAt.mono (seen : r.SeenAt born c identity sighting e p) (kept : ParametersKept c c')
    (wider : ∀ e p path d, born e p path d → c'.find? (.parameter e.kind e.name p.name) = some d →
      born' e p path d) : r.SeenAt born' c' identity sighting e p := by
  obtain ⟨node, d, seen⟩ := seen
  have there := kept _ _ _ _ seen.kept
  exact ⟨node, d, wider _ _ _ _ seen.born there, there, seen.found, seen.known, seen.noted,
    seen.form⟩

theorem SeenAt.kept (seen : r.SeenAt born c identity sighting e p) (kept : ParametersKept c c') :
    r.SeenAt born c' identity sighting e p :=
  seen.mono kept fun _ _ _ _ born _ => born

/-- The problem is that two parameters, each seen at its place, contradict each other. -/
structure Explained (r : Resolver) (born : Entity → Parameter → String → Declaration → Prop)
    (c : Cache) (problem : Problem) (said : Contradiction) (e e' : Entity) (p p' : Parameter) :
    Prop where
  entity : problem.entity = e.name
  message : problem.message = said.message
  other : said.here ≠ said.earlier.placement
  here : r.SeenAt born c said.identity ⟨said.here, problem.path⟩ e p
  earlier : r.SeenAt born c said.identity said.earlier e' p'
  apart : CacheKey.parameter e.kind e.name p.name ≠ .parameter e'.kind e'.name p'.name

/-- Everything that was placed was seen in a parameter, and everything that was reported of
placements is explained by two. -/
structure Accounts (r : Resolver) (born : Entity → Parameter → String → Declaration → Prop)
    (s : Progress) : Prop where
  placed : ∀ identity first, s.cache.placements.find? identity = some first →
    ∃ e p, r.SeenAt born s.cache identity first e p
  reported : ∀ problem ∈ s.log.problems, problem.code = .ambiguousAttributeChild →
    ∃ said e e' p p', r.Explained born s.cache problem said e e' p p'

theorem accounts_start : r.Accounts born {} :=
  ⟨fun _ _ found => absurd found (by simp [OrderedMap.find?_empty]),
    fun _ none => absurd none List.not_mem_nil⟩

theorem Explained.mono {said : Contradiction}
    (explained : r.Explained born c problem said e e' p p') (kept : ParametersKept c c')
    (wider : ∀ e p path d, born e p path d → c'.find? (.parameter e.kind e.name p.name) = some d →
      born' e p path d) : r.Explained born' c' problem said e e' p p' :=
  { explained with
    here := explained.here.mono kept wider
    earlier := explained.earlier.mono kept wider }

theorem Accounts.mono (accounts : r.Accounts born s) (quiet : Quiet s t)
    (kept : ParametersKept s.cache t.cache)
    (wider : ∀ e p path d, born e p path d →
      t.cache.find? (.parameter e.kind e.name p.name) = some d → born' e p path d) :
    r.Accounts born' t := by
  constructor
  case placed =>
    intro identity first found
    rw [quiet.placements] at found
    obtain ⟨e, p, seen⟩ := accounts.placed identity first found
    exact ⟨e, p, seen.mono kept wider⟩
  case reported =>
    intro problem member code
    obtain ⟨said, e, e', p, p', explained⟩ :=
      accounts.reported problem (quiet.contradictions problem member code) code
    exact ⟨said, e, e', p, p', explained.mono kept wider⟩

/-- What goes unnoticed needs no account. -/
theorem Accounts.quiet (accounts : r.Accounts born s) (quiet : Quiet s t)
    (kept : ParametersKept s.cache t.cache) : r.Accounts born t :=
  accounts.mono quiet kept fun _ _ _ _ born _ => born

theorem Accounts.cleared (accounts : r.Accounts born s) : r.Accounts born { s with log := {} } :=
  accounts.quiet ⟨rfl, fun _ none => absurd none List.not_mem_nil⟩ (.refl _)

theorem Accounts.framed (accounts : r.Accounts born s) (frame : Frame) :
    r.Accounts born { s with frame } :=
  accounts.quiet (.of_eq rfl rfl) (.refl _)

/-- A type was placed for the first time. -/
theorem Accounts.first (accounts : r.Accounts born s) (kept : ParametersKept s.cache t.cache)
    (placements : ∀ identity', t.cache.placements.find? identity' =
      if identity' = identity then some sighting else s.cache.placements.find? identity')
    (log : t.log = s.log) (seen : r.SeenAt born t.cache identity sighting e p) :
    r.Accounts born t := by
  constructor
  case placed =>
    intro identity' first found
    rw [placements] at found
    split at found
    · next here =>
      cases found
      exact ⟨e, p, here ▸ seen⟩
    · obtain ⟨e', p', before⟩ := accounts.placed identity' first found
      exact ⟨e', p', before.kept kept⟩
  case reported =>
    intro problem member code
    rw [log] at member
    obtain ⟨said, e, e', p, p', explained⟩ := accounts.reported problem member code
    exact ⟨said, e, e', p, p', explained.mono kept fun _ _ _ _ born _ => born⟩

/-- A parameter that the cache did not have contradicts what was placed before. -/
theorem Accounts.contradicts {place : Path} {first : Sighting} (accounts : r.Accounts born s)
    (kept : ParametersKept s.cache t.cache)
    (placements : t.cache.placements = s.cache.placements)
    (before : s.cache.placements.find? identity = some first) (other : placement ≠ first.placement)
    (log : t.log = s.log.add (contradictory e place ⟨identity, placement, first⟩))
    (unknown : s.cache.find? (.parameter e.kind e.name p.name) = none)
    (seen : r.SeenAt born t.cache identity ⟨placement, place.text⟩ e p) : r.Accounts born t := by
  constructor
  case placed =>
    intro identity' first' found
    rw [placements] at found
    obtain ⟨e', p', seen'⟩ := accounts.placed identity' first' found
    exact ⟨e', p', seen'.kept kept⟩
  case reported =>
    intro problem member code
    rw [log] at member
    rcases List.mem_append.mp member with earlier | new
    · obtain ⟨said, e, e', p, p', explained⟩ := accounts.reported problem earlier code
      exact ⟨said, e, e', p, p', explained.mono kept fun _ _ _ _ born _ => born⟩
    · rw [List.mem_singleton.mp new]
      obtain ⟨e', p', seen'⟩ := accounts.placed identity first before
      refine ⟨⟨identity, placement, first⟩, e, e', p, p', rfl, rfl, other, seen,
        seen'.kept kept, fun equal => ?_⟩
      -- the earlier parameter is known, and the new one is not
      obtain ⟨node', d', seen'⟩ := seen'
      cases (equal ▸ unknown).symm.trans seen'.kept

end

/-! ## Declaring parameters -/

variable {born : Entity → Parameter → String → Declaration → Prop}

/-- A parameter that is not noted goes unnoticed. -/
theorem quietly_newParameterDeclaration (found : r.types.get? p.valueType = some node)
    (unnoted : notedPlacement? p node = none) :
    r.Quietly (r.newParameterDeclaration (r.walk depth) p e ns) := by
  have generics : r.Quietly
      (r.containerGenerics (r.walk depth) node p.name p.hints.singularizable ns) :=
    @StepCongruence.containerGenerics r _ _ (r.walk depth) (r.walk depth) none ns
      congruence_quietly.toStepCongruence node _ _
      fun item _ => (quietly_walk depth).item none item _ _ trivial
  unfold notedPlacement? at unnoted
  simp only [newParameterDeclaration, typeAt_of_some found, pure_bind]
  split at unnoted
  · cases unnoted
  next plain =>
  rw [if_neg plain]
  split at unnoted
  · cases unnoted
  next several =>
  unfold TypeNode.isScalar at several
  cases shape : node.shape with
  | scalar => simp [shape] at several
  | object =>
    exact quietly_bind (quietly_namespaceFor node ns) fun own =>
      quietly_bind ((quietly_walk depth).type none p.valueType trivial) fun _ => quietly_pure _
  | _ => exact quietly_bind generics fun _ => quietly_pure _

/-- The type of a parameter that is declared is there. -/
theorem exists_node_of_newParameterDeclaration {w : Walk}
    (ran : r.newParameterDeclaration w p e ns s = .ok d t) :
    ∃ node, r.types.get? p.valueType = some node := by
  cases found : r.types.get? p.valueType with
  | some node => exact ⟨node, rfl⟩
  | none =>
    unfold newParameterDeclaration typeAt at ran
    rw [found] at ran
    cases ran

variable (lenient : r.options.problemsAreErrors = false)

include lenient in
/-- **A parameter that is declared can be accounted for**, if a new declaration at its place can. -/
theorem Accounts.parameter (sound : r.Consistent s) (accounts : r.Accounts born s)
    (ran : r.parameterDeclaration (r.walk depth) p e ns s = .ok d t)
    (new : s.cache.find? (.parameter e.kind e.name p.name) = none →
      born e p (s.frame.path.enter p.name).text d) : r.Accounts born t := by
  have step := (advances_parameterDeclaration (walk_advances depth) p e ns).ok sound ran
  have kept : ParametersKept s.cache t.cache := step.parametersKept
  rcases knownOrKept_ok ran with ⟨-, rfl⟩ | ⟨unknown, u, built, rfl⟩
  · exact accounts
  obtain ⟨v, within, rfl⟩ := around_ok built
  obtain ⟨node, found⟩ := exists_node_of_newParameterDeclaration within
  cases noted : notedPlacement? p node with
  | none =>
    obtain ⟨placements, contradictions⟩ :=
      (quietly_newParameterDeclaration found noted).quiet _ d v (sound.framed _) within
    exact accounts.quiet ⟨placements, contradictions⟩ kept
  | some placement =>
    obtain ⟨checked, form⟩ := checked_of_newParameterDeclaration found noted within
    have seen : ∀ identity, node.identity = some identity → r.SeenAt born
        (v.cache.insert (.parameter e.kind e.name p.name) d) identity
        ⟨placement, (s.frame.path.enter p.name).text⟩ e p := fun identity known =>
      ⟨node, d, new unknown, (Cache.find?_insert _ _ _ _).trans (if_pos rfl), found, known, noted,
        form⟩
    cases checkPlacement_ok lenient checked with
    | anonymous | agrees => exact accounts.quiet (.of_eq rfl rfl) kept
    | first known before =>
      exact accounts.first kept (fun _ => find?_place_of_new before _ _) rfl (seen _ known)
    | contradicts known before other =>
      exact accounts.contradicts kept rfl before other rfl unknown (seen _ known)

/-! ## Calls -/

/-- The call for the entity is made in the state `s`, and declares the parameter at the path. -/
inductive Upcoming (r : Resolver) (s : Progress) (e : Entity) :
    Entity → Parameter → String → Prop
  | written {p : Parameter} {group : ParameterGroup} {done : List Parameter} :
    s.cache.find? (.parameter e.kind e.name p.name) = none → r.WrittenAfter e done group p →
    (∀ q ∈ done, q.name ≠ p.name) → Upcoming r s e e p (group.pathTo e p).text

/-- After the parameters `done` of the entity, everything is accounted for by what was declared
before the state `s` or is part of the element. -/
structure AccountsUpTo (r : Resolver) (born : Entity → Parameter → String → Declaration → Prop)
    (s : Progress) (e : Entity) (done : List Parameter) (t : Progress) : Prop where
  accounts : r.Accounts (fun e' p path d => born e' p path d ∨ r.Upcoming s e e' p path) t
  kept : ParametersKept s.cache t.cache
  known : ∀ q ∈ done, ∃ d, t.cache.find? (.parameter e.kind e.name q.name) = some d

theorem AccountsUpTo.framed {done : List Parameter} (upTo : r.AccountsUpTo born s e done t)
    (frame : Frame) : r.AccountsUpTo born s e done { t with frame } :=
  ⟨upTo.accounts.framed frame, upTo.kept, upTo.known⟩

include lenient in
/-- One more parameter of the entity can be accounted for. -/
theorem AccountsUpTo.concat {done : List Parameter} {group : ParameterGroup}
    (upTo : r.AccountsUpTo born s e done t) (written : r.WrittenAfter e done group p)
    (sound : r.Consistent t)
    (here : t.frame = (({} : Frame).enterNamed e.name).inGroup group)
    (ran : r.parameterDeclaration (r.walk depth) p e ns t = .ok d u) :
    r.AccountsUpTo born s e (done ++ [p]) u := by
  have step := (advances_parameterDeclaration (walk_advances depth) p e ns).ok sound ran
  refine ⟨upTo.accounts.parameter lenient sound ran fun unknown => .inr ?_,
    fun _ _ _ _ found => step.parametersKept _ _ _ _ (upTo.kept _ _ _ _ found),
    fun q member => ?_⟩
  · rw [here]
    refine .written ?_ written fun q member same => ?_
    · cases before : s.cache.find? (.parameter e.kind e.name p.name) with
      | none => rfl
      | some d => cases unknown.symm.trans (upTo.kept _ _ _ d before)
    · obtain ⟨d, found⟩ := upTo.known q member
      rw [same, unknown] at found
      cases found
  · rcases List.mem_append.mp member with earlier | last
    · obtain ⟨d, found⟩ := upTo.known q earlier
      exact ⟨d, step.cache.find?_eq found⟩
    · rw [List.mem_singleton.mp last]
      exact ⟨d, ensures_knownOrKept (P := fun _ => True) t d u sound trivial ran⟩

include lenient in
/-- The parameters of an entity are accounted for one after the other. -/
theorem AccountsUpTo.entity (sound : r.Consistent s) (accounts : r.Accounts born s)
    (ran : r.entityDeclaration (fun p => r.parameterDeclaration (r.walk depth) p e ns) e ns
      { s with frame := ({} : Frame).enterNamed e.name } = .ok d t) :
    r.AccountsUpTo born s e (r.renderedParameters e) t := by
  have start : r.AccountsUpTo born s e [] { s with frame := ({} : Frame).enterNamed e.name } :=
    { accounts := accounts.mono (.of_eq rfl rfl) (.refl _) fun _ _ _ _ born _ => .inl born
      kept := .refl _
      known := fun _ none => absurd none List.not_mem_nil }
  exact entityDeclaration_each
    (fun p => advances_parameterDeclaration (walk_advances depth) p e ns)
    (fun done group p s d t written sound here upTo ran =>
      upTo.concat lenient written sound here ran)
    (fun _ _ frame upTo => upTo.framed frame) (sound.framed _) rfl start ran

include lenient in
/-- What the body of a call does can be accounted for, if what the call declares can. -/
theorem Body.accounts {body : ResolveM Answer} {a : Answer} (rest : r.AtRest s)
    (runs : Body r (r.walk depth) s c body) (built : body s = .ok a t)
    (performed : r.perform c s = .ok a t.committed) (accounts : r.Accounts born s)
    (made : ∀ e p path d, r.Declaring s c e p path d → born e p path d) :
    r.Accounts born t.committed := by
  have sound := rest.consistent
  have step := runs.advance sound
  rw [after_of_ok built] at step
  -- committing changes the journals only
  suffices left : r.Accounts born t from left.quiet (.of_eq rfl rfl) (.refl _)
  cases runs with
  | @topLevel e ns home unknown =>
    obtain ⟨whole, ran, rfl⟩ := map_ok built
    obtain ⟨u, within, rfl⟩ := around_ok ran
    obtain ⟨v, declared, rfl⟩ := kept_ok within
    rw [rest.frame] at declared
    have all : r.AccountsUpTo born s e (r.renderedParameters e) v :=
      .entity lenient sound accounts declared
    have agrees : r.Agrees e whole v.cache := ensures_entityDeclaration
      (fun p => advances_parameterDeclaration (walk_advances depth) p e ns)
      (fun p => ensures_knownOrKept) ns _ whole v (sound.framed _) trivial declared
    refine all.accounts.mono (.of_eq rfl rfl) (fun _ _ _ _ found => ?_)
      fun e' p path d declared there => ?_
    · exact (Cache.find?_insert _ _ _ _).trans ((if_neg (by simp)).trans found)
    · rcases declared with before | ⟨unknown, written, new⟩
      · exact before
      -- what was noted of the parameter is in the element
      obtain ⟨d', found, leads⟩ := agrees _ written.rendered.1 p written.rendered.2
      rw [Cache.find?_insert, if_neg (by simp), found] at there
      cases there
      exact made e p _ d (.written performed unknown written new leads)
  | @parameter p e ns home =>
    obtain ⟨d, ran, rfl⟩ := map_ok built
    obtain ⟨u, within, rfl⟩ := around_ok ran
    rw [rest.frame] at within
    have left : r.Accounts born u := (accounts.framed _).parameter lenient (sound.framed _) within
      fun unknown => made e p _ d (.alone performed unknown)
    exact left.framed _
  | @field id name ns unknown =>
    obtain ⟨d, ran, rfl⟩ := map_ok built
    obtain ⟨u, within, rfl⟩ := around_ok ran
    obtain ⟨placements, contradictions⟩ :=
      quiet_of_kept (quietly_fieldDeclaration depth _ ns) (sound.framed _) within
    exact accounts.quiet ⟨placements, contradictions⟩ step.parametersKept
  | @type id node ns found object home =>
    obtain ⟨d, ran, rfl⟩ := map_ok built
    have types : ∀ own, r.Quietly ((r.walk depth).type id own) :=
      fun _ => (quietly_walk depth).type none id trivial
    have quietly := quietly_bind (quietly_namespaceFor node ns) types
    exact accounts.quiet (quietly.quiet s d t sound ran) step.parametersKept

include lenient in
/-- **A call for one declaration can be accounted for**, if what it declares can. -/
theorem Accounts.call (rest : r.AtRest s) (single : c.isTransaction = true)
    (accounts : r.Accounts born s)
    (made : ∀ e p path d, r.Declaring s c e p path d → born e p path d) :
    r.Accounts born ((r.perform c).after s) := by
  rcases rest.performBy_cases r.depthBound single with
    ⟨a, ran⟩ | ⟨_, owners, -, ran⟩ | ⟨body, a, t, runs, built, -, ran⟩
  · rw [perform, fullWalk, after_of_ok ran]
    exact accounts
  -- a call that fails has nothing to account for
  · rw [perform, fullWalk, after_of_error ran]
    exact accounts.quiet (.of_eq rfl rfl) (.refl _)
  · rw [perform, fullWalk, after_of_ok ran]
    exact runs.accounts lenient rest built ran accounts made

include lenient in
/-- So can a series of them. -/
theorem Accounts.completes (completes : r.Completes calls s t)
    (single : ∀ c ∈ calls, c.isTransaction = true) (rest : r.AtRest s)
    (accounts : r.Accounts born s)
    (made : ∀ done c later u, calls = done ++ c :: later → r.Completes done s u →
      ∀ e p path d, r.Declaring u c e p path d → born e p path d) : r.Accounts born t := by
  obtain ⟨answered, left⟩ := completes
  induction calls generalizing s with
  | nil => exact left ▸ accounts
  | cons c later ih =>
    obtain ⟨a, gave⟩ := answered _ List.mem_cons_self
    have ran := ok_of_outcome gave
    refine ih (fun c' member => single c' (List.mem_cons_of_mem _ member))
      (performBy_atRest r.depthBound c s rest).1
      (accounts.call lenient rest (single c List.mem_cons_self) (made [] c later s rfl
        (completes_nil s)))
      (fun done c' later' u same completes => made (c :: done) c' later' u (congrArg _ same)
        (completes_cons ran completes))
      (fun x member => answered x (List.mem_cons_of_mem _ member)) left

section

variable (rest : r.AtRest s) (accounts : r.Accounts born s)
  (made : ∀ done c later u, r.extensionCalls = done ++ c :: later → r.Completes done s u →
    ∀ e p path d, r.Declaring u c e p path d → born e p path d)
include lenient rest accounts made

/-- What a call for the extension reports can be accounted for. -/
theorem Accounts.extension (ran : r.perform .extension s = .ok (.extension x) t) :
    ∃ v, r.Accounts born v ∧ x.problems = v.log.problems ∧ t = { v with log := {} } := by
  obtain ⟨v, completes, problems, rfl⟩ := completes_of_extension ran
  exact ⟨v, accounts.completes lenient completes
    (fun _ listed => isTransaction_of_mem_extensionCalls listed) rest made, problems, rfl⟩

/-- A call for the extension that fails leaves what the calls before the failing one did. -/
theorem Accounts.extension_error {error : ResolveError}
    (failed : r.perform .extension s = .error error t) : r.Accounts born t := by
  cases declared : r.home? with
  | none =>
    rw [perform, performBy, bind_pure_comp] at failed
    have failed := map_error failed
    rw [resolveExtension, home_eq, declared] at failed
    cases failed
    exact accounts
  | some ns =>
    obtain ⟨done, c, later, u, same, completes, stopped⟩ :=
      completes_of_extension_error (by simp [declared]) failed
    have single : ∀ c ∈ r.extensionCalls, c.isTransaction = true :=
      fun _ listed => isTransaction_of_mem_extensionCalls listed
    have before : r.Accounts born u := accounts.completes lenient completes
      (fun c member => single c (same ▸ List.mem_append_left _ member)) rest
      fun done' c' later' u' same' =>
        made done' c' (later' ++ c :: later) u' (by rw [same, same', List.append_assoc]; rfl)
    have atRest : r.AtRest u := completes.left ▸ rest.stateAfter done
    rw [← after_of_error stopped]
    exact before.call lenient atRest
      (single c (same ▸ List.mem_append_right _ List.mem_cons_self))
      (made done c later u same completes)

end

/-- One more call leaves the account of those before it as it is. -/
theorem Accounts.concat (accounts : r.Accounts (r.DeclaredAt calls) s) (last : Call) :
    r.Accounts (r.DeclaredAt (calls ++ [last])) s :=
  accounts.mono (.of_eq rfl rfl) (.refl _) fun _ _ _ _ declared _ => declared.concat last

include lenient in
/-- **Between calls, everything that was placed and reported can be accounted for.** -/
theorem accounts_stateAfter (calls : List Call) :
    r.Accounts (r.DeclaredAt calls) (r.stateAfter calls {}) := by
  induction calls using List.reverseRecOn with
  | nil => exact accounts_start
  | append_singleton calls last ih =>
    have rest : r.AtRest (r.stateAfter calls {}) := r.atRest_start.stateAfter calls
    have before := ih.concat last
    have left : r.stateAfter (calls ++ [last]) {} =
        (r.perform last).after (r.stateAfter calls {}) := by
      rw [stateAfter, List.foldl_append]
      rfl
    rw [left]
    have single : last.isTransaction = true → r.Accounts (r.DeclaredAt (calls ++ [last]))
        ((r.perform last).after (r.stateAfter calls {})) := fun single =>
      before.call lenient rest single fun e p path d declaring => ⟨last, _, .itself rfl, declaring⟩
    cases last with
    | topLevel | parameter | field | type => exact single rfl
    | extension =>
      cases ran : r.perform .extension (r.stateAfter calls {}) with
      | ok a t =>
        obtain ⟨x, rfl⟩ := exists_extension_of_ok ran
        obtain ⟨v, accounts, -, rfl⟩ := before.extension lenient rest
          (fun _ _ _ _ parts completes _ _ _ _ => .of_part parts completes) ran
        rw [after_of_ok ran]
        exact accounts.cleared
      | error error t =>
        rw [after_of_error ran]
        exact before.extension_error lenient rest
          (fun _ _ _ _ parts completes _ _ _ _ => .of_part parts completes) ran
    | generic container id => exact before
    | cached | problems => exact before
    | takeProblems => exact before.cleared

/-! ## What is reported is so -/

/-- A value that is placed as an attribute only is a single one and not extensible, and so is
written in one form wherever it is placed. -/
theorem only_of_noted (single : node.isScalar = true) (closed : node.extensible = false)
    (noted : notedPlacement? p node = some placement) (form : d.form = r.formFor p node) :
    d.Only placement := by
  unfold notedPlacement? at noted
  unfold formFor at form
  split at noted
  · next forced =>
    cases noted
    rw [if_pos forced] at form
    exact ⟨congrArg Declaration.Form.supportsChild form,
      congrArg Declaration.Form.supportsAttribute form⟩
  · next plain =>
    rw [closed] at noted
    cases noted
    rw [if_neg plain, if_pos single, closed] at form
    exact ⟨congrArg Declaration.Form.supportsAttribute form,
      congrArg Declaration.Form.supportsChild form⟩

theorem single_of_attributeOnly (noted : notedPlacement? p node = some .attributeOnly) :
    node.isScalar = true ∧ node.extensible = false := by
  unfold notedPlacement? at noted
  split at noted
  · cases noted
  split at noted
  · next single =>
    cases extensible : node.extensible with
    | false => exact ⟨single, rfl⟩
    | true => simp [extensible] at noted
  · cases noted

/-- The identity of the type of the parameter's value. -/
def valueIdentity? (r : Resolver) (p : Parameter) : Option String :=
  (r.types.get? p.valueType).bind (·.identity)

/-- It is as the contradiction says: two parameters, declared by the calls at the path and at the
earlier one, have values of the same type, and each is written only as it is placed. -/
structure Contradict (r : Resolver) (calls : List Call) (path : String) (said : Contradiction)
    (e : Entity) (p : Parameter) (e' : Entity) (p' : Parameter) : Prop where
  other : said.here ≠ said.earlier.placement
  here : ∃ d, r.DeclaredAt calls e p path d ∧ d.Only said.here
  earlier : ∃ d, r.DeclaredAt calls e' p' said.earlier.path d ∧ d.Only said.earlier.placement
  identity : r.valueIdentity? p = some said.identity
  earlierIdentity : r.valueIdentity? p' = some said.identity
  distinct : p ≠ p'
  apart : CacheKey.parameter e.kind e.name p.name ≠ .parameter e'.kind e'.name p'.name

theorem Explained.contradict {c : Cache} {said : Contradiction}
    (explained : r.Explained (r.DeclaredAt calls) c problem said e e' p p') :
    r.Contradict calls problem.path said e p e' p' := by
  obtain ⟨-, -, other, ⟨node, d, here⟩, ⟨node', d', earlier⟩, apart⟩ := explained
  -- an identity belongs to one type
  have same : p.valueType = p'.valueType :=
    TypeGraph.eq_of_identity_eq here.found earlier.found here.known earlier.known
  obtain rfl : node = node' :=
    Option.some.inj (here.found.symm.trans ((congrArg r.types.get? same).trans earlier.found))
  have noted : notedPlacement? p node = some said.here := here.noted
  obtain ⟨single, closed⟩ : node.isScalar = true ∧ node.extensible = false := by
    cases placed : said.here with
    | attributeOnly => exact single_of_attributeOnly (placed ▸ noted)
    | child =>
      cases placed' : said.earlier.placement with
      | attributeOnly => exact single_of_attributeOnly (placed' ▸ earlier.noted)
      | child => exact absurd (placed.trans placed'.symm) other
  exact
    { other
      here := ⟨d, here.born, only_of_noted single closed noted here.form⟩
      earlier := ⟨d', earlier.born, only_of_noted single closed earlier.noted earlier.form⟩
      identity := by rw [valueIdentity?, here.found]; exact here.known
      earlierIdentity := by rw [valueIdentity?, earlier.found]; exact earlier.known
      distinct := fun equal =>
        other (Option.some.inj (noted.symm.trans (equal ▸ earlier.noted)))
      apart }

/-- The resolver holds the problem after the calls, or the last of them was answered with it. -/
inductive Told (r : Resolver) (calls : List Call) (problem : Problem) : Prop
  | held : problem ∈ (r.stateAfter calls {}).log.problems → Told r calls problem
  | given {before : List Call} {x : ExtensionSyntax} {t : Progress} :
    calls = before ++ [.extension] →
    r.perform .extension (r.stateAfter before {}) = .ok (.extension x) t →
    problem ∈ x.problems → Told r calls problem

include lenient in
/-- **Reported contradictions are real.**  Whatever calls are made, if a problem is held between
them, or given with the answer for the extension, that tells of a contradiction between placements,
then the calls that were answered, those that a call for the extension consists of among them,
declared two parameters that contradict each other: one at the path of the problem, and the other at
the path that its message cites. -/
theorem contradictions_are_real (told : r.Told calls problem)
    (code : problem.code = .ambiguousAttributeChild) :
    ∃ said e p e' p', problem.message = said.message ∧ problem.entity = e.name ∧
      r.Contradict calls problem.path said e p e' p' := by
  obtain ⟨s, accounts, member⟩ : ∃ s, r.Accounts (r.DeclaredAt calls) s ∧
      problem ∈ s.log.problems := by
    cases told with
    | held member => exact ⟨_, accounts_stateAfter lenient calls, member⟩
    | @given before x t last ran member =>
      subst last
      obtain ⟨v, accounts, problems, -⟩ :=
        ((accounts_stateAfter lenient before).concat .extension).extension lenient
          (r.atRest_start.stateAfter before)
          (fun _ _ _ _ parts completes _ _ _ _ => .of_part parts completes) ran
      exact ⟨v, accounts, problems ▸ member⟩
  obtain ⟨said, e, e', p, p', explained⟩ := accounts.reported problem member code
  exact ⟨said, e, p, e', p', explained.message, explained.entity, explained.contradict⟩

/-- An operation whose last parameter has a type that is not there. -/
def snooze : Component where
  name := "snooze"
  groups := [.ofParameters [loudness, { name := "ghost", valueType := ⟨7⟩ }]]

/-- The operation that fails places the loudness of alarms first, but that is forgotten, and the
attribute of the one after it is cited. -/
theorem contradictions_are_real_alarms :
    let calls : List Call := [.topLevel (.operation snooze), .topLevel (.operation mute),
      .topLevel (.operation ringBell)]
    let problem := contradictory (.operation ringBell)
      ((Path.root.enterNamed "ring").enter "loudness")
      ⟨"Loudness", .child, .attributeOnly, "mute/least"⟩
    (alarms.perform (.topLevel (.operation snooze))).outcome {} =
        .error (.unknownType ⟨7⟩ "snooze/ghost") ∧
      alarms.Told calls problem ∧ problem.code = .ambiguousAttributeChild ∧
      ∃ said e p e' p', problem.message = said.message ∧ problem.entity = e.name ∧
        alarms.Contradict calls problem.path said e p e' p' := by
  intro calls problem
  have told : alarms.Told calls problem := .held (List.mem_singleton.mpr rfl)
  exact ⟨rfl, told, rfl, contradictions_are_real rfl told rfl⟩

end Resolver

end ElementSyntax
