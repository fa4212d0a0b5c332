import ElementSyntax.Name.Simple

/-!
# Simple names of qualified names

A qualified name has segments, each a name that may have generic arguments, joined by `.`, `$` or
`::`.  Its simple name is meant to be the name of the last segment, and is, if no segment before has
generic arguments.

In general it is the name of the first segment that has them (`simple_written`).  What follows the
first `<` goes before the separators are looked for, so that the segments after generic arguments
are taken for a part of these (`simple_ignores_last`).
-/

namespace ElementSyntax.Name

open Unicode

/-! ## Qualified names -/

/-- Characters in which angle brackets come in pairs. -/
inductive Balanced : List Char → Prop
  | nil : Balanced []
  | char {c : Char} {rest : List Char} : c ≠ '<' → c ≠ '>' → Balanced rest → Balanced (c :: rest)
  | nested {inner rest : List Char} : Balanced inner → Balanced rest →
    Balanced ('<' :: inner ++ '>' :: rest)

/-- A part of a qualified name: a name and the text of its generic arguments, if it has any. -/
structure Segment where
  name : List Char
  arguments : Option (List Char) := none
  nonempty : name ≠ []
  identifier : ∀ c ∈ name, isIdentifierPart c = true
  balanced : ∀ text ∈ arguments, Balanced text

/-- How a segment is written. -/
def Segment.written (s : Segment) : List Char :=
  match s.arguments with
  | none => s.name
  | some text => s.name ++ '<' :: (text ++ ['>'])

/-- What stands between two segments. -/
inductive Separator where
  | dot
  | dollar
  | scope

/-- How a separator is written. -/
def Separator.written : Separator → List Char
  | .dot => ['.']
  | .dollar => ['$']
  | .scope => [':', ':']

/-- A first segment, and the others, each with the separator before it. -/
structure QualifiedName where
  first : Segment
  others : List (Separator × Segment)

namespace QualifiedName

def segments (q : QualifiedName) : List Segment := q.first :: q.others.map (·.2)

def last (q : QualifiedName) : Segment := q.segments.getLast (List.cons_ne_nil _ _)

/-- How the name is written. -/
def written (q : QualifiedName) : List Char :=
  q.first.written ++ q.others.flatMap fun other => other.1.written ++ other.2.written

/-- The first segment that has generic arguments, or the last one if there is none. -/
def cut (q : QualifiedName) : Segment :=
  (q.segments.find? fun s => s.arguments.isSome).getD q.last

end QualifiedName

variable {first : Segment} {next : Separator × Segment} {others : List (Separator × Segment)}
  {before name : List Char}

namespace QualifiedName

theorem cut_of_arguments (generic : first.arguments.isSome = true) :
    cut ⟨first, others⟩ = first := by
  simp [cut, segments, generic]

theorem cut_single (first : Segment) : cut ⟨first, []⟩ = first := by
  by_cases generic : first.arguments.isSome = true
  · exact cut_of_arguments generic
  · simp [cut, segments, last, generic]

theorem cut_cons (plain : first.arguments = none) :
    cut ⟨first, next :: others⟩ = cut ⟨next.2, others⟩ := by
  simp [cut, segments, last, plain]

theorem written_cons (plain : first.arguments = none) :
    written ⟨first, next :: others⟩ =
      first.name ++ (next.1.written ++ written ⟨next.2, others⟩) := by
  simp [written, Segment.written, plain]

/-- If only the last segment has generic arguments, it is the one that is cut. -/
theorem cut_eq_last {q : QualifiedName} (plain : ∀ s ∈ q.segments.dropLast, s.arguments = none) :
    q.cut = q.last := by
  obtain ⟨first, others⟩ := q
  induction others generalizing first with
  | nil => exact cut_single first
  | cons next others ih =>
    obtain ⟨here, later⟩ := List.forall_mem_cons.mp plain
    rw [cut_cons here, ih next.2 later]
    rfl

end QualifiedName

/-! ## Characters of names -/

/-- A character that no identifier has is none of the name. -/
theorem Segment.not_mem_name (s : Segment) {c : Char} (mark : isIdentifierPart c = false) :
    c ∉ s.name := fun member => Bool.false_ne_true (mark.symm.trans (s.identifier c member))

theorem Segment.bracket_not_mem (s : Segment) : '<' ∉ s.name := s.not_mem_name (by decide +kernel)

theorem Separator.bracket_not_mem (separator : Separator) : '<' ∉ separator.written := by
  cases separator <;> decide

/-! ## The three cuts -/

/-- What can stand before a name: nothing, or something that ends with a separator. -/
def Ended (before : List Char) : Prop :=
  before = [] ∨ ∃ start separator, before = start ++ Separator.written separator

theorem takeWhile_bracket (absent : '<' ∉ name) (rest : List Char) :
    (name ++ rest).takeWhile (· ≠ '<') = name ++ rest.takeWhile (· ≠ '<') :=
  List.takeWhile_append_of_pos fun c member => by
    simpa using fun bracket : c = '<' => absent (bracket ▸ member)

theorem takeWhile_of_arguments {text : List Char} (generic : first.arguments = some text) :
    (QualifiedName.written ⟨first, others⟩).takeWhile (· ≠ '<') = first.name := by
  rw [QualifiedName.written, Segment.written, generic, List.append_assoc,
    takeWhile_bracket first.bracket_not_mem]
  simp

/-- Before the first bracket stand whole segments with their separators, and the name of the segment
that is cut there. -/
theorem exists_before_bracket (q : QualifiedName) :
    ∃ before, Ended before ∧ q.written.takeWhile (· ≠ '<') = before ++ q.cut.name := by
  obtain ⟨first, others⟩ := q
  induction others generalizing first with
  | nil =>
    refine ⟨[], .inl rfl, ?_⟩
    rw [QualifiedName.cut_single, List.nil_append]
    cases generic : first.arguments with
    | some text => exact takeWhile_of_arguments generic
    | none =>
      have whole := takeWhile_bracket first.bracket_not_mem []
      simpa [QualifiedName.written, Segment.written, generic] using whole
  | cons next others ih =>
    cases generic : first.arguments with
    | some text =>
      refine ⟨[], .inl rfl, ?_⟩
      rw [QualifiedName.cut_of_arguments (by rw [generic]; rfl), takeWhile_of_arguments generic,
        List.nil_append]
    | none =>
      obtain ⟨before, ended, base⟩ := ih next.2
      refine ⟨first.name ++ (next.1.written ++ before), .inr ?_, ?_⟩
      · rcases ended with rfl | ⟨start, separator, rfl⟩
        · exact ⟨first.name, next.1, by rw [List.append_nil]⟩
        · exact ⟨first.name ++ (next.1.written ++ start), separator, by simp⟩
      · rw [QualifiedName.cut_cons generic, QualifiedName.written_cons generic,
          takeWhile_bracket first.bracket_not_mem, takeWhile_bracket next.1.bracket_not_mem, base]
        simp

/-- The last `::` before a name is not looked for in the name. -/
theorem beforeScope_append (noColon : ':' ∉ name) (rest : List Char) :
    beforeScope (name ++ rest) = name ++ beforeScope rest := by
  induction name with
  | nil => rfl
  | cons c name ih =>
    obtain ⟨here, later⟩ := List.ne_and_not_mem_of_not_mem_cons noColon
    rw [List.cons_append, beforeScope, ih later, List.cons_append]
    exact fun _ colon _ => here colon.symm

/-- The cuts after the last separator take all that precedes the name. -/
theorem takeWhile_beforeScope (ended : Ended before) :
    (beforeScope before.reverse).takeWhile (fun c => c ≠ '.' && c ≠ '$') = [] := by
  rcases ended with rfl | ⟨start, separator, rfl⟩
  · rfl
  · rw [List.reverse_append]
    cases separator with
    | dot => simp [Separator.written, beforeScope]
    | dollar => simp [Separator.written, beforeScope]
    | scope => simp [Separator.written, beforeScope]

/-- **The simple name of a qualified name is the name of its first segment that has generic
arguments, or of the last segment if there is none.**  So it is that of the last one if no other
has generic arguments. -/
theorem simple_written (q : QualifiedName) :
    simple (String.ofList q.written) = String.ofList q.cut.name ∧
      ((∀ s ∈ q.segments.dropLast, s.arguments = none) →
        simple (String.ofList q.written) = String.ofList q.last.name) := by
  have result : simple (String.ofList q.written) = String.ofList q.cut.name := by
    obtain ⟨before, ended, base⟩ := exists_before_bracket q
    have noDot : '.' ∉ q.cut.name := q.cut.not_mem_name (by decide +kernel)
    have noDollar : '$' ∉ q.cut.name := q.cut.not_mem_name (by decide +kernel)
    have noColon : ':' ∉ q.cut.name := q.cut.not_mem_name (by decide +kernel)
    have inName : ∀ c ∈ q.cut.name.reverse, (c ≠ '.' && c ≠ '$') = true := by
      intro c member
      rw [List.mem_reverse] at member
      have notDot : c ≠ '.' := fun dot => noDot (dot ▸ member)
      have notDollar : c ≠ '$' := fun dollar => noDollar (dollar ▸ member)
      simp [notDot, notDollar]
    rw [simple, String.toList_ofList, base, List.reverse_append,
      beforeScope_append (by simpa using noColon), List.takeWhile_append_of_pos inName,
      takeWhile_beforeScope ended, List.append_nil, List.reverse_reverse,
      List.filter_eq_self.mpr q.cut.identifier]
  refine ⟨result, fun plain => ?_⟩
  rw [result, QualifiedName.cut_eq_last plain]

def entry : Segment where
  name := "Entry".toList
  nonempty := by decide
  identifier := List.all_eq_true.mp (by decide +kernel)
  balanced := by simp

/-- The segment `Map<K,List<V>>`. -/
def mapOfLists : Segment where
  name := "Map".toList
  arguments := some "K,List<V>".toList
  nonempty := by decide
  identifier := List.all_eq_true.mp (by decide +kernel)
  balanced := by
    intro text given
    cases given
    have value : Balanced ['V'] := .char (by decide) (by decide) .nil
    have list : Balanced "List<V>".toList :=
      .char (by decide) (by decide) (.char (by decide) (by decide) (.char (by decide) (by decide)
        (.char (by decide) (by decide) (.nested value .nil))))
    exact .char (by decide) (by decide) (.char (by decide) (by decide) list)

/-- Generic arguments of the last segment do not matter. -/
theorem simple_written_map : simple "Entry$Map<K,List<V>>" = "Map" :=
  (simple_written ⟨entry, [(.dollar, mapOfLists)]⟩).2 fun s before => by
    rw [List.mem_singleton.mp before]
    rfl

/-- **Generic arguments of another segment hide the last one**: the simple name of
`Map<K,List<V>>.Entry` is `Map`. -/
theorem simple_ignores_last :
    ¬∀ q : QualifiedName, simple (String.ofList q.written) = String.ofList q.last.name := by
  intro always
  have wrong := always ⟨mapOfLists, [(.dot, entry)]⟩
  exact absurd wrong (by decide +kernel)

end ElementSyntax.Name
