import ElementSyntax.Proofs.LetterCase
import Mathlib.Data.List.SplitBy

/-!
# The words of a name

What the hyphenated form of a name is meant to be, said without the pass that writes it.  The
**runs** of a name are its maximal stretches of characters that are no separators.  A run is cut
before each capital that follows a small letter or a number, and before each capital that follows
one and is followed by a small letter of the run; the pieces are the **words**.

`hyphenated_eq_words` says that the hyphenated form is these words in lower case, joined by single
hyphens, and that this loses, adds and moves no letter.  The pass looks one character back and one
ahead.  Inside a run that is just what the cuts look at (`hyphenatedAfter_run`), since the only
character after a run is a separator, which is no small letter; between runs it writes a hyphen
once there is a character to put after it (`hyphenatedAfter_separator`).
-/

namespace ElementSyntax.Name

open Unicode

/-! ## Words -/

/-- The maximal stretches of characters that are no separators. -/
def runs (cs : List Char) : List (List Char) := (cs.splitOnP isSeparator).filter (!·.isEmpty)

/-- Whether a run is cut before its character `c`, which follows `before` and is followed by `after`
if it is not the last one. -/
def isCut (before c : Char) (after : Option Char) : Bool :=
  isUppercase c &&
    (isLowercase before || isNumeric before || (isUppercase before && after.any isLowercase))

/-- The characters of a run, each with the one after it. -/
def withNext : List Char → List (Char × Option Char)
  | [] => []
  | c :: rest => (c, rest.head?) :: withNext rest

/-- The pieces of a run that has all its cuts. -/
def wordsOfRun (run : List Char) : List (List Char) :=
  ((withNext run).splitBy fun before c => !isCut before.1 c.1 c.2).map (·.map (·.1))

/-- The words of a name. -/
def words (cs : List Char) : List (List Char) := (runs cs).flatMap wordsOfRun

/-- A word in lower case, each character on its own. -/
def lowered (w : List Char) : List Char := w.flatMap lowerCase

variable {b c s : Char} {cs r rest : List Char} {ws : List (List Char)}

/-! ## Runs -/

@[simp] theorem runs_nil : runs [] = [] := by simp [runs]

/-- A separator in front changes nothing. -/
theorem runs_separator (separates : isSeparator s = true) : runs (s :: cs) = runs cs := by
  simp [runs, List.splitOnP_cons_eq_if_modifyHead, separates]

/-- What precedes a separator is a run, if it has no separator itself. -/
theorem runs_append_separator (run : ∀ c ∈ r, isSeparator c = false) (nonempty : r ≠ [])
    (separates : isSeparator s = true) : runs (r ++ s :: rest) = r :: runs rest := by
  rw [runs, List.splitOnP_append_cons_of_forall_mem run s separates rest]
  simp [runs, nonempty]

/-- A name without separators is one run. -/
theorem runs_of_no_separator (run : ∀ c ∈ r, isSeparator c = false) (nonempty : r ≠ []) :
    runs r = [r] := by
  simp [runs, List.splitOnP_eq_singleton run, nonempty]

/-- The runs have all characters but the separators, in order. -/
theorem flatten_runs (cs : List Char) : (runs cs).flatten = cs.filter (!isSeparator ·) := by
  rw [runs, List.flatten_filter_not_isEmpty]
  induction cs with
  | nil => rfl
  | cons c cs ih =>
    obtain ⟨r, rs, split⟩ := List.exists_cons_of_ne_nil (List.splitOnP_ne_nil isSeparator cs)
    rw [split] at ih
    rw [List.splitOnP_cons_eq_if_modifyHead, split]
    by_cases separates : isSeparator c = true
    · simpa [separates] using ih
    · simpa [separates] using ih

theorem runs_dropWhile (cs : List Char) : runs (cs.dropWhile isSeparator) = runs cs := by
  induction cs with
  | nil => rfl
  | cons c cs ih =>
    by_cases separates : isSeparator c = true
    · rw [List.dropWhile_cons_of_pos separates, ih, runs_separator separates]
    · rw [List.dropWhile_cons_of_neg separates]

/-! ## Words of a run -/

theorem map_fst_withNext (run : List Char) : (withNext run).map (·.1) = run := by
  induction run with
  | nil => rfl
  | cons c rest ih => rw [withNext, List.map_cons, ih]

theorem flatten_wordsOfRun (run : List Char) : (wordsOfRun run).flatten = run := by
  rw [wordsOfRun, ← List.map_flatten, List.flatten_splitBy, map_fst_withNext]

theorem ne_nil_of_mem_wordsOfRun {w : List Char} (member : w ∈ wordsOfRun r) : w ≠ [] := by
  obtain ⟨piece, known, rfl⟩ := List.mem_map.mp member
  simpa using List.ne_nil_of_mem_splitBy known

/-- Whether a split list has its first element alone depends on the first two elements. -/
theorem splitBy_cons_cons {α : Type} (related : α → α → Bool) (a b : α) (l : List α) :
    (a :: b :: l).splitBy related =
      if related a b then ((b :: l).splitBy related).modifyHead (a :: ·)
      else [a] :: (b :: l).splitBy related := by
  by_cases together : related a b = true
  · obtain ⟨g, gs, split⟩ :=
      List.exists_cons_of_ne_nil (List.splitBy_ne_nil.mpr (List.cons_ne_nil b l))
    obtain ⟨whole, nonempty, inside, between⟩ := List.splitBy_eq_iff.mp split
    obtain ⟨first, g, rfl⟩ : ∃ first rest, g = first :: rest :=
      List.exists_cons_of_ne_nil fun empty => nonempty (empty ▸ List.mem_cons_self)
    obtain ⟨rfl, rfl⟩ := List.cons.inj whole
    obtain ⟨insideFirst, insideOthers⟩ := List.forall_mem_cons.mp inside
    rw [if_pos together, split, List.modifyHead_cons]
    refine List.splitBy_eq_iff.mpr ⟨rfl, by simpa using nonempty, ?_, ?_⟩
    · exact List.forall_mem_cons.mpr
        ⟨List.isChain_cons_cons.mpr ⟨together, insideFirst⟩, insideOthers⟩
    · -- the last element of the first piece is the one it had before
      cases gs with
      | nil => exact List.isChain_singleton _
      | cons g' gs => simpa [List.isChain_cons_cons] using between
  · rw [if_neg together]
    have apart : ∀ x ∈ [a].getLast?, related x b = false := by simpa using together
    exact List.splitBy_append_cons l apart

/-- The first character of a run is a word if there is a cut after it, and else belongs to the word
of the next one. -/
theorem wordsOfRun_cons_cons (b c : Char) (r : List Char) :
    wordsOfRun (b :: c :: r) =
      if isCut b c r.head? then [b] :: wordsOfRun (c :: r)
      else (wordsOfRun (c :: r)).modifyHead (b :: ·) := by
  have step := splitBy_cons_cons (fun before c : Char × Option Char => !isCut before.1 c.1 c.2)
    (b, some c) (c, r.head?) (withNext r)
  simp only [wordsOfRun, withNext, List.head?_cons, step]
  by_cases cut : isCut b c r.head? = true
  · simp [cut]
  · simp only [cut, Bool.not_false, if_true, Bool.false_eq_true, if_false]
    generalize List.splitBy _ _ = pieces
    cases pieces <;> rfl

theorem wordsOfRun_cons_ne_nil (c : Char) (r : List Char) : wordsOfRun (c :: r) ≠ [] := by
  intro empty
  have whole := flatten_wordsOfRun (c :: r)
  rw [empty] at whole
  exact List.cons_ne_nil c r whole.symm

/-! ## Words of a name -/

@[simp] theorem words_nil : words [] = [] := by simp [words]

theorem words_separator (separates : isSeparator s = true) : words (s :: cs) = words cs := by
  rw [words, runs_separator separates, words]

theorem words_append_separator (run : ∀ c ∈ r, isSeparator c = false) (nonempty : r ≠ [])
    (separates : isSeparator s = true) : words (r ++ s :: rest) = wordsOfRun r ++ words rest := by
  rw [words, runs_append_separator run nonempty separates, List.flatMap_cons, words]

theorem words_of_no_separator (run : ∀ c ∈ r, isSeparator c = false) (nonempty : r ≠ []) :
    words r = wordsOfRun r := by
  rw [words, runs_of_no_separator run nonempty, List.flatMap_singleton]

/-- The words have all characters but the separators, in order. -/
theorem flatten_words (cs : List Char) : (words cs).flatten = cs.filter (!isSeparator ·) := by
  rw [words, List.flatMap, List.flatten_flatten, List.map_map]
  have whole : List.map (List.flatten ∘ wordsOfRun) (runs cs) = runs cs :=
    (List.map_congr_left fun run _ => flatten_wordsOfRun run).trans (List.map_id _)
  rw [whole, flatten_runs]

/-- A word has characters, and none of them is a separator. -/
theorem mem_words {w : List Char} (member : w ∈ words cs) :
    w ≠ [] ∧ ∀ c ∈ w, isSeparator c = false := by
  constructor
  · obtain ⟨run, -, known⟩ := List.mem_flatMap.mp member
    exact ne_nil_of_mem_wordsOfRun known
  · intro c inWord
    have inName : c ∈ (words cs).flatten := List.mem_flatten.mpr ⟨w, member, inWord⟩
    rw [flatten_words] at inName
    simpa using (List.mem_filter.mp inName).2

/-! ## The pass that writes the words -/

/-- Each word in lower case after a hyphen. -/
def hyphensBefore (ws : List (List Char)) : List Char := ws.flatMap fun w => '-' :: lowered w

theorem hyphensBefore_cons (w : List Char) (ws : List (List Char)) :
    hyphensBefore (w :: ws) = '-' :: (lowered w ++ hyphensBefore ws) := by
  simp [hyphensBefore]

theorem hyphensBefore_append (ws ws' : List (List Char)) :
    hyphensBefore (ws ++ ws') = hyphensBefore ws ++ hyphensBefore ws' :=
  List.flatMap_append

/-- The words joined by hyphens are those after hyphens, without the first hyphen. -/
theorem tail_hyphensBefore (ws : List (List Char)) :
    (hyphensBefore ws).tail = ['-'].intercalate (ws.map lowered) := by
  cases ws with
  | nil => rfl
  | cons w ws =>
    rw [hyphensBefore_cons, List.tail_cons, List.map_cons]
    induction ws generalizing w with
    | nil => simp [hyphensBefore]
    | cons w' ws ih =>
      rw [hyphensBefore_cons, ih, List.map_cons, List.intercalate_cons_cons]
      simp

/-- In a run the pass starts words at the cuts, whatever follows the run. -/
theorem startsWord_eq_isCut (inRun : isSeparator b = false)
    (ends : ∀ s ∈ rest.head?, isSeparator s = true) :
    startsWord (some b) c (r ++ rest).head? = isCut b c r.head? := by
  have after : (r ++ rest).head?.any isLowercase = r.head?.any isLowercase := by
    cases r with
    | cons d r => rfl
    | nil =>
      cases rest with
      | nil => rfl
      | cons s rest => exact isLowercase_of_isSeparator (ends s rfl)
  simp only [startsWord, isCut, inRun, Bool.false_or, after]

/-- After a run the pass does not look back. -/
theorem hyphenatedAfter_none (ends : ∀ s ∈ rest.head?, isSeparator s = true) :
    hyphenatedAfter (some b) rest = hyphenatedAfter none rest := by
  cases rest with
  | nil => rfl
  | cons s rest => simp [hyphenatedAfter, ends s rfl]

/-- What the pass writes for a run. -/
theorem hyphenatedAfter_run (inRun : isSeparator b = false)
    (run : ∀ c ∈ r, isSeparator c = false) (ends : ∀ s ∈ rest.head?, isSeparator s = true) :
    '-' :: (lowerCase b ++ hyphenatedAfter (some b) (r ++ rest)) =
      hyphensBefore (wordsOfRun (b :: r)) ++ hyphenatedAfter none rest := by
  induction r generalizing b with
  | nil =>
    have single : wordsOfRun [b] = [[b]] := rfl
    rw [single, List.nil_append, hyphenatedAfter_none ends]
    simp [hyphensBefore, lowered]
  | cons c r ih =>
    obtain ⟨inRunNext, runRest⟩ := List.forall_mem_cons.mp run
    have later := ih inRunNext runRest
    have written : hyphenatedAfter (some b) (c :: r ++ rest) =
        (if isCut b c r.head? then ['-'] else []) ++ lowerCase c
          ++ hyphenatedAfter (some c) (r ++ rest) := by
      rw [List.cons_append, hyphenatedAfter, if_neg (by simp [inRunNext]),
        startsWord_eq_isCut inRun ends]
    rw [written, wordsOfRun_cons_cons]
    by_cases cut : isCut b c r.head? = true
    · rw [if_pos cut, if_pos cut, hyphensBefore_cons, List.append_assoc, List.singleton_append,
        later]
      simp [lowered]
    · obtain ⟨w, ws, split⟩ := List.exists_cons_of_ne_nil (wordsOfRun_cons_ne_nil c r)
      rw [split, hyphensBefore_cons, List.cons_append, List.cons.injEq] at later
      rw [if_neg cut, if_neg cut, split, List.modifyHead_cons, hyphensBefore_cons, List.nil_append,
        later.2]
      simp [lowered]

/-- The run that a list of characters starts with, which may be empty. -/
theorem exists_run (cs : List Char) :
    ∃ r rest, cs = r ++ rest ∧ (∀ c ∈ r, isSeparator c = false) ∧
      ∀ s ∈ rest.head?, isSeparator s = true := by
  induction cs with
  | nil => exact ⟨[], [], rfl, by simp, by simp⟩
  | cons c cs ih =>
    by_cases separates : isSeparator c = true
    · exact ⟨[], c :: cs, rfl, by simp, by simpa using separates⟩
    · obtain ⟨r, rest, rfl, run, ends⟩ := ih
      exact ⟨c :: r, rest, rfl, List.forall_mem_cons.mpr ⟨by simpa using separates, run⟩, ends⟩

/-- What the pass writes after a separator. -/
theorem hyphenatedAfter_separator {s : Char} (separates : isSeparator s = true) (cs : List Char) :
    hyphenatedAfter (some s) cs = hyphensBefore (words cs) := by
  match cs with
  | [] => rfl
  | c :: cs =>
    by_cases again : isSeparator c = true
    · rw [hyphenatedAfter, if_pos again, hyphenatedAfter_separator again cs, words_separator again]
    · have inRun : isSeparator c = false := by simpa using again
      have written : hyphenatedAfter (some s) (c :: cs) =
          '-' :: (lowerCase c ++ hyphenatedAfter (some c) cs) := by
        simp [hyphenatedAfter, startsWord, separates, inRun]
      obtain ⟨r, rest, rfl, run, ends⟩ := exists_run cs
      have wholeRun : ∀ d ∈ c :: r, isSeparator d = false := List.forall_mem_cons.mpr ⟨inRun, run⟩
      rw [written, hyphenatedAfter_run inRun run ends, ← List.cons_append]
      cases rest with
      | nil =>
        rw [hyphenatedAfter, List.append_nil, List.append_nil,
          words_of_no_separator wholeRun (List.cons_ne_nil c r)]
      | cons d rest =>
        have next : isSeparator d = true := ends d rfl
        rw [hyphenatedAfter, if_pos next, hyphenatedAfter_separator next rest,
          words_append_separator wholeRun (List.cons_ne_nil c r) next, hyphensBefore_append]
termination_by cs.length

/-- What the pass writes for a whole name. -/
theorem hyphenatedAfter_words (cs : List Char) :
    hyphenatedAfter none (cs.dropWhile isSeparator) =
      ['-'].intercalate ((words cs).map lowered) := by
  have same : words (cs.dropWhile isSeparator) = words cs := by rw [words, runs_dropWhile, words]
  have hyphen : isSeparator '-' = true := rfl
  rw [← tail_hyphensBefore, ← same, ← hyphenatedAfter_separator hyphen]
  have ends := List.head?_dropWhile_not isSeparator cs
  cases split : cs.dropWhile isSeparator with
  | nil => rfl
  | cons c rest =>
    rw [split] at ends
    have inRun : isSeparator c = false := ends
    simp [hyphenatedAfter, startsWord, inRun, hyphen]

/-! ## What joining does -/

/-- A lower-case word has characters, and none of them is a separator. -/
theorem mem_lowered_words {w : List Char} (member : w ∈ (words cs).map lowered) :
    w ≠ [] ∧ ∀ c ∈ w, isSeparator c = false := by
  obtain ⟨w, known, rfl⟩ := List.mem_map.mp member
  obtain ⟨nonempty, inWord⟩ := mem_words known
  constructor
  · obtain ⟨c, w, rfl⟩ := List.exists_cons_of_ne_nil nonempty
    simp [lowered, lowerCase_ne_nil]
  · intro d inLowered
    obtain ⟨c, here, form⟩ := List.mem_flatMap.mp inLowered
    exact isSeparator_of_mem_lowerCase (inWord c here) form

/-- Hyphens stand between other characters only. -/
structure HyphensBetween (cs : List Char) : Prop where
  not_first : ¬ ['-'] <+: cs
  not_last : ¬ ['-'] <:+ cs
  not_doubled : ¬ ['-', '-'] <:+: cs

/-- Words that are joined by hyphens have them between each other, since the parts between the
hyphens are the words again. -/
theorem hyphensBetween_intercalate (nonempty : [] ∉ ws) (inWord : ∀ w ∈ ws, '-' ∉ w) :
    HyphensBetween (['-'].intercalate ws) := by
  by_cases none : ws = []
  · subst none
    constructor <;> simp
  · have parts : (['-'].intercalate ws).splitOn '-' = ws := List.splitOn_intercalate '-' inWord none
    have cut (before after : List Char) :
        (before ++ '-' :: after).splitOn '-' = before.splitOn '-' ++ after.splitOn '-' :=
      List.splitOnP_append_cons before after (beq_self_eq_true '-')
    have empty : ([] : List Char).splitOn '-' = [[]] := rfl
    refine ⟨?_, ?_, ?_⟩
    · rintro ⟨after, whole⟩
      apply nonempty
      rw [← parts, ← whole, ← List.nil_append ['-'], List.append_assoc, List.singleton_append, cut,
        empty]
      simp
    · rintro ⟨before, whole⟩
      apply nonempty
      rw [← parts, ← whole, cut, empty]
      simp
    · rintro ⟨before, after, whole⟩
      apply nonempty
      rw [← parts, ← whole, List.append_assoc, List.cons_append, cut, List.singleton_append,
        ← List.nil_append ('-' :: after), cut, empty]
      simp

/-- Without the hyphens, joined words are written one after the other. -/
theorem filter_intercalate (inWord : ∀ w ∈ ws, '-' ∉ w) :
    (['-'].intercalate ws).filter (· ≠ '-') = ws.flatten := by
  induction ws with
  | nil => rfl
  | cons w ws ih =>
    obtain ⟨here, later⟩ := List.forall_mem_cons.mp inWord
    have kept : w.filter (· ≠ '-') = w :=
      List.filter_eq_self.mpr fun c member => by
        simpa using fun hyphen : c = '-' => here (hyphen ▸ member)
    by_cases last : ws = []
    · subst last
      simpa using kept
    · rw [List.intercalate_cons_of_ne_nil last, List.filter_append, List.filter_append, kept,
        ih later]
      simp

/-- **The hyphenated form of a name is its words in lower case, joined by single hyphens.**  Without
the hyphens it has the lower-case forms of all characters of the name but its separators, in order,
and the hyphens are neither first nor last nor next to each other. -/
theorem hyphenated_eq_words (name : String) :
    hyphenated name =
        "-".intercalate ((words name.toList).map fun w => String.ofList (w.flatMap lowerCase)) ∧
      (hyphenated name).toList.filter (· ≠ '-') =
        (name.toList.filter (!isSeparator ·)).flatMap lowerCase ∧
      HyphensBetween (hyphenated name).toList := by
  have form : (hyphenated name).toList = ['-'].intercalate ((words name.toList).map lowered) := by
    rw [hyphenated, String.toList_ofList, hyphenatedAfter_words]
  have inWord : ∀ w ∈ (words name.toList).map lowered, '-' ∉ w := fun w member hyphen =>
    absurd ((mem_lowered_words member).2 '-' hyphen) (by decide)
  refine ⟨?_, ?_, ?_⟩
  · rw [← String.toList_inj, form, String.toList_intercalate, List.map_map]
    exact congrArg _ (List.map_congr_left fun w _ => by simp [lowered])
  · rw [form, filter_intercalate inWord, ← flatten_words, List.flatMap, List.map_flatten,
      List.flatten_flatten, List.map_map]
    rfl
  · rw [form]
    exact hyphensBetween_intercalate (fun empty => (mem_lowered_words empty).1 rfl) inWord

/-- An acronym is one word, and a number belongs to the word before it. -/
example : (words "_loadURLFrom2Files ".toList).map String.ofList =
    ["load", "URL", "From2", "Files"] := by
  decide +kernel

end ElementSyntax.Name
