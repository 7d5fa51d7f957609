import DocStore.Proofs.Query.Wire

/-!
# Dotted paths

A path is written as a text by two replacements in each of its names and read back
by two others, in an order that matters: `~01` is a tilde and a one, not a tilde
before a point.  `escape` and `unescape` do both replacements in one go.

* `escape_eq_replaceAll` and `unescape_eq_replaceAll`: one go is the same as one
  replacement after the other.
* `escape_unescape_iff`: a name without points is written as it was read exactly when
  every tilde in it starts an escape.
* `dotted_parse_iff` says the same of a whole text: cutting it at its points cuts no
  escape.

`FieldPath.dotted_round_trip` puts them together.
-/

namespace DocStore

namespace Text

/-! ## Replacing -/

/-- Behind `skip` more characters, every place where `old` stands is written as `new`. -/
def replaceFrom (old new : List Char) : (skip : Nat) → List Char → List Char
  | _, [] => []
  | skip + 1, _ :: rest => replaceFrom old new skip rest
  | 0, c :: rest =>
      if old.isPrefixOf (c :: rest) then new ++ replaceFrom old new (old.length - 1) rest
      else c :: replaceFrom old new 0 rest

/-- The text with `new` at every place of `old`.  Places are looked for from left to right, and
do not overlap. -/
def replaceAll (old new text : List Char) : List Char := replaceFrom old new 0 text

section

variable {old new rest : List Char} {a b c : Char}

theorem replaceAll_char :
    replaceAll [a] new (c :: rest) =
      if c = a then new ++ replaceAll [a] new rest else c :: replaceAll [a] new rest := by
  unfold replaceAll
  by_cases h : c = a
  · simp [replaceFrom, h]
  · simp [replaceFrom, h, Ne.symm h]

theorem replaceAll_pair :
    replaceAll [a, b] new (a :: b :: rest) = new ++ replaceAll [a, b] new rest := by
  simp [replaceAll, replaceFrom]

/-- A character that starts no place stays. -/
theorem replaceAll_pair_of_not (h : c = a → rest.head? ≠ some b) :
    replaceAll [a, b] new (c :: rest) = c :: replaceAll [a, b] new rest := by
  have hnot : ¬ [a, b].isPrefixOf (c :: rest) = true := by
    cases rest with
    | nil => simp
    | cons d rest =>
      intro hprefix
      simp only [List.isPrefixOf_cons_cons, List.isPrefixOf_nil_left, Bool.and_true,
        Bool.and_eq_true, beq_iff_eq] at hprefix
      exact h hprefix.1.symm (congrArg some hprefix.2.symm)
  simp [replaceAll, replaceFrom, hnot]

end

/-! ## Splitting -/

variable {sep : Char}

theorem notMem_splitAll (sep : Char) (text : List Char) :
    ∀ part ∈ splitAll sep text, sep ∉ part := by
  induction text with
  | nil => simp [splitAll]
  | cons c rest ih =>
    rw [splitAll]
    split
    · exact List.forall_mem_cons.2 ⟨List.not_mem_nil, ih⟩
    · rename_i hc
      cases hparts : splitAll sep rest with
      | nil => exact absurd hparts (splitAll_ne_nil sep rest)
      | cons part parts =>
        rw [hparts] at ih
        obtain ⟨hpart, hrest⟩ := List.forall_mem_cons.1 ih
        refine List.forall_mem_cons.2 ⟨?_, hrest⟩
        rw [List.mem_cons, not_or]
        exact ⟨Ne.symm hc, hpart⟩

/-- The parts of a text, joined again. -/
theorem intercalate_splitAll (sep : Char) (text : List Char) :
    [sep].intercalate (splitAll sep text) = text := by
  induction text with
  | nil => rfl
  | cons c rest ih =>
    have hjoin : ∀ (part : List Char) {parts : List (List Char)}, parts ≠ [] →
        [sep].intercalate (part :: parts) = part ++ sep :: [sep].intercalate parts := by
      intro part parts hne
      obtain ⟨next, parts, rfl⟩ := List.exists_cons_of_ne_nil hne
      simp [List.intercalate, List.intersperse]
    rw [splitAll]
    split
    · rename_i hc
      rw [hjoin [] (splitAll_ne_nil sep rest), ih, hc, List.nil_append]
    · cases hparts : splitAll sep rest with
      | nil => exact absurd hparts (splitAll_ne_nil sep rest)
      | cons part parts =>
        rw [hparts] at ih
        rw [← ih]
        cases parts <;> simp [List.intercalate, List.intersperse]

end Text

namespace FieldPath

open Text

/-! ## Names -/

/-- Tildes are written first, so that those of the points are not written once more. -/
theorem escape_eq_replaceAll (s : List Char) :
    escape s = replaceAll ['.'] ['~', '1'] (replaceAll ['~'] ['~', '0'] s) := by
  induction s with
  | nil => rfl
  | cons c rest ih =>
    rw [escape, replaceAll_char]
    by_cases htilde : c = '~'
    · simp [htilde, replaceAll_char, ih]
    · by_cases hpoint : c = '.'
      · simp [hpoint, replaceAll_char, ih]
      · simp [htilde, hpoint, replaceAll_char, ih]

/-- Reading points makes no character but points, so it makes no escape of a tilde. -/
theorem head?_replaceAll_point {s : List Char} (h : s.head? ≠ some '0') :
    (replaceAll ['~', '1'] ['.'] s).head? ≠ some '0' := by
  cases s with
  | nil => simp [replaceAll, replaceFrom]
  | cons c rest =>
    by_cases hplace : c = '~' ∧ rest.head? = some '1'
    · obtain ⟨rfl, hhead⟩ := hplace
      obtain ⟨rest, rfl⟩ : ∃ more, rest = '1' :: more := by
        cases rest with
        | nil => simp at hhead
        | cons d more => exact ⟨more, by simpa using hhead⟩
      rw [replaceAll_pair]
      simp
    · rw [replaceAll_pair_of_not fun hc hhead => hplace ⟨hc, hhead⟩]
      exact h

theorem unescape_eq_replaceAll (s : List Char) :
    unescape s = replaceAll ['~', '0'] ['~'] (replaceAll ['~', '1'] ['.'] s) := by
  fun_induction unescape s with
  | case1 rest ih =>
    -- An escaped tilde stays until points have been read.
    have hpoints : replaceAll ['~', '1'] ['.'] ('~' :: '0' :: rest) =
        '~' :: '0' :: replaceAll ['~', '1'] ['.'] rest := by
      rw [replaceAll_pair_of_not (by simp), replaceAll_pair_of_not (by simp)]
    rw [hpoints, replaceAll_pair, List.singleton_append, ih]
  | case2 rest ih =>
    rw [replaceAll_pair, List.singleton_append, replaceAll_pair_of_not (by simp), ih]
  | case3 c rest hzero hone ih =>
    have hnot : ∀ d : Char, (∀ more, c = '~' → rest = d :: more → False) →
        c = '~' → rest.head? ≠ some d := by
      intro d hd hc hhead
      obtain ⟨more, hmore⟩ : ∃ more, rest = d :: more := by
        cases rest with
        | nil => simp at hhead
        | cons e more => exact ⟨more, by simpa using hhead⟩
      exact hd more hc hmore
    rw [replaceAll_pair_of_not (hnot '1' hone),
      replaceAll_pair_of_not fun hc => head?_replaceAll_point (hnot '0' hzero hc), ih]
  | case4 => rfl

/-- Every tilde starts an escape. -/
def IsEscaped (text : List Char) : Prop :=
  ∀ i : Nat, text[i]? = some '~' → text[i + 1]? = some '0' ∨ text[i + 1]? = some '1'

theorem isEscaped_nil : IsEscaped [] := by
  intro i hi
  simp at hi

theorem isEscaped_cons_iff {c : Char} {rest : List Char} :
    IsEscaped (c :: rest) ↔
      (c = '~' → rest.head? = some '0' ∨ rest.head? = some '1') ∧ IsEscaped rest := by
  rw [List.head?_eq_getElem?]
  constructor
  · intro h
    exact ⟨fun hc => h 0 (congrArg some hc), fun i hi => h (i + 1) hi⟩
  · rintro ⟨hc, hrest⟩ i hi
    cases i with
    | zero => exact hc (Option.some.inj hi)
    | succ i => exact hrest i hi

/-- A point ends no escape. -/
theorem isEscaped_append_point {a b : List Char} :
    IsEscaped (a ++ '.' :: b) ↔ IsEscaped a ∧ IsEscaped b := by
  induction a with
  | nil =>
    rw [List.nil_append, isEscaped_cons_iff]
    simp [isEscaped_nil]
  | cons c a ih =>
    have hhead : ∀ d : Char, d ≠ '.' →
        ((a ++ '.' :: b).head? = some d ↔ a.head? = some d) := by
      intro d hd
      cases a with
      | nil => simp [Ne.symm hd]
      | cons e a => simp
    rw [List.cons_append, isEscaped_cons_iff, isEscaped_cons_iff, ih, hhead '0' (by decide),
      hhead '1' (by decide), and_assoc]

theorem isEscaped_intercalate {parts : List (List Char)} :
    IsEscaped (['.'].intercalate parts) ↔ ∀ part ∈ parts, IsEscaped part := by
  induction parts with
  | nil => simp [isEscaped_nil]
  | cons part rest ih =>
    cases rest with
    | nil => simp
    | cons next rest =>
      have hjoin : ['.'].intercalate (part :: next :: rest) =
          part ++ '.' :: ['.'].intercalate (next :: rest) := by
        simp [List.intercalate, List.intersperse]
      rw [hjoin, isEscaped_append_point, ih, List.forall_mem_cons (a := part)]

/-- A name is written as it was read when it has no other way of being written. -/
theorem escape_unescape_iff {s : List Char} (h : '.' ∉ s) :
    escape (unescape s) = s ↔ IsEscaped s := by
  fun_induction unescape s with
  | case1 rest ih =>
    have hrest : '.' ∉ rest := fun hmem => h (by simp [hmem])
    simp [escape, isEscaped_cons_iff, ih hrest]
  | case2 rest ih =>
    have hrest : '.' ∉ rest := fun hmem => h (by simp [hmem])
    simp [escape, isEscaped_cons_iff, ih hrest]
  | case3 c rest hzero hone ih =>
    rw [List.mem_cons, not_or] at h
    rw [isEscaped_cons_iff, escape]
    by_cases hc : c = '~'
    · -- The tilde stands alone, and is written as an escape.
      subst hc
      have hhead : ∀ d, rest.head? = some d → ∃ more, rest = d :: more := by
        intro d hd
        cases rest with
        | nil => simp at hd
        | cons e more => exact ⟨more, by simpa using hd⟩
      constructor
      · intro hwritten
        rw [if_pos rfl, List.cons.injEq] at hwritten
        exact absurd hwritten.2.symm (hzero _ rfl)
      · rintro ⟨hstart, -⟩
        rcases hstart rfl with hstart | hstart
        · obtain ⟨more, hmore⟩ := hhead _ hstart
          exact absurd hmore (hzero more rfl)
        · obtain ⟨more, hmore⟩ := hhead _ hstart
          exact absurd hmore (hone more rfl)
    · rw [if_neg hc, if_neg (Ne.symm h.1), List.cons.injEq, ih h.2]
      simp [hc]
  | case4 => simp [escape, isEscaped_nil]

/-! ## Paths -/

theorem toList_dotted_parse (text : String) :
    (parse text).dotted.toList =
      ['.'].intercalate ((splitAll '.' text.toList).map fun part => escape (unescape part)) := by
  simp [dotted, parse, String.toList_intercalate, Function.comp_def]

/-- A text is the one that its path is written as when every tilde in it starts an escape. -/
theorem dotted_parse_iff (text : String) :
    (parse text).dotted = text ↔ IsEscaped text.toList := by
  have hparts := notMem_splitAll '.' text.toList
  have hne : (splitAll '.' text.toList).map (fun part => escape (unescape part)) ≠ [] := by
    simpa using splitAll_ne_nil '.' text.toList
  have hwritten : ∀ part ∈ (splitAll '.' text.toList).map (fun part => escape (unescape part)),
      '.' ∉ part := by
    simp [point_notMem_escape]
  have hescaped : IsEscaped text.toList ↔
      ∀ part ∈ splitAll '.' text.toList, IsEscaped part := by
    conv_lhs => rw [← intercalate_splitAll '.' text.toList]
    exact isEscaped_intercalate
  rw [← String.toList_inj, toList_dotted_parse, hescaped]
  -- Both texts are cut into their parts, so they are equal when these are.
  have hsame : (splitAll '.' text.toList).map (fun part => escape (unescape part)) =
      (splitAll '.' text.toList).map id ↔ ∀ part ∈ splitAll '.' text.toList, IsEscaped part := by
    rw [List.map_inj_left]
    exact forall₂_congr fun part hpart => escape_unescape_iff (hparts part hpart)
  rw [← hsame, List.map_id]
  constructor
  · intro h
    rw [← splitAll_intercalate hne hwritten, h]
  · intro h
    rw [h, intercalate_splitAll]

/-- Field paths and their texts.  Every list of names that is not empty is read back from its
text, whatever the names are, so different paths have different texts.  Reading a text and
writing it again gives a text that stays so, and the same text exactly when every tilde in it
is followed by `0` or `1`.  Reading and writing are replacements in the parts between points:
tildes are written before points, and points read before tildes. -/
theorem dotted_round_trip :
    (∀ names : List String, names ≠ [] → (parse (dotted ⟨names⟩)).segments = names) ∧
      (∀ p p' : FieldPath, p.segments ≠ [] → p'.segments ≠ [] → p ≠ p' →
        p.dotted ≠ p'.dotted) ∧
      (∀ text : String, (parse text).segments ≠ [] ∧
        (parse (parse text).dotted).dotted = (parse text).dotted ∧
        ((parse text).dotted = text ↔ ∀ i : Nat, text.toList[i]? = some '~' →
          text.toList[i + 1]? = some '0' ∨ text.toList[i + 1]? = some '1')) ∧
      (∀ text : String, parse text = ⟨(splitAll '.' text.toList).map fun part =>
        String.ofList (replaceAll ['~', '0'] ['~'] (replaceAll ['~', '1'] ['.'] part))⟩) ∧
      ∀ p : FieldPath, p.dotted = ".".intercalate (p.segments.map fun s =>
        String.ofList (replaceAll ['.'] ['~', '1'] (replaceAll ['~'] ['~', '0'] s.toList))) := by
  refine ⟨fun names hne => ?_, fun p p' hp hp' hne heq => hne (eq_of_dotted_eq hp hp' heq),
    fun text => ⟨travels_parse text, ?_, dotted_parse_iff text⟩, fun text => ?_, fun p => ?_⟩
  · have htravels : Travels ⟨names⟩ := hne
    rw [parse_dotted htravels]
  · rw [parse_dotted (travels_parse text)]
  · unfold parse
    simp only [unescape_eq_replaceAll]
  · unfold dotted
    simp only [escape_eq_replaceAll]

/-- A name of two tildes, a point and a one, and an empty one; and a text that is written in
another way than it was read. -/
theorem dotted_round_trip_tildes :
    (parse (dotted ⟨["~~.1", ""]⟩)).segments = ["~~.1", ""] ∧
      (parse "~01.~~1").segments = ["~1", "~."] ∧
      (parse (parse "~01.~~1").dotted).dotted = (parse "~01.~~1").dotted ∧
      (parse "~01.~~1").dotted ≠ "~01.~~1" := by
  obtain ⟨hnames, -, htext, -, -⟩ := dotted_round_trip
  refine ⟨hnames _ (by decide), by decide, (htext _).2.1, fun heq => ?_⟩
  exact absurd ((htext "~01.~~1").2.2.1 heq 4 (by decide)) (by decide)

end FieldPath

end DocStore
