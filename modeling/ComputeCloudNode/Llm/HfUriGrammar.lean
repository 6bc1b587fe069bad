import ComputeCloudNode.Lib.Fallible
import ComputeCloudNode.Llm.HfUri

/-! The texts that `parse_hf_uri` accepts are those of a grammar, and a text that the
grammar allows has one reading. -/
namespace ComputeCloudNode.HfUri
open Uri

variable {F : Type} [PyRuntime F] {α : Type} {s model revision model' revision' cs : List Char}

/-- A name without a slash. -/
def Segment (cs : List Char) : Prop := cs ≠ [] ∧ ∀ c ∈ cs, isNameChar c

/-- `name` or `org/name`, with a letter or a digit first. -/
structure ModelId (model : List Char) : Prop where
  first : ∃ c rest, model = c :: rest ∧ c.isAlphanum
  segments : Segment model ∨ ∃ org name, model = org ++ '/' :: name ∧ Segment org ∧ Segment name

/-- A stripped URI that names a model and a revision. -/
structure Names (s model revision : List Char) : Prop where
  form : s = "hf://".toList ++ model ++ '@' :: revision ∨ (s = "hf://".toList ++ model ∧ revision = "main".toList)
  model : ModelId model
  revision : Segment revision
  plain : ¬ "..".toList <:+: s

/-! ### Characters -/

theorem isModelChar_cases {c : Char} (allowed : isModelChar c) : isNameChar c ∨ c = '/' := by
  simpa [isModelChar] using allowed

theorem isNameChar_model {c : Char} (allowed : isNameChar c) : isModelChar c := by
  simp [isModelChar, allowed]

theorem ModelId.chars (named : ModelId model) : ∀ c ∈ model, isModelChar c := by
  rcases named.segments with ⟨_, all⟩ | ⟨org, name, rfl, ⟨_, first⟩, _, second⟩
  · exact fun c member => isNameChar_model (all c member)
  · intro c member
    rcases List.mem_append.mp member with before | after
    · exact isNameChar_model (first c before)
    · rcases List.mem_cons.mp after with rfl | later
      · rfl
      · exact isNameChar_model (second c later)

/-! ### One reading -/

variable (s model revision) in
/-- What the expressions match: the slashes of the model are not looked at. -/
structure Reading : Prop where
  form : s = "hf://".toList ++ model ++ '@' :: revision ∨ (s = "hf://".toList ++ model ∧ revision = "main".toList)
  first : ∃ c rest, model = c :: rest ∧ c.isAlphanum
  chars : ∀ c ∈ model, isModelChar c
  revision : Segment revision

theorem Names.reading (named : Names s model revision) : Reading s model revision :=
  ⟨named.form, named.model.first, named.model.chars, named.revision⟩

/-- What follows the model in a URI. -/
theorem Reading.tail (reading : Reading s model revision) :
    ∃ tail, s = "hf://".toList ++ (model ++ tail) ∧ (tail = '@' :: revision ∨ tail = [] ∧ revision = "main".toList) := by
  rcases reading.form with rfl | ⟨rfl, rfl⟩
  · exact ⟨_, List.append_assoc _ _ _, .inl rfl⟩
  · exact ⟨[], by rw [List.append_nil], .inr ⟨rfl, rfl⟩⟩

/-- The model ends at the first character that none can hold. -/
theorem Reading.parts (reading : Reading s model revision) :
    model = (s.drop 5).takeWhile isModelChar ∧
      ((s.drop 5).dropWhile isModelChar = '@' :: revision ∨
        (s.drop 5).dropWhile isModelChar = [] ∧ revision = "main".toList) := by
  obtain ⟨tail, rfl, followed⟩ := reading.tail
  have dropped : ("hf://".toList ++ (model ++ tail)).drop 5 = model ++ tail := rfl
  rw [dropped, List.takeWhile_append_of_pos reading.chars, List.dropWhile_append_of_pos reading.chars]
  rcases followed with rfl | ⟨rfl, rfl⟩
  · simp [isModelChar, isNameChar]
  · simp

theorem Reading.unique (reading : Reading s model revision) (reading' : Reading s model' revision') :
    model = model' ∧ revision = revision' := by
  obtain ⟨rfl, tail⟩ := reading.parts
  obtain ⟨rfl, tail'⟩ := reading'.parts
  refine ⟨rfl, ?_⟩
  rcases tail with tail | ⟨tail, rfl⟩ <;> rcases tail' with tail' | ⟨tail', rfl⟩ <;> rw [tail] at tail'
  · exact (List.cons.inj tail').2
  · cases tail'
  · cases tail'

/-! ### The expressions -/

theorem lazyRun_some {allowed : Char → Bool} {next : List Char → Option α} {run : List Char} {found : α}
    (matched : lazyRun allowed next cs = some (run, found)) :
    ∃ rest, cs = run ++ rest ∧ (∀ c ∈ run, allowed c) ∧ next rest = some found := by
  induction cs generalizing run with
  | nil =>
    obtain ⟨_, here, same⟩ := Option.map_eq_some_iff.mp matched
    cases same
    exact ⟨[], rfl, fun _ => nofun, here⟩
  | cons c rest ih =>
    rw [lazyRun] at matched
    cases here : next (c :: rest) with
    | some other =>
      rw [here] at matched
      cases matched
      exact ⟨c :: rest, rfl, fun _ => nofun, here⟩
    | none =>
      rw [here] at matched
      by_cases wanted : allowed c
      · simp only [wanted, if_true] at matched
        obtain ⟨⟨longer, _⟩, later, same⟩ := Option.map_eq_some_iff.mp matched
        cases same
        obtain ⟨final, rfl, all, matched⟩ := ih later
        exact ⟨final, rfl, List.forall_mem_cons.mpr ⟨wanted, all⟩, matched⟩
      · simp only [wanted] at matched
        cases matched

/-- Where the rest can match after some run, it matches after the shortest one. -/
theorem lazyRun_isSome {allowed : Char → Bool} {next : List Char → Option α} {run rest : List Char}
    (all : ∀ c ∈ run, allowed c) (matched : (next rest).isSome) : (lazyRun allowed next (run ++ rest)).isSome := by
  induction run with
  | nil =>
    cases rest with
    | nil => simpa [lazyRun] using matched
    | cons c rest =>
      obtain ⟨found, here⟩ := Option.isSome_iff_exists.mp matched
      simp [lazyRun, here]
  | cons c run ih =>
    obtain ⟨wanted, others⟩ := List.forall_mem_cons.mp all
    rw [List.cons_append, lazyRun]
    cases next (c :: (run ++ rest)) with
    | some found => rfl
    | none => simpa [wanted] using ih others

theorem modelThen_some {next : List Char → Option α} {found : α} (matched : modelThen next s = some (model, found)) :
    ∃ c run rest, model = c :: run ∧ s = "hf://".toList ++ (model ++ rest) ∧ c.isAlphanum ∧
      (∀ c ∈ run, isModelChar c) ∧ next rest = some found := by
  unfold modelThen at matched
  split at matched
  next c rest stripped =>
    by_cases first : c.isAlphanum
    · simp only [first, if_true] at matched
      obtain ⟨⟨run, _⟩, later, same⟩ := Option.map_eq_some_iff.mp matched
      cases same
      obtain ⟨final, rfl, all, found⟩ := lazyRun_some later
      exact ⟨c, run, final, rfl, (List.isPrefixOf?_eq_some_iff_append_eq.mp stripped).symm, first, all, found⟩
    · simp only [first] at matched
      cases matched
  next => cases matched

theorem modelThen_isSome {next : List Char → Option α} {rest : List Char} (reading : Reading s model revision)
    (matched : (next rest).isSome) : (modelThen next ("hf://".toList ++ (model ++ rest))).isSome := by
  obtain ⟨c, run, rfl, first⟩ := reading.first
  have stripped : "hf://".toList.isPrefixOf? ("hf://".toList ++ (c :: run ++ rest)) = some (c :: (run ++ rest)) :=
    List.isPrefixOf?_eq_some_iff_append_eq.mpr rfl
  have later := lazyRun_isSome (List.forall_mem_cons.mp reading.chars).2 matched
  simp only [modelThen, stripped, first, if_true, Option.isSome_map, later]

theorem revisionToEnd_some (matched : revisionToEnd cs = some revision) :
    Segment revision ∧ (cs = '@' :: revision ∨ cs = '@' :: (revision ++ ['\n'])) := by
  unfold revisionToEnd at matched
  split at matched
  next rest =>
    dsimp only at matched
    split at matched
    next accepted =>
      cases matched
      simp only [Bool.and_eq_true, Bool.not_eq_true', List.isEmpty_eq_false_iff, atEnd, Bool.or_eq_true,
        decide_eq_true_eq] at accepted
      obtain ⟨some_, ended⟩ := accepted
      refine ⟨⟨some_, fun c member => List.mem_takeWhile_imp member⟩, ?_⟩
      have parts := List.takeWhile_append_dropWhile (p := isNameChar) (l := rest)
      rcases ended with ended | ended
      · rw [ended, List.append_nil] at parts
        exact .inl (congrArg _ parts.symm)
      · rw [ended] at parts
        exact .inr (congrArg _ parts.symm)
    next => cases matched
  next => cases matched

theorem revisionToEnd_isSome (named : Segment revision) : (revisionToEnd ('@' :: revision)).isSome := by
  obtain ⟨some_, all⟩ := named
  have taken : revision.takeWhile isNameChar = revision := List.takeWhile_eq_self_iff.mpr all
  have dropped : revision.dropWhile isNameChar = [] := List.dropWhile_eq_nil_iff.mpr all
  simp [revisionToEnd, taken, dropped, atEnd, some_]

theorem Reading.of_modelThen {next : List Char → Option α} {found : α} (matched : modelThen next s = some (model, found))
    (named : Segment revision)
    (followed : ∀ rest, '\n' ∉ rest → next rest = some found →
      rest = '@' :: revision ∨ rest = [] ∧ revision = "main".toList)
    (oneLine : '\n' ∉ s) : Reading s model revision := by
  obtain ⟨c, run, rest, rfl, rfl, first, all, found⟩ := modelThen_some matched
  have ended : '\n' ∉ rest := fun member => oneLine (by simp [member])
  refine ⟨?_, ⟨c, run, rfl, first⟩, ?_, named⟩
  · rcases followed rest ended found with rfl | ⟨rfl, rfl⟩
    · exact .inl (List.append_assoc _ _ _).symm
    · exact .inr ⟨by rw [List.append_nil], rfl⟩
  · exact List.forall_mem_cons.mpr ⟨by simp [isModelChar, isNameChar, first], all⟩

theorem segment_main : Segment "main".toList := by
  refine ⟨List.cons_ne_nil _ _, ?_⟩
  apply List.all_eq_true.mp
  rfl

/-- The two expressions match the readings of a text without a line end. -/
theorem matchUri_iff (oneLine : '\n' ∉ s) : matchUri s = some (model, revision) ↔ Reading s model revision := by
  have sound : ∀ {model revision}, matchUri s = some (model, revision) → Reading s model revision := by
    intro model revision matched
    unfold matchUri at matched
    cases explicit : modelThen revisionToEnd s with
    | some found =>
      rw [explicit] at matched
      cases matched
      obtain ⟨_, _, _, _, _, _, _, found⟩ := modelThen_some explicit
      refine .of_modelThen explicit (revisionToEnd_some found).1 (fun rest ended found => ?_) oneLine
      rcases (revisionToEnd_some found).2 with rfl | rfl
      · exact .inl rfl
      · exact absurd (by simp) ended
    | none =>
      rw [explicit] at matched
      obtain ⟨⟨modelId, _⟩, implicit, same⟩ := Option.map_eq_some_iff.mp matched
      cases same
      refine .of_modelThen implicit segment_main (fun rest ended found => ?_) oneLine
      have final : atEnd rest := by
        by_contra other
        simp [other] at found
      simp only [atEnd, Bool.or_eq_true, decide_eq_true_eq] at final
      rcases final with rfl | rfl
      · exact .inr ⟨rfl, rfl⟩
      · exact absurd (by simp) ended
  refine ⟨sound, fun reading => ?_⟩
  have matched : (matchUri s).isSome := by
    unfold matchUri
    cases explicit : modelThen revisionToEnd s with
    | some found => rfl
    | none =>
      obtain ⟨tail, rfl, followed⟩ := reading.tail
      rcases followed with rfl | ⟨rfl, _⟩
      · have found := modelThen_isSome reading (revisionToEnd_isSome reading.revision)
        rw [explicit] at found
        cases found
      · rw [Option.isSome_map]
        exact modelThen_isSome reading rfl
  obtain ⟨⟨modelId, found⟩, matched⟩ := Option.isSome_iff_exists.mp matched
  obtain ⟨rfl, rfl⟩ := reading.unique (sound matched)
  exact matched

/-! ### The slashes -/

theorem segment_of_chars {part : List Char} (some_ : part ≠ []) (slashless : '/' ∉ part)
    (chars : ∀ c ∈ part, isModelChar c) : Segment part := by
  refine ⟨some_, fun c member => ?_⟩
  rcases isModelChar_cases (chars c member) with name | rfl
  · exact name
  · exact absurd member slashless

theorem Segment.slashless (named : Segment cs) : '/' ∉ cs :=
  fun member => absurd (named.2 _ member) (by decide)

/-- One or two parts between the slashes, none of them empty. -/
theorem segments_iff (chars : ∀ c ∈ model, isModelChar c) :
    ((model.splitOn '/').length ≤ 2 ∧ ∀ part ∈ model.splitOn '/', part ≠ []) ↔
      Segment model ∨ ∃ org name, model = org ++ '/' :: name ∧ Segment org ∧ Segment name := by
  constructor
  · rintro ⟨few, full⟩
    by_cases slash : '/' ∈ model
    · obtain ⟨org, name, rfl, before⟩ := List.eq_append_cons_of_mem slash
      rw [List.splitOn_append_cons_self, List.splitOn_eq_singleton before] at few full
      obtain ⟨first, second⟩ := List.forall_mem_append.mp full
      have after : '/' ∉ name := by
        intro again
        obtain ⟨middle, last, rfl, between⟩ := List.eq_append_cons_of_mem again
        have some_ : 0 < (last.splitOn '/').length := List.length_pos_iff.mpr (List.splitOn_ne_nil _ _)
        rw [List.splitOn_append_cons_self, List.splitOn_eq_singleton between, List.length_append, List.length_append,
          List.length_singleton, List.length_singleton] at few
        omega
      rw [List.splitOn_eq_singleton after] at second
      refine .inr ⟨org, name, rfl, ?_, ?_⟩
      · exact segment_of_chars (first org (by simp)) before fun c member => chars c (by simp [member])
      · exact segment_of_chars (second name (by simp)) after fun c member => chars c (by simp [member])
    · rw [List.splitOn_eq_singleton slash] at full
      exact .inl (segment_of_chars (full model (by simp)) slash chars)
  · rintro (one | ⟨org, name, rfl, first, second⟩)
    · rw [List.splitOn_eq_singleton one.slashless]
      simp [one.1]
    · rw [List.splitOn_append_cons_self, List.splitOn_eq_singleton first.slashless,
        List.splitOn_eq_singleton second.slashless]
      simp [first.1, second.1]

/-! ### The parser -/

theorem startsWith_iff (lead : String) : startsWith s lead ↔ lead.toList <+: s := List.isPrefixOf_iff_prefix

/-- The parser's tests hold of a text of the grammar. -/
theorem parseHfUri_of_names {uri : String} (named : Names (strip uri.toList) model revision) :
    parseHfUri F uri = .ok (String.ofList model, String.ofList revision) := by
  obtain ⟨tail, form, followed⟩ := named.reading.tail
  have chars : ∀ c ∈ strip uri.toList, c ∈ "hf://".toList ∨ isModelChar c ∨ c = '@' := by
    intro c member
    rw [form, List.mem_append, List.mem_append] at member
    rcases member with lead | inModel | inTail
    · exact .inl lead
    · exact .inr (.inl (named.model.chars c inModel))
    · rcases followed with rfl | ⟨rfl, _⟩
      · rcases List.mem_cons.mp inTail with rfl | inRevision
        · exact .inr (.inr rfl)
        · exact .inr (.inl (isNameChar_model (named.revision.2 c inRevision)))
      · cases inTail
  have lead : startsWith (strip uri.toList) "hf://" := by
    rw [startsWith_iff, form]
    exact List.prefix_append _ _
  have plain : ¬ contains (strip uri.toList) ".." := by
    rw [contains_iff]
    exact named.plain
  have uncontrolled : ∀ c ∈ strip uri.toList, c ≠ '\x00' ∧ c ≠ '\n' ∧ c ≠ '\r' := by
    intro c member
    refine ⟨?_, ?_, ?_⟩ <;> rintro rfl <;> exact absurd (chars _ member) (by decide)
  have body : ((strip uri.toList).drop "hf://".length).isEmpty = false := by
    obtain ⟨c, rest, rfl, _⟩ := named.model.first
    rw [form]
    rfl
  have matched : matchUri (strip uri.toList) = some (model, revision) :=
    (matchUri_iff fun member => (uncontrolled _ member).2.1 rfl).mpr named.reading
  obtain ⟨few, full⟩ := (segments_iff named.model.chars).mpr named.model.segments
  have rooted : ¬ startsWith model "/" := by
    rw [startsWith_iff]
    rintro ⟨rest, rfl⟩
    obtain ⟨c, _, same, first⟩ := named.model.first
    cases same
    cases first
  have simple : ¬ contains revision "/" := by
    rw [contains_iff]
    intro slash
    exact named.revision.slashless (slash.subset (by simp))
  have controls : ((strip uri.toList).any fun c => c = '\x00' || c = '\n' || c = '\r') = false := by
    simpa [and_assoc] using uncontrolled
  have empty : (model.splitOn '/').any List.isEmpty = false := by
    simpa using full
  simp only [parseHfUri, lead, plain, controls, body, matched, empty, rooted, simple, Nat.not_lt.mpr few, Bool.not_true,
    Bool.false_eq_true, if_false]

/-- What the parser returned is what the grammar reads. -/
theorem names_of_parseHfUri {uri m r : String} (parsed : parseHfUri F uri = .ok (m, r)) :
    Names (strip uri.toList) m.toList r.toList := by
  unfold parseHfUri at parsed
  dsimp only at parsed
  split at parsed
  next => cases parsed
  split at parsed
  next => cases parsed
  next dotted =>
  split at parsed
  next => cases parsed
  next controls =>
  split at parsed
  next => cases parsed
  split at parsed
  next => cases parsed
  next model revision matched =>
  split at parsed
  next => cases parsed
  next few =>
  split at parsed
  next => cases parsed
  next empty =>
  split at parsed
  next => cases parsed
  split at parsed
  next => cases parsed
  cases parsed
  have oneLine : '\n' ∉ strip uri.toList := by
    intro member
    exact controls (List.any_eq_true.mpr ⟨_, member, by decide⟩)
  have reading := (matchUri_iff oneLine).mp matched
  have full : ∀ part ∈ model.splitOn '/', part ≠ [] := by
    rintro part member rfl
    exact empty (List.any_eq_true.mpr ⟨[], member, rfl⟩)
  rw [String.toList_ofList, String.toList_ofList]
  refine ⟨reading.form, ⟨reading.first, ?_⟩, reading.revision, ?_⟩
  · exact (segments_iff reading.chars).mp ⟨Nat.not_lt.mp few, full⟩
  · rwa [contains_iff] at dotted

theorem parseHfUri_ok_iff {uri m r : String} :
    parseHfUri F uri = .ok (m, r) ↔ Names (strip uri.toList) m.toList r.toList := by
  refine ⟨names_of_parseHfUri, fun named => ?_⟩
  rw [parseHfUri_of_names named, String.ofList_toList, String.ofList_toList]

variable (F) in
/-- A text is accepted with the model and the revision that the grammar reads in it, which
are the only ones, and every other text is refused. -/
theorem parse_hf_uri_grammar (uri : String) :
    (∀ m r, parseHfUri F uri = .ok (m, r) ↔ Names (strip uri.toList) m.toList r.toList) ∧
    (∀ m r m' r', Names (strip uri.toList) m r → Names (strip uri.toList) m' r' → m = m' ∧ r = r') ∧
    ((¬ ∃ m r, Names (strip uri.toList) m r) → ∃ text, parseHfUri F uri = .error text) := by
  refine ⟨fun m r => parseHfUri_ok_iff, fun m r m' r' named named' => named.reading.unique named'.reading, ?_⟩
  intro unnamed
  cases parsed : parseHfUri F uri with
  | error text => exact ⟨text, rfl⟩
  | ok found => exact absurd ⟨_, _, names_of_parseHfUri parsed⟩ unnamed

end ComputeCloudNode.HfUri
