import ComputeCloudNode.Llm.HfUriGrammar

/-! `build_hf_uri` checks its text by parsing it, and the parser strips the text before
it reads it: a revision with blanks at its end is accepted, and is read without them. -/
namespace ComputeCloudNode.HfUri
open Uri

variable {F : Type} [PyRuntime F] {α : Type} {s model revision m r : List Char}

/-- `s.rstrip()`. -/
def rstrip (cs : List Char) : List Char := cs.rdropWhile isSpace

/-- The text that `build_hf_uri` makes. -/
def builtUri (m r : List Char) : List Char := "hf://".toList ++ m ++ '@' :: r

/-! ### Texts with a separator -/

theorem rdropWhile_append_cons {p : α → Bool} {c : α} (stop : ¬ p c) (before after : List α) :
    (before ++ c :: after).rdropWhile p = before ++ c :: after.rdropWhile p := by
  induction after using List.reverseRecOn with
  | nil => rw [List.rdropWhile_concat_neg _ _ _ stop, List.rdropWhile_nil]
  | append_singleton after last ih =>
    have grouped : before ++ c :: (after ++ [last]) = (before ++ c :: after) ++ [last] := by
      rw [List.append_assoc, List.cons_append]
    by_cases dropped : p last
    · rw [grouped, List.rdropWhile_concat_pos _ _ _ dropped, List.rdropWhile_concat_pos _ _ _ dropped, ih]
    · rw [grouped, List.rdropWhile_concat_neg _ _ _ dropped, List.rdropWhile_concat_neg _ _ _ dropped, grouped]

/-- A part without the separator lies on one side of it. -/
theorem infix_append_cons {part before after : List α} {c : α} (without : c ∉ part)
    (found : part <:+: before ++ c :: after) : part <:+: before ∨ part <:+: after := by
  obtain ⟨start, stop, same⟩ := found
  rcases List.append_eq_append_iff.mp same with ⟨rest, rfl, _⟩ | ⟨rest, crossed, later⟩
  · exact .inl ⟨start, rest, rfl⟩
  · cases rest with
    | nil => exact .inl ⟨start, [], by rw [crossed, List.append_nil, List.append_nil]⟩
    | cons first rest =>
      obtain ⟨rfl, rfl⟩ := List.cons.inj later
      rcases List.append_eq_append_iff.mp crossed with ⟨inner, _, rfl⟩ | ⟨inner, _, after⟩
      · exact absurd (by simp) without
      · cases inner with
        | nil =>
          rw [List.nil_append] at after
          exact absurd (by simp [← after]) without
        | cons first inner =>
          obtain ⟨rfl, rfl⟩ := List.cons.inj after
          exact .inr ⟨inner, stop, rfl⟩

theorem append_cons_inj {before before' after after' : List α} {c : α} (same : before ++ c :: after = before' ++ c :: after')
    (first : c ∉ before') (second : c ∉ after') : before = before' ∧ after = after' := by
  rcases List.append_eq_append_iff.mp same with ⟨rest, rfl, later⟩ | ⟨rest, rfl, later⟩
  · cases rest with
    | nil => exact ⟨(List.append_nil _).symm, (List.cons.inj later).2⟩
    | cons other rest =>
      obtain ⟨rfl, _⟩ := List.cons.inj later
      exact absurd (by simp) first
  · cases rest with
    | nil => exact ⟨List.append_nil _, (List.cons.inj later).2.symm⟩
    | cons other rest =>
      obtain ⟨_, rfl⟩ := List.cons.inj later
      exact absurd (by simp) second

/-! ### The built text -/

theorem isNameChar_bounds {c : Char} (name : isNameChar c) : 33 ≤ c.toNat ∧ c.toNat ≤ 122 := by
  unfold isNameChar Char.isAlphanum Char.isAlpha Char.isUpper Char.isLower Char.isDigit at name
  simp only [Bool.or_eq_true, Bool.and_eq_true, decide_eq_true_eq, ge_iff_le, UInt32.le_iff_toNat_le,
    Char.toNat_val] at name
  rcases name with (((((⟨low, high⟩ | ⟨low, high⟩) | ⟨low, high⟩) | rfl) | rfl) | rfl)
  · exact ⟨Nat.le_trans (by decide) low, Nat.le_trans high (by decide)⟩
  · exact ⟨Nat.le_trans (by decide) low, high⟩
  · exact ⟨Nat.le_trans (by decide) low, Nat.le_trans high (by decide)⟩
  · decide
  · decide
  · decide

theorem isNameChar_not_space {c : Char} (name : isNameChar c) : ¬ isSpace c := by
  have bounds := isNameChar_bounds name
  simp only [isSpace, List.mem_cons, List.not_mem_nil, or_false, decide_eq_true_eq]
  omega

theorem Segment.rstrip_eq (named : Segment r) : rstrip r = r := by
  rw [rstrip, List.rdropWhile_eq_self_iff]
  exact fun some_ => isNameChar_not_space (named.2 _ (List.getLast_mem some_))

/-- The blanks are stripped after the last character that is known to be none. -/
theorem strip_append_cons {lead rest : List Char} {c : Char} (dark : ¬ isSpace c)
    (kept : (lead ++ c :: rest).dropWhile isSpace = lead ++ c :: rest) :
    strip (lead ++ c :: rest) = lead ++ c :: rstrip rest := by
  rw [strip, kept, rdropWhile_append_cons dark]
  rfl

theorem strip_builtUri (m r : List Char) : strip (builtUri m r) = builtUri m (rstrip r) := by
  unfold builtUri
  apply strip_append_cons
  · decide
  · rfl

theorem ModelId.without_at (named : ModelId model) : '@' ∉ model :=
  fun member => absurd (named.chars _ member) (by decide)

theorem Segment.without_at (named : Segment revision) : '@' ∉ revision :=
  fun member => absurd (named.2 _ member) (by decide)

/-- The built text can only be read as what it was built from. -/
theorem Names.of_builtUri (named : Names (builtUri m r) model revision) : m = model ∧ r = revision := by
  rcases named.form with explicit | ⟨implicit, _⟩
  · unfold builtUri at explicit
    rw [List.append_assoc, List.append_assoc] at explicit
    exact append_cons_inj (List.append_cancel_left explicit) named.model.without_at named.revision.without_at
  · unfold builtUri at implicit
    rw [List.append_assoc] at implicit
    have whole := List.append_cancel_left implicit
    exact absurd (by simp [← whole]) named.model.without_at

/-- What a URI was read as can be built. -/
theorem Names.rebuilt (named : Names s model revision) : Names (builtUri model revision) model revision := by
  refine ⟨.inl rfl, named.model, named.revision, ?_⟩
  rcases named.form with rfl | ⟨rfl, rfl⟩
  · exact named.plain
  · intro dotted
    rcases infix_append_cons (by decide) dotted with before | after
    · exact named.plain before
    · revert after
      decide

theorem buildHfUri_ok_iff {modelId revision uri : String} : buildHfUri F modelId revision = .ok uri ↔
    uri = String.ofList (builtUri modelId.toList revision.toList) ∧ ∃ found, parseHfUri F uri = .ok found := by
  have text : s!"hf://{modelId}@{revision}" = String.ofList (builtUri modelId.toList revision.toList) := by
    apply String.toList_injective
    rw [String.toList_ofList]
    unfold builtUri
    rw [List.append_assoc, List.append_cons]
    simp [toString]
  unfold buildHfUri
  rw [text]
  simp only [Fallible.bind_eq_ok_iff, Fallible.pure_eq_ok_iff]
  constructor
  · rintro ⟨found, parsed, rfl⟩
    exact ⟨rfl, found, parsed⟩
  · rintro ⟨rfl, found, parsed⟩
    exact ⟨found, parsed, rfl⟩

/-- The parser reads a built URI as its parts, the revision without the blanks at its end. -/
theorem parseHfUri_builtUri_iff {m r model revision : String} :
    parseHfUri F (String.ofList (builtUri m.toList r.toList)) = .ok (model, revision) ↔
      model = m ∧ revision = String.ofList (rstrip r.toList) ∧
        Names (builtUri m.toList (rstrip r.toList)) m.toList (rstrip r.toList) := by
  rw [parseHfUri_ok_iff, String.toList_ofList, strip_builtUri]
  constructor
  · intro named
    obtain ⟨same, rest⟩ := named.of_builtUri
    refine ⟨String.toList_injective same.symm, ?_, ?_⟩
    · rw [rest, String.ofList_toList]
    · rwa [← same, ← rest] at named
  · rintro ⟨rfl, rfl, named⟩
    rwa [String.toList_ofList]

variable (F) in
/-- A pair that is built is parsed back exactly when its revision has no blanks at its end,
or is refused without them too. What was parsed can always be built, and is parsed back. -/
theorem build_hf_uri_inverse_iff (m r : String) :
    ((∀ u, buildHfUri F m r = .ok u → parseHfUri F u = .ok (m, r)) ↔
      (rstrip r.toList = r.toList ∨
        ¬ Names (builtUri m.toList (rstrip r.toList)) m.toList (rstrip r.toList))) ∧
    ∀ u, parseHfUri F u = .ok (m, r) → ∃ built, buildHfUri F m r = .ok built ∧ parseHfUri F built = .ok (m, r) := by
  constructor
  · constructor
    · intro inverse
      by_cases named : Names (builtUri m.toList (rstrip r.toList)) m.toList (rstrip r.toList)
      · have parsed : parseHfUri F (String.ofList (builtUri m.toList r.toList)) = .ok (m, String.ofList (rstrip r.toList)) :=
          parseHfUri_builtUri_iff.mpr ⟨rfl, rfl, named⟩
        have back := inverse _ (buildHfUri_ok_iff.mpr ⟨rfl, _, parsed⟩)
        have stripped := congrArg String.toList (parseHfUri_builtUri_iff.mp back).2.1
        rw [String.toList_ofList] at stripped
        exact .inl stripped.symm
      · exact .inr named
    · rintro condition u built
      obtain ⟨rfl, ⟨model, revision⟩, parsed⟩ := buildHfUri_ok_iff.mp built
      obtain ⟨rfl, rfl, named⟩ := parseHfUri_builtUri_iff.mp parsed
      rcases condition with plain | refused
      · rw [parsed, plain, String.ofList_toList]
      · exact absurd named refused
  · intro u parsed
    have named := parseHfUri_ok_iff.mp parsed
    have kept := named.revision.rstrip_eq
    have back : parseHfUri F (String.ofList (builtUri m.toList r.toList)) = .ok (m, r) := by
      apply parseHfUri_builtUri_iff.mpr
      rw [kept, String.ofList_toList]
      exact ⟨rfl, rfl, named.rebuilt⟩
    exact ⟨_, buildHfUri_ok_iff.mpr ⟨rfl, _, back⟩, back⟩

/-- A blank after the revision. -/
theorem build_hf_uri_blank_lost :
    buildHfUri Int "org/model" "main " = .ok "hf://org/model@main " ∧
      parseHfUri Int "hf://org/model@main " = .ok ("org/model", "main") ∧
      ¬ ∀ u, buildHfUri Int "org/model" "main " = .ok u → parseHfUri Int u = .ok ("org/model", "main ") := by
  have built : buildHfUri Int "org/model" "main " = .ok "hf://org/model@main " := by
    decide +kernel
  have parsed : parseHfUri Int "hf://org/model@main " = .ok ("org/model", "main") := by
    decide +kernel
  refine ⟨built, parsed, fun inverse => ?_⟩
  have back := inverse _ built
  rw [parsed] at back
  revert back
  decide

end ComputeCloudNode.HfUri
