import ModelSchema.Proofs.Spelling.Union

/-!
# String literals

A spelling is scanned character by character, and quotes mean nothing to the scan. So a string
literal is a member of its own just when it is closed as any other spelling is, and a `<` in it
makes it a container. The literals without bars and brackets are opaque.

## Main definitions

* `Spelling.Literal` — a string literal.
* `Spelling.Literal.IsOpaque`, `Spelling.Literal.AreOpaque` — what opaque means for one literal and
  for a union of literals.

## Main statements

* `Spelling.Literal.columnType_text` — the column type of a literal that is a single member.
* `Spelling.Literal.isOpaque_and_areOpaque_iff` — when literals are opaque, alone, before `null`
  and in a union.
-/

namespace ModelSchema

namespace Spelling

open Text Scan

/-- A string literal: any text without the quote, backslashes and line feeds between two quotes. -/
structure Literal where
  quote : Char
  content : List Char
  quote_mem : quote ∈ quotes
  quote_notMem : quote ∉ content
  backslash_notMem : '\\' ∉ content
  feed_notMem : '\n' ∉ content

namespace Literal

variable (l : Literal) {ls : List Literal}

/-- The spelling of a literal. -/
def text (l : Literal) : List Char := l.quote :: (l.content ++ [l.quote])

/-! ## The shape of a literal -/

theorem text_ne_nil : l.text ≠ [] := List.cons_ne_nil _ _

theorem isBlank_quote : isBlank l.quote = false :=
  (show ∀ q ∈ quotes, isBlank q = false by decide) _ l.quote_mem

theorem trim_text : trim l.text = l.text := by
  have front : trimStart l.text = l.text := by
    rw [text, trimStart_cons, l.isBlank_quote]
    rfl
  have back : trimEnd l.text = l.text := by
    rw [text, ← List.cons_append, trimEnd_append_cons l.isBlank_quote]
    rfl
  change trimEnd (trimStart l.text) = l.text
  rw [front, back]

theorem isStringLiteral_text : isStringLiteral l.text = true := by
  have quoted : (l.text.head? == some l.quote && l.text.getLast? == some l.quote) = true := by
    rw [text, ← List.cons_append, List.getLast?_concat]
    simp
  have long : 2 ≤ l.text.length := by simp [text]
  simp only [isStringLiteral, long, decide_true, Bool.true_and]
  exact List.any_eq_true.2 ⟨l.quote, l.quote_mem, quoted⟩

theorem isNullish_text : isNullish l.text = false := by
  have nulls : l.quote ≠ 'n' ∧ l.quote ≠ 'u' :=
    (show ∀ q ∈ quotes, q ≠ 'n' ∧ q ≠ 'u' by decide) _ l.quote_mem
  simp [isNullish, text, nulls]

theorem compact_text : compact l.text = l.quote :: (compact l.content ++ [l.quote]) := by
  simp [compact, text, l.isBlank_quote]

/-- The tables know no literal. -/
theorem known?_compact_text : known? (compact l.text) = none := by
  have mark : isUnknownMark l.quote :=
    (show ∀ q ∈ quotes, isUnknownMark q by decide) _ l.quote_mem
  exact known?_of_mem mark (by simp [compact_text])

/-- Of all that makes a container, a literal can only have a `<`. -/
theorem isContainer_compact_text : isContainer (compact l.text) = true ↔ '<' ∈ l.content := by
  have other : l.quote ≠ ']' ∧ l.quote ≠ '<' ∧ l.quote ≠ '[' ∧ l.quote ≠ '\x7b' :=
    (show ∀ q ∈ quotes, q ≠ ']' ∧ q ≠ '<' ∧ q ≠ '[' ∧ q ≠ '\x7b' by decide) _ l.quote_mem
  have noArray : "[]".toList.isSuffixOf (compact l.text) = false := by
    rw [← Bool.not_eq_true, List.isSuffixOf_iff_suffix]
    rintro ⟨front, same⟩
    have last := congrArg List.getLast? same
    rw [compact_text, ← List.cons_append, List.getLast?_concat] at last
    simp at last
    exact other.1 last.symm
  have kept : '<' ∈ compact l.content ↔ '<' ∈ l.content :=
    List.mem_filter.trans (and_iff_left (by decide))
  rw [isContainer, noArray, compact_text, ← kept]
  simp [other, other.2.1.symm]

/-- A literal that is a single member is a string unless it holds a `<`. -/
theorem columnType_text (single : members l.text = [l.text]) :
    columnType l.text = ⟨.string, false⟩ ↔ '<' ∉ l.content := by
  rw [columnType_eq, l.known?_compact_text, single, ← l.isContainer_compact_text]
  by_cases container : isContainer (compact l.text) = true <;> simp [container]

/-! ## Closed literals -/

/-- A literal without bars and brackets is closed. -/
theorem isClosed_text (h : ∀ c ∈ l.content, c ≠ '|' ∧ IsPlain c) : IsClosed l.text := by
  have plain : ∀ c ∈ l.text, c ≠ '|' ∧ IsPlain c := by
    have quote : l.quote ≠ '|' ∧ IsPlain l.quote :=
      (show ∀ q ∈ quotes, q ≠ '|' ∧ IsPlain q by decide) _ l.quote_mem
    simp only [text, List.mem_cons, List.mem_append, List.not_mem_nil, or_false]
    rintro c (rfl | hc | rfl)
    · exact quote
    · exact h c hc
    · exact quote
  exact ⟨l.text_ne_nil, l.trim_text, depth_run_of_forall_isPlain (fun c hc => (plain c hc).2) start,
    nestsBars_of_not_mem fun bar => (plain _ bar).1 rfl⟩

/-- Behind a literal that does not return to depth 0 no bar parts it from `null`. -/
theorem not_isNullable (nested : start.NestsBars l.text) (deep : (start.run l.text).depth ≠ 0) :
    isNullable (l.text ++ " | null".toList) = false := by
  have bar : " | null".toList = ' ' :: '|' :: " null".toList := rfl
  have whole : start.NestsBars (l.text ++ " | null".toList) := by
    rw [nestsBars_append_iff, bar, nestsBars_cons_iff, nestsBars_cons_iff,
      next_of_isBlank (by decide)]
    refine ⟨nested, fun h => absurd h.1 (by decide), fun h => deep h.2, ?_⟩
    exact nestsBars_of_not_mem (by decide)
  have few := length_members_le_one whole
  simp only [isNullable, Bool.and_eq_false_imp, decide_eq_true_eq]
  omega

/-- The literal before `null`. -/
theorem text_append_null :
    l.text ++ " | null".toList = joinWith " | ".toList [l.text, "null".toList] := by
  rw [joinWith_cons _ _ (List.cons_ne_nil _ _), joinWith_singleton, List.append_assoc]
  rfl

/-! ## Opaque literals -/

/-- The literal is a member of its own and a string, also before `null`. -/
structure IsOpaque (l : Literal) : Prop where
  members_eq : members l.text = [l.text]
  columnType_eq : columnType l.text = ⟨.string, false⟩
  columnType_null : columnType (l.text ++ " | null".toList) = ⟨.string, false⟩
  isNullable_null : isNullable (l.text ++ " | null".toList) = true

/-- The union of the literals has them for its members and is a string. -/
structure AreOpaque (ls : List Literal) : Prop where
  members_eq : members (joinWith " | ".toList (ls.map text)) = ls.map text
  columnType_eq : columnType (joinWith " | ".toList (ls.map text)) = ⟨.string, false⟩

theorem isOpaque_iff : l.IsOpaque ↔ IsClosed l.text ∧ '<' ∉ l.content := by
  have alone := members_eq_singleton_iff l.text_ne_nil l.trim_text
  constructor
  · intro h
    have nested := alone.1 h.members_eq
    have zero : (start.run l.text).depth = 0 := by
      by_contra deep
      exact absurd h.isNullable_null (Bool.eq_false_iff.1 (l.not_isNullable nested deep))
    have free := (l.columnType_text h.members_eq).1 h.columnType_eq
    exact ⟨⟨l.text_ne_nil, l.trim_text, zero, nested⟩, free⟩
  · rintro ⟨closed, free⟩
    have single := alone.2 closed.nestsBars
    have string := (l.columnType_text single).2 free
    have both : ∀ m ∈ [l.text, "null".toList], IsClosed m :=
      List.forall_mem_cons.2 ⟨closed, by decide⟩
    have counts : present [l.text, "null".toList] = [l.text] := by
      rw [present, List.filter_cons_of_pos (by simp [l.isNullish_text])]
      rfl
    refine ⟨single, string, ?_, ?_⟩
    · rw [text_append_null, columnType_joinWith both (by rw [counts]; exact List.cons_ne_nil _ _),
        counts, presentType, string]
    · rw [text_append_null, isNullable, members_of_isClosed (isUnionOf_joinWith _) both]
      simp [isNullish]

theorem members_joinWith_text_iff :
    members (joinWith " | ".toList (ls.map text)) = ls.map text ↔ Separable (ls.map text) := by
  refine members_eq_iff (isUnionOf_joinWith _) fun m hm => ?_
  obtain ⟨l, -, rfl⟩ := List.mem_map.1 hm
  exact ⟨l.text_ne_nil, l.trim_text⟩

/-- Two literals or more that come apart are a string, whatever they hold. -/
theorem columnType_joinWith_text (two : 2 ≤ ls.length)
    (same : members (joinWith " | ".toList (ls.map text)) = ls.map text) :
    columnType (joinWith " | ".toList (ls.map text)) = ⟨.string, false⟩ := by
  have counts : present (ls.map text) = ls.map text := by
    refine List.filter_eq_self.2 fun m hm => ?_
    obtain ⟨l, -, rfl⟩ := List.mem_map.1 hm
    simp [l.isNullish_text]
  have string : unionScalar (ls.map text) = .string := by
    obtain ⟨l, hl⟩ := List.exists_mem_of_length_pos (Nat.zero_lt_of_lt two)
    refine if_pos (List.any_eq_true.2 ⟨l.text, List.mem_map_of_mem hl, ?_⟩)
    simp [l.isStringLiteral_text]
  have several : (ls.map text).length ≠ 1 := by
    rw [List.length_map]
    omega
  rw [columnType_of_two_le (by rwa [same, List.length_map]), same, counts,
    presentType_of_length_ne_one several, string]

theorem areOpaque_iff :
    AreOpaque ls ↔ Separable (ls.map text) ∧ ∀ l, ls = [l] → '<' ∉ l.content := by
  constructor
  · rintro ⟨same, string⟩
    refine ⟨members_joinWith_text_iff.1 same, ?_⟩
    rintro l rfl
    rw [List.map_singleton, joinWith_singleton] at same string
    exact (l.columnType_text same).1 string
  · rintro ⟨separable, free⟩
    have same := members_joinWith_text_iff.2 separable
    refine ⟨same, ?_⟩
    match ls with
    -- The empty union is the empty spelling, which nothing recognises.
    | [] =>
      rw [columnType_eq]
      decide
    | [l] =>
      rw [List.map_singleton, joinWith_singleton] at same ⊢
      exact (l.columnType_text same).2 (free l rfl)
    | _ :: _ :: _ => exact columnType_joinWith_text (by simp) same

/-- A literal is opaque just when it is closed and holds no `<`, and a union of literals just when
they are separable and a single one holds no `<`. So a bar or a bracket can make a literal fall
apart, run into its neighbours or be a container, while all literals without them are opaque. -/
theorem isOpaque_and_areOpaque_iff (l : Literal) (ls : List Literal) :
    (l.IsOpaque ↔ IsClosed l.text ∧ '<' ∉ l.content) ∧
    (AreOpaque ls ↔ Separable (ls.map text) ∧ ∀ l, ls = [l] → '<' ∉ l.content) ∧
    ((∀ l ∈ ls, ∀ c ∈ l.content, c ≠ '|' ∧ IsPlain c) → AreOpaque ls ∧ ∀ l ∈ ls, l.IsOpaque) := by
  refine ⟨isOpaque_iff l, areOpaque_iff, fun plain => ?_⟩
  have closed : ∀ l ∈ ls, IsClosed l.text := fun l hl => l.isClosed_text (plain l hl)
  have free : ∀ l ∈ ls, '<' ∉ l.content := fun l hl mem => absurd (plain l hl _ mem).2 (by decide)
  refine ⟨areOpaque_iff.2 ⟨separable_of_isClosed ?_, ?_⟩, fun l hl => ?_⟩
  · simpa using closed
  · rintro l rfl
    exact free l List.mem_cons_self
  · exact l.isOpaque_iff.2 ⟨closed l hl, free l hl⟩

/-- The literal `"light blue"`. -/
def lightBlue : Literal :=
  ⟨'"', "light blue".toList, by decide, by decide, by decide, by decide⟩

/-- The literal `'red'`. -/
def red : Literal := ⟨'\x27', "red".toList, by decide, by decide, by decide, by decide⟩

theorem areOpaque_colours : AreOpaque [red, lightBlue] ∧ lightBlue.IsOpaque := by
  have plain : ∀ l ∈ [red, lightBlue], ∀ c ∈ l.content, c ≠ '|' ∧ IsPlain c := by decide
  have ⟨union, alone⟩ := (isOpaque_and_areOpaque_iff lightBlue _).2.2 plain
  exact ⟨union, alone lightBlue (by simp)⟩

/-- The literal `'<'`. -/
def less : Literal := ⟨'\x27', ['<'], by decide, by decide, by decide, by decide⟩

/-- The literal `'>'`. -/
def greater : Literal := ⟨'\x27', ['>'], by decide, by decide, by decide, by decide⟩

/-- The literal `'a|b'`. -/
def choice : Literal := ⟨'\x27', "a|b".toList, by decide, by decide, by decide, by decide⟩

/-- A bracket in a literal makes it a container and swallows the bar behind it, and a bar in a
literal cuts it in two. -/
theorem not_isOpaque_less :
    ¬ less.IsOpaque ∧ ¬ AreOpaque [less, greater] ∧ ¬ choice.IsOpaque ∧
    columnType less.text = ⟨.json, false⟩ ∧ isNullable (less.text ++ " | null".toList) = false ∧
    members (joinWith " | ".toList [less.text, greater.text]) = ["'<' | '>'".toList] ∧
    members choice.text = ["'a".toList, "b'".toList] := by
  have container : columnType less.text = ⟨.json, false⟩ := by
    rw [columnType_eq]
    decide
  have joined :
      members (joinWith " | ".toList [less.text, greater.text]) = ["'<' | '>'".toList] := by decide
  have halves : members choice.text = ["'a".toList, "b'".toList] := by decide
  refine ⟨fun h => ?_, fun h => ?_, fun h => ?_, container, by decide, joined, halves⟩
  · exact absurd (container.symm.trans h.columnType_eq) (by decide)
  · exact absurd (joined.symm.trans h.members_eq) (by decide)
  · exact absurd (halves.symm.trans h.members_eq) (by decide)

end Literal

end Spelling

end ModelSchema
